import Heir.Lib.GoString

set_option autoImplicit false

/-! # Host and port of a URL

The methods `Hostname` and `Port` of Go's `net/url`. They look at the host of a parsed URL, which may
end in a colon and a port, and may stand in brackets.

`Documented` says what is known of a function that parses URLs: after a scheme, a host of unreserved
characters and a port are kept as they are.
-/

namespace Url

/-- A parsed URL, as far as its host. -/
structure URL where
  host : String
  deriving DecidableEq, Repr

/-- `validOptionalPort`: nothing, or a colon and digits. -/
def validOptionalPort : List Char → Bool
  | [] => true
  | c :: ds => c == ':' && ds.all Char.isDigit

/-- The host without its brackets. -/
def unbracket (host : List Char) : List Char :=
  if host.head? = some '[' ∧ host.getLast? = some ']' then host.tail.dropLast else host

/-- `splitHostPort`: cut at the last colon, when a port follows it. -/
def splitHostPort (hostPort : List Char) : List Char × List Char :=
  match GoString.lastIndex hostPort ':' with
  | some colon =>
      if validOptionalPort (hostPort.drop colon) then
        (unbracket (hostPort.take colon), hostPort.drop (colon + 1))
      else (unbracket hostPort, [])
  | none => (unbracket hostPort, [])

def URL.hostname (u : URL) : String := String.ofList (splitHostPort u.host.toList).1

def URL.port (u : URL) : String := String.ofList (splitHostPort u.host.toList).2

/-- The characters of a domain name or an address that no URL gives a meaning to. -/
def unreserved (c : Char) : Bool := c.isAlphanum || c == '-' || c == '.' || c == '_' || c == '~'

/-- Hosts and ports are found after the scheme. -/
def Documented {ε : Type} (parse : String → Except ε URL) : Prop :=
  ∀ host port : String, host ≠ "" → host.toList.all unreserved = true →
    port.toList.all Char.isDigit = true →
    parse ("https://" ++ host ++ ":" ++ port) = .ok ⟨host ++ ":" ++ port⟩

theorem ne_of_unreserved {c d : Char} (hc : unreserved c = true) (hd : unreserved d = false) :
    c ≠ d := by
  rintro rfl
  rw [hc] at hd
  cases hd

theorem splitHostPort_join {host port : List Char} (hhost : host.all unreserved = true)
    (hport : port.all Char.isDigit = true) : splitHostPort (host ++ ':' :: port) = (host, port) := by
  have hcolon : ':' ∉ port := by
    intro h
    have := List.all_eq_true.mp hport ':' h
    cases this
  have hbracket : host.head? ≠ some '[' := by
    intro h
    have hmem : '[' ∈ host := List.mem_of_mem_head? h
    exact ne_of_unreserved (List.all_eq_true.mp hhost _ hmem) (by decide) rfl
  have hvalid : validOptionalPort (':' :: port) = true := by
    rw [validOptionalPort, hport]
    rfl
  rw [splitHostPort, GoString.lastIndex_append_cons hcolon]
  dsimp only
  rw [List.drop_left, if_pos hvalid, List.take_left, unbracket, if_neg fun h => hbracket h.1,
    ← List.drop_drop, List.drop_left]
  rfl

section Join

variable {host port : String} (hhost : host.toList.all unreserved = true)
  (hport : port.toList.all Char.isDigit = true)
include hhost hport

theorem hostname_join : URL.hostname ⟨host ++ ":" ++ port⟩ = host := by
  have hl : (host ++ ":" ++ port).toList = host.toList ++ ':' :: port.toList := by simp
  rw [URL.hostname, hl, splitHostPort_join hhost hport, String.ofList_toList]

theorem port_join : URL.port ⟨host ++ ":" ++ port⟩ = port := by
  have hl : (host ++ ":" ++ port).toList = host.toList ++ ':' :: port.toList := by simp
  rw [URL.port, hl, splitHostPort_join hhost hport, String.ofList_toList]

end Join

end Url
