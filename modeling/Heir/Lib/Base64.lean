import Mathlib.Tactic

set_option autoImplicit false

/-! # Base64

The standard encoding of Go's `encoding/base64`, with padding. Three bytes are written as four
characters for six bits each; a last group of one or two bytes is padded with `=`.

The decoder reads one character after the other and keeps the values of the group it is in. It skips
line ends, and it stops at the first character that does not fit, with its place. As in Go, the bits
that a padded group does not need are not looked at.

Main result: `decode_encode`, what is written is read back.
-/

namespace Base64

/-! ## Characters -/

/-- The character for six bits. -/
def digit (n : Nat) : Char :=
  if n < 26 then Char.ofNat (65 + n)
  else if n < 52 then Char.ofNat (71 + n)
  else if n < 62 then Char.ofNat (n - 4)
  else if n = 62 then '+'
  else '/'

/-- The six bits of a character. -/
def value (c : Char) : Option Nat :=
  let n := c.toNat
  if 65 ≤ n ∧ n ≤ 90 then some (n - 65)
  else if 97 ≤ n ∧ n ≤ 122 then some (n - 71)
  else if 48 ≤ n ∧ n ≤ 57 then some (n + 4)
  else if c = '+' then some 62
  else if c = '/' then some 63
  else none

theorem value_digit {n : Nat} (h : n < 64) : value (digit n) = some n := by
  have hall : ∀ i : Fin 64, value (digit i) = some i.val := by decide +kernel
  exact hall ⟨n, h⟩

def isNewline (c : Char) : Bool := c == '\n' || c == '\r'

/-! ## Encoding -/

/-- The characters of a list of bytes. -/
def encodeChars : List UInt8 → List Char
  | [] => []
  | [x] => [digit (x.toNat / 4), digit (x.toNat % 4 * 16), '=', '=']
  | [x, y] =>
      [digit (x.toNat / 4), digit (x.toNat % 4 * 16 + y.toNat / 16), digit (y.toNat % 16 * 4), '=']
  | x :: y :: z :: bs =>
      digit (x.toNat / 4) :: digit (x.toNat % 4 * 16 + y.toNat / 16) ::
        digit (y.toNat % 16 * 4 + z.toNat / 64) :: digit (z.toNat % 64) :: encodeChars bs

/-- `base64.StdEncoding.EncodeToString`. -/
def encode (bs : List UInt8) : String := String.ofList (encodeChars bs)

/-! ## Decoding -/

/-- The first byte of a group, from its first two values. -/
def byte₁ (a b : Nat) : UInt8 := UInt8.ofNat (a * 4 + b / 16)

def byte₂ (b c : Nat) : UInt8 := UInt8.ofNat (b % 16 * 16 + c / 4)

def byte₃ (c d : Nat) : UInt8 := UInt8.ofNat (c % 4 * 64 + d)

/-- The text after line ends, and its place. -/
def skipNewlines : List Char → Nat → List Char × Nat
  | [], pos => ([], pos)
  | c :: cs, pos => if isNewline c then skipNewlines cs (pos + 1) else (c :: cs, pos)

/-- The padding is complete: nothing but line ends may follow. -/
def finish (out : List UInt8) (cs : List Char) (pos : Nat) : Except Nat (List UInt8) :=
  match skipNewlines cs pos with
  | ([], _) => .ok out
  | (_ :: _, at') => .error at'

/-- A first `=` was read at the place before `pos`, within a group. -/
def decodePad (group : List Nat) (cs : List Char) (pos : Nat) : Except Nat (List UInt8) :=
  match group with
  | [a, b] =>
      -- a second one is expected
      match skipNewlines cs pos with
      | ([], at') => .error at'
      | (c :: cs', at') => if c = '=' then finish [byte₁ a b] cs' (at' + 1) else .error (at' - 1)
  | [a, b, c] => finish [byte₁ a b, byte₂ b c] cs pos
  | _ => .error (pos - 1)

/-- Read on at the place `pos`, with the values of the group so far. -/
def decodeFrom : List Nat → List Char → Nat → Except Nat (List UInt8)
  | [], [], _ => .ok []
  | g :: group, [], pos => .error (pos - (g :: group).length)
  | group, ch :: cs, pos =>
      match value ch with
      | some v =>
          match group with
          | [a, b, c] =>
              (decodeFrom [] cs (pos + 1)).map (byte₁ a b :: byte₂ b c :: byte₃ c v :: ·)
          | _ => decodeFrom (group ++ [v]) cs (pos + 1)
      | none =>
          if isNewline ch then decodeFrom group cs (pos + 1)
          else if ch = '=' then decodePad group cs (pos + 1)
          else .error pos

/-- `base64.StdEncoding.DecodeString`; an error is the place of a `CorruptInputError`. -/
def decode (s : String) : Except Nat (List UInt8) := decodeFrom [] s.toList 0

/-! ## What is written is read back -/

theorem byte₁_eq (x y : Nat) (u : UInt8) (hy : y < 16) (hx : x = u.toNat) :
    byte₁ (x / 4) (x % 4 * 16 + y) = u := by
  have hlt := u.toNat_lt
  have hval : x / 4 * 4 + (x % 4 * 16 + y) / 16 = x := by omega
  rw [byte₁, hval, hx, UInt8.ofNat_toNat]

theorem byte₂_eq (x y z : Nat) (u : UInt8) (hz : z < 4) (hy : y = u.toNat) :
    byte₂ (x * 16 + y / 16) (y % 16 * 4 + z) = u := by
  have hlt := u.toNat_lt
  have hval : (x * 16 + y / 16) % 16 * 16 + (y % 16 * 4 + z) / 4 = y := by omega
  rw [byte₂, hval, hy, UInt8.ofNat_toNat]

theorem byte₃_eq (y z : Nat) (u : UInt8) (hz : z = u.toNat) :
    byte₃ (y * 4 + z / 64) (z % 64) = u := by
  have hlt := u.toNat_lt
  have hval : (y * 4 + z / 64) % 4 * 64 + z % 64 = z := by omega
  rw [byte₃, hval, hz, UInt8.ofNat_toNat]

/-- A character of the alphabet is added to a group that is not full. -/
theorem decodeFrom_digit {group : List Nat} (hg : group.length < 3) {v : Nat} (hv : v < 64)
    (cs : List Char) (pos : Nat) :
    decodeFrom group (digit v :: cs) pos = decodeFrom (group ++ [v]) cs (pos + 1) := by
  rcases group with _ | ⟨a, _ | ⟨b, _ | ⟨c, group⟩⟩⟩
  · rw [decodeFrom, value_digit hv]
  · rw [decodeFrom, value_digit hv]
  · rw [decodeFrom, value_digit hv]
  · simp only [List.length_cons] at hg
    omega

theorem decodeFrom_full {a b c v : Nat} (hv : v < 64) (cs : List Char) (pos : Nat) :
    decodeFrom [a, b, c] (digit v :: cs) pos =
      (decodeFrom [] cs (pos + 1)).map (byte₁ a b :: byte₂ b c :: byte₃ c v :: ·) := by
  rw [decodeFrom, value_digit hv]

theorem decodeFrom_encodeChars (bs : List UInt8) (pos : Nat) :
    decodeFrom [] (encodeChars bs) pos = .ok bs := by
  -- the induction follows the groups of three bytes
  induction bs using encodeChars.induct generalizing pos with
  | case1 => rfl
  | case2 x =>
      have hx := x.toNat_lt
      rw [encodeChars, decodeFrom_digit (by simp) (by omega), decodeFrom_digit (by simp) (by omega)]
      have hpad : decodeFrom [x.toNat / 4, x.toNat % 4 * 16] ['=', '='] (pos + 1 + 1) =
          .ok [byte₁ (x.toNat / 4) (x.toNat % 4 * 16)] := rfl
      have hbyte := byte₁_eq x.toNat 0 x (by omega) rfl
      rw [Nat.add_zero] at hbyte
      rw [hbyte] at hpad
      exact hpad
  | case3 x y =>
      have hx := x.toNat_lt
      have hy := y.toNat_lt
      rw [encodeChars, decodeFrom_digit (by simp) (by omega), decodeFrom_digit (by simp) (by omega),
        decodeFrom_digit (by simp) (by omega)]
      have hpad : ∀ a b c, decodeFrom [a, b, c] ['='] (pos + 1 + 1 + 1) =
          .ok [byte₁ a b, byte₂ b c] := fun _ _ _ => rfl
      have hbyte := byte₂_eq (x.toNat % 4) y.toNat 0 y (by omega) rfl
      rw [Nat.add_zero] at hbyte
      refine (hpad _ _ _).trans ?_
      rw [byte₁_eq x.toNat _ x (by omega) rfl, hbyte]
  | case4 x y z bs ih =>
      have hx := x.toNat_lt
      have hy := y.toNat_lt
      have hz := z.toNat_lt
      rw [encodeChars, decodeFrom_digit (by simp) (by omega), decodeFrom_digit (by simp) (by omega),
        decodeFrom_digit (by simp) (by omega)]
      refine (decodeFrom_full (by omega) _ _).trans ?_
      rw [ih, byte₁_eq x.toNat _ x (by omega) rfl, byte₂_eq _ y.toNat _ y (by omega) rfl,
        byte₃_eq _ z.toNat z rfl]
      rfl

theorem decode_encode (bs : List UInt8) : decode (encode bs) = .ok bs := by
  rw [decode, encode, String.toList_ofList]
  exact decodeFrom_encodeChars bs 0

example : (encode [77, 97, 110], encode [77, 97], encode [77]) = ("TWFu", "TWE=", "TQ==") := by decide

end Base64
