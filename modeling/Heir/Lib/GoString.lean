import Mathlib.Tactic

set_option autoImplicit false

/-! # Functions of Go's standard library on strings

`strings.HasPrefix`, `strings.TrimPrefix`, `net.SplitHostPort`, `net.JoinHostPort`, `strconv.Atoi` and
the verb `%q` of `fmt`. They are read character by character: all of them only look for ASCII characters, where bytes and characters
agree.
-/

namespace GoString

/-! ## Leading text -/

/-- `strings.HasPrefix(s, p)`. -/
def startsWith (s p : String) : Bool := p.toList.isPrefixOf s.toList

/-- `strings.TrimPrefix(s, p)`. -/
def trimStart (s p : String) : String :=
  if startsWith s p then String.ofList (s.toList.drop p.length) else s

theorem startsWith_iff (s p : String) : startsWith s p = true ↔ ∃ r, s = p ++ r := by
  rw [startsWith, List.isPrefixOf_iff_prefix]
  constructor
  · rintro ⟨r, hr⟩
    refine ⟨String.ofList r, ?_⟩
    rw [← String.toList_inj, String.toList_append, String.toList_ofList, hr]
  · rintro ⟨r, rfl⟩
    exact ⟨r.toList, String.toList_append.symm⟩

theorem trimStart_append (p r : String) : trimStart (p ++ r) p = r := by
  rw [trimStart, if_pos ((startsWith_iff _ _).mpr ⟨r, rfl⟩), String.toList_append,
    ← String.length_toList, List.drop_left, String.ofList_toList]

/-! ## Host and port -/

/-- The reason why an address is not split. -/
inductive AddrError where
  | missingPort
  | tooManyColons
  | missingBracket
  | unexpectedOpen
  | unexpectedClose
  deriving DecidableEq, Repr

/-- `bytealg.LastIndexByteString`. -/
def lastIndex (l : List Char) (c : Char) : Option Nat :=
  (l.reverse.idxOf? c).map fun j => l.length - 1 - j

/-- The end of `net.SplitHostPort`: brackets may stand only where the host was cut out. -/
def finishSplit (l host : List Char) (i j k : Nat) : Except AddrError (String × String) :=
  if '[' ∈ l.drop j then .error .unexpectedOpen
  else if ']' ∈ l.drop k then .error .unexpectedClose
  else .ok (String.ofList host, String.ofList (l.drop (i + 1)))

def splitHostPort (hostport : String) : Except AddrError (String × String) :=
  let l := hostport.toList
  -- the port starts after the last colon
  match lastIndex l ':' with
  | none => .error .missingPort
  | some i =>
      if l.head? = some '[' then
        -- the first closing bracket has to stand just before the last colon
        match l.idxOf? ']' with
        | none => .error .missingBracket
        | some e =>
            if e + 1 = l.length then .error .missingPort
            else if e + 1 = i then finishSplit l ((l.take e).drop 1) i 1 (e + 1)
            else if l[e + 1]? = some ':' then .error .tooManyColons
            else .error .missingPort
      else if ':' ∈ l.take i then .error .tooManyColons
      else finishSplit l (l.take i) i 0 0

def joinHostPort (host port : String) : String :=
  if ':' ∈ host.toList then "[" ++ host ++ "]:" ++ port else host ++ ":" ++ port

theorem lastIndex_append_cons {l r : List Char} {c : Char} (h : c ∉ r) :
    lastIndex (l ++ c :: r) c = some l.length := by
  have hidx : (l ++ c :: r).reverse.idxOf? c = some r.length := by
    rw [List.reverse_append, List.reverse_cons, List.append_assoc, List.singleton_append,
      List.idxOf?_eq_some_iff]
    refine ⟨by simp, by simp, ?_⟩
    intro j hj
    have hlt : j < r.reverse.length := by simpa using hj
    rw [List.getElem_append_left hlt]
    intro heq
    exact h (List.mem_reverse.mp (heq ▸ List.getElem_mem hlt))
  rw [lastIndex, hidx]
  simp

/-! ## Joining -/

/-- A text that is joined from parts without the separator can be taken apart again. -/
theorem intercalate_injective {sep : Char} {l l' : List String} (hl : ∀ s ∈ l, sep ∉ s.toList)
    (hl' : ∀ s ∈ l', sep ∉ s.toList) (hne : l ≠ []) (hne' : l' ≠ [])
    (h : (String.singleton sep).intercalate l = (String.singleton sep).intercalate l') :
    l = l' := by
  have hchars : [sep].intercalate (l.map String.toList) = [sep].intercalate (l'.map String.toList) := by
    have h' := congrArg String.toList h
    rwa [String.toList_intercalate, String.toList_intercalate, String.toList_singleton] at h'
  have hsplit : ∀ l : List String, (∀ s ∈ l, sep ∉ s.toList) → l ≠ [] →
      List.splitOn sep ([sep].intercalate (l.map String.toList)) = l.map String.toList := by
    intro l hl hne
    exact List.splitOn_intercalate sep (by simpa using hl) (by simpa using hne)
  have hparts : l.map String.toList = l'.map String.toList := by
    rw [← hsplit l hl hne, hchars, hsplit l' hl' hne']
  exact List.map_injective_iff.mpr (fun _ _ => String.toList_inj.mp) hparts

/-! ## Numbers -/

/-- The value of a number without sign, which has a digit at least. -/
def digitsValue (ds : List Char) : Option Nat :=
  if ds = [] then none
  else if ds.all Char.isDigit then some (Nat.ofDigitChars 10 ds 0)
  else none

/-- `strconv.Atoi`, without the reason of its errors: decimal digits with an optional sign, within
64 bits. -/
def atoi (s : String) : Option Int :=
  match s.toList with
  | '-' :: ds => (digitsValue ds).bind fun n => if n ≤ 2 ^ 63 then some (-n) else none
  | '+' :: ds => (digitsValue ds).bind fun n => if n < 2 ^ 63 then some n else none
  | ds => (digitsValue ds).bind fun n => if n < 2 ^ 63 then some n else none

theorem mem_of_digitsValue {ds : List Char} {n : Nat} (h : digitsValue ds = some n) {c : Char}
    (hc : c ∈ ds) : c.isDigit = true := by
  unfold digitsValue at h
  split at h
  · cases h
  · split at h
    · next hall => exact List.all_eq_true.mp hall c hc
    · cases h

theorem mem_of_atoi {s : String} {n : Int} (h : atoi s = some n) {c : Char} (hc : c ∈ s.toList) :
    c.isDigit = true ∨ c = '-' ∨ c = '+' := by
  unfold atoi at h
  split at h
  · next ds hs =>
      obtain ⟨m, hm, -⟩ := Option.bind_eq_some_iff.mp h
      rw [hs] at hc
      rcases List.mem_cons.mp hc with rfl | hc
      · exact .inr (.inl rfl)
      · exact .inl (mem_of_digitsValue hm hc)
  · next ds hs =>
      obtain ⟨m, hm, -⟩ := Option.bind_eq_some_iff.mp h
      rw [hs] at hc
      rcases List.mem_cons.mp hc with rfl | hc
      · exact .inr (.inr rfl)
      · exact .inl (mem_of_digitsValue hm hc)
  · obtain ⟨m, hm, -⟩ := Option.bind_eq_some_iff.mp h
    exact .inl (mem_of_digitsValue hm hc)

theorem all_isDigit_toDigits (n : Nat) : (Nat.toDigits 10 n).all Char.isDigit = true :=
  List.all_eq_true.mpr fun _ hc => Nat.isDigit_of_mem_toDigits (by omega) (by omega) hc

theorem digitsValue_toDigits (n : Nat) : digitsValue (Nat.toDigits 10 n) = some n := by
  rw [digitsValue, if_neg Nat.toDigits_ne_nil, if_pos (all_isDigit_toDigits n),
    Nat.ofDigitChars_ten_toDigits]

theorem toList_toString (n : Nat) : (toString n).toList = Nat.toDigits 10 n := by
  rw [Nat.toString_eq_repr, Nat.repr, String.toList_ofList]

theorem atoi_toString {n : Nat} (h : n < 2 ^ 63) : atoi (toString n) = some (n : Int) := by
  have hvalue := digitsValue_toDigits n
  rw [atoi, toList_toString]
  split
  · next ds hds =>
      have hminus := List.all_eq_true.mp (all_isDigit_toDigits n) '-' (by simp [hds])
      cases hminus
  · next ds hds =>
      have hplus := List.all_eq_true.mp (all_isDigit_toDigits n) '+' (by simp [hds])
      cases hplus
  · rw [hvalue, Option.bind_some, if_pos h]

/-! ## Quoting -/

/-- A number in lower-case hexadecimal, with leading zeros up to a width. -/
def hex (width n : Nat) : List Char :=
  let digits := Nat.toDigits 16 n
  List.replicate (width - digits.length) '0' ++ digits

/-- A character as `strconv.Quote` writes it. Which characters outside ASCII are printable is decided
by a table of Unicode's, `isPrint`. -/
def quoteChar (isPrint : Char → Bool) (c : Char) : List Char :=
  if c = '"' ∨ c = '\\' then ['\\', c]
  else if 32 ≤ c.toNat ∧ c.toNat < 127 then [c]
  else if 127 < c.toNat ∧ isPrint c = true then [c]
  else if c.toNat = 7 then ['\\', 'a']
  else if c.toNat = 8 then ['\\', 'b']
  else if c.toNat = 12 then ['\\', 'f']
  else if c.toNat = 10 then ['\\', 'n']
  else if c.toNat = 13 then ['\\', 'r']
  else if c.toNat = 9 then ['\\', 't']
  else if c.toNat = 11 then ['\\', 'v']
  else if c.toNat < 128 then '\\' :: 'x' :: hex 2 c.toNat
  else if c.toNat < 65536 then '\\' :: 'u' :: hex 4 c.toNat
  else '\\' :: 'U' :: hex 8 c.toNat

/-- `fmt.Sprintf("%q", s)`. -/
def quote (isPrint : Char → Bool) (s : String) : String :=
  String.ofList ('"' :: s.toList.flatMap (quoteChar isPrint) ++ ['"'])

end GoString
