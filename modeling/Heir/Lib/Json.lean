import Mathlib.Tactic

set_option autoImplicit false

/-! # JSON texts

JSON values, the text Go's `encoding/json` writes for a value and the values its decoder reads
from a text. Texts are lists of characters here; `Json.marshal` and `Json.unmarshal` are the
versions on strings.

The writer produces no white space, escapes the characters `encoding/json` escapes (the HTML
ones `<`, `>`, `&` included) and leaves every other character alone. The reader accepts white
space between tokens and all the escapes of the format. A number with a fraction or an exponent
is kept as its text; the reader's limit on the nesting depth (10000) is not modelled.

Main result: `unmarshal_marshal`, what is written is read back, also with white space after it.
-/

inductive Json where
  | null
  | bool (b : Bool)
  | int (i : Int)
  | real (lit : List Char)
  | str (s : String)
  | arr (xs : List Json)
  | obj (ms : List (String × Json))

namespace Json

/-! ## Members of objects -/

/-- The member `k` of an object. -/
def member (k : String) : List (String × Json) → Option Json
  | [] => none
  | (k', v) :: ms => if k = k' then some v else member k ms

/-- `m[k] = v` on the members of an object. -/
def setMember (k : String) (v : Json) : List (String × Json) → List (String × Json)
  | [] => [(k, v)]
  | (k', v') :: ms => if k = k' then (k, v) :: ms else (k', v') :: setMember k v ms

theorem member_setMember (k k' : String) (v : Json) (ms : List (String × Json)) :
    member k' (setMember k v ms) = if k' = k then some v else member k' ms := by
  induction ms with
  | nil => rfl
  | cons m ms ih =>
      obtain ⟨k₀, v₀⟩ := m
      by_cases hk : k = k₀
      · subst hk
        by_cases h : k' = k <;> simp [setMember, member, h]
      · simp only [setMember, if_neg hk, member, ih]
        by_cases h : k' = k
        · simp [h, hk]
        · simp [h]

/-! ## Writing -/

def hexDigit (n : Nat) : Char := Nat.digitChar n

/-- `\u00xx` and its kin: the escape of a code unit by four hexadecimal digits. -/
def encodeUnicode (n : Nat) : List Char :=
  ['\\', 'u', hexDigit (n / 4096 % 16), hexDigit (n / 256 % 16), hexDigit (n / 16 % 16),
    hexDigit (n % 16)]

/-- The characters written as `\u` escapes: control characters without an escape of their own,
the HTML characters, and the two line separators. -/
def escapedAsUnicode (c : Char) : Bool :=
  decide (c.toNat < 32) || c == '<' || c == '>' || c == '&' ||
    decide (c.toNat = 0x2028) || decide (c.toNat = 0x2029)

def encodeChar (c : Char) : List Char :=
  if c = '"' then ['\\', '"']
  else if c = '\\' then ['\\', '\\']
  else if c = Char.ofNat 8 then ['\\', 'b']
  else if c = Char.ofNat 12 then ['\\', 'f']
  else if c = '\n' then ['\\', 'n']
  else if c = '\r' then ['\\', 'r']
  else if c = '\t' then ['\\', 't']
  else if escapedAsUnicode c then encodeUnicode c.toNat
  else [c]

def encodeStr (s : List Char) : List Char := '"' :: (s.flatMap encodeChar ++ ['"'])

def encodeInt : Int → List Char
  | .ofNat n => Nat.toDigits 10 n
  | .negSucc n => '-' :: Nat.toDigits 10 (n + 1)

mutual

def encode : Json → List Char
  | .null => ['n', 'u', 'l', 'l']
  | .bool true => ['t', 'r', 'u', 'e']
  | .bool false => ['f', 'a', 'l', 's', 'e']
  | .int i => encodeInt i
  | .real lit => lit
  | .str s => encodeStr s.toList
  | .arr xs => '[' :: (encodeElems xs ++ [']'])
  | .obj ms => '{' :: (encodeMembers ms ++ ['}'])

def encodeElems : List Json → List Char
  | [] => []
  | [x] => encode x
  | x :: y :: xs => encode x ++ ',' :: encodeElems (y :: xs)

def encodeMembers : List (String × Json) → List Char
  | [] => []
  | [(k, v)] => encodeStr k.toList ++ ':' :: encode v
  | (k, v) :: m :: ms => encodeStr k.toList ++ ':' :: (encode v ++ ',' :: encodeMembers (m :: ms))

end

/-! ## Reading -/

def isWs (c : Char) : Bool := c == ' ' || c == '\t' || c == '\n' || c == '\r'

def skipWs : List Char → List Char
  | [] => []
  | c :: s => if isWs c then skipWs s else c :: s

def hexVal (c : Char) : Option Nat :=
  if '0' ≤ c ∧ c ≤ '9' then some (c.toNat - 48)
  else if 'a' ≤ c ∧ c ≤ 'f' then some (c.toNat - 87)
  else if 'A' ≤ c ∧ c ≤ 'F' then some (c.toNat - 55)
  else none

/-- The code unit of four hexadecimal digits. -/
def hexUnit (a b c d : Char) : Option Nat := do
  return 4096 * (← hexVal a) + 256 * (← hexVal b) + 16 * (← hexVal c) + (← hexVal d)

/-- The character of a code unit on its own; a lone surrogate becomes U+FFFD. -/
def unitChar (u : Nat) : Char := if 0xD800 ≤ u ∧ u < 0xE000 then Char.ofNat 0xFFFD else Char.ofNat u

/-- The character of a surrogate pair. -/
def pairChar (u v : Nat) : Char := Char.ofNat (0x10000 + (u - 0xD800) * 1024 + (v - 0xDC00))

def isHigh (u : Nat) : Bool := decide (0xD800 ≤ u) && decide (u < 0xDC00)

def isLow (u : Nat) : Bool := decide (0xDC00 ≤ u) && decide (u < 0xE000)

/-- The rest of a string after its opening quote, decoded, and what follows its closing quote. -/
def parseStr : List Char → Option (List Char × List Char)
  | [] => none
  | '"' :: s => some ([], s)
  | '\\' :: 'u' :: a :: b :: c :: d :: s =>
      match hexUnit a b c d with
      | none => none
      | some u =>
          if isHigh u then
            match s with
            | '\\' :: 'u' :: e :: f :: g :: h :: s' =>
                match hexUnit e f g h with
                | none => none
                | some v =>
                    if isLow v then (parseStr s').map fun p => (pairChar u v :: p.1, p.2)
                    else (parseStr ('\\' :: 'u' :: e :: f :: g :: h :: s')).map fun p =>
                      (unitChar u :: p.1, p.2)
            | s' => (parseStr s').map fun p => (unitChar u :: p.1, p.2)
          else (parseStr s).map fun p => (unitChar u :: p.1, p.2)
  | '\\' :: '"' :: s => (parseStr s).map fun p => ('"' :: p.1, p.2)
  | '\\' :: '\\' :: s => (parseStr s).map fun p => ('\\' :: p.1, p.2)
  | '\\' :: '/' :: s => (parseStr s).map fun p => ('/' :: p.1, p.2)
  | '\\' :: 'b' :: s => (parseStr s).map fun p => (Char.ofNat 8 :: p.1, p.2)
  | '\\' :: 'f' :: s => (parseStr s).map fun p => (Char.ofNat 12 :: p.1, p.2)
  | '\\' :: 'n' :: s => (parseStr s).map fun p => ('\n' :: p.1, p.2)
  | '\\' :: 'r' :: s => (parseStr s).map fun p => ('\r' :: p.1, p.2)
  | '\\' :: 't' :: s => (parseStr s).map fun p => ('\t' :: p.1, p.2)
  | c :: s =>
      if c = '\\' ∨ c.toNat < 32 then none
      else (parseStr s).map fun p => (c :: p.1, p.2)

/-- A run of digits and what follows it. -/
def digits (s : List Char) : List Char × List Char :=
  (s.takeWhile Char.isDigit, s.dropWhile Char.isDigit)

/-- The fraction of a number, as text; empty when there is none. -/
def parseFrac : List Char → Option (List Char × List Char)
  | '.' :: s => if (digits s).1 = [] then none else some ('.' :: (digits s).1, (digits s).2)
  | s => some ([], s)

/-- The exponent of a number, as text; empty when there is none. -/
def parseExp : List Char → Option (List Char × List Char)
  | c :: s =>
      if c = 'e' ∨ c = 'E' then
        let sign := s.takeWhile (fun d => d == '+' || d == '-') |>.take 1
        let s' := s.drop sign.length
        if (digits s').1 = [] then none else some (c :: sign ++ (digits s').1, (digits s').2)
      else some ([], c :: s)
  | [] => some ([], [])

def parseNat (neg : Bool) (s : List Char) : Option (Json × List Char) :=
  let ds := (digits s).1
  if ds = [] ∨ (ds.head? = some '0' ∧ ds.length ≠ 1) then none
  else
    match parseFrac (digits s).2 with
    | none => none
    | some (frac, s₁) =>
        match parseExp s₁ with
        | none => none
        | some (exp, s₂) =>
            if frac = [] ∧ exp = [] then
              let n := Nat.ofDigitChars 10 ds 0
              some (.int (if neg then -(n : Int) else n), s₂)
            else some (.real ((if neg then ['-'] else []) ++ ds ++ frac ++ exp), s₂)

def parseNumber : List Char → Option (Json × List Char)
  | '-' :: s => parseNat true s
  | s => parseNat false s

mutual

/-- One value, and what follows it. `fuel` bounds the depth of the recursion; the length of the
text is always enough. -/
def parseValue : Nat → List Char → Option (Json × List Char)
  | 0, _ => none
  | fuel + 1, s =>
      match skipWs s with
      | '{' :: s₁ =>
          match skipWs s₁ with
          | '}' :: s₂ => some (.obj [], s₂)
          | s₂ => (parseMembers fuel s₂).map fun p => (.obj p.1, p.2)
      | '[' :: s₁ =>
          match skipWs s₁ with
          | ']' :: s₂ => some (.arr [], s₂)
          | s₂ => (parseElems fuel s₂).map fun p => (.arr p.1, p.2)
      | '"' :: s₁ => (parseStr s₁).map fun p => (.str (String.ofList p.1), p.2)
      | 't' :: 'r' :: 'u' :: 'e' :: s₁ => some (.bool true, s₁)
      | 'f' :: 'a' :: 'l' :: 's' :: 'e' :: s₁ => some (.bool false, s₁)
      | 'n' :: 'u' :: 'l' :: 'l' :: s₁ => some (.null, s₁)
      | s₁ => parseNumber s₁

/-- The elements of an array up to its closing bracket. -/
def parseElems : Nat → List Char → Option (List Json × List Char)
  | 0, _ => none
  | fuel + 1, s =>
      match parseValue fuel s with
      | none => none
      | some (x, s₁) =>
          match skipWs s₁ with
          | ',' :: s₂ => (parseElems fuel s₂).map fun p => (x :: p.1, p.2)
          | ']' :: s₂ => some ([x], s₂)
          | _ => none

/-- The members of an object up to its closing brace. -/
def parseMembers : Nat → List Char → Option (List (String × Json) × List Char)
  | 0, _ => none
  | fuel + 1, s =>
      match skipWs s with
      | '"' :: s₀ =>
          match parseStr s₀ with
          | none => none
          | some (k, s₁) =>
              match skipWs s₁ with
              | ':' :: s₂ =>
                  match parseValue fuel s₂ with
                  | none => none
                  | some (v, s₃) =>
                      match skipWs s₃ with
                      | ',' :: s₄ => (parseMembers fuel s₄).map fun p =>
                          ((String.ofList k, v) :: p.1, p.2)
                      | '}' :: s₄ => some ([(String.ofList k, v)], s₄)
                      | _ => none
              | _ => none
      | _ => none

end

/-- A whole text: one value with nothing but white space after it. -/
def parse (s : List Char) : Option Json :=
  match parseValue (s.length + 1) s with
  | some (j, r) => if skipWs r = [] then some j else none
  | none => none

def marshal (j : Json) : String := String.ofList (encode j)

def unmarshal (s : String) : Option Json := parse s.toList

/-! ## Strings are read back -/

theorem hexVal_hexDigit (n : Nat) (h : n < 16) : hexVal (hexDigit n) = some n := by
  revert n
  decide

theorem hexUnit_encode (n : Nat) (h : n < 65536) :
    hexUnit (hexDigit (n / 4096 % 16)) (hexDigit (n / 256 % 16)) (hexDigit (n / 16 % 16))
      (hexDigit (n % 16)) = some n := by
  have h1 := hexVal_hexDigit (n / 4096 % 16) (Nat.mod_lt _ (by omega))
  have h2 := hexVal_hexDigit (n / 256 % 16) (Nat.mod_lt _ (by omega))
  have h3 := hexVal_hexDigit (n / 16 % 16) (Nat.mod_lt _ (by omega))
  have h4 := hexVal_hexDigit (n % 16) (Nat.mod_lt _ (by omega))
  simp only [hexUnit, h1, h2, h3, h4, Option.bind_eq_bind, Option.bind_some, Option.pure_def,
    Option.some.injEq]
  omega

theorem parseStr_unicode (u : Nat) (h : u < 0xD800) (s : List Char) :
    parseStr (encodeUnicode u ++ s) = (parseStr s).map fun p => (Char.ofNat u :: p.1, p.2) := by
  have hu := hexUnit_encode u (by omega)
  have hhigh : isHigh u = false := by simp [isHigh]; omega
  have hchar : unitChar u = Char.ofNat u := if_neg (by omega)
  simp only [encodeUnicode, List.cons_append, List.nil_append]
  rw [parseStr.eq_def]
  simp [hu, hhigh, hchar]

variable {c : Char} {r : List Char}

theorem parseStr_plain (h1 : c ≠ '"') (h2 : c ≠ '\\') (h3 : ¬ c.toNat < 32) (s : List Char) :
    parseStr (c :: s) = (parseStr s).map fun p => (c :: p.1, p.2) := by
  rw [parseStr.eq_def]
  split <;> simp_all

theorem escapedAsUnicode_toNat (h : escapedAsUnicode c = true) : c.toNat < 0xD800 := by
  simp only [escapedAsUnicode, Bool.or_eq_true, decide_eq_true_eq, beq_iff_eq] at h
  rcases h with ((((h | h) | h) | h) | h) | h
  · omega
  all_goals first | (subst h; decide) | omega

theorem parseStr_encodeChar (c : Char) (s : List Char) :
    parseStr (encodeChar c ++ s) = (parseStr s).map fun p => (c :: p.1, p.2) := by
  unfold encodeChar
  split_ifs with h1 h2 h3 h4 h5 h6 h7 h8
  · subst h1; simp [parseStr]
  · subst h2; simp [parseStr]
  · subst h3; simp [parseStr]
  · subst h4; simp [parseStr]
  · subst h5; simp [parseStr]
  · subst h6; simp [parseStr]
  · subst h7; simp [parseStr]
  · rw [parseStr_unicode _ (escapedAsUnicode_toNat h8), Char.ofNat_toNat]
  · have h9 : ¬ c.toNat < 32 := by
      intro hlt
      simp [escapedAsUnicode, hlt] at h8
    exact parseStr_plain h1 h2 h9 s

theorem parseStr_encodeStr (cs s : List Char) :
    parseStr (cs.flatMap encodeChar ++ '"' :: s) = some (cs, s) := by
  induction cs with
  | nil => simp [parseStr]
  | cons c cs ih =>
      rw [List.flatMap_cons, List.append_assoc, parseStr_encodeChar, ih]
      rfl

/-! ## Numbers are read back -/

/-- What may follow a number without becoming part of it. -/
def NumEnd (r : List Char) : Prop :=
  ∀ c, r.head? = some c → c.isDigit = false ∧ c ≠ '.' ∧ c ≠ 'e' ∧ c ≠ 'E'

theorem numEnd_cons (h : c.isDigit = false ∧ c ≠ '.' ∧ c ≠ 'e' ∧ c ≠ 'E') : NumEnd (c :: r) := by
  intro c' h'
  cases h'
  exact h

theorem digits_append {ds : List Char} (hd : ∀ c ∈ ds, c.isDigit = true) (hr : NumEnd r) :
    digits (ds ++ r) = (ds, r) := by
  have hr' : r.takeWhile Char.isDigit = [] ∧ r.dropWhile Char.isDigit = r := by
    cases r with
    | nil => exact ⟨rfl, rfl⟩
    | cons c r => simp [(hr c rfl).1]
  rw [digits, List.takeWhile_append_of_pos hd, List.dropWhile_append_of_pos hd, hr'.1, hr'.2,
    List.append_nil]

theorem parseFrac_numEnd (hr : NumEnd r) : parseFrac r = some ([], r) := by
  rw [parseFrac.eq_def]
  split
  · exact absurd rfl (hr '.' rfl).2.1
  · rfl

theorem parseExp_numEnd (hr : NumEnd r) : parseExp r = some ([], r) := by
  cases r with
  | nil => rfl
  | cons c r =>
      have h := hr c rfl
      rw [parseExp, if_neg (by simp [h.2.2.1, h.2.2.2])]

theorem toDigits_head (n : Nat) :
    (Nat.toDigits 10 n).head? = some '0' → (Nat.toDigits 10 n).length = 1 := by
  induction n using Nat.strong_induction_on with
  | _ n ih =>
      intro h
      by_cases hn : n < 10
      · rw [Nat.toDigits_of_lt_base hn]; rfl
      · exfalso
        have hpos : 0 < n / 10 := Nat.div_pos (by omega) (by omega)
        have hne : Nat.toDigits 10 (n / 10) ≠ [] := Nat.toDigits_ne_nil
        rw [Nat.toDigits_of_base_le (by omega) (by omega), List.head?_append_of_ne_nil _ hne] at h
        have hlen := ih (n / 10) (Nat.div_lt_self (by omega) (by omega)) h
        -- one digit, and that digit is `0`: the quotient would be zero
        obtain ⟨c, hc⟩ := List.length_eq_one_iff.mp hlen
        rw [hc] at h
        simp only [List.head?_cons, Option.some.injEq] at h
        have h10 := Nat.ofDigitChars_ten_toDigits (n := n / 10)
        rw [hc, h] at h10
        have hzero : Nat.ofDigitChars 10 ['0'] 0 = 0 := by decide
        omega

theorem parseNat_toDigits (neg : Bool) (n : Nat) (hr : NumEnd r) :
    parseNat neg (Nat.toDigits 10 n ++ r) = some (.int (if neg then -(n : Int) else n), r) := by
  have hd : digits (Nat.toDigits 10 n ++ r) = (Nat.toDigits 10 n, r) :=
    digits_append (fun c hc => Nat.isDigit_of_mem_toDigits (by omega) (by omega) hc) hr
  have hz : ¬ (Nat.toDigits 10 n = [] ∨ ((Nat.toDigits 10 n).head? = some '0' ∧
      (Nat.toDigits 10 n).length ≠ 1)) := by
    rintro (h | ⟨h, hl⟩)
    · exact Nat.toDigits_ne_nil h
    · exact hl (toDigits_head n h)
  unfold parseNat
  simp only [hd, if_neg hz, parseFrac_numEnd hr, parseExp_numEnd hr, and_self, if_true,
    Nat.ofDigitChars_ten_toDigits]

theorem parseNumber_encodeInt (i : Int) (hr : NumEnd r) :
    parseNumber (encodeInt i ++ r) = some (.int i, r) := by
  cases i with
  | ofNat n =>
      have hdig : ∀ c ∈ Nat.toDigits 10 n, c.isDigit = true :=
        fun c hc => Nat.isDigit_of_mem_toDigits (by omega) (by omega) hc
      have h := parseNat_toDigits false n hr
      simp only [encodeInt]
      cases hds : Nat.toDigits 10 n with
      | nil => exact absurd hds Nat.toDigits_ne_nil
      | cons d ds =>
          rw [hds] at h hdig
          have hne : d ≠ '-' := by
            rintro rfl
            exact absurd (hdig '-' (by simp)) (by decide)
          rw [parseNumber.eq_def]
          split
          · rename_i heq
            rw [List.cons_append] at heq
            exact absurd (List.cons.inj heq).1 hne
          · simpa using h
  | negSucc n =>
      have h := parseNat_toDigits true (n + 1) hr
      simp only [encodeInt, List.cons_append, parseNumber, h]
      simp [Int.negSucc_eq]

/-! ## Values are read back -/

mutual

/-- The value holds no number with a fraction or an exponent. -/
def Plain : Json → Prop
  | .real _ => False
  | .arr xs => PlainElems xs
  | .obj ms => PlainMembers ms
  | _ => True

def PlainElems : List Json → Prop
  | [] => True
  | x :: xs => Plain x ∧ PlainElems xs

def PlainMembers : List (String × Json) → Prop
  | [] => True
  | (_, v) :: ms => Plain v ∧ PlainMembers ms

end

theorem skipWs_cons (h : isWs c = false) (s : List Char) : skipWs (c :: s) = c :: s := by
  simp [skipWs, h]

theorem isWs_of_isDigit (h : c.isDigit = true) : isWs c = false := by
  by_contra hc
  simp only [isWs, Bool.not_eq_false, Bool.or_eq_true, beq_iff_eq] at hc
  rcases hc with ((rfl | rfl) | rfl) | rfl <;> exact absurd h (by decide)

theorem parseValue_number (fuel : Nat) (hc : c.isDigit = true ∨ c = '-') (s : List Char) :
    parseValue (fuel + 1) (c :: s) = parseNumber (c :: s) := by
  have hws : isWs c = false := by
    rcases hc with h | rfl
    · exact isWs_of_isDigit h
    · decide
  rw [parseValue.eq_def]
  simp only [skipWs_cons hws]
  split
  all_goals first
    | rfl
    | (rename_i heq; cases heq; exact absurd hc (by decide))

theorem encodeInt_head (i : Int) :
    ∃ c t, encodeInt i = c :: t ∧ (c.isDigit = true ∨ c = '-') := by
  cases i with
  | ofNat n =>
      cases hds : Nat.toDigits 10 n with
      | nil => exact absurd hds Nat.toDigits_ne_nil
      | cons d ds =>
          refine ⟨d, ds, hds, Or.inl ?_⟩
          exact Nat.isDigit_of_mem_toDigits (b := 10) (n := n) (by omega) (by omega)
            (by rw [hds]; simp)
  | negSucc n => exact ⟨'-', _, rfl, Or.inr rfl⟩

theorem numEnd_of_mem {c : Char} {r : List Char} (h : c = ',' ∨ c = ']' ∨ c = '}') :
    NumEnd (c :: r) := by
  apply numEnd_cons
  rcases h with rfl | rfl | rfl <;> decide

/-- The first character of a value is none of the closing ones. -/
theorem encode_head (j : Json) (hj : j.Plain) :
    ∃ c t, encode j = c :: t ∧ isWs c = false ∧ c ≠ ']' := by
  cases j with
  | null => exact ⟨'n', _, rfl, by decide, by decide⟩
  | bool b => cases b with
    | true => exact ⟨'t', _, rfl, by decide, by decide⟩
    | false => exact ⟨'f', _, rfl, by decide, by decide⟩
  | int i =>
      obtain ⟨c, t, he, hc⟩ := encodeInt_head i
      refine ⟨c, t, he, ?_, ?_⟩
      · rcases hc with h | rfl
        · exact isWs_of_isDigit h
        · decide
      · rintro rfl
        exact absurd hc (by decide)
  | real lit => exact absurd hj (by simp [Plain])
  | str s => exact ⟨'"', _, rfl, by decide, by decide⟩
  | arr xs => exact ⟨'[', _, rfl, by decide, by decide⟩
  | obj ms => exact ⟨'{', _, rfl, by decide, by decide⟩

mutual

/-- **What is written is read back**, whatever follows it. The length of the written text is
enough fuel. -/
theorem parseValue_encode : ∀ (j : Json) (fuel : Nat) (r : List Char), j.Plain →
    (encode j).length ≤ fuel → NumEnd r → parseValue fuel (encode j ++ r) = some (j, r)
  | j, 0, _, hj, hf, _ => by
      obtain ⟨c, t, he, -⟩ := encode_head j hj
      rw [he] at hf
      cases hf
  | .null, fuel + 1, r, _, _, _ => by
      simp [encode, parseValue, skipWs, isWs]
  | .bool b, fuel + 1, r, _, _, _ => by
      cases b <;> simp [encode, parseValue, skipWs, isWs]
  | .int i, fuel + 1, r, _, _, hr => by
      obtain ⟨c, t, he, hc⟩ := encodeInt_head i
      have hp := parseNumber_encodeInt i hr
      rw [encode, he, List.cons_append, parseValue_number fuel hc, ← List.cons_append, ← he, hp]
  | .real _, _, _, h, _, _ => absurd h (by simp [Plain])
  | .str s, fuel + 1, r, _, _, _ => by
      simp only [encode, encodeStr, List.cons_append, List.append_assoc, List.nil_append,
        parseValue, skipWs_cons (show isWs '"' = false by decide), parseStr_encodeStr,
        Option.map_some, String.ofList_toList]
  | .arr [], fuel + 1, r, _, _, _ => by
      simp [encode, encodeElems, parseValue, skipWs, isWs]
  | .arr (x :: xs), fuel + 1, r, h, hf, _ => by
      simp only [Plain, PlainElems] at h
      simp only [encode, List.length_cons, List.length_append, List.length_nil] at hf
      have hxs := parseElems_encode x xs fuel r h.1 h.2 (by omega)
      -- the first element does not start with the closing bracket
      obtain ⟨c, t, he, hw, hne⟩ : ∃ c t, encodeElems (x :: xs) = c :: t ∧ isWs c = false ∧
          c ≠ ']' := by
        obtain ⟨c, t, he, hw, hne⟩ := encode_head x h.1
        cases xs with
        | nil => exact ⟨c, t, by rw [encodeElems, he], hw, hne⟩
        | cons y xs =>
            exact ⟨c, t ++ ',' :: encodeElems (y :: xs),
              by rw [encodeElems, he, List.cons_append], hw, hne⟩
      rw [he, List.cons_append] at hxs
      simp only [encode, List.cons_append, List.append_assoc, List.nil_append, he, parseValue,
        skipWs_cons (show isWs '[' = false by decide), skipWs_cons hw]
      split
      · rename_i heq
        exact absurd (List.cons.inj heq).1 hne
      · rw [hxs, Option.map_some]
  | .obj [], fuel + 1, r, _, _, _ => by
      simp [encode, encodeMembers, parseValue, skipWs, isWs]
  | .obj ((k, v) :: ms), fuel + 1, r, h, hf, _ => by
      simp only [Plain, PlainMembers] at h
      simp only [encode, List.length_cons, List.length_append, List.length_nil] at hf
      have hms := parseMembers_encode k v ms fuel r h.1 h.2 (by omega)
      obtain ⟨t, he⟩ : ∃ t, encodeMembers ((k, v) :: ms) = '"' :: t := by
        cases ms with
        | nil | cons m ms => exact ⟨_, by rw [encodeMembers, encodeStr, List.cons_append]⟩
      rw [he, List.cons_append] at hms
      simp only [encode, List.cons_append, List.append_assoc, List.nil_append, he, parseValue,
        skipWs_cons (show isWs '{' = false by decide),
        skipWs_cons (show isWs '"' = false by decide)]
      simp [hms]
termination_by j => sizeOf j

theorem parseElems_encode : ∀ (x : Json) (xs : List Json) (fuel : Nat) (r : List Char), x.Plain →
    PlainElems xs → (encodeElems (x :: xs)).length < fuel →
    parseElems fuel (encodeElems (x :: xs) ++ ']' :: r) = some (x :: xs, r)
  | _, _, 0, _, _, _, hf => absurd hf (Nat.not_lt_zero _)
  | x, [], fuel + 1, r, hx, _, hf => by
      rw [encodeElems] at hf ⊢
      have h := parseValue_encode x fuel (']' :: r) hx (by omega)
        (numEnd_of_mem (Or.inr (Or.inl rfl)))
      simp only [parseElems, h, skipWs_cons (show isWs ']' = false by decide)]
  | x, y :: xs, fuel + 1, r, hx, hxs, hf => by
      simp only [PlainElems] at hxs
      rw [encodeElems] at hf ⊢
      simp only [List.length_append, List.length_cons] at hf
      have h := parseValue_encode x fuel (',' :: (encodeElems (y :: xs) ++ ']' :: r)) hx
        (by omega) (numEnd_of_mem (Or.inl rfl))
      have hys := parseElems_encode y xs fuel r hxs.1 hxs.2 (by omega)
      simp only [List.append_assoc, List.cons_append, parseElems, h,
        skipWs_cons (show isWs ',' = false by decide), hys, Option.map_some]
termination_by x xs => sizeOf x + sizeOf xs

theorem parseMembers_encode : ∀ (k : String) (v : Json) (ms : List (String × Json)) (fuel : Nat)
    (r : List Char), v.Plain → PlainMembers ms → (encodeMembers ((k, v) :: ms)).length < fuel →
    parseMembers fuel (encodeMembers ((k, v) :: ms) ++ '}' :: r) = some ((k, v) :: ms, r)
  | _, _, _, 0, _, _, _, hf => absurd hf (Nat.not_lt_zero _)
  | k, v, [], fuel + 1, r, hv, _, hf => by
      rw [encodeMembers] at hf ⊢
      simp only [List.length_append, List.length_cons] at hf
      have h := parseValue_encode v fuel ('}' :: r) hv (by omega)
        (numEnd_of_mem (Or.inr (Or.inr rfl)))
      simp only [encodeStr, List.append_assoc, List.cons_append, List.nil_append, parseMembers,
        skipWs_cons (show isWs '"' = false by decide), parseStr_encodeStr,
        skipWs_cons (show isWs ':' = false by decide), h,
        skipWs_cons (show isWs '}' = false by decide), String.ofList_toList]
  | k, v, (k', v') :: ms, fuel + 1, r, hv, hms, hf => by
      simp only [PlainMembers] at hms
      rw [encodeMembers] at hf ⊢
      simp only [List.length_append, List.length_cons] at hf
      have h := parseValue_encode v fuel (',' :: (encodeMembers ((k', v') :: ms) ++ '}' :: r)) hv
        (by omega) (numEnd_of_mem (Or.inl rfl))
      have hrest := parseMembers_encode k' v' ms fuel r hms.1 hms.2 (by omega)
      simp only [encodeStr, List.append_assoc, List.cons_append, List.nil_append, parseMembers,
        skipWs_cons (show isWs '"' = false by decide), parseStr_encodeStr,
        skipWs_cons (show isWs ':' = false by decide), h,
        skipWs_cons (show isWs ',' = false by decide), hrest, Option.map_some,
        String.ofList_toList]
termination_by _ v ms => sizeOf v + sizeOf ms

end

theorem skipWs_eq_nil {ws : List Char} (h : ∀ c ∈ ws, isWs c = true) : skipWs ws = [] := by
  induction ws with
  | nil => rfl
  | cons c ws ih =>
      rw [skipWs, if_pos (h c (by simp))]
      exact ih (fun d hd => h d (by simp [hd]))

/-- **The round trip**, with white space allowed after the text. -/
theorem unmarshal_marshal (j : Json) (hj : j.Plain) (ws : String)
    (hws : ∀ c ∈ ws.toList, isWs c = true) : unmarshal (marshal j ++ ws) = some j := by
  have hend : NumEnd ws.toList := by
    intro c hc
    have hw := hws c (List.mem_of_mem_head? hc)
    simp only [isWs, Bool.or_eq_true, beq_iff_eq] at hw
    rcases hw with ((rfl | rfl) | rfl) | rfl <;> decide
  have h := parseValue_encode j ((encode j ++ ws.toList).length + 1) ws.toList hj
    (by simp; omega) hend
  simp only [unmarshal, marshal, String.toList_append, String.toList_ofList, parse, h,
    skipWs_eq_nil hws, if_true]

/-! ## What a text that is read must look like -/

theorem parseNumber_shape {s : List Char} {j : Json} (h : parseNumber s = some (j, r)) :
    (∃ i, j = .int i) ∨ ∃ lit, j = .real lit := by
  have key : ∀ (neg : Bool) (s : List Char), parseNat neg s = some (j, r) →
      (∃ i, j = .int i) ∨ ∃ lit, j = .real lit := by
    intro neg s h
    simp only [parseNat] at h
    split at h
    · cases h
    · split at h
      · cases h
      · split at h
        · cases h
        · split at h
          · cases h; exact Or.inl ⟨_, rfl⟩
          · cases h; exact Or.inr ⟨_, rfl⟩
  rw [parseNumber.eq_def] at h
  split at h
  · exact key true _ h
  · exact key false _ h

/-- Only a text that opens with a brace is read as an object. -/
theorem unmarshal_obj_inv {s : String} {ms : List (String × Json)}
    (h : unmarshal s = some (.obj ms)) : ∃ t, skipWs s.toList = '{' :: t := by
  simp only [unmarshal, parse] at h
  split at h
  · rename_i j r hp
    split at h
    · cases h
      rw [parseValue.eq_def] at hp
      simp only at hp
      split at hp
      · rename_i s₁ heq
        exact ⟨s₁, heq⟩
      · split at hp
        · cases hp
        · simp at hp
      · simp at hp
      · cases hp
      · cases hp
      · cases hp
      · rcases parseNumber_shape hp with ⟨i, hi⟩ | ⟨lit, hl⟩
        · cases hi
        · cases hl
    · cases h
  · cases h

end Json
