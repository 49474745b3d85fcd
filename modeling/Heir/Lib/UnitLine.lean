import Heir.Lib.Counting
import Mathlib.Data.List.DropRight
import Mathlib.Tactic

set_option autoImplicit false

/-! # The command line of a unit

How systemd reads the value of a setting from its line in a unit file and splits it into words.

* A line ends at the first line end. One that ends in a backslash goes on in the next line of the
  unit, which is not followed here. Blanks at its end are dropped.
* Words are separated by blanks. A quote, which may stand anywhere in a word, begins a part in which
  blanks do not separate; quotes are removed.
* A backslash begins an escape sequence as in C. A sequence that is not known is left as it is.

Neither specifiers nor variables are expanded. `literal` says which texts are read as one word that
is the text itself (`words_literal`); any other text that is read as one word gets shorter
(`length_lt_of_not_literal`).
-/

namespace UnitLine

open Counting

abbrev Word : Type := List Char

def apostrophe : Char := Char.ofNat 39

def isEol (c : Char) : Bool := c == '\n' || c == '\r' || c == Char.ofNat 0

def isBlank (c : Char) : Bool := c == ' ' || c == '\t' || c == '\n' || c == '\r'

def isQuote (c : Char) : Bool := c == '"' || c == apostrophe

/-- A character that stands for itself. -/
def ordinary (c : Char) : Bool := c != '\\' && !isBlank c && !isQuote c

variable {c : Char} {quote : Option Char} {rest text : List Char} {skip : Nat}

theorem ne_backslash_of_isBlank (h : isBlank c = true) : c ≠ '\\' := by
  rintro rfl
  cases h

/-! ## Escape sequences -/

/-- The value of a digit. -/
def digit (base : Nat) (c : Char) : Option Nat :=
  let d :=
    if '0' ≤ c ∧ c ≤ '9' then some (c.toNat - '0'.toNat)
    else if 'a' ≤ c ∧ c ≤ 'f' then some (c.toNat - 'a'.toNat + 10)
    else if 'A' ≤ c ∧ c ≤ 'F' then some (c.toNat - 'A'.toNat + 10)
    else none
  d.filter (· < base)

/-- A character given by `n` digits: its code and the number of characters read. -/
def byDigits (base n limit : Nat) (text : List Char) : Option (Char × Nat) :=
  if (text.take n).length = n then
    match (text.take n).mapM (digit base) with
    | some ds =>
        let code := ds.foldl (fun v d => v * base + d) 0
        if code = 0 ∨ limit ≤ code then none else some (Char.ofNat code, n)
    | none => none
  else none

/-- The sequences of one letter. -/
def letters : List (Char × Char) :=
  [('a', Char.ofNat 7), ('b', Char.ofNat 8), ('f', Char.ofNat 12), ('n', '\n'), ('r', '\r'),
    ('t', '\t'), ('v', Char.ofNat 11), ('s', ' '), ('\\', '\\'), ('"', '"'),
    (apostrophe, apostrophe)]

/-- The sequences of a letter and digits: how many digits, and what the code stays below. -/
def numbers : List (Char × Nat × Nat) := [('x', 2, 256), ('u', 4, 1114112), ('U', 8, 1114112)]

/-- What the text after a backslash stands for, and how many characters of it are read. -/
def escape : List Char → Option (Char × Nat)
  | [] => none
  | c :: rest =>
      match letters.lookup c, numbers.lookup c with
      | some d, _ => some (d, 1)
      | none, some (n, limit) => (byDigits 16 n limit rest).map fun r => (r.1, r.2 + 1)
      | none, none => byDigits 8 3 256 (c :: rest)

/-! ## Reading and splitting -/

/-- The line ends in a backslash that is not escaped itself. -/
def continued : List Char → Bool
  | [] => false
  | ['\\'] => true
  | '\\' :: _ :: rest => continued rest
  | _ :: rest => continued rest

/-- The value that stands at the beginning of a text, up to the end of its line. -/
def readLine (text : List Char) : Option (List Char) :=
  let raw := text.takeWhile (!isEol ·)
  if continued raw then none else some (raw.rdropWhile isBlank)

/-- What one character of a value leads to: how many of the next ones are read with it, the open
quote, the word that has begun, and the words that have ended. -/
structure Step where
  skip : Nat := 0
  quote : Option Char
  cur : Option Word
  ended : List Word := []

def step (quote : Option Char) (cur : Option Word) (c : Char) (rest : List Char) : Step :=
  if c = '\\' then
    match escape rest, rest with
    | some (d, n), _ => { skip := n, quote, cur := some (cur.getD [] ++ [d]) }
    | none, [] => { quote, cur := some (cur.getD [] ++ [c]) }
    | none, d :: _ => { skip := 1, quote, cur := some (cur.getD [] ++ [c, d]) }
  else
    match quote with
    | some q =>
        if c = q then { quote := none, cur } else { quote, cur := some (cur.getD [] ++ [c]) }
    | none =>
        if isBlank c then { quote, cur := none, ended := cur.toList }
        else if isQuote c then { quote := some c, cur := some (cur.getD []) }
        else { quote, cur := some (cur.getD [] ++ [c]) }

/-- The words of a value after the first `skip` characters, with an open quote and a word that has
begun. A quote that is not closed is an error. -/
def words : Nat → Option Char → Option Word → List Char → Option (List Word)
  | _, quote, cur, [] => if quote.isSome then none else some cur.toList
  | skip + 1, quote, cur, _ :: rest => words skip quote cur rest
  | 0, quote, cur, c :: rest =>
      let s := step quote cur c rest
      (words s.skip s.quote s.cur rest).map (s.ended ++ ·)

/-- The words of the value at the beginning of a text. -/
def arguments (text : List Char) : Option (List Word) :=
  (readLine text).bind (words 0 none none)

/-! ## How much is read -/

theorem byDigits_length {base n limit : Nat} {k : Nat}
    (h : byDigits base n limit text = some (c, k)) : k = n ∧ n ≤ text.length := by
  unfold byDigits at h
  by_cases hlen : (text.take n).length = n
  · rw [if_pos hlen] at h
    rw [List.length_take] at hlen
    cases hds : (text.take n).mapM (digit base) with
    | none =>
        rw [hds] at h
        cases h
    | some ds =>
        rw [hds] at h
        simp only [Option.ite_none_left_eq_some, Option.some.injEq, Prod.mk.injEq] at h
        omega
  · rw [if_neg hlen] at h
    cases h

/-- An escape sequence has at least one character after the backslash. -/
theorem escape_length {n : Nat} (h : escape text = some (c, n)) : 1 ≤ n ∧ n ≤ text.length := by
  cases text with
  | nil => cases h
  | cons d rest =>
      simp only [escape] at h
      cases hletter : letters.lookup d with
      | some d' =>
          rw [hletter] at h
          cases h
          rw [List.length_cons]
          omega
      | none =>
          rw [hletter] at h
          cases hnumber : numbers.lookup d with
          | some x =>
              rw [hnumber] at h
              obtain ⟨⟨c', k⟩, hk, heq⟩ := Option.map_eq_some_iff.mp h
              obtain ⟨rfl, hm⟩ := byDigits_length hk
              cases heq
              rw [List.length_cons]
              omega
          | none =>
              rw [hnumber] at h
              obtain ⟨rfl, hm⟩ := byDigits_length h
              omega

section Steps

variable {quote : Option Char} {cur : Option Word} {c d : Char} {rest : List Char}

theorem words_of_step {skip : Nat} {quote' : Option Char} {cur' : Option Word}
    (h : step quote cur c rest = { skip := skip, quote := quote', cur := cur' }) :
    words 0 quote cur (c :: rest) = words skip quote' cur' rest := by
  have hid : ∀ r : Option (List Word), r.map (([] : List Word) ++ ·) = r := by
    intro r
    cases r <;> rfl
  simp only [words, h]
  exact hid _

theorem words_escape {n : Nat} (h : escape rest = some (d, n)) :
    words 0 quote cur ('\\' :: rest) = words n quote (some (cur.getD [] ++ [d])) rest := by
  refine words_of_step ?_
  unfold step
  rw [if_pos rfl, h]

theorem words_unknown (h : escape (d :: rest) = none) :
    words 0 quote cur ('\\' :: d :: rest) =
      words 0 quote (some (cur.getD [] ++ ['\\', d])) rest := by
  have hstep : step quote cur '\\' (d :: rest) =
      { skip := 1, quote, cur := some (cur.getD [] ++ ['\\', d]) } := by
    unfold step
    rw [if_pos rfl, h]
  exact words_of_step hstep

theorem words_blank (hc : isBlank c = true) :
    words 0 none cur (c :: rest) = (words 0 none none rest).map (cur.toList ++ ·) := by
  have hne := ne_backslash_of_isBlank hc
  have hstep : step none cur c rest = { quote := none, cur := none, ended := cur.toList } := by
    unfold step
    rw [if_neg hne]
    exact if_pos hc
  simp only [words, hstep]

theorem words_open (hc : isQuote c = true) :
    words 0 none cur (c :: rest) = words 0 (some c) (some (cur.getD [])) rest := by
  refine words_of_step ?_
  rw [isQuote, Bool.or_eq_true, beq_iff_eq, beq_iff_eq] at hc
  rcases hc with rfl | rfl <;> rfl

theorem words_plain (hne : c ≠ '\\') (hblank : isBlank c = false) (hquote : isQuote c = false) :
    words 0 none cur (c :: rest) = words 0 none (some (cur.getD [] ++ [c])) rest := by
  refine words_of_step ?_
  unfold step
  rw [if_neg hne]
  simp [hblank, hquote]

end Steps

theorem words_nil {cur : Option Word} {ws : List Word} (h : words skip quote cur [] = some ws) :
    quote = none ∧ ws = cur.toList := by
  have hnil : words skip quote cur [] = if quote.isSome then none else some cur.toList := by
    cases skip <;> rfl
  rw [hnil, Option.ite_none_left_eq_some, Option.some.injEq] at h
  exact ⟨Option.not_isSome_iff_eq_none.mp h.1, h.2.symm⟩

theorem total_toList_le (cur : Option Word) : total cur.toList ≤ (cur.getD []).length + 1 := by
  cases cur with
  | none => exact Nat.zero_le _
  | some w => simp

/-- A step makes no more characters than it reads, if the end of a word counts as one. -/
theorem step_length (quote : Option Char) (cur : Option Word) (c : Char) (rest : List Char) :
    (step quote cur c rest).skip ≤ rest.length ∧
      total (step quote cur c rest).ended + ((step quote cur c rest).cur.getD []).length ≤
        (cur.getD []).length + 1 + (step quote cur c rest).skip := by
  unfold step
  by_cases hc : c = '\\'
  · rw [if_pos hc]
    split
    · next d n hescape =>
        have hn := escape_length hescape
        simp only [total_nil, Option.getD_some, List.length_append, List.length_singleton]
        omega
    · simp
    · simp
  · rw [if_neg hc]
    cases quote with
    | some q =>
        by_cases hq : c = q
        · simp [hq]
        · simp [hq]
    | none =>
        have hcur := total_toList_le cur
        by_cases hblank : isBlank c = true
        · simpa [hblank] using hcur
        · by_cases hquote : isQuote c = true
          · simp [hblank, hquote]
          · simp [hblank, hquote]

/-- Splitting never makes more characters than it reads, if the end of the text counts as one. -/
theorem total_words_le {cur : Option Word} {ws : List Word}
    (h : words skip quote cur text = some ws) (hskip : skip ≤ text.length) :
    total ws + skip ≤ (cur.getD []).length + 1 + text.length := by
  induction text generalizing skip quote cur ws with
  | nil =>
      obtain ⟨-, rfl⟩ := words_nil h
      have hcur := total_toList_le cur
      rw [List.length_nil] at hskip ⊢
      omega
  | cons c rest ih =>
      rw [List.length_cons] at hskip ⊢
      cases skip with
      | succ skip =>
          have hrest := ih (show words skip quote cur rest = some ws from h) (by omega)
          omega
      | zero =>
          obtain ⟨ws', hws', rfl⟩ := Option.map_eq_some_iff.mp h
          obtain ⟨hread, hmade⟩ := step_length quote cur c rest
          have hrest := ih hws' hread
          rw [total_append]
          omega

theorem step_first (quote : Option Char) (w : Word) (c : Char) (rest : List Char) :
    (∃ w', (step quote (some w) c rest).cur = some (w ++ w') ∧
        (step quote (some w) c rest).ended = []) ∨
      (step quote (some w) c rest).ended = [w] := by
  unfold step
  by_cases hc : c = '\\'
  · rw [if_pos hc]
    refine .inl ?_
    split
    · exact ⟨_, rfl, rfl⟩
    · exact ⟨_, rfl, rfl⟩
    · exact ⟨_, rfl, rfl⟩
  · rw [if_neg hc]
    cases quote with
    | some q =>
        by_cases hq : c = q
        · exact .inl ⟨[], by simp [hq]⟩
        · exact .inl ⟨[c], by simp [hq]⟩
    | none =>
        by_cases hblank : isBlank c = true
        · exact .inr (by simp [hblank])
        · by_cases hquote : isQuote c = true
          · exact .inl ⟨[], by simp [hblank, hquote]⟩
          · exact .inl ⟨[c], by simp [hblank, hquote]⟩

theorem words_first {w : Word} {ws : List Word} (h : words skip quote (some w) text = some ws) :
    ∃ w' rest, ws = (w ++ w') :: rest := by
  induction text generalizing skip quote w ws with
  | nil =>
      obtain ⟨-, rfl⟩ := words_nil h
      exact ⟨[], [], by simp⟩
  | cons c rest ih =>
      cases skip with
      | succ skip => exact ih (show words skip quote (some w) rest = some ws from h)
      | zero =>
          obtain ⟨ws', hws', rfl⟩ := Option.map_eq_some_iff.mp h
          rcases step_first quote w c rest with ⟨a, hcur, hended⟩ | hended
          · rw [hcur] at hws'
            obtain ⟨w', tail, rfl⟩ := ih hws'
            exact ⟨a ++ w', tail, by rw [hended, List.nil_append, List.append_assoc]⟩
          · exact ⟨[], ws', by rw [hended, List.append_nil, List.singleton_append]⟩

/-! ## Texts that are left alone -/

/-- No blank, no quote and no escape sequence. -/
def literal : List Char → Bool
  | [] => true
  | ['\\'] => true
  | '\\' :: c :: rest => (escape (c :: rest)).isNone && literal rest
  | c :: rest => !isBlank c && !isQuote c && literal rest

theorem literal_unknown {d : Char} (h : escape (d :: rest) = none) :
    literal ('\\' :: d :: rest) = literal rest := by
  rw [literal, h]
  rfl

theorem literal_plain (hc : c ≠ '\\') :
    literal (c :: rest) = (!isBlank c && !isQuote c && literal rest) := by
  rw [literal]
  · exact fun h => absurd h hc
  · exact fun _ _ h => absurd h hc

theorem ne_backslash (hlast : c = '\\' → text = [] → False)
    (hpair : ∀ d rest, c = '\\' → text = d :: rest → False) : c ≠ '\\' := by
  intro hc
  cases text with
  | nil => exact hlast hc rfl
  | cons d text => exact hpair d text hc rfl

theorem words_literal (w : Word) (h : literal text = true) :
    words 0 none (some w) text = some [w ++ text] := by
  fun_induction literal text generalizing w with
  | case1 =>
      rw [List.append_nil]
      rfl
  | case2 => rfl
  | case3 d rest ih =>
      rw [Bool.and_eq_true, Option.isNone_iff_eq_none] at h
      rw [words_unknown h.1, ih _ h.2, Option.getD_some, List.append_assoc]
      rfl
  | case4 c rest hlast hpair ih =>
      simp only [Bool.and_eq_true, Bool.not_eq_true'] at h
      rw [words_plain (ne_backslash hlast hpair) h.1.1 h.1.2, ih _ h.2, Option.getD_some,
        List.append_assoc]
      rfl

/-- What a text adds to the only word that it makes is not longer than the text. -/
theorem length_le_of_words {w w' : Word} (h : words skip quote (some w) rest = some [w'])
    (hskip : skip ≤ rest.length) : w'.length + skip ≤ w.length + rest.length := by
  have hle := total_words_le h hskip
  simp only [total_cons, total_nil, Option.getD_some] at hle
  omega

/-- A text that is no literal loses a character, even if it makes no new word. -/
theorem length_lt_of_not_literal {w w' : Word} (h : literal text = false)
    (hwords : words 0 none (some w) text = some [w']) : w'.length < w.length + text.length := by
  fun_induction literal text generalizing w with
  | case1 | case2 => cases h
  | case3 d rest ih =>
      simp only [List.length_cons]
      cases hescape : escape (d :: rest) with
      | some x =>
          have hn := escape_length hescape
          rw [words_escape hescape] at hwords
          have hle := length_le_of_words hwords hn.2
          simp only [Option.getD_some, List.length_append, List.length_cons, List.length_nil] at hle
          omega
      | none =>
          rw [hescape] at h
          rw [words_unknown hescape] at hwords
          have hlt := ih h hwords
          simp only [Option.getD_some, List.length_append, List.length_cons, List.length_nil] at hlt
          omega
  | case4 c rest hlast hpair ih =>
      rw [List.length_cons]
      by_cases hblank : isBlank c = true
      · -- the word ends
        rw [words_blank hblank] at hwords
        obtain ⟨ws, -, hws⟩ := Option.map_eq_some_iff.mp hwords
        obtain ⟨rfl, -⟩ := List.cons.inj hws
        omega
      · by_cases hquote : isQuote c = true
        · rw [words_open hquote] at hwords
          have hle := length_le_of_words hwords (Nat.zero_le _)
          rw [Option.getD_some] at hle
          omega
        · rw [Bool.not_eq_true] at hblank hquote
          rw [hblank, hquote] at h
          rw [words_plain (ne_backslash hlast hpair) hblank hquote] at hwords
          have hlt := ih h hwords
          rw [Option.getD_some, List.length_append, List.length_singleton] at hlt
          omega

theorem escape_of_isQuote {d : Char} (h : isQuote d = true) : escape (d :: rest) = some (d, 1) := by
  rw [isQuote, Bool.or_eq_true, beq_iff_eq, beq_iff_eq] at h
  rcases h with rfl | rfl <;> rfl

/-- A literal text has no quote: unescaped it is a quote, escaped it is a known sequence. -/
theorem not_isQuote_of_literal (h : literal text = true) : ∀ c ∈ text, isQuote c = false := by
  fun_induction literal text with
  | case1 => exact fun c hc => absurd hc List.not_mem_nil
  | case2 =>
      rw [List.forall_mem_singleton]
      rfl
  | case3 d rest ih =>
      rw [Bool.and_eq_true, Option.isNone_iff_eq_none] at h
      have hd : isQuote d = false := by
        by_contra hquote
        rw [escape_of_isQuote (Bool.not_eq_false _ ▸ hquote)] at h
        cases h.1
      rw [List.forall_mem_cons, List.forall_mem_cons]
      exact ⟨rfl, hd, ih h.2⟩
  | case4 c rest hlast hpair ih =>
      simp only [Bool.and_eq_true, Bool.not_eq_true'] at h
      rw [List.forall_mem_cons]
      exact ⟨h.1.2, ih h.2⟩

/-! ## Separators -/

theorem byDigits_append {base : Nat} {sep : Char} (hsep : digit base sep = none) (n limit : Nat)
    (text rest : List Char) :
    byDigits base n limit (text ++ sep :: rest) = byDigits base n limit text := by
  by_cases hlen : n ≤ text.length
  · rw [byDigits, byDigits, List.take_append_of_le_length hlen]
  · have hmem : sep ∈ (text ++ sep :: rest).take n := by
      obtain ⟨k, hk⟩ := Nat.exists_eq_add_of_lt (Nat.lt_of_not_le hlen)
      rw [hk, Nat.add_assoc, List.take_length_add_append, List.take_succ_cons]
      exact List.mem_append_right _ List.mem_cons_self
    have hnone : ((text ++ sep :: rest).take n).mapM (digit base) = none := by
      generalize (text ++ sep :: rest).take n = l at hmem
      induction l with
      | nil => cases hmem
      | cons c l ih =>
          rw [List.mapM_cons]
          rcases List.mem_cons.mp hmem with rfl | hmem
          · rw [hsep]
            rfl
          · rw [ih hmem]
            cases digit base c <;> rfl
    have hshort : (text.take n).length ≠ n := by
      rw [List.length_take]
      omega
    rw [byDigits, byDigits, hnone, if_neg hshort, ite_self]

/-- A character that stands for itself, ends no line and is part of no escape sequence. -/
structure Separates (sep : Char) : Prop where
  ordinary : ordinary sep = true
  eol : isEol sep = false
  letter : letters.lookup sep = none
  number : numbers.lookup sep = none
  octal : digit 8 sep = none
  hex : digit 16 sep = none

section Separator

variable {sep : Char} (hsep : Separates sep)
include hsep

theorem escape_append (text rest : List Char) : escape (text ++ sep :: rest) = escape text := by
  cases text with
  | nil =>
      have hdigits : escape (sep :: rest) = byDigits 8 3 256 (sep :: rest) := by
        rw [escape, hsep.letter, hsep.number]
      exact hdigits.trans (byDigits_append hsep.octal 3 256 [] rest)
  | cons c text =>
      have hoctal := byDigits_append hsep.octal 3 256 (c :: text) rest
      rw [List.cons_append] at hoctal
      simp only [List.cons_append, escape, byDigits_append hsep.hex, hoctal]

theorem literal_append (text rest : List Char) :
    literal (text ++ sep :: rest) = (literal text && literal rest) := by
  have hchar := hsep.ordinary
  simp only [ordinary, Bool.and_eq_true, bne_iff_ne] at hchar
  fun_induction literal text with
  | case1 =>
      rw [List.nil_append, literal_plain hchar.1.1, hchar.1.2, hchar.2]
      rfl
  | case2 => exact literal_unknown (escape_append hsep [] rest)
  | case3 c text ih =>
      rw [List.cons_append, List.cons_append, literal, ← List.cons_append, escape_append hsep, ih,
        Bool.and_assoc]
  | case4 c text hlast hpair ih =>
      have hc := ne_backslash hlast hpair
      rw [List.cons_append, literal_plain hc, ih, ← Bool.and_assoc]

omit hsep in
theorem continued_plain {c : Char} (hc : c ≠ '\\') (rest : List Char) :
    continued (c :: rest) = continued rest := by
  rw [continued]
  · exact fun h => absurd h hc
  · exact fun _ _ h => absurd h hc

theorem continued_append (text rest : List Char) :
    continued (text ++ sep :: rest) = continued rest := by
  have hchar := hsep.ordinary
  simp only [ordinary, Bool.and_eq_true, bne_iff_ne] at hchar
  fun_induction continued text with
  | case1 => exact continued_plain hchar.1.1 rest
  | case2 => rfl
  | case3 c text ih => exact ih
  | case4 c text hlast hpair ih =>
      have hc := ne_backslash hlast hpair
      rw [List.cons_append, continued_plain hc, ih]

end Separator

/-! ## Lines -/

theorem isPrefix_of_readLine {line : List Char} (h : readLine text = some line) :
    line <+: text := by
  rw [readLine, Option.ite_none_left_eq_some, Option.some.injEq] at h
  rw [← h.2]
  exact ( List.rdropWhile_prefix _ _).trans ( List.takeWhile_prefix _)

theorem not_isEol_of_readLine (h : readLine text = some text) : ∀ c ∈ text, isEol c = false := by
  rw [readLine, Option.ite_none_left_eq_some, Option.some.injEq] at h
  intro c hc
  rw [← h.2] at hc
  have hraw := List.mem_takeWhile_imp (( List.rdropWhile_prefix _ _).subset hc)
  rwa [Bool.not_eq_true'] at hraw

theorem rdropWhile_append (hc : isBlank c = false) (p text : List Char) :
    (p ++ [c] ++ text).rdropWhile isBlank = p ++ [c] ++ text.rdropWhile isBlank := by
  induction text using List.reverseRecOn with
  | nil =>
      rw [List.append_nil, List.rdropWhile_concat, if_neg (by simp [hc])]
      simp
  | append_singleton text d ih =>
      rw [← List.append_assoc, List.rdropWhile_concat, List.rdropWhile_concat]
      by_cases hd : isBlank d = true
      · rw [if_pos hd, if_pos hd, ih]
      · rw [if_neg hd, if_neg hd, List.append_assoc]

/-- A beginning without line ends that goes up to a separator is read as it is. -/
theorem readLine_append {sep : Char} (hsep : Separates sep) {p : List Char}
    (h : ∀ c ∈ p, isEol c = false) (text : List Char) :
    readLine (p ++ sep :: text) = (readLine text).map (p ++ sep :: ·) := by
  have hblank : isBlank sep = false := by
    have hchar := hsep.ordinary
    simp only [ordinary, Bool.and_eq_true, Bool.not_eq_true'] at hchar
    exact hchar.1.2
  have hraw : (p ++ sep :: text).takeWhile (!isEol ·) = p ++ sep :: text.takeWhile (!isEol ·) := by
    rw [List.takeWhile_append_of_pos fun c hc => by rw [h c hc]; rfl, List.takeWhile_cons_of_pos]
    rw [hsep.eol]
    rfl
  have hdrop := rdropWhile_append hblank p (text.takeWhile (!isEol ·))
  rw [List.append_assoc, List.append_assoc] at hdrop
  rw [readLine, readLine, hraw, continued_append hsep]
  by_cases hcontinued : continued (text.takeWhile (!isEol ·)) = true
  · rw [if_pos hcontinued, if_pos hcontinued]
    rfl
  · rw [if_neg hcontinued, if_neg hcontinued]
    exact congrArg some hdrop

/-- A text with a separator in it is one line, if what stands before it has no line end and the rest
is one line. -/
theorem readLine_append_iff {sep : Char} (hsep : Separates sep) (p text : List Char) :
    readLine (p ++ sep :: text) = some (p ++ sep :: text) ↔
      (∀ c ∈ p, isEol c = false) ∧ readLine text = some text := by
  constructor
  · intro h
    have hp : ∀ c ∈ p, isEol c = false :=
      fun c hc => not_isEol_of_readLine h c (List.mem_append_left _ hc)
    rw [readLine_append hsep hp, Option.map_eq_some_iff] at h
    obtain ⟨line, hline, heq⟩ := h
    rw [List.append_cancel_left_eq, List.cons.injEq] at heq
    exact ⟨hp, heq.2 ▸ hline⟩
  · rintro ⟨hp, htext⟩
    rw [readLine_append hsep hp, htext, Option.map_some]

theorem words_append {p : List Char} (hne : p ≠ []) (h : p.all ordinary = true) (cur : Option Word)
    (text : List Char) :
    words 0 none cur (p ++ text) = words 0 none (some (cur.getD [] ++ p)) text := by
  induction p generalizing cur with
  | nil => exact absurd rfl hne
  | cons c p ih =>
      rw [List.all_cons, Bool.and_eq_true, ordinary, Bool.and_eq_true, Bool.and_eq_true, bne_iff_ne,
        Bool.not_eq_true', Bool.not_eq_true'] at h
      obtain ⟨⟨⟨hc, hblank⟩, hquote⟩, hp⟩ := h
      rw [List.cons_append, words_plain hc hblank hquote]
      cases p with
      | nil => rfl
      | cons d p =>
          rw [ih (List.cons_ne_nil _ _) hp, Option.getD_some, List.append_assoc]
          rfl

theorem words_word {p : List Char} (hne : p ≠ []) (h : p.all ordinary = true) (text : List Char) :
    words 0 none none (p ++ ' ' :: text) = (words 0 none none text).map (p :: ·) := by
  rw [words_append hne h, words_blank rfl]
  rfl

end UnitLine
