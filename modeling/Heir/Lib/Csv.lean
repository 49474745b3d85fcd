import Heir.Lib.Counting
import Mathlib.Tactic

set_option autoImplicit false

/-! # Records of comma-separated values

The first record of a text as Go's `encoding/csv` reads it with its default settings. Fields are
separated by commas, the record ends with its line. A field that begins with a quote goes up to the
next quote and may have commas and line ends in it; two quotes in it stand for one. Any other quote
is an error.
-/

namespace Csv

open Counting

abbrev Field : Type := List Char

/-- Line ends of two characters are read as one, and a carriage return at the very end is dropped. -/
def normalize : List Char → List Char
  | [] => []
  | ['\r'] => []
  | '\r' :: '\n' :: rest => '\n' :: normalize rest
  | c :: rest => c :: normalize rest

/-- Where the reader is in a field. -/
inductive Mode where
  | start
  | plain
  | quoted
  /-- After a quote in a quoted field. -/
  | closing
  deriving DecidableEq, Repr

/-- The fields from here on, the first of which has begun with `cur`. -/
def fields : Mode → Field → List Char → Option (List Field)
  | .quoted, _, [] => none
  | _, cur, [] => some [cur]
  | .quoted, cur, c :: rest =>
      if c = '"' then fields .closing cur rest else fields .quoted (cur ++ [c]) rest
  | .closing, cur, c :: rest =>
      if c = '"' then fields .quoted (cur ++ [c]) rest
      else if c = ',' then (fields .start [] rest).map (cur :: ·)
      else if c = '\n' then some [cur]
      else none
  | .start, cur, c :: rest =>
      if c = '"' then fields .quoted [] rest
      else if c = ',' then (fields .start [] rest).map (cur :: ·)
      else if c = '\n' then some [cur]
      else fields .plain (cur ++ [c]) rest
  | .plain, cur, c :: rest =>
      if c = '"' then none
      else if c = ',' then (fields .start [] rest).map (cur :: ·)
      else if c = '\n' then some [cur]
      else fields .plain (cur ++ [c]) rest

/-- The first record. Empty lines before it are skipped; without one there is an error. -/
def read (text : List Char) : Option (List Field) :=
  let lines := (normalize text).dropWhile (· == '\n')
  if lines = [] then none else fields .start [] lines

/-! ## How much is read -/

theorem length_normalize_le (text : List Char) : (normalize text).length ≤ text.length := by
  fun_induction normalize text with
  | case1 => exact Nat.le_refl _
  | case2 => exact Nat.zero_le _
  | case3 rest ih | case4 c rest _ _ ih =>
      simp only [List.length_cons]
      omega

/-- The reader never makes more characters than it reads, if the end of the text counts as one. -/
theorem total_fields_le {text : List Char} {mode : Mode} {cur : Field} {fs : List Field}
    (h : fields mode cur text = some fs) : total fs ≤ cur.length + 1 + text.length := by
  -- a comma ends the field, and a line end the record, in every mode
  have hcomma : ∀ {cur : Field} {rest : List Char} {fs : List Field},
      (∀ {fs}, fields .start [] rest = some fs → total fs ≤ ([] : Field).length + 1 + rest.length) →
      (fields .start [] rest).map (cur :: ·) = some fs →
        total fs ≤ cur.length + 1 + (rest.length + 1) := by
    intro cur rest fs ih hmap
    obtain ⟨fs', hfs', rfl⟩ := Option.map_eq_some_iff.mp hmap
    have hrest := ih hfs'
    rw [List.length_nil] at hrest
    rw [total_cons]
    omega
  have hend : ∀ {cur : Field} {n : Nat} {fs : List Field}, some [cur] = some fs →
      total fs ≤ cur.length + 1 + n := by
    intro cur n fs heq
    cases heq
    rw [total_cons, total_nil]
    omega
  have hgrow : ∀ {cur : Field} {c : Char} {n m : Nat}, m ≤ (cur ++ [c]).length + 1 + n →
      m ≤ cur.length + 1 + (n + 1) := by
    intro cur c n m hle
    rw [List.length_append, List.length_singleton] at hle
    omega
  fun_induction fields mode cur text generalizing fs with
  | case1 => cases h
  | case2 => exact hend h
  | case3 cur rest ih =>
      have hrest := ih h
      rw [List.length_cons]
      omega
  | case4 cur c rest hc ih | case5 cur rest ih => exact hgrow (ih h)
  | case6 cur rest _ ih => exact hcomma ih h
  | case7 cur rest _ _ => exact hend h
  | case8 => cases h
  | case9 cur rest ih =>
      have hrest := ih h
      rw [List.length_nil] at hrest
      rw [List.length_cons]
      omega
  | case10 cur rest _ ih => exact hcomma ih h
  | case11 cur rest _ _ => exact hend h
  | case12 cur c rest _ _ _ ih => exact hgrow (ih h)
  | case13 => cases h
  | case14 cur rest _ ih => exact hcomma ih h
  | case15 cur rest _ _ => exact hend h
  | case16 cur c rest _ _ _ ih => exact hgrow (ih h)

theorem total_read_le {text : List Char} {fs : List Field} (h : read text = some fs) :
    total fs ≤ text.length + 1 := by
  rw [read, Option.ite_none_left_eq_some] at h
  have hfields := total_fields_le h.2
  have hlines : ((normalize text).dropWhile (· == '\n')).length ≤ (normalize text).length :=
    (List.dropWhile_suffix _).length_le
  have hnormal := length_normalize_le text
  rw [List.length_nil] at hfields
  omega

/-! ## Texts without quotes -/

theorem normalize_eq_self {text : List Char} (h : '\r' ∉ text) : normalize text = text := by
  fun_induction normalize text with
  | case1 => rfl
  | case2 | case3 => exact absurd List.mem_cons_self h
  | case4 c rest _ _ ih => rw [ih fun hmem => h (List.mem_cons_of_mem _ hmem)]

theorem modifyHead_nil_append (fs : List Field) : fs.modifyHead ([] ++ ·) = fs := by
  cases fs <;> rfl

/-- Without quotes and line ends, the fields are what stands between the commas. -/
theorem fields_eq_splitOn {text : List Char} {mode : Mode} (hmode : mode = .start ∨ mode = .plain)
    (cur : Field) (hquote : '"' ∉ text) (hline : '\n' ∉ text) :
    fields mode cur text = some ((text.splitOn ',').modifyHead (cur ++ ·)) := by
  induction text generalizing mode cur with
  | nil => rcases hmode with rfl | rfl <;> simp [fields]
  | cons c rest ih =>
      rw [List.mem_cons, not_or] at hquote hline
      have hc : c ≠ '"' := fun heq => hquote.1 heq.symm
      have hn : c ≠ '\n' := fun heq => hline.1 heq.symm
      have hsplit : (c :: rest).splitOn ',' = if (c == ',') = true then [] :: rest.splitOn ','
          else (rest.splitOn ',').modifyHead (List.cons c) :=
        List.splitOnP_cons_eq_if_modifyHead c rest
      have hstep : fields mode cur (c :: rest) =
          if c = ',' then (fields .start [] rest).map (cur :: ·)
          else fields .plain (cur ++ [c]) rest := by
        rcases hmode with rfl | rfl <;> simp [fields, hc, hn]
      rw [hstep, hsplit]
      by_cases hcomma : c = ','
      · rw [if_pos hcomma, if_pos (beq_iff_eq.mpr hcomma), ih (.inl rfl) [] hquote.2 hline.2,
          modifyHead_nil_append, List.modifyHead_cons, List.append_nil]
        rfl
      · rw [if_neg hcomma, if_neg (by simpa using hcomma), ih (.inr rfl) _ hquote.2 hline.2,
          List.modifyHead_modifyHead]
        congr 2
        funext f
        exact List.append_assoc _ _ _

theorem read_eq_splitOn {text : List Char} (hne : text ≠ []) (hquote : '"' ∉ text)
    (hline : '\n' ∉ text) (hreturn : '\r' ∉ text) : read text = some (text.splitOn ',') := by
  have hlines : (normalize text).dropWhile (· == '\n') = text := by
    rw [normalize_eq_self hreturn]
    cases text with
    | nil => rfl
    | cons c rest =>
        refine List.dropWhile_cons_of_neg ?_
        rw [beq_iff_eq]
        exact fun heq => hline (by simp [heq])
  rw [read, hlines, if_neg hne, fields_eq_splitOn (.inl rfl) [] hquote hline,
    modifyHead_nil_append]

end Csv
