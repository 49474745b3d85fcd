import Mathlib.Tactic

set_option autoImplicit false

/-! # Counting in concatenations

Two ways to write out the parts of a list, one of which never has more characters of some kind than
the other, part by part. If the whole texts have the same number of them, so do the texts of each
part.

The parts of a text that is put together with a separator between them are counted by `total`, which
takes one more for the end of each part.
-/

namespace Counting

variable {α β : Type} {p : β → Bool} {f g : α → List β}

theorem countP_flatMap_le (h : ∀ a, (f a).countP p ≤ (g a).countP p) (l : List α) :
    (l.flatMap f).countP p ≤ (l.flatMap g).countP p := by
  induction l with
  | nil => exact Nat.le_refl _
  | cons a l ih =>
      have ha := h a
      rw [List.flatMap_cons, List.flatMap_cons, List.countP_append, List.countP_append]
      omega

theorem countP_eq_of_flatMap (h : ∀ a, (f a).countP p ≤ (g a).countP p) {l : List α}
    (heq : (l.flatMap f).countP p = (l.flatMap g).countP p) :
    ∀ a ∈ l, (f a).countP p = (g a).countP p := by
  induction l with
  | nil => exact fun a ha => absurd ha List.not_mem_nil
  | cons b l ih =>
      have hb := h b
      have hl := countP_flatMap_le h l
      rw [List.flatMap_cons, List.flatMap_cons, List.countP_append, List.countP_append] at heq
      intro a ha
      rcases List.mem_cons.mp ha with rfl | ha
      · omega
      · exact ih (by omega) a ha

/-- The lengths of some parts, with one more for the end of each. -/
def total (ls : List (List α)) : Nat := (ls.map fun l => l.length + 1).sum

@[simp] theorem total_nil : total ([] : List (List α)) = 0 := rfl

@[simp] theorem total_cons (l : List α) (ls : List (List α)) :
    total (l :: ls) = l.length + 1 + total ls := by
  simp [total]

theorem total_append (ls ls' : List (List α)) : total (ls ++ ls') = total ls + total ls' := by
  simp [total]

theorem length_intercalate (c : α) {ls : List (List α)} (h : ls ≠ []) :
    ([c].intercalate ls).length + 1 = total ls := by
  induction ls with
  | nil => exact absurd rfl h
  | cons l ls ih =>
      cases ls with
      | nil => simp
      | cons l' ls =>
          have hrest := ih (by simp)
          rw [List.intercalate_cons_cons, total_cons, ← hrest]
          simp only [List.length_append, List.length_singleton]
          omega

variable [BEq α]

theorem count_intercalate (c d : α) {ls : List (List α)} (h : ls ≠ []) :
    ([c].intercalate ls).count d + [c].count d =
      (ls.map (List.count d)).sum + ls.length * [c].count d := by
  induction ls with
  | nil => exact absurd rfl h
  | cons l ls ih =>
      cases ls with
      | nil => simp
      | cons l' ls =>
          have hrest := ih (by simp)
          rw [List.intercalate_cons_cons, List.map_cons, List.sum_cons, List.length_cons,
            Nat.succ_mul]
          simp only [List.count_append]
          omega

theorem length_splitOn (c : α) (l : List α) : (l.splitOn c).length = l.count c + 1 := by
  induction l with
  | nil => simp
  | cons a l ih =>
      have hsplit : (a :: l).splitOn c = if (a == c) = true then [] :: l.splitOn c
          else (l.splitOn c).modifyHead (List.cons a) :=
        List.splitOnP_cons_eq_if_modifyHead a l
      rw [hsplit, List.count_cons]
      by_cases hac : (a == c) = true
      · rw [if_pos hac, if_pos hac, List.length_cons, ih]
      · rw [if_neg hac, if_neg hac, List.length_modifyHead, ih]

end Counting
