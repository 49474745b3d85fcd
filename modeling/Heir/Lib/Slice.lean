import Mathlib.Tactic

set_option autoImplicit false

/-! # Slices

What stands at an index after `append`, and the removal of an element from a slice whose order does
not matter, by moving the last element into its place and cutting off the end.
-/

namespace Slice

variable {α : Type}

theorem getElem?_append_one (l : List α) (a : α) (i : Nat) :
    (l ++ [a])[i]? = if i = l.length then some a else l[i]? := by
  rcases Nat.lt_trichotomy i l.length with hi | rfl | hi
  · rw [List.getElem?_append_left hi, if_neg (by omega)]
  · rw [List.getElem?_concat_length, if_pos rfl]
  · rw [List.getElem?_eq_none (by simp; omega), if_neg (by omega), List.getElem?_eq_none (by omega)]

/-- `s[i] = s[len(s)-1]; s = s[:len(s)-1]`. -/
def swapRemove (l : List α) (i : Nat) : List α :=
  match l.getLast? with
  | none => l
  | some last => (l.set i last).dropLast

/-- `for i, x := range s { if p(x) { ...; break } }` with the removal of `s[i]` as the body. -/
def removeFirst (p : α → Bool) (l : List α) : List α :=
  match l.findIdx? p with
  | none => l
  | some i => swapRemove l i

theorem swapRemove_append_singleton (l : List α) (a : α) (i : Nat) :
    swapRemove (l ++ [a]) i = ((l ++ [a]).set i a).dropLast := by
  simp [swapRemove]

theorem swapRemove_perm {l : List α} {i : Nat} (h : i < l.length) :
    (swapRemove l i).Perm (l.eraseIdx i) := by
  obtain rfl | ⟨l, a, rfl⟩ := List.eq_nil_or_concat l
  · cases h
  rw [List.concat_eq_append] at h ⊢
  rw [swapRemove_append_singleton]
  by_cases hi : i < l.length
  · rw [List.set_append_left _ _ hi, List.dropLast_concat, List.eraseIdx_append_of_lt_length hi]
    exact (List.set_perm_cons_eraseIdx hi a).trans (List.perm_append_singleton a _).symm
  · -- the last element is moved onto itself
    have hlast : i = l.length := by
      simp at h
      omega
    subst hlast
    rw [List.eraseIdx_append_of_length_le (Nat.le_refl _)]
    simp

theorem removeFirst_perm (p : α → Bool) (l : List α) : (removeFirst p l).Perm (l.eraseP p) := by
  rw [removeFirst, List.eraseP_eq_eraseIdx]
  cases hi : l.findIdx? p with
  | none => exact .refl _
  | some i => exact swapRemove_perm (List.findIdx?_eq_some_iff_findIdx_eq.mp hi).1

end Slice
