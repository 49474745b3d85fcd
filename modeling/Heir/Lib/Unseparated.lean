import Mathlib.Data.List.Nodup
import Mathlib.Data.List.Flatten
import Mathlib.Tactic.Push

set_option autoImplicit false

/-! # Records written without separators

The text of a record is written key by key,

    label k₁, value k₁, label k₂, value k₂, …

with nothing in between, and nothing says how long a value is. Whether two records can be told apart
by such texts, whatever their values are, depends on their keys only: on the labels of the first
keys, and on whether there are more (`tells_iff`).

The argument for what cannot be told apart is one construction. If the first label of one record
begins with the first label of another one, then the first value of the latter can hold all labels
of the former, and the last value of the former all other labels of the latter.
-/

namespace Unseparated

variable {κ α : Type}

/-- The text of a record with these keys. -/
def text (label : κ → List α) (keys : List κ) (value : κ → List α) : List α :=
  keys.flatMap fun k => label k ++ value k

/-- Records with these keys are told apart by their texts. -/
def Tells (label : κ → List α) (keys keys' : List κ) : Prop :=
  ∀ value value' : κ → List α, text label keys value = text label keys' value' →
    keys = keys' ∧ ∀ k ∈ keys, value k = value' k

/-- What the keys of two records must be like: at most one and the same; none on one side, and some
label on the other; or first labels neither of which begins with the other. -/
inductive Separated (label : κ → List α) : List κ → List κ → Prop where
  | nil : Separated label [] []
  | single (k : κ) : Separated label [k] [k]
  | nilLeft {keys : List κ} (h : ∃ k ∈ keys, label k ≠ []) : Separated label [] keys
  | nilRight {keys : List κ} (h : ∃ k ∈ keys, label k ≠ []) : Separated label keys []
  | heads {k k' : κ} {rest rest' : List κ} (h : ¬ label k <+: label k')
      (h' : ¬ label k' <+: label k) : Separated label (k :: rest) (k' :: rest')

section Text

variable {label : κ → List α} {keys keys' rest rest' : List κ} {k k' : κ} {value value' : κ → List α}

@[simp] theorem text_nil : text label [] value = [] := rfl

@[simp] theorem text_cons :
    text label (k :: rest) value = label k ++ value k ++ text label rest value := rfl

theorem text_append :
    text label (keys ++ keys') value = text label keys value ++ text label keys' value :=
  List.flatMap_append

theorem text_congr (h : ∀ k ∈ keys, value k = value' k) :
    text label keys value = text label keys value' := by
  refine List.flatMap_congr fun k hk => ?_
  rw [h k hk]

theorem label_eq_nil_of_text (h : text label keys value = []) : ∀ k ∈ keys, label k = [] := by
  intro k hk
  have hentry := List.flatMap_eq_nil_iff.mp h k hk
  exact (List.append_eq_nil_iff.mp hentry).1

theorem Tells.symm (h : Tells label keys keys') : Tells label keys' keys := by
  intro value value' htext
  obtain ⟨rfl, hvalues⟩ := h value' value htext.symm
  exact ⟨rfl, fun k hk => (hvalues k hk).symm⟩

theorem Separated.symm (h : Separated label keys keys') : Separated label keys' keys := by
  cases h with
  | nil => exact .nil
  | single k => exact .single k
  | nilLeft h => exact .nilRight h
  | nilRight h => exact .nilLeft h
  | heads h h' => exact .heads h' h

/-! ## What can be told apart -/

/-- The first labels of two records with one text: both begin that text. -/
theorem heads_comparable
    (h : text label (k :: rest) value = text label (k' :: rest') value') :
    label k <+: label k' ∨ label k' <+: label k := by
  rw [text_cons, text_cons, List.append_assoc, List.append_assoc] at h
  have hleft : label k <+: label k' ++ (value' k' ++ text label rest' value') := by
    rw [← h]
    exact List.prefix_append _ _
  exact List.prefix_or_prefix_of_prefix hleft (List.prefix_append _ _)

theorem tells_of_separated (h : Separated label keys keys') : Tells label keys keys' := by
  intro value value' htext
  cases h with
  | nil => exact ⟨rfl, fun k hk => absurd hk List.not_mem_nil⟩
  | single k =>
      refine ⟨rfl, fun x hx => ?_⟩
      rw [List.mem_singleton.mp hx]
      simpa using htext
  | nilLeft h =>
      obtain ⟨k, hk, hne⟩ := h
      exact absurd (label_eq_nil_of_text htext.symm k hk) hne
  | nilRight h =>
      obtain ⟨k, hk, hne⟩ := h
      exact absurd (label_eq_nil_of_text htext k hk) hne
  | heads h h' =>
      rcases heads_comparable htext with hbegins | hbegins
      · exact absurd hbegins h
      · exact absurd hbegins h'

/-! ## What cannot be told apart -/

theorem nilLeft_of_tells (h : Tells label [] keys) (hne : keys ≠ []) : ∃ k ∈ keys, label k ≠ [] := by
  by_contra hall
  push Not at hall
  have htext : text label keys (fun _ => []) = [] := by
    refine List.flatMap_eq_nil_iff.mpr fun k hk => ?_
    rw [hall k hk, List.append_nil]
  obtain ⟨rfl, -⟩ := h (fun _ => []) (fun _ => []) htext.symm
  exact hne rfl

end Text

section Collision

variable [DecidableEq κ] {label : κ → List α} {keys keys' rest rest' : List κ} {k k' : κ}
  {v : List α}

/-- A value at one key and nothing at the others. -/
def only (k : κ) (v : List α) : κ → List α := fun x => if x = k then v else []

@[simp] theorem only_self : only k v k = v := if_pos rfl

theorem only_of_ne (h : k' ≠ k) : only k v k' = [] := if_neg h

theorem text_only_of_not_mem (h : k ∉ keys) : text label keys (only k v) = keys.flatMap label := by
  refine List.flatMap_congr fun x hx => ?_
  have hne : x ≠ k := by
    rintro rfl
    exact h hx
  rw [only_of_ne hne, List.append_nil]

theorem text_only_head (h : k ∉ rest) :
    text label (k :: rest) (only k v) = label k ++ v ++ rest.flatMap label := by
  rw [text_cons, only_self, text_only_of_not_mem h]

theorem text_only_last (h : k ∉ keys) :
    text label (keys ++ [k]) (only k v) = (keys ++ [k]).flatMap label ++ v := by
  rw [text_append, text_only_of_not_mem h, List.flatMap_append]
  simp

/-- The two records: the first value of one holds the labels of the other, whose last value holds
the labels that come after. -/
theorem text_collision {t : List α} (hk : k ∉ rest) (hkeys : keys.Nodup)
    (hlast : keys.getLast? = some k') (hhead : keys.flatMap label = label k ++ t) :
    text label (k :: rest) (only k t) = text label keys (only k' (rest.flatMap label)) := by
  obtain ⟨init, rfl⟩ := List.getLast?_eq_some_iff.mp hlast
  have hnot : k' ∉ init := by
    intro hmem
    exact (List.nodup_append.mp hkeys).2.2 k' hmem k' List.mem_cons_self rfl
  rw [text_only_head hk, text_only_last hnot, hhead]

theorem separated_of_isPrefix (hkeys : (k :: rest).Nodup) (hkeys' : (k' :: rest').Nodup)
    (hlabels : ∀ x ∈ rest, label x ≠ []) (htells : Tells label (k :: rest) (k' :: rest'))
    (h : label k <+: label k') : Separated label (k :: rest) (k' :: rest') := by
  obtain ⟨t, ht⟩ := h
  have hk : k ∉ rest := (List.nodup_cons.mp hkeys).1
  have hhead : (k' :: rest').flatMap label = label k ++ (t ++ rest'.flatMap label) := by
    rw [List.flatMap_cons, ← ht, List.append_assoc]
  have hlast : (k' :: rest').getLast? = some ((k' :: rest').getLast (List.cons_ne_nil _ _)) :=
    List.getLast?_eq_some_getLast _
  obtain ⟨heq, hvalues⟩ := htells _ _ (text_collision hk hkeys' hlast hhead)
  obtain ⟨rfl, rfl⟩ := List.cons.inj heq
  -- so both records have the same keys, and with a second one their first values differ
  cases rest with
  | nil => exact .single k
  | cons x rest =>
      exfalso
      have hne : k ≠ (k :: x :: rest).getLast (List.cons_ne_nil _ _) := by
        intro hsame
        rw [List.getLast_cons (List.cons_ne_nil _ _)] at hsame
        exact hk (hsame ▸ List.getLast_mem _)
      have hfirst := hvalues k List.mem_cons_self
      rw [only_self, only_of_ne hne, List.append_eq_nil_iff, List.flatMap_cons,
        List.append_eq_nil_iff] at hfirst
      exact hlabels x List.mem_cons_self hfirst.2.1

theorem separated_of_tells (hkeys : keys.Nodup) (hkeys' : keys'.Nodup)
    (hlabels : ∀ k ∈ keys.tail, label k ≠ []) (hlabels' : ∀ k ∈ keys'.tail, label k ≠ [])
    (h : Tells label keys keys') : Separated label keys keys' := by
  cases keys with
  | nil =>
      by_cases hne : keys' = []
      · rw [hne]
        exact .nil
      · exact .nilLeft (nilLeft_of_tells h hne)
  | cons k rest =>
      cases keys' with
      | nil => exact .nilRight (nilLeft_of_tells h.symm (List.cons_ne_nil _ _))
      | cons k' rest' =>
          by_cases hbegins : label k <+: label k'
          · exact separated_of_isPrefix hkeys hkeys' hlabels h hbegins
          · by_cases hbegins' : label k' <+: label k
            · exact (separated_of_isPrefix hkeys' hkeys hlabels' h.symm hbegins').symm
            · exact .heads hbegins hbegins'

/-- **Which keys are enough.** For keys without repetitions, of which only the first may have an
empty label: their records are told apart by their texts if and only if the keys are separated. -/
theorem tells_iff (hkeys : keys.Nodup) (hkeys' : keys'.Nodup)
    (hlabels : ∀ k ∈ keys.tail, label k ≠ []) (hlabels' : ∀ k ∈ keys'.tail, label k ≠ []) :
    Tells label keys keys' ↔ Separated label keys keys' :=
  ⟨separated_of_tells hkeys hkeys' hlabels hlabels', tells_of_separated⟩

end Collision

end Unseparated
