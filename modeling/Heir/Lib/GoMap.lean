import Mathlib.Data.List.Sort
import Mathlib.Data.String.Basic
import Mathlib.Tactic

set_option autoImplicit false

/-! # Go maps and their iteration order

A Go map with string keys is an extensional tree map: two maps are equal when they hold the
same entries. Ranging over a map visits the entries in an order the language leaves open; a
`RangeOrder` is one resolution of that choice, any permutation of the entries for every map.

The lemmas say which uses of an iteration do not depend on the order: assigning the entries to
another map (`setAll_congr`) and collecting the keys and sorting them (`sortedKeys_eq`).
-/

/-- A Go `map[string]V`. -/
abbrev GoMap (V : Type) : Type := Std.ExtTreeMap String V

namespace GoMap

variable {V : Type}

/-- The order in which one `range` statement visits the entries of a map. -/
structure RangeOrder (V : Type) where
  visit : GoMap V → List (String × V)
  perm : ∀ m, (visit m).Perm m.toList

/-- The order by key. -/
def RangeOrder.byKey : RangeOrder V := ⟨fun m => m.toList, fun _ => .refl _⟩

instance : Inhabited (RangeOrder V) := ⟨.byKey⟩

/-- An order that visits the entry of the key `k` before all others. -/
def RangeOrder.startingWith (k : String) : RangeOrder V where
  visit := fun m => m.toList.filter (fun e => e.1 == k) ++ m.toList.filter (fun e => !(e.1 == k))
  perm := fun m => List.filter_append_perm _ m.toList

/-- `for k, v := range l { m[k] = v }`. -/
def setAll (m : GoMap V) (l : List (String × V)) : GoMap V :=
  l.foldl (fun m e => m.insert e.1 e.2) m

/-- `sort.Strings`. -/
def sortStrings (l : List String) : List String := l.insertionSort (· ≤ ·)

/-- The keys of a map, collected by a `range` and sorted. -/
def sortedKeys (o : RangeOrder V) (m : GoMap V) : List String :=
  sortStrings ((o.visit m).map Prod.fst)

@[simp] theorem setAll_nil (m : GoMap V) : setAll m [] = m := rfl

@[simp] theorem setAll_cons (m : GoMap V) (e : String × V) (l : List (String × V)) :
    setAll m (e :: l) = setAll (m.insert e.1 e.2) l := rfl

theorem getElem?_insert (m : GoMap V) (k a : String) (v : V) :
    (m.insert k v)[a]? = if k = a then some v else m[a]? := by
  rw [Std.ExtTreeMap.getElem?_insert]
  simp only [compare_eq_iff_eq]

theorem getElem?_erase (m : GoMap V) (k a : String) :
    (m.erase k)[a]? = if k = a then none else m[a]? := by
  rw [Std.ExtTreeMap.getElem?_erase]
  simp only [compare_eq_iff_eq]

theorem getElem?_setAll_of_not_mem (m : GoMap V) (l : List (String × V)) {k : String}
    (h : k ∉ l.map Prod.fst) : (setAll m l)[k]? = m[k]? := by
  induction l generalizing m with
  | nil => rfl
  | cons e l ih =>
      simp only [List.map_cons, List.mem_cons, not_or] at h
      rw [setAll_cons, ih _ h.2, getElem?_insert, if_neg (Ne.symm h.1)]

theorem getElem?_setAll_of_mem (m : GoMap V) (l : List (String × V)) {k : String} {v : V}
    (hd : (l.map Prod.fst).Nodup) (h : (k, v) ∈ l) : (setAll m l)[k]? = some v := by
  induction l generalizing m with
  | nil => cases h
  | cons e l ih =>
      simp only [List.map_cons, List.nodup_cons] at hd
      rcases List.mem_cons.mp h with rfl | h
      · rw [setAll_cons, getElem?_setAll_of_not_mem _ _ hd.1, getElem?_insert, if_pos rfl]
      · exact ih _ hd.2 h

theorem mem_of_getElem?_setAll {m : GoMap V} {l : List (String × V)} {k : String} {v : V}
    (h : (setAll m l)[k]? = some v) : (k, v) ∈ l ∨ m[k]? = some v := by
  induction l generalizing m with
  | nil => exact .inr h
  | cons e l ih =>
      rw [setAll_cons] at h
      rcases ih h with hmem | hbefore
      · exact .inl (List.mem_cons_of_mem _ hmem)
      · rw [getElem?_insert] at hbefore
        by_cases hk : e.1 = k
        · rw [if_pos hk] at hbefore
          cases hbefore
          rw [← hk]
          exact .inl List.mem_cons_self
        · rw [if_neg hk] at hbefore
          exact .inr hbefore

theorem mem_of_getElem?_setAll_empty {l : List (String × V)} {k : String} {v : V}
    (h : (setAll ∅ l)[k]? = some v) : (k, v) ∈ l := by
  rcases mem_of_getElem?_setAll h with hmem | hempty
  · exact hmem
  · rw [Std.ExtTreeMap.getElem?_empty] at hempty
    cases hempty

theorem mem_toList (m : GoMap V) (k : String) (v : V) : (k, v) ∈ m.toList ↔ m[k]? = some v :=
  Std.ExtTreeMap.mem_toList_iff_getElem?_eq_some

theorem nodup_keys_toList (m : GoMap V) : (m.toList.map Prod.fst).Nodup := by
  rw [Std.ExtTreeMap.map_fst_toList_eq_keys]
  exact Std.ExtTreeMap.nodup_keys

namespace RangeOrder

variable (o : RangeOrder V) (m : GoMap V)

theorem nodup_keys : ((o.visit m).map Prod.fst).Nodup :=
  (((o.perm m).map Prod.fst).nodup_iff).mpr (nodup_keys_toList m)

theorem mem_visit (k : String) (v : V) : (k, v) ∈ o.visit m ↔ m[k]? = some v := by
  rw [(o.perm m).mem_iff, mem_toList]

theorem not_mem_keys {k : String} (h : m[k]? = none) : k ∉ (o.visit m).map Prod.fst := by
  intro hk
  obtain ⟨⟨k', v⟩, he, rfl⟩ := List.mem_map.mp hk
  rw [mem_visit] at he
  rw [h] at he
  cases he

theorem visit_singleton (k : String) (v : V) :
    o.visit ((∅ : GoMap V).insert k v) = [(k, v)] := by
  have hlist : ((∅ : GoMap V).insert k v).toList = [(k, v)] := rfl
  have hperm := o.perm ((∅ : GoMap V).insert k v)
  rw [hlist] at hperm
  exact List.perm_singleton.mp hperm

/-- What a loop makes of the entries and names after their keys has distinct names. -/
theorem nodup_filterMap {β : Type} {f : String × V → Option β} {name : β → String}
    (hname : ∀ e ∈ o.visit m, ∀ b, f e = some b → name b = e.1) :
    (((o.visit m).filterMap f).map name).Nodup := by
  have hsublist : ∀ l : List (String × V), (∀ e ∈ l, ∀ b, f e = some b → name b = e.1) →
      ((l.filterMap f).map name).Sublist (l.map Prod.fst) := by
    intro l hl
    induction l with
    | nil => exact .slnil
    | cons e l ih =>
        have hrest := ih fun e' he' => hl e' (List.mem_cons_of_mem _ he')
        cases hf : f e with
        | none =>
            rw [List.filterMap_cons_none hf, List.map_cons]
            exact hrest.cons _
        | some b =>
            rw [List.filterMap_cons_some hf, List.map_cons, List.map_cons,
              hl e List.mem_cons_self b hf]
            exact hrest.cons_cons _
  exact (o.nodup_keys m).sublist (hsublist _ hname)

theorem visit_startingWith {m : GoMap V} {k : String} {v : V} (h : m[k]? = some v) :
    ∃ w rest, (startingWith k).visit m = (k, w) :: rest := by
  have hmem : (k, v) ∈ m.toList.filter (fun e => e.1 == k) :=
    List.mem_filter.mpr ⟨(mem_toList m k v).mpr h, beq_self_eq_true k⟩
  cases hf : m.toList.filter (fun e => e.1 == k) with
  | nil => rw [hf] at hmem; cases hmem
  | cons e rest =>
      have he : e ∈ m.toList.filter (fun e => e.1 == k) := hf ▸ List.mem_cons_self
      have hk : e.1 = k := eq_of_beq (List.mem_filter.mp he).2
      refine ⟨e.2, rest ++ m.toList.filter (fun e => !(e.1 == k)), ?_⟩
      simp only [startingWith, hf, List.cons_append]
      rw [← hk]

end RangeOrder

/-- Assigning the entries of `b` to a map overrides it with `b`, in whatever order they come. -/
theorem getElem?_setAll_visit (o : RangeOrder V) (a b : GoMap V) (k : String) :
    (setAll a (o.visit b))[k]? = (b[k]?).or a[k]? := by
  cases h : b[k]? with
  | none => rw [getElem?_setAll_of_not_mem a _ (o.not_mem_keys b h), Option.none_or]
  | some v =>
      rw [getElem?_setAll_of_mem a _ (o.nodup_keys b) ((o.mem_visit b k v).mpr h), Option.some_or]

theorem setAll_congr (o o' : RangeOrder V) (a b : GoMap V) :
    setAll a (o.visit b) = setAll a (o'.visit b) := by
  apply Std.ExtTreeMap.ext_getElem?
  intro k
  rw [getElem?_setAll_visit, getElem?_setAll_visit]

theorem setAll_empty_visit (o : RangeOrder V) (b : GoMap V) :
    setAll ∅ (o.visit b) = b := by
  apply Std.ExtTreeMap.ext_getElem?
  intro k
  rw [getElem?_setAll_visit]
  simp

theorem sortedLE_sortStrings (l : List String) : (sortStrings l).SortedLE :=
  List.sortedLE_insertionSort

theorem sortStrings_perm (l : List String) : (sortStrings l).Perm l := List.perm_insertionSort _ l

theorem sortStrings_congr {l l' : List String} (h : l.Perm l') : sortStrings l = sortStrings l' :=
  List.Perm.eq_of_sortedLE (sortedLE_sortStrings l) (sortedLE_sortStrings l')
    ((sortStrings_perm l).trans (h.trans (sortStrings_perm l').symm))

/-- The sorted keys do not depend on the order in which they were collected. -/
theorem sortedKeys_eq (o o' : RangeOrder V) (m : GoMap V) : sortedKeys o m = sortedKeys o' m :=
  sortStrings_congr (((o.perm m).trans (o'.perm m).symm).map Prod.fst)

theorem mem_sortedKeys (o : RangeOrder V) (m : GoMap V) (k : String) :
    k ∈ sortedKeys o m ↔ ∃ v, m[k]? = some v := by
  rw [sortedKeys, (sortStrings_perm _).mem_iff, List.mem_map]
  constructor
  · rintro ⟨⟨k', v⟩, he, rfl⟩
    exact ⟨v, (o.mem_visit m k' v).mp he⟩
  · rintro ⟨v, hv⟩
    exact ⟨(k, v), (o.mem_visit m k v).mpr hv, rfl⟩

theorem setAll_empty_sortedKeys (o : RangeOrder V) (m : GoMap V) (d : V) :
    setAll ∅ ((sortedKeys o m).map (fun k => (k, m.getD k d))) = m := by
  have hfst : ((sortedKeys o m).map (fun k => (k, m.getD k d))).map Prod.fst = sortedKeys o m := by
    simp [Function.comp_def]
  have hnodup : (sortedKeys o m).Nodup := (sortStrings_perm _).nodup_iff.mpr (o.nodup_keys m)
  apply Std.ExtTreeMap.ext_getElem?
  intro k
  cases h : m[k]? with
  | none =>
      rw [getElem?_setAll_of_not_mem]
      · simp
      · rw [hfst, mem_sortedKeys]
        rintro ⟨v, hv⟩
        rw [h] at hv
        cases hv
  | some v =>
      have hv : m.getD k d = v := by rw [Std.ExtTreeMap.getD_eq_getD_getElem?, h, Option.getD_some]
      apply getElem?_setAll_of_mem
      · rw [hfst]
        exact hnodup
      · exact List.mem_map.mpr ⟨k, (mem_sortedKeys o m k).mpr ⟨v, h⟩, by rw [hv]⟩

end GoMap
