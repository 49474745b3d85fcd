import Heir.Lib.Csv
import Heir.Lib.GoMap
import Mathlib.Data.List.DropRight

set_option autoImplicit false

/-! # A command line flag with a map

A command with one flag of the type `StringToString` of Go's `pflag`, besides the flag for help. A
text with one equals sign is one pair, any other text a record of comma-separated pairs; a pair is
split at its first equals sign. Giving the flag again adds to the map.
-/

namespace StringMapFlag

open Counting

abbrev Word : Type := List Char

abbrev Pair : Type := String × String

/-- `strings.SplitN(pair, "=", 2)`, if that has two parts. -/
def splitPair (s : List Char) : Option Pair :=
  if '=' ∈ s then
    some (String.ofList (s.takeWhile (· != '=')), String.ofList (s.dropWhile (· != '=')).tail)
  else none

/-- The pairs in the text of a flag. -/
def pairs (text : Word) : Option (List Pair) :=
  match text.count '=' with
  | 0 => none
  | 1 => ([(text.dropWhile (· == '"')).rdropWhile (· == '"')] : List Word).mapM splitPair
  | _ => (Csv.read text).bind (·.mapM splitPair)

/-- What a word of a command line is. -/
inductive Kind where
  | argument
  /-- Two dashes. -/
  | terminator
  | long (name : Word) (value : Option Word)
  | short

def kind (w : Word) : Kind :=
  if w.take 2 = ['-', '-'] then
    let body := w.drop 2
    if body = [] then .terminator
    else
      .long (body.takeWhile (· != '='))
        (if '=' ∈ body then some (body.dropWhile (· != '=')).tail else none)
  else if w.head? = some '-' ∧ 2 ≤ w.length then .short
  else .argument

/-- The texts that a command line gives to the flag `name`. Everything after two dashes is an
argument. Another flag is an error, or asks for help. -/
def values (name : Word) : List Word → Option (List Word)
  | [] => some []
  | w :: rest =>
      match kind w with
      | .argument => values name rest
      | .terminator => some []
      | .short => none
      | .long flag (some v) => if flag = name then (values name rest).map (v :: ·) else none
      | .long flag none =>
          match rest with
          | [] => none
          | v :: rest => if flag = name then (values name rest).map (v :: ·) else none

/-- The value of the flag, and whether it was given. -/
structure State where
  value : GoMap String := ∅
  changed : Bool := false

def State.set (s : State) (text : Word) : Option State :=
  (pairs text).map fun ps =>
    let out := GoMap.setAll ∅ ps
    { value := if s.changed then GoMap.setAll s.value out.toList else out, changed := true }

/-- The map that a command line gives to the flag `name`. -/
def parse (name : Word) (args : List Word) : Option (GoMap String) :=
  (values name args).bind fun vs => (vs.foldlM State.set {}).map State.value

/-! ## Pairs -/

theorem ne_equals_of_not_mem {key : List Char} (h : '=' ∉ key) : ∀ c ∈ key, (c != '=') = true := by
  intro c hc
  rw [bne_iff_ne]
  rintro rfl
  exact h hc

theorem takeWhile_key {key : List Char} (h : '=' ∉ key) (rest : List Char) :
    (key ++ '=' :: rest).takeWhile (· != '=') = key := by
  rw [List.takeWhile_append_of_pos (ne_equals_of_not_mem h), List.takeWhile_cons_of_neg (by simp),
    List.append_nil]

theorem dropWhile_key {key : List Char} (h : '=' ∉ key) (rest : List Char) :
    (key ++ '=' :: rest).dropWhile (· != '=') = '=' :: rest := by
  rw [List.dropWhile_append_of_pos (ne_equals_of_not_mem h), List.dropWhile_cons_of_neg (by simp)]

theorem splitPair_append (k v : String) (h : '=' ∉ k.toList) :
    splitPair (k.toList ++ '=' :: v.toList) = some (k, v) := by
  rw [splitPair, if_pos (by simp), takeWhile_key h, dropWhile_key h, List.tail_cons,
    String.ofList_toList, String.ofList_toList]

theorem splitPair_eq_some {s : List Char} {p : Pair} (h : splitPair s = some p) :
    s = p.1.toList ++ '=' :: p.2.toList ∧ '=' ∉ p.1.toList := by
  rw [splitPair, Option.ite_none_right_eq_some, Option.some.injEq] at h
  obtain ⟨hmem, rfl⟩ := h
  -- the text is cut at its first equals sign
  obtain ⟨k, v, rfl, hk⟩ := List.eq_append_cons_of_mem hmem
  simp only [String.toList_ofList]
  rw [takeWhile_key hk, dropWhile_key hk, List.tail_cons]
  exact ⟨rfl, hk⟩

/-- The characters of some pairs, with the equals sign and one more for the end of each. -/
def weight (ps : List Pair) : Nat :=
  (ps.map fun p => p.1.toList.length + p.2.toList.length + 2).sum

@[simp] theorem weight_cons (p : Pair) (ps : List Pair) :
    weight (p :: ps) = p.1.toList.length + p.2.toList.length + 2 + weight ps := by
  simp [weight]

theorem weight_append (ps ps' : List Pair) : weight (ps ++ ps') = weight ps + weight ps' := by
  simp [weight]

theorem mapM_cons_eq_some {s : Word} {ss : List Word} {ps : List Pair}
    (h : (s :: ss).mapM splitPair = some ps) :
    ∃ p ps', splitPair s = some p ∧ ss.mapM splitPair = some ps' ∧ ps = p :: ps' := by
  rw [List.mapM_cons] at h
  obtain ⟨p, hp, hrest⟩ := Option.bind_eq_some_iff.mp h
  obtain ⟨ps', hps', heq⟩ := Option.bind_eq_some_iff.mp hrest
  cases heq
  exact ⟨p, ps', hp, hps', rfl⟩

theorem weight_mapM {ss : List Word} {ps : List Pair} (h : ss.mapM splitPair = some ps) :
    weight ps = total ss ∧ ps.length = ss.length ∧ ∀ p ∈ ps, '=' ∉ p.1.toList := by
  induction ss generalizing ps with
  | nil =>
      cases h
      exact ⟨rfl, rfl, fun p hp => absurd hp List.not_mem_nil⟩
  | cons s ss ih =>
      obtain ⟨p, ps', hp, hps', rfl⟩ := mapM_cons_eq_some h
      obtain ⟨hweight, hlength, hkeys⟩ := ih hps'
      obtain ⟨hs, hkey⟩ := splitPair_eq_some hp
      refine ⟨?_, ?_, List.forall_mem_cons.mpr ⟨hkey, hkeys⟩⟩
      · rw [weight_cons, total_cons, hweight, hs, List.length_append, List.length_cons]
        omega
      · rw [List.length_cons, List.length_cons, hlength]

theorem mapM_splitPair {ps : List Pair} (h : ∀ p ∈ ps, '=' ∉ p.1.toList) :
    (ps.map fun p => p.1.toList ++ '=' :: p.2.toList).mapM splitPair = some ps := by
  induction ps with
  | nil => rfl
  | cons p ps ih =>
      rw [List.forall_mem_cons] at h
      rw [List.map_cons, List.mapM_cons, splitPair_append p.1 p.2 h.1, ih h.2]
      rfl

theorem trim_eq_self {text : Word} (h : '"' ∉ text) :
    (text.dropWhile (· == '"')).rdropWhile (· == '"') = text := by
  have hdrop : text.dropWhile (· == '"') = text := by
    cases text with
    | nil => rfl
    | cons c text =>
        refine List.dropWhile_cons_of_neg ?_
        rw [beq_iff_eq]
        rintro rfl
        exact h List.mem_cons_self
  rw [hdrop, List.rdropWhile_eq_self_iff]
  intro hne
  rw [beq_iff_eq]
  intro hlast
  exact h (hlast ▸ List.getLast_mem hne)

theorem weight_pairs_le {text : Word} {ps : List Pair} (h : pairs text = some ps) :
    weight ps ≤ text.length + 1 ∧ ∀ p ∈ ps, '=' ∉ p.1.toList := by
  unfold pairs at h
  split at h
  · cases h
  · obtain ⟨hweight, -, hkeys⟩ := weight_mapM h
    refine ⟨?_, hkeys⟩
    have hdrop : (text.dropWhile (· == '"')).length ≤ text.length :=
      (List.dropWhile_suffix _).length_le
    have htrim : ((text.dropWhile (· == '"')).rdropWhile (· == '"')).length ≤
        (text.dropWhile (· == '"')).length := ( List.rdropWhile_prefix _ _).length_le
    rw [hweight, total_cons, total_nil]
    omega
  · obtain ⟨fs, hfs, hmap⟩ := Option.bind_eq_some_iff.mp h
    obtain ⟨hweight, -, hkeys⟩ := weight_mapM hmap
    refine ⟨?_, hkeys⟩
    rw [hweight]
    exact Csv.total_read_le hfs

/-! ## Command lines -/

theorem length_lt_of_kind {w flag v : Word} (h : kind w = .long flag (some v)) :
    v.length < w.length := by
  unfold kind at h
  by_cases hlong : w.take 2 = ['-', '-']
  · rw [if_pos hlong] at h
    dsimp only at h
    by_cases hbody : w.drop 2 = []
    · rw [if_pos hbody] at h
      cases h
    · rw [if_neg hbody, Kind.long.injEq, Option.ite_none_right_eq_some, Option.some.injEq] at h
      have hlength : 0 < (w.drop 2).length := List.length_pos_of_ne_nil hbody
      have hdrop : ((w.drop 2).dropWhile (· != '=')).length ≤ (w.drop 2).length :=
        (List.dropWhile_suffix _).length_le
      rw [← h.2.2, List.length_tail]
      rw [List.length_drop] at hlength hdrop
      omega
  · rw [if_neg hlong] at h
    split at h <;> cases h

theorem kind_long {name : Word} (hname : '=' ∉ name) (v : Word) :
    kind ('-' :: '-' :: (name ++ '=' :: v)) = .long name (some v) := by
  have hdashes : ('-' :: '-' :: (name ++ '=' :: v)).take 2 = ['-', '-'] := rfl
  have hmem : '=' ∈ name ++ '=' :: v := by simp
  rw [kind, if_pos hdashes]
  simp only [List.drop_succ_cons, List.drop_zero]
  rw [if_neg (List.ne_nil_of_mem hmem), takeWhile_key hname, if_pos hmem, dropWhile_key hname,
    List.tail_cons]

theorem values_cons {name : Word} (hname : '=' ∉ name) (v : Word) (rest : List Word) :
    values name (('-' :: '-' :: (name ++ '=' :: v)) :: rest) = (values name rest).map (v :: ·) := by
  rw [values, kind_long hname v]
  exact if_pos rfl

/-- The texts that are given to the flag have fewer characters than the words of a command line that
has any. -/
theorem total_values_lt {name : Word} {args vs : List Word} (h : values name args = some vs)
    (hne : args ≠ []) : total vs < total args := by
  have hle : ∀ {rest vs : List Word}, (rest ≠ [] → total vs < total rest) →
      values name rest = some vs → total vs ≤ total rest := by
    intro rest vs hlt hrest
    cases rest with
    | nil =>
        cases hrest
        exact Nat.le_refl _
    | cons w rest => exact (hlt (List.cons_ne_nil _ _)).le
  fun_induction values name args generalizing vs with
  | case1 => exact absurd rfl hne
  | case2 w rest hkind ih =>
      have hrest := hle (ih h) h
      rw [total_cons]
      omega
  | case3 w rest hkind =>
      cases h
      rw [total_cons, total_nil]
      omega
  | case4 => cases h
  | case5 w rest v hkind ih =>
      obtain ⟨vs', hvs', rfl⟩ := Option.map_eq_some_iff.mp h
      have hrest := hle (ih hvs') hvs'
      have hv := length_lt_of_kind hkind
      rw [total_cons, total_cons]
      omega
  | case6 => cases h
  | case7 => cases h
  | case8 w hkind v rest ih =>
      obtain ⟨vs', hvs', rfl⟩ := Option.map_eq_some_iff.mp h
      have hrest := hle (ih hvs') hvs'
      rw [total_cons, total_cons, total_cons]
      omega
  | case9 => cases h

/-- What a map holds after some texts were given to the flag: pairs of these texts. -/
theorem exists_pairs_of_foldlM {vs : List Word} {s s' : State}
    (h : vs.foldlM State.set s = some s') :
    ∃ ps, weight ps ≤ total vs ∧ (∀ p ∈ ps, '=' ∉ p.1.toList) ∧
      ∀ k v, s'.value[k]? = some v → (k, v) ∈ ps ∨ s.value[k]? = some v := by
  induction vs generalizing s with
  | nil =>
      cases h
      exact ⟨[], Nat.le_refl _, fun p hp => absurd hp List.not_mem_nil, fun _ _ hk => .inr hk⟩
  | cons text vs ih =>
      rw [List.foldlM_cons] at h
      obtain ⟨s₁, hset, hrest⟩ := Option.bind_eq_some_iff.mp h
      obtain ⟨ps', hweight', hkeys', hmem'⟩ := ih hrest
      obtain ⟨ps, hps, rfl⟩ := Option.map_eq_some_iff.mp hset
      obtain ⟨hweight, hkeys⟩ := weight_pairs_le hps
      refine ⟨ps ++ ps', ?_, ?_, fun k v hk => ?_⟩
      · rw [weight_append, total_cons]
        omega
      · rw [List.forall_mem_append]
        exact ⟨hkeys, hkeys'⟩
      · rw [List.mem_append]
        -- an entry is there from before, or it was just set
        rcases hmem' k v hk with hin | hbefore
        · exact .inl (.inr hin)
        · dsimp only at hbefore
          split at hbefore
          · rcases GoMap.mem_of_getElem?_setAll hbefore with hin | hold
            · have hset := (GoMap.mem_toList _ k v).mp hin
              exact .inl (.inl (GoMap.mem_of_getElem?_setAll_empty hset))
            · exact .inr hold
          · exact .inl (.inl (GoMap.mem_of_getElem?_setAll_empty hbefore))

end StringMapFlag
