import Heir.Lib.StringMapFlag
import Heir.Lib.UnitLine

set_option autoImplicit false

/-! # Extra arguments of the kubelet across `Join`

`Join` writes the map of extra arguments into the `ExecStart` line of the worker's unit: its entries
as `key=value`, joined by commas, behind the flag of the `worker` command. systemd splits the line
into words, and the flag reads the map from its word.

Neither the flag's quotes nor those of systemd are written. A comma in a value, as in the value of
`feature-gates`, ends the entry (`feature_gates_torn`), a blank ends the word. `extra_args_kept_iff`
says which maps arrive, for every map and every order of its entries.

The argument for what does not arrive is by counting: systemd, the reader of the record and the
splitting into pairs never make more characters than they read, and the map needs all of them.
-/

namespace Heir.Worker.ExtraArgs

open Counting StringMapFlag UnitLine

/-! ## Functions -/

/-- One entry of the map as a text. -/
def entry (e : String × String) : List Char := e.1.toList ++ '=' :: e.2.toList

def serializeExtraArgs (o : GoMap.RangeOrder String) (args : GoMap String) : List Char :=
  if args.size = 0 then [] else [','].intercalate ((o.visit args).map entry)

/-- The default of `HeirRuntimeBin`. -/
def heirRuntimeBin : List Char := "/var/lib/heir/bin/heir".toList

def flagName : List Char := "kubelet-extra-args".toList

/-- The value of `ExecStart` in `installSystemdUnit`. -/
def execStart (o : GoMap.RangeOrder String) (args : GoMap String) : List Char :=
  let extra := serializeExtraArgs o args
  heirRuntimeBin ++ " worker".toList ++
    if extra ≠ [] then " --kubelet-extra-args=".toList ++ extra else []

/-- The extra arguments that `worker.Run` gets from a command line of `WorkerRunCommand`. -/
def workerRun : List (List Char) → Option (GoMap String)
  | _ :: command :: args => if command = "worker".toList then parse flagName args else none
  | _ => none

/-- The extra arguments after a restart through the unit. -/
def restarted (o : GoMap.RangeOrder String) (args : GoMap String) : Option (GoMap String) :=
  (arguments (execStart o args)).bind workerRun

/-! ## The line -/

theorem separates_equals : Separates '=' := by
  constructor <;> decide

theorem separates_comma : Separates ',' := by
  constructor <;> decide

/-- The flag with its equals sign. -/
def flagPrefix : List Char := '-' :: '-' :: (flagName ++ ['='])

/-- The line up to the text of the map. -/
def linePrefix : List Char :=
  heirRuntimeBin ++ ' ' :: ("worker".toList ++ ' ' :: '-' :: '-' :: flagName) ++ ['=']

theorem execStart_eq {o : GoMap.RangeOrder String} {args : GoMap String}
    (h : serializeExtraArgs o args ≠ []) :
    execStart o args = linePrefix ++ serializeExtraArgs o args := by
  have hstart : heirRuntimeBin ++ " worker".toList ++ " --kubelet-extra-args=".toList = linePrefix := by
    decide
  rw [execStart, if_pos h, ← List.append_assoc, hstart]

theorem words_linePrefix (line : List Char) :
    words 0 none none (linePrefix ++ line) =
      (words 0 none (some flagPrefix) line).map ([heirRuntimeBin, "worker".toList] ++ ·) := by
  have hline : linePrefix ++ line =
      heirRuntimeBin ++ ' ' :: ("worker".toList ++ ' ' :: (flagPrefix ++ line)) := by
    simp [linePrefix, flagPrefix]
  rw [hline, words_word (by decide) (by decide), words_word (by decide) (by decide),
    words_append (by decide) (by decide), Option.map_map]
  rfl

theorem restarted_eq {o : GoMap.RangeOrder String} {args : GoMap String}
    (h : serializeExtraArgs o args ≠ []) :
    restarted o args = (readLine (serializeExtraArgs o args)).bind fun line =>
      (words 0 none (some flagPrefix) line).bind (parse flagName) := by
  have hread : readLine (linePrefix ++ serializeExtraArgs o args) =
      (readLine (serializeExtraArgs o args)).map (linePrefix ++ ·) := by
    have hclean : (heirRuntimeBin ++ ' ' :: ("worker".toList ++ ' ' :: '-' :: '-' :: flagName)).any
        isEol = false := by decide
    have hline := readLine_append separates_equals
      (fun c hc => Bool.eq_false_iff.mpr (List.any_eq_false.mp hclean c hc))
      (serializeExtraArgs o args)
    simpa only [linePrefix, List.append_assoc, List.singleton_append] using hline
  rw [restarted, arguments, execStart_eq h, hread]
  cases readLine (serializeExtraArgs o args) with
  | none => rfl
  | some line =>
      rw [Option.map_some, Option.bind_some, Option.bind_some, words_linePrefix]
      cases words 0 none (some flagPrefix) line with
      | none => rfl
      | some ws => rfl

theorem restarted_empty (o : GoMap.RangeOrder String) : restarted o ∅ = some ∅ := by
  have hexec : execStart o ∅ = heirRuntimeBin ++ " worker".toList := rfl
  have hargs : arguments (heirRuntimeBin ++ " worker".toList) = some [heirRuntimeBin, "worker".toList] := by
    decide
  rw [restarted, hexec, hargs]
  rfl

/-! ## The text -/

section Text

variable {o : GoMap.RangeOrder String} {args : GoMap String}

theorem visit_ne_nil (h : args ≠ ∅) : o.visit args ≠ [] := by
  intro hnil
  have hcopy := GoMap.setAll_empty_visit o args
  rw [hnil, GoMap.setAll_nil] at hcopy
  exact h hcopy.symm

theorem serializeExtraArgs_eq (h : args ≠ ∅) :
    serializeExtraArgs o args = [','].intercalate ((o.visit args).map entry) := by
  refine if_neg fun hsize => h ?_
  rw [← Std.ExtTreeMap.isEmpty_iff, Std.ExtTreeMap.isEmpty_eq_size_beq_zero, hsize]
  rfl

/-- The text has one character for each character of the map, and one more for each entry but the
last. -/
theorem length_serializeExtraArgs (h : args ≠ ∅) :
    (serializeExtraArgs o args).length + 1 = weight (o.visit args) := by
  have hne : (o.visit args).map entry ≠ [] := by simpa using visit_ne_nil h
  rw [serializeExtraArgs_eq h, length_intercalate ',' hne, total, weight, List.map_map]
  congr 1
  refine List.map_congr_left fun e _ => ?_
  simp only [Function.comp_apply, entry, List.length_append, List.length_cons]
  omega

theorem serializeExtraArgs_ne_nil (h : args ≠ ∅) : serializeExtraArgs o args ≠ [] := by
  intro hnil
  have hlength := length_serializeExtraArgs (o := o) h
  obtain ⟨e, es, hvisit⟩ := List.exists_cons_of_ne_nil (visit_ne_nil (o := o) h)
  rw [hnil, hvisit, weight_cons, List.length_nil] at hlength
  omega

theorem length_visit_le_count (h : args ≠ ∅) :
    (o.visit args).length ≤ (serializeExtraArgs o args).count '=' := by
  have hne : (o.visit args).map entry ≠ [] := by simpa using visit_ne_nil h
  have hcount := count_intercalate ',' '=' hne
  have hzero : [','].count '=' = 0 := by decide
  rw [hzero, Nat.mul_zero, ← serializeExtraArgs_eq h] at hcount
  have hsum : (o.visit args).length ≤ (((o.visit args).map entry).map (List.count '=')).sum := by
    generalize o.visit args = es
    induction es with
    | nil => exact Nat.le_refl _
    | cons e es ih =>
        have he : 1 ≤ (entry e).count '=' := by
          rw [entry, List.count_append, List.count_cons_self]
          omega
        rw [List.map_cons, List.map_cons, List.sum_cons, List.length_cons]
        omega
  omega

theorem serializeExtraArgs_singleton {e : String × String} (h : o.visit args = [e]) :
    serializeExtraArgs o args = entry e := by
  have hne : args ≠ ∅ := by
    rintro rfl
    have hget := (o.mem_visit ∅ e.1 e.2).mp (h ▸ List.mem_singleton_self e)
    rw [Std.ExtTreeMap.getElem?_empty] at hget
    cases hget
  rw [serializeExtraArgs_eq hne, h]
  simp

/-- There is one equals sign if there is one entry, and none in its key and value. -/
theorem count_eq_one_iff (hne : args ≠ ∅) (hkeys : ∀ e ∈ o.visit args, '=' ∉ e.1.toList) :
    (serializeExtraArgs o args).count '=' = 1 ↔ ∃ e, o.visit args = [e] ∧ '=' ∉ e.2.toList := by
  have hentry : ∀ e ∈ o.visit args, (entry e).count '=' = 1 + e.2.toList.count '=' := by
    intro e he
    rw [entry, List.count_append, List.count_eq_zero.mpr (hkeys e he), List.count_cons_self]
    omega
  constructor
  · intro hone
    have hcount := length_visit_le_count (o := o) hne
    have hvisit := List.length_pos_of_ne_nil (visit_ne_nil (o := o) hne)
    obtain ⟨e, he⟩ := List.length_eq_one_iff.mp (show (o.visit args).length = 1 by omega)
    rw [serializeExtraArgs_singleton he, hentry e (he ▸ List.mem_singleton_self e)] at hone
    exact ⟨e, he, List.count_eq_zero.mp (by omega)⟩
  · rintro ⟨e, he, hvalue⟩
    rw [serializeExtraArgs_singleton he, hentry e (he ▸ List.mem_singleton_self e),
      List.count_eq_zero.mpr hvalue]

theorem literal_serializeExtraArgs_iff (hne : args ≠ ∅) :
    literal (serializeExtraArgs o args) = true ↔
      ∀ e ∈ o.visit args, literal e.1.toList = true ∧ literal e.2.toList = true := by
  have hentry : ∀ e, literal (entry e) = true ↔
      literal e.1.toList = true ∧ literal e.2.toList = true := by
    intro e
    rw [entry, literal_append separates_equals, Bool.and_eq_true]
  rw [serializeExtraArgs_eq hne]
  have hvisit := visit_ne_nil (o := o) hne
  generalize o.visit args = es at hvisit
  induction es with
  | nil => exact absurd rfl hvisit
  | cons e es ih =>
      cases es with
      | nil => simpa using hentry e
      | cons e' es =>
          rw [List.map_cons, List.map_cons, List.intercalate_cons_cons, List.append_assoc,
            List.singleton_append, literal_append separates_comma, Bool.and_eq_true,
            List.forall_mem_cons]
          exact and_congr (hentry e) (ih (List.cons_ne_nil _ _))

/-- The text is one line if there is no line end in it and nothing is cut off from the last value. -/
theorem readLine_serializeExtraArgs_iff (hne : args ≠ ∅) :
    readLine (serializeExtraArgs o args) = some (serializeExtraArgs o args) ↔
      (∀ e ∈ o.visit args, (∀ c ∈ e.1.toList, isEol c = false) ∧ ∀ c ∈ e.2.toList, isEol c = false) ∧
        ∀ e, (o.visit args).getLast? = some e → readLine e.2.toList = some e.2.toList := by
  have hentry : ∀ e, (∀ c ∈ entry e, isEol c = false) ↔
      (∀ c ∈ e.1.toList, isEol c = false) ∧ ∀ c ∈ e.2.toList, isEol c = false := by
    intro e
    rw [entry, List.forall_mem_append, List.forall_mem_cons]
    exact ⟨fun h => ⟨h.1, h.2.2⟩, fun h => ⟨h.1, separates_equals.eol, h.2⟩⟩
  rw [serializeExtraArgs_eq hne]
  have hvisit := visit_ne_nil (o := o) hne
  generalize o.visit args = es at hvisit
  induction es with
  | nil => exact absurd rfl hvisit
  | cons e es ih =>
      cases es with
      | nil =>
          have htext : [','].intercalate (List.map entry [e]) = entry e := by simp
          rw [htext, entry, readLine_append_iff separates_equals]
          constructor
          · rintro ⟨hkey, hvalue⟩
            refine ⟨fun e' he' => ?_, fun e' he' => ?_⟩
            · cases List.mem_singleton.mp he'
              exact ⟨hkey, not_isEol_of_readLine hvalue⟩
            · cases he'
              exact hvalue
          · intro h
            exact ⟨(h.1 e List.mem_cons_self).1, h.2 e rfl⟩
      | cons e' es =>
          rw [List.map_cons, List.map_cons, List.intercalate_cons_cons, List.append_assoc,
            List.singleton_append, readLine_append_iff separates_comma, List.getLast?_cons_cons,
            List.forall_mem_cons, and_assoc]
          exact and_congr (hentry e) (ih (List.cons_ne_nil _ _))

theorem not_mem_entry (e : String × String) :
    ',' ∉ entry e ↔ ',' ∉ e.1.toList ∧ ',' ∉ e.2.toList := by
  simp [entry]

/-- There is one comma between any two entries, and no other if the text has one less than the map
entries. -/
theorem not_mem_comma_of_count (h : args ≠ ∅)
    (hcount : (serializeExtraArgs o args).count ',' + 1 ≤ (o.visit args).length) :
    ∀ e ∈ o.visit args, ',' ∉ e.1.toList ∧ ',' ∉ e.2.toList := by
  have hne : (o.visit args).map entry ≠ [] := by simpa using visit_ne_nil h
  have htotal := count_intercalate ',' ',' hne
  have hone : [','].count ',' = 1 := by decide
  rw [hone, Nat.mul_one, ← serializeExtraArgs_eq h, List.length_map] at htotal
  have hsum : (((o.visit args).map entry).map (List.count ',')).sum = 0 := by omega
  intro e he
  rw [List.sum_eq_zero_iff] at hsum
  exact (not_mem_entry e).mp
    (List.count_eq_zero.mp (hsum _ (List.mem_map_of_mem (List.mem_map_of_mem he))))

end Text

/-- A list with every entry of the map is heavier by what else it has. -/
theorem exists_rest_of_subset {o : GoMap.RangeOrder String} {args : GoMap String} {ps : List Pair}
    (hsub : o.visit args ⊆ ps) :
    ∃ rest, weight ps = weight (o.visit args) + weight rest ∧
      ps.length = (o.visit args).length + rest.length := by
  have hnodup : (o.visit args).Nodup := (o.nodup_keys args).of_map _
  obtain ⟨l, hperm, hl⟩ := List.subperm_of_subset hnodup hsub
  obtain ⟨rest, hrest⟩ := hl.exists_perm_append
  have hall : ps.Perm (o.visit args ++ rest) := hrest.trans (hperm.append_right rest)
  refine ⟨rest, ?_, ?_⟩
  · rw [← weight_append, weight, weight, (hall.map _).sum_eq]
  · rw [hall.length_eq, List.length_append]

/-! ## Which maps arrive -/

/-- systemd reads every key and value as it is, without a line end in it and without cutting off the
last value, no key has an equals sign, and no key or value has a comma unless there is only one entry,
without an equals sign in its value. -/
structure Survives (o : GoMap.RangeOrder String) (args : GoMap String) : Prop where
  literal : ∀ e ∈ o.visit args, literal e.1.toList = true ∧ literal e.2.toList = true
  line : ∀ e ∈ o.visit args, (∀ c ∈ e.1.toList, isEol c = false) ∧ ∀ c ∈ e.2.toList, isEol c = false
  last : ∀ e, (o.visit args).getLast? = some e → readLine e.2.toList = some e.2.toList
  keys : ∀ e ∈ o.visit args, '=' ∉ e.1.toList
  commas : (∃ e, o.visit args = [e] ∧ '=' ∉ e.2.toList) ∨
    ∀ e ∈ o.visit args, ',' ∉ e.1.toList ∧ ',' ∉ e.2.toList

section Arrival

variable {o : GoMap.RangeOrder String} {args : GoMap String}

theorem not_mem_quote (hliteral : literal (serializeExtraArgs o args) = true) :
    '"' ∉ serializeExtraArgs o args := by
  intro hmem
  have hquote := not_isQuote_of_literal hliteral '"' hmem
  cases hquote

theorem not_mem_eol (hline : readLine (serializeExtraArgs o args) = some (serializeExtraArgs o args)) :
    '\n' ∉ serializeExtraArgs o args ∧ '\r' ∉ serializeExtraArgs o args := by
  refine ⟨fun hmem => ?_, fun hmem => ?_⟩
  · have heol := not_isEol_of_readLine hline '\n' hmem
    cases heol
  · have heol := not_isEol_of_readLine hline '\r' hmem
    cases heol

/-- A text without quotes and line ends is split at its commas, if it has more than one equals
sign. -/
theorem pairs_eq_splitOn {text : List Char} (hzero : text.count '=' ≠ 0) (hone : text.count '=' ≠ 1)
    (hquote : '"' ∉ text) (hline : '\n' ∉ text ∧ '\r' ∉ text) :
    pairs text = (text.splitOn ',').mapM splitPair := by
  have hne : text ≠ [] := by
    rintro rfl
    exact hzero rfl
  unfold pairs
  split
  · next h => exact absurd h hzero
  · next h => exact absurd h hone
  · rw [Csv.read_eq_splitOn hne hquote hline.1 hline.2, Option.bind_some]

theorem pairs_serializeExtraArgs (hne : args ≠ ∅) (h : Survives o args) :
    pairs (serializeExtraArgs o args) = some (o.visit args) := by
  have hcount := length_visit_le_count (o := o) hne
  have hvisit := List.length_pos_of_ne_nil (visit_ne_nil (o := o) hne)
  have hquote := not_mem_quote ((literal_serializeExtraArgs_iff hne).mpr h.literal)
  have hline := (readLine_serializeExtraArgs_iff hne).mpr ⟨h.line, h.last⟩
  have hmap := mapM_splitPair h.keys
  by_cases hone : (serializeExtraArgs o args).count '=' = 1
  · obtain ⟨e, he, -⟩ := (count_eq_one_iff hne h.keys).mp hone
    rw [serializeExtraArgs_singleton he] at hone hquote ⊢
    unfold pairs
    split
    · next h => omega
    · rw [trim_eq_self hquote, he]
      rw [he] at hmap
      exact hmap
    · next h => exact absurd hone h
  · have hcommas := h.commas.resolve_left fun hsingle =>
      hone ((count_eq_one_iff hne h.keys).mpr hsingle)
    have hsplit : (serializeExtraArgs o args).splitOn ',' = (o.visit args).map entry := by
      rw [serializeExtraArgs_eq hne]
      refine List.splitOn_intercalate ',' ?_ (by simpa using visit_ne_nil hne)
      intro l hl
      obtain ⟨e, he, rfl⟩ := List.mem_map.mp hl
      exact (not_mem_entry e).mpr (hcommas e he)
    rw [pairs_eq_splitOn (by omega) hone hquote (not_mem_eol hline), hsplit]
    exact hmap

theorem flagPrefix_append (text : List Char) :
    flagPrefix ++ text = '-' :: '-' :: (flagName ++ '=' :: text) := by
  simp [flagPrefix]

theorem parse_single (text : List Char) :
    parse flagName [flagPrefix ++ text] = (pairs text).map (GoMap.setAll ∅) := by
  have hvalues : values flagName [flagPrefix ++ text] = some [text] := by
    rw [flagPrefix_append, values_cons (by decide)]
    rfl
  rw [parse, hvalues, Option.bind_some, List.foldlM_cons, State.set]
  cases pairs text with
  | none => rfl
  | some ps => rfl

theorem restarted_of_survives (hne : args ≠ ∅) (h : Survives o args) :
    restarted o args = some args := by
  rw [restarted_eq (serializeExtraArgs_ne_nil hne),
    (readLine_serializeExtraArgs_iff hne).mpr ⟨h.line, h.last⟩, Option.bind_some,
    words_literal flagPrefix ((literal_serializeExtraArgs_iff hne).mpr h.literal), Option.bind_some,
    parse_single, pairs_serializeExtraArgs hne h, Option.map_some, GoMap.setAll_empty_visit]

/-- The entries of a map that arrives are among the pairs of the texts that the flag was given, which
have no more characters than the words of the line. -/
theorem exists_pairs_of_parse {ws : List (List Char)} (h : parse flagName ws = some args) :
    ∃ vs ps, values flagName ws = some vs ∧ weight ps ≤ total vs ∧ (∀ p ∈ ps, '=' ∉ p.1.toList) ∧
      o.visit args ⊆ ps := by
  obtain ⟨vs, hvs, hfold⟩ := Option.bind_eq_some_iff.mp h
  obtain ⟨s, hs, rfl⟩ := Option.map_eq_some_iff.mp hfold
  obtain ⟨ps, hweight, hkeys, hmem⟩ := exists_pairs_of_foldlM hs
  refine ⟨vs, ps, hvs, hweight, hkeys, fun e he => ?_⟩
  rcases hmem e.1 e.2 ((o.mem_visit _ e.1 e.2).mp he) with hin | hempty
  · exact hin
  · rw [Std.ExtTreeMap.getElem?_empty] at hempty
    cases hempty

/-- What arrives uses up all characters of the text: the text is one word that is read as it is. -/
theorem literal_of_restarted (hne : args ≠ ∅) (h : restarted o args = some args) :
    readLine (serializeExtraArgs o args) = some (serializeExtraArgs o args) ∧
      literal (serializeExtraArgs o args) = true ∧
      parse flagName [flagPrefix ++ serializeExtraArgs o args] = some args := by
  rw [restarted_eq (serializeExtraArgs_ne_nil hne)] at h
  obtain ⟨line, hline, hrest⟩ := Option.bind_eq_some_iff.mp h
  obtain ⟨ws, hwords, hparse⟩ := Option.bind_eq_some_iff.mp hrest
  obtain ⟨w, rest, rfl⟩ := words_first hwords
  obtain ⟨vs, ps, hvs, hweight, -, hsub⟩ := exists_pairs_of_parse (o := o) hparse
  rw [flagPrefix_append, values_cons (by decide)] at hvs
  obtain ⟨vs', hvs', rfl⟩ := Option.map_eq_some_iff.mp hvs
  obtain ⟨others, hothers, -⟩ := exists_rest_of_subset hsub
  have hlength := length_serializeExtraArgs (o := o) hne
  have hcut := (isPrefix_of_readLine hline).length_le
  have hbound := total_words_le hwords (Nat.zero_le _)
  simp only [total_cons, Option.getD_some, List.length_append] at hbound hweight
  -- another word is lost, or its flag is
  have hnil : rest = [] := by
    by_contra hrest
    have hlost := total_values_lt hvs' hrest
    omega
  subst hnil
  cases hvs'
  rw [total_nil] at hbound hweight
  have heq : line = serializeExtraArgs o args :=
    (isPrefix_of_readLine hline).eq_of_length (by omega)
  rw [heq] at hline hwords hbound
  have hliteral : literal (serializeExtraArgs o args) = true := by
    by_contra hnot
    rw [Bool.not_eq_true] at hnot
    have hlost := length_lt_of_not_literal hnot hwords
    rw [List.length_append] at hlost
    omega
  rw [words_literal flagPrefix hliteral, Option.some.injEq] at hwords
  rw [← hwords] at hparse
  exact ⟨hline, hliteral, hparse⟩

/-- With more than one equals sign, the pairs are split at the commas, and none is left over. -/
theorem count_comma_of_parse (hne : args ≠ ∅) (hone : (serializeExtraArgs o args).count '=' ≠ 1)
    (hline : readLine (serializeExtraArgs o args) = some (serializeExtraArgs o args))
    (hliteral : literal (serializeExtraArgs o args) = true)
    (hparse : parse flagName [flagPrefix ++ serializeExtraArgs o args] = some args) :
    (serializeExtraArgs o args).count ',' + 1 ≤ (o.visit args).length := by
  rw [parse_single] at hparse
  obtain ⟨ps, hps, hargs⟩ := Option.map_eq_some_iff.mp hparse
  have hsub : o.visit args ⊆ ps := by
    intro e he
    have hget := (o.mem_visit args e.1 e.2).mp he
    rw [← hargs] at hget
    exact GoMap.mem_of_getElem?_setAll_empty hget
  have hvisit := List.length_pos_of_ne_nil (visit_ne_nil (o := o) hne)
  have hequals := length_visit_le_count (o := o) hne
  rw [pairs_eq_splitOn (by omega) hone (not_mem_quote hliteral) (not_mem_eol hline)] at hps
  obtain ⟨hweight, hcount, -⟩ := weight_mapM hps
  have htotal := length_intercalate ',' (List.splitOn_ne_nil ',' (serializeExtraArgs o args))
  rw [List.intercalate_splitOn] at htotal
  rw [length_splitOn] at hcount
  have hlength := length_serializeExtraArgs (o := o) hne
  obtain ⟨rest, hrest, hcounts⟩ := exists_rest_of_subset hsub
  cases rest with
  | nil =>
      rw [List.length_nil] at hcounts
      omega
  | cons p rest =>
      rw [weight_cons] at hrest
      omega

theorem survives_of_restarted (hne : args ≠ ∅) (h : restarted o args = some args) :
    Survives o args := by
  obtain ⟨hline, hliteral, hparse⟩ := literal_of_restarted hne h
  have hkeys : ∀ e ∈ o.visit args, '=' ∉ e.1.toList := by
    obtain ⟨vs, ps, -, -, hkeys, hsub⟩ := exists_pairs_of_parse (o := o) hparse
    exact fun e he => hkeys e (hsub he)
  have hread := (readLine_serializeExtraArgs_iff hne).mp hline
  refine ⟨(literal_serializeExtraArgs_iff hne).mp hliteral, hread.1, hread.2, hkeys, ?_⟩
  by_cases hone : (serializeExtraArgs o args).count '=' = 1
  · exact .inl ((count_eq_one_iff hne hkeys).mp hone)
  · exact .inr (not_mem_comma_of_count hne (count_comma_of_parse hne hone hline hliteral hparse))

end Arrival

/-- **Extra arguments.** For every order of its entries a map arrives as it is, if and only if it is
empty or its keys and values survive. -/
theorem extra_args_kept_iff (o : GoMap.RangeOrder String) (args : GoMap String) :
    restarted o args = some args ↔ args = ∅ ∨ Survives o args := by
  by_cases hne : args = ∅
  · subst hne
    exact ⟨fun _ => .inl rfl, fun _ => restarted_empty o⟩
  · constructor
    · exact fun h => .inr (survives_of_restarted hne h)
    · exact fun h => restarted_of_survives hne (h.resolve_left hne)

/-- The map that `--kubelet-extra-args='"feature-gates=A=true,B=false"'` gives. -/
def featureGates : GoMap String := (∅ : GoMap String).insert "feature-gates" "A=true,B=false"

/-- The flag of the provision command can make the map, and the flag of the worker reads something
else from its text. -/
theorem feature_gates_torn :
    (parse flagName [flagPrefix ++ "\"feature-gates=A=true,B=false\"".toList]).map
        Std.ExtTreeMap.toList = some featureGates.toList ∧
      (restarted .byKey featureGates).map Std.ExtTreeMap.toList =
        some [("B", "false"), ("feature-gates", "A=true")] ∧
      restarted .byKey featureGates ≠ some featureGates := by
  have hread : (restarted .byKey featureGates).map Std.ExtTreeMap.toList =
      some [("B", "false"), ("feature-gates", "A=true")] := by decide +kernel
  refine ⟨by decide +kernel, hread, fun heq => ?_⟩
  rw [heq, Option.map_some, Option.some.injEq] at hread
  have hsize := congrArg List.length hread
  have hone : featureGates.toList.length = 1 := by decide +kernel
  rw [hone] at hsize
  cases hsize

end Heir.Worker.ExtraArgs
