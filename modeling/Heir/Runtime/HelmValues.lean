import Heir.Runtime.HelmChart
import Heir.Strvals.Parser

set_option autoImplicit false

/-! # The values set by a HelmChart

`Command` hands each entry of `values.set` to helm as an argument `--set key=value`. helm reads such
an argument with the grammar of `strvals.ParseInto`, in which commas, backslashes and a brace at the
beginning of a value are syntax. Here the two are put together: the arguments of the command are
scanned the way helm scans its flags, and those of `--set` are parsed one after the other into one
map.

Main result: the map has exactly the entries of `values.set`, each with the scalar of its text, if
and only if no value has one of these characters.
-/

namespace Heir.Runtime

open Heir.Core Heir.ClusterAgent

/-! ## The arguments -/

/-- The flags of `helm upgrade` in the command that take a value, apart from `--set`. -/
def valueFlags : List String := ["--namespace", "--version", "--timeout", "--values"]

/-- The values of the flag `--set`. -/
def setArguments : List String → List String
  | [] => []
  | [_] => []
  | flag :: arg :: rest =>
      if flag = "--set" then arg :: setArguments rest
      else if flag ∈ valueFlags then setArguments rest
      else setArguments (arg :: rest)

/-- The values of `--set` in an argument vector: in `helm upgrade NAME CHART` the flags stand
last. -/
def setArgumentsOf (argv : List String) : List String :=
  if argv.take 2 = ["helm", "upgrade"] then setArguments (argv.drop 4) else []

/-- helm's parsing of the `--set` arguments, in order. -/
def parseSets (args : List String) (dest : List (String × Json)) :
    Except Strvals.ParseError (List (String × Json)) :=
  args.foldlM (fun data arg => Strvals.parseInto arg data) dest

variable {e : String × String} {flag : String} {l : List (String × String)}

theorem setArguments_switch (hset : flag ≠ "--set") (hvalue : flag ∉ valueFlags)
    (rest : List String) : setArguments (flag :: rest) = setArguments rest := by
  cases rest with
  | nil => rfl
  | cons arg rest => rw [setArguments, if_neg hset, if_neg hvalue]

theorem setArguments_value (hvalue : flag ∈ valueFlags) (arg : String) (rest : List String) :
    setArguments (flag :: arg :: rest) = setArguments rest := by
  have hset : flag ≠ "--set" := by
    rintro rfl
    exact absurd hvalue (by decide)
  rw [setArguments, if_neg hset, if_pos hvalue]

theorem setArguments_optional_switch (hset : flag ≠ "--set") (hvalue : flag ∉ valueFlags) (p : Prop)
    [Decidable p] (rest : List String) :
    setArguments ((if p then [flag] else []) ++ rest) = setArguments rest := by
  split
  · exact setArguments_switch hset hvalue rest
  · rfl

theorem setArguments_optional_value (hvalue : flag ∈ valueFlags) (p : Prop) [Decidable p]
    (arg : String) (rest : List String) :
    setArguments ((if p then [flag, arg] else []) ++ rest) = setArguments rest := by
  split
  · exact setArguments_value hvalue arg rest
  · rfl

/-- The argument that sets a value. -/
def setting (e : String × String) : String := e.1 ++ "=" ++ e.2

theorem setArguments_set {f : String × String → List String} (hf : ∀ e, f e = ["--set", setting e])
    (l : List (String × String)) (rest : List String) :
    setArguments (l.flatMap f ++ rest) = l.map setting ++ setArguments rest := by
  induction l with
  | nil => rfl
  | cons e l ih =>
      rw [List.flatMap_cons, hf, List.append_assoc, List.cons_append, List.cons_append,
        List.nil_append, setArguments, if_pos rfl, ih, List.map_cons, List.cons_append]

theorem setArguments_command (helmChart : HelmChart) :
    (command helmChart .install).flatMap setArgumentsOf =
      helmChart.spec.values.set.toList.map setting := by
  unfold command
  dsimp only
  rw [List.flatMap_cons, List.flatMap_singleton]
  -- `helm repo add` sets no values
  rw [show ∀ skip, setArgumentsOf (["helm", "repo", "add", helmChart.spec.chart.name,
    helmChart.spec.chart.repo] ++ skip) = [] from fun _ => rfl, List.nil_append]
  simp only [List.append_assoc, List.cons_append, List.nil_append]
  show setArguments ("--install" :: "--namespace" :: helmChart.spec.chart.targetNamespace :: _) = _
  rw [setArguments_switch (by decide) (by decide), setArguments_value (by decide),
    setArguments_optional_switch (by decide) (by decide), setArguments_optional_value (by decide),
    setArguments_optional_switch (by decide) (by decide), setArguments_optional_value (by decide),
    setArguments_optional_switch (by decide) (by decide), setArguments_set]
  · split
    · rw [setArguments_value (by decide)]
      exact List.append_nil _
    · exact List.append_nil _
  · exact fun e => rfl

/-! ## Plain names -/

/-- The characters of a plain name: letters, digits, `-` and `_`. Beyond ASCII, where the grammar
has no characters of its own, all characters count as letters. -/
def plainNameChar (c : Char) : Bool :=
  c.isAlphanum || c == '-' || c == '_' || decide (128 ≤ c.toNat)

/-- A non-empty name of such characters. -/
def PlainName (name : String) : Prop := name ≠ "" ∧ name.toList.all plainNameChar = true

instance (name : String) : Decidable (PlainName name) := inferInstanceAs (Decidable (_ ∧ _))

theorem PlainName.literal {name : String} (h : PlainName name) :
    Strvals.LiteralName name.toList := by
  intro c hc
  have hplain := List.all_eq_true.mp h.2 c hc
  constructor
  · intro hstop
    simp only [List.mem_cons, List.not_mem_nil, or_false] at hstop
    rcases hstop with rfl | rfl | rfl | rfl <;> exact absurd hplain (by decide)
  · rintro rfl
    exact absurd hplain (by decide)

/-! ## Parsing the settings -/

/-- The value that helm is to see. -/
def scalar (v : String) : Json := Strvals.typedVal v.toList false

/-- The parser reads the value as one scalar: it has no comma and no backslash, and no brace at its
beginning. -/
def OneScalar (v : String) : Prop := Strvals.LiteralValue v.toList

theorem toList_setting (e : String × String) :
    (setting e).toList = e.1.toList ++ '=' :: e.2.toList := by
  rw [setting, String.toList_append, String.toList_append, List.append_assoc]
  rfl

theorem scalar_str {rs : List Char} {w : String} (h : Strvals.typedVal rs false = .str w) :
    w.toList.length ≤ rs.length := by
  rw [Strvals.typedVal_str h, String.toList_ofList]

theorem parseInto_setting (hname : PlainName e.1) (hne : e.2 ≠ "") (hvalue : OneScalar e.2)
    (data : List (String × Json)) :
    Strvals.parseInto (setting e) data = .ok (Strvals.set data e.1 (scalar e.2)) := by
  have hne' : e.2.toList ≠ [] := fun h => hne (String.toList_eq_nil_iff.mp h)
  rw [Strvals.parseInto, toList_setting, Strvals.parse_assignment hname.literal hne' hvalue,
    String.ofList_toList]
  rfl

theorem oneScalar_of_parseInto (hname : PlainName e.1) (hne : e.2 ≠ "")
    {data data' : List (String × Json)} (h : Strvals.parseInto (setting e) data = .ok data')
    (hbound : Json.member e.1 data' = some (scalar e.2)) : OneScalar e.2 := by
  by_contra hvalue
  have hne' : e.2.toList ≠ [] := fun h => hne (String.toList_eq_nil_iff.mp h)
  rw [Strvals.parseInto, toList_setting] at h
  have hscalar : scalar e.2 = .str e.2 := by
    rw [scalar, Strvals.typedVal_not_literal hvalue, String.ofList_toList]
  rw [hscalar] at hbound
  have hlt := Strvals.parse_assignment_str scalar_str hname.literal
    (by rw [String.ofList_toList]; exact hname.1) hne' hvalue h
    (by rw [String.ofList_toList]; exact hbound)
  exact absurd hlt (Nat.lt_irrefl _)

/-- The parts of a list of settings that the grammar can take apart again. -/
structure Settings (l : List (String × String)) : Prop where
  plain : ∀ e ∈ l, PlainName e.1
  nonempty : ∀ e ∈ l, e.2 ≠ ""
  nodup : (l.map Prod.fst).Nodup

theorem Settings.of_append {l' : List (String × String)} (h : Settings (l ++ l')) :
    Settings l where
  plain e he := h.plain e (List.mem_append_left l' he)
  nonempty e he := h.nonempty e (List.mem_append_left l' he)
  nodup := by
    have hnodup := h.nodup
    rw [List.map_append] at hnodup
    exact hnodup.of_append_left

theorem parseSets_concat (args : List String) (arg : String) (dest : List (String × Json)) :
    parseSets (args ++ [arg]) dest = (parseSets args dest).bind fun data => Strvals.parseInto arg data := by
  rw [parseSets, List.foldlM_append]
  cases hargs : List.foldlM (fun data arg => Strvals.parseInto arg data) dest args with
  | error e =>
      rw [parseSets, hargs]
      rfl
  | ok data =>
      rw [parseSets, hargs]
      exact bind_pure (Strvals.parseInto arg data)

/-- The settings of a list are parsed up to its last one, which leaves the others alone. -/
theorem parseSets_concat_ok {data : List (String × Json)}
    (h : parseSets ((l ++ [e]).map setting) [] = .ok data) :
    ∃ before, parseSets (l.map setting) [] = .ok before ∧
      Strvals.parseInto (setting e) before = .ok data := by
  rw [List.map_append, List.map_singleton, parseSets_concat] at h
  cases hl : parseSets (l.map setting) [] with
  | error err =>
      rw [hl] at h
      cases h
  | ok before =>
      rw [hl] at h
      exact ⟨before, rfl, h⟩

theorem Settings.ne_last {e' : String × String} (h : Settings (l ++ [e])) (he' : e' ∈ l) :
    e'.1 ≠ e.1 := by
  have hnodup := h.nodup
  rw [List.map_append, List.map_singleton, List.nodup_append] at hnodup
  exact hnodup.2.2 e'.1 (List.mem_map_of_mem he') e.1 List.mem_cons_self

theorem oneScalar_of_parseSets (hl : Settings l) {data : List (String × Json)}
    (h : parseSets (l.map setting) [] = .ok data)
    (hbound : ∀ e ∈ l, Json.member e.1 data = some (scalar e.2)) : ∀ e ∈ l, OneScalar e.2 := by
  -- from the last setting to the first: later settings do not bind the name of an earlier one
  induction l using List.reverseRecOn generalizing data with
  | nil => exact fun e he => absurd he List.not_mem_nil
  | append_singleton l e ih =>
      obtain ⟨before, hbefore, hlast⟩ := parseSets_concat_ok h
      have he : e ∈ l ++ [e] := List.mem_append_right l List.mem_cons_self
      have hscalar : OneScalar e.2 :=
        oneScalar_of_parseInto (hl.plain e he) (hl.nonempty e he) hlast (hbound e he)
      rw [parseInto_setting (hl.plain e he) (hl.nonempty e he) hscalar] at hlast
      cases hlast
      have hothers : ∀ e' ∈ l, Json.member e'.1 before = some (scalar e'.2) := by
        intro e' he'
        have hb := hbound e' (List.mem_append_left _ he')
        rwa [Strvals.member_set _ (hl.plain e he).1, if_neg (hl.ne_last he')] at hb
      intro e' he'
      rcases List.mem_append.mp he' with he' | he'
      · exact ih hl.of_append hbefore hothers e' he'
      · rw [List.mem_singleton.mp he']
        exact hscalar

theorem parseSets_oneScalar (hl : Settings l) (hvalues : ∀ e ∈ l, OneScalar e.2) :
    ∃ data, parseSets (l.map setting) [] = .ok data ∧
      (∀ e ∈ l, Json.member e.1 data = some (scalar e.2)) ∧
      ∀ k, k ∉ l.map Prod.fst → Json.member k data = none := by
  induction l using List.reverseRecOn with
  | nil => exact ⟨[], rfl, fun e he => absurd he List.not_mem_nil, fun k _ => rfl⟩
  | append_singleton l e ih =>
      have he : e ∈ l ++ [e] := List.mem_append_right l List.mem_cons_self
      obtain ⟨before, hbefore, hbound, hnone⟩ :=
        ih hl.of_append fun e' he' => hvalues e' (List.mem_append_left _ he')
      have hname := (hl.plain e he).1
      refine ⟨Strvals.set before e.1 (scalar e.2), ?_, fun e' he' => ?_, fun k hk => ?_⟩
      · rw [List.map_append, List.map_singleton, parseSets_concat, hbefore]
        exact parseInto_setting (hl.plain e he) (hl.nonempty e he) (hvalues e he) before
      · rw [Strvals.member_set _ hname]
        rcases List.mem_append.mp he' with he' | he'
        · rw [if_neg (hl.ne_last he'), hbound e' he']
        · rw [List.mem_singleton.mp he', if_pos rfl]
      · rw [List.map_append, List.mem_append, not_or] at hk
        rw [Strvals.member_set _ hname, hnone k hk.1, if_neg]
        rintro rfl
        exact hk.2 List.mem_cons_self

/-! ## The values of a HelmChart -/

/-- helm's parsing of the command succeeds and binds each key of `values.set` to the scalar of its
value, and nothing else. -/
def SetBound (helmChart : HelmChart) : Prop :=
  ∃ data, parseSets ((command helmChart .install).flatMap setArgumentsOf) [] = .ok data ∧
    ∀ k, Json.member k data = helmChart.spec.values.set[k]?.map scalar

theorem settings_toList {set : GoMap String}
    (hkeys : ∀ k v : String, set[k]? = some v → PlainName k)
    (hvalues : ∀ k v : String, set[k]? = some v → v ≠ "") : Settings set.toList where
  plain e he := hkeys e.1 e.2 ((GoMap.mem_toList set e.1 e.2).mp he)
  nonempty e he := hvalues e.1 e.2 ((GoMap.mem_toList set e.1 e.2).mp he)
  nodup := GoMap.nodup_keys_toList set

theorem oneScalar_of_setBound {helmChart : HelmChart}
    (hset : Settings helmChart.spec.values.set.toList) (h : SetBound helmChart) (k v : String)
    (hk : helmChart.spec.values.set[k]? = some v) : OneScalar v := by
  obtain ⟨data, hdata, hbound⟩ := h
  rw [setArguments_command] at hdata
  refine oneScalar_of_parseSets hset hdata (fun e he => ?_) (k, v) ((GoMap.mem_toList _ k v).mpr hk)
  rw [hbound, (GoMap.mem_toList _ e.1 e.2).mp he]
  rfl

/-- Each key of `values.set` is bound to the scalar of its whole value, and nothing else is bound,
exactly if no value has a comma or a backslash and none begins with a brace. -/
theorem set_values_bound_iff (helmChart : HelmChart)
    (hkeys : ∀ k v : String, helmChart.spec.values.set[k]? = some v → PlainName k)
    (hvalues : ∀ k v : String, helmChart.spec.values.set[k]? = some v → v ≠ "") :
    SetBound helmChart ↔
      ∀ k v : String, helmChart.spec.values.set[k]? = some v → OneScalar v := by
  have hset := settings_toList hkeys hvalues
  constructor
  · exact oneScalar_of_setBound hset
  · intro hscalar
    obtain ⟨data, hdata, hbound, hnone⟩ := parseSets_oneScalar hset fun e he =>
      hscalar e.1 e.2 ((GoMap.mem_toList _ e.1 e.2).mp he)
    refine ⟨data, by rw [setArguments_command, hdata], fun k => ?_⟩
    cases hk : helmChart.spec.values.set[k]? with
    | some v => exact hbound (k, v) ((GoMap.mem_toList _ k v).mpr hk)
    | none =>
        refine hnone k fun hmem => ?_
        obtain ⟨e, he, rfl⟩ := List.mem_map.mp hmem
        rw [(GoMap.mem_toList _ e.1 e.2).mp he] at hk
        cases hk

theorem podinfoChart_set {key value k v : String}
    (h : (podinfoChart key value).spec.values.set[k]? = some v) : key = k ∧ value = v := by
  rw [show (podinfoChart key value).spec.values.set[k]? =
    ((∅ : GoMap String).insert key value)[k]? from rfl, GoMap.getElem?_insert] at h
  split at h
  · next hk => exact ⟨hk, Option.some.inj h⟩
  · simp at h

theorem replicaCount_bound : SetBound (podinfoChart "replicaCount" "2") := by
  refine (set_values_bound_iff (podinfoChart "replicaCount" "2") ?_ ?_).mpr ?_
  · intro k v h
    obtain ⟨rfl, -⟩ := podinfoChart_set h
    decide
  · intro k v h
    obtain ⟨-, rfl⟩ := podinfoChart_set h
    decide
  · intro k v h
    obtain ⟨-, rfl⟩ := podinfoChart_set h
    refine ⟨fun c hc => ?_, by decide⟩
    rw [List.mem_singleton.mp (show c ∈ ['2'] from hc)]
    decide

/-- A value with a comma: the second part is taken for another setting. -/
theorem two_hosts_unparsed :
    parseSets ((command (podinfoChart "hosts" "a,b") .install).flatMap setArgumentsOf) [] =
      .error (.keyHasNoValue "b") ∧ ¬ SetBound (podinfoChart "hosts" "a,b") := by
  have hfirst : Strvals.key (Strvals.typedVal · false) [] 0 "hosts=a,b".toList =
      .next [("hosts", .str "a")] ['b'] := by
    have hname : PlainName "hosts" := by decide
    rw [show "hosts=a,b".toList = "hosts".toList ++ '=' :: "a,b".toList from rfl,
      Strvals.key_assignment hname.literal]
    rfl
  have hsecond : Strvals.key (Strvals.typedVal · false) [("hosts", .str "a")] 0 ['b'] =
      .failed (.keyHasNoValue "b") := by
    rw [Strvals.key]
    rfl
  have hparse : Strvals.parseInto "hosts=a,b" [] = .error (.keyHasNoValue "b") :=
    (Strvals.parse_next hfirst).trans (Strvals.parse_failed hsecond)
  have hsets : parseSets ((command (podinfoChart "hosts" "a,b") .install).flatMap setArgumentsOf) [] =
      .error (.keyHasNoValue "b") := by
    rw [setArguments_command, show (podinfoChart "hosts" "a,b").spec.values.set.toList.map setting =
      ["hosts=a,b"] by decide +kernel]
    show (Strvals.parseInto "hosts=a,b" [] >>= pure) = _
    rw [hparse]
    rfl
  refine ⟨hsets, fun hbound => ?_⟩
  obtain ⟨data, hdata, -⟩ := hbound
  cases hdata.symm.trans hsets

end Heir.Runtime
