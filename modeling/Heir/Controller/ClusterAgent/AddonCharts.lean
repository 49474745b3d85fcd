import Heir.Controller.ClusterAgent.Addons
import Heir.Lib.Automaton

set_option autoImplicit false

/-! # The charts that are consolidated

What `ConsolidateAddons` returns for a Runtime is described by `Wanted`, entry by entry and field by
field. It returns copies of the charts in a table of the package. A copy of a Go struct shares the maps of the original;
here that is the map of the labels, which the AddonsReconciler writes to. The charts of the table have
no such map, so the first label of a copy goes to a map of its own.

A memory holds the table, the maps of labels by address, and the slices that calls have returned. The
calls and the edits of returned charts are events in any order; no event changes what a later call
returns (`addons_consolidated`). The other pointers in a chart are not written through, and what they
point to is a value here.
-/

namespace Heir.Controller.Addons

open Heir.ControlPlane Heir.ClusterAgent Heir.Runtime

/-! ## What is wanted -/

/-- The chart of the table with the values it has for a Runtime. -/
def defaultChart (runtime : Runtime) (buildIn : BuildInChart) : HelmChart :=
  match buildIn.values with
  | none => buildIn.chart
  | some values => withValues buildIn.chart (values runtime)

/-- The addon entries of a Runtime. -/
def entries (runtime : Runtime) : List AddonChartSpec :=
  runtime.spec.cluster.addons.charts

/-- The addon image of a Runtime, if it has one, instead of the image of the chart. -/
def withAddonImage (runtime : Runtime) (chart : HelmChart) : HelmChart :=
  setImage runtime.spec.cluster.addons.image chart

/-- No entry of this name installs another chart or switches it off. -/
def NotReplaced (runtime : Runtime) (name : String) : Prop :=
  ∀ addon ∈ entries runtime, addon.name = name → addon.install = none ∧ addon.enabled ≠ some false

/-- A chart has this name, this specification and these values. The addon image of the Runtime, if
there is one, is the image of every chart. -/
structure ChartFor (runtime : Runtime) (name : String) (spec : HelmChartSpec)
    (values : ValuesSpec) (c : HelmChart) : Prop where
  metadata : c.metadata = { name := name, ns := "kube-system" }
  chart : c.spec.chart = spec.chart
  helm : c.spec.helm = spec.helm
  values : c.spec.values = values
  bootstrap : c.spec.runtime.bootstrap = spec.runtime.bootstrap
  securityContext : c.spec.runtime.securityContext = spec.runtime.securityContext
  image : c.spec.runtime.image = if runtime.spec.cluster.addons.image = "" then spec.runtime.image
    else runtime.spec.cluster.addons.image
  status : c.status = {}

/-- The values that a chart of the table has for a Runtime: those computed from it, or its own. -/
def DefaultValues (runtime : Runtime) (buildIn : BuildInChart) (values : ValuesSpec) :
    Prop :=
  (buildIn.values = none ∧ values = buildIn.chart.spec.values) ∨
    ∃ f, buildIn.values = some f ∧ values = f runtime

/-- The charts that a Runtime asks for. -/
inductive Wanted (isPrint : Char → Bool) (runtime : Runtime) (c : HelmChart) : Prop where
  /-- Every entry with an install spec. -/
  | installed {addon : AddonChartSpec} {spec : HelmChartSpec} (haddon : addon ∈ entries runtime)
      (hinstall : addon.install = some spec)
      (hchart : ChartFor runtime addon.name spec spec.values c)
  /-- A chart of the table that an entry has other values for. -/
  | overridden {name : String} {buildIn : BuildInChart} {addon : AddonChartSpec}
      {override : AddonOverrideSpec} (htable : (buildInAddons isPrint)[name]? = some buildIn)
      (henabled : buildIn.enabled = true) (hkept : NotReplaced runtime name)
      (haddon : addon ∈ entries runtime) (hname : addon.name = name)
      (hoverride : addon.override = some override)
      (hchart : ChartFor runtime name buildIn.chart.spec override.values c)
  /-- A chart of the table with its own values. -/
  | default {name : String} {buildIn : BuildInChart} {values : ValuesSpec}
      (htable : (buildInAddons isPrint)[name]? = some buildIn) (henabled : buildIn.enabled = true)
      (hkept : NotReplaced runtime name)
      (hnone : ∀ addon ∈ entries runtime, addon.name = name → addon.override = none)
      (hvalues : DefaultValues runtime buildIn values)
      (hchart : ChartFor runtime name buildIn.chart.spec values c)

theorem chartFor_iff {runtime : Runtime} {name : String} {spec : HelmChartSpec}
    {values : ValuesSpec} {chart c : HelmChart}
    (hmeta : chart.metadata = { name := name, ns := "kube-system" }) (hstatus : chart.status = {})
    (hspec : chart.spec = { spec with values := values }) :
    ChartFor runtime name spec values c ↔ c = withAddonImage runtime chart := by
  obtain ⟨metadata, spec', status⟩ := chart
  cases hmeta
  cases hstatus
  cases hspec
  rw [withAddonImage, setImage]
  constructor
  · obtain ⟨metadata, ⟨chart, helm, ⟨bootstrap, image, securityContext⟩, values⟩, status⟩ := c
    rintro ⟨rfl, rfl, rfl, rfl, rfl, rfl, himage, rfl⟩
    dsimp only at himage
    split at himage <;> rename_i hset <;> rw [himage]
    · rw [if_pos hset]
    · rw [if_neg hset]
  · rintro rfl
    split <;> rename_i hset
    · exact ⟨rfl, rfl, rfl, rfl, rfl, rfl, (if_pos hset).symm, rfl⟩
    · exact ⟨rfl, rfl, rfl, rfl, rfl, rfl, (if_neg hset).symm, rfl⟩

theorem chartFor_installed {runtime : Runtime} {name : String} {spec : HelmChartSpec}
    {c : HelmChart} : ChartFor runtime name spec spec.values c ↔
      c = withAddonImage runtime (installedChart name spec) :=
  chartFor_iff rfl rfl rfl

section Table

variable {isPrint : Char → Bool} {runtime : Runtime} {name : String}
  {buildIn : BuildInChart} {c : HelmChart} (htable : (buildInAddons isPrint)[name]? = some buildIn)
include htable

theorem chartFor_withValues {values : ValuesSpec} :
    ChartFor runtime name buildIn.chart.spec values c ↔
      c = withAddonImage runtime (withValues buildIn.chart values) :=
  have hbuilt := metadata_of_buildInAddons htable
  chartFor_iff hbuilt.1 hbuilt.2 rfl

theorem chartFor_default {values : ValuesSpec} (hvalues : DefaultValues runtime buildIn values) :
    ChartFor runtime name buildIn.chart.spec values c ↔
      c = withAddonImage runtime (defaultChart runtime buildIn) := by
  rw [chartFor_withValues htable, defaultChart]
  rcases hvalues with ⟨hnone, rfl⟩ | ⟨f, hsome, rfl⟩
  · rw [hnone]
    rfl
  · rw [hsome]

end Table

theorem exists_defaultValues (runtime : Runtime) (buildIn : BuildInChart) :
    ∃ values, DefaultValues runtime buildIn values := by
  cases hvalues : buildIn.values with
  | none => exact ⟨_, Or.inl ⟨hvalues, rfl⟩⟩
  | some f => exact ⟨_, Or.inr ⟨f, hvalues, rfl⟩⟩

section Consolidation

variable {isPrint : Char → Bool} {runtime : Runtime}

/-- With distinct names, the entry of a name is the one that has it. -/
theorem declaredAddons_getElem? {charts : List AddonChartSpec}
    (hnames : (charts.map AddonChartSpec.name).Nodup) (name : String) (addon : AddonChartSpec) :
    (declaredAddons charts)[name]? = some addon ↔ addon ∈ charts ∧ addon.name = name := by
  have hkeys : (charts.map fun c => (c.name, c)).map Prod.fst = charts.map AddonChartSpec.name := by
    rw [List.map_map]
    rfl
  have hmem : ∀ a ∈ charts, (declaredAddons charts)[a.name]? = some a := by
    intro a ha
    have hpair : (a.name, a) ∈ charts.map fun c => (c.name, c) := List.mem_map.mpr ⟨a, ha, rfl⟩
    exact GoMap.getElem?_setAll_of_mem ∅ _ (hkeys ▸ hnames) hpair
  constructor
  · intro h
    by_cases hname : name ∈ charts.map AddonChartSpec.name
    · obtain ⟨a, ha, rfl⟩ := List.mem_map.mp hname
      rw [hmem a ha] at h
      cases h
      exact ⟨ha, rfl⟩
    · have hnone : (declaredAddons charts)[name]? = (∅ : GoMap AddonChartSpec)[name]? :=
        GoMap.getElem?_setAll_of_not_mem ∅ _ (hkeys ▸ hname)
      rw [h, Std.ExtTreeMap.getElem?_empty] at hnone
      cases hnone
  · rintro ⟨ha, rfl⟩
    exact hmem addon ha

theorem declaredAddons_eq_none {charts : List AddonChartSpec}
    (hnames : (charts.map AddonChartSpec.name).Nodup) {name : String}
    (h : (declaredAddons charts)[name]? = none) {addon : AddonChartSpec} (haddon : addon ∈ charts) :
    addon.name ≠ name := by
  intro hname
  rw [(declaredAddons_getElem? hnames name addon).mpr ⟨haddon, hname⟩] at h
  cases h

theorem withValues_defaultChart (runtime : Runtime) (buildIn : BuildInChart) (values : ValuesSpec) :
    withValues (defaultChart runtime buildIn) values = withValues buildIn.chart values := by
  unfold defaultChart
  cases buildIn.values with
  | none => rfl
  | some v => rfl

/-! ### The cases of `consolidateBuildIn`, by the entry of the chart's name -/

section Cases

variable {declared : GoMap AddonChartSpec} {name : String} {buildIn : BuildInChart}
  {addon : AddonChartSpec}

theorem consolidateBuildIn_undeclared (h : declared[name]? = none) :
    consolidateBuildIn runtime declared name buildIn =
      if buildIn.enabled then some (defaultChart runtime buildIn) else none := by
  simp only [consolidateBuildIn, h]
  rfl

theorem consolidateBuildIn_installed (h : declared[name]? = some addon) {spec : HelmChartSpec}
    (hinstall : addon.install = some spec) :
    consolidateBuildIn runtime declared name buildIn = some (installedChart name spec) := by
  simp only [consolidateBuildIn, h, hinstall]

theorem consolidateBuildIn_off (h : declared[name]? = some addon) (hinstall : addon.install = none)
    (hoff : addon.enabled = some false ∨ buildIn.enabled = false) :
    consolidateBuildIn runtime declared name buildIn = none := by
  simp only [consolidateBuildIn, h, hinstall]
  by_cases hdisabled : addon.enabled = some false
  · rw [if_pos hdisabled]
  · rw [if_neg hdisabled, hoff.resolve_left hdisabled]
    rfl

section On

variable (h : declared[name]? = some addon) (hinstall : addon.install = none)
  (hnot : addon.enabled ≠ some false) (henabled : buildIn.enabled = true)
include h hinstall hnot henabled

theorem consolidateBuildIn_default (hoverride : addon.override = none) :
    consolidateBuildIn runtime declared name buildIn = some (defaultChart runtime buildIn) := by
  simp only [consolidateBuildIn, h, hinstall, hoverride]
  rw [if_neg hnot, henabled]
  rfl

theorem consolidateBuildIn_overridden {override : AddonOverrideSpec}
    (hoverride : addon.override = some override) :
    consolidateBuildIn runtime declared name buildIn =
      some (withValues buildIn.chart override.values) := by
  rw [← withValues_defaultChart runtime]
  simp only [consolidateBuildIn, h, hinstall, hoverride]
  rw [if_neg hnot, henabled]
  rfl

end On

end Cases

/-! ### The charts are the wanted ones -/

variable (hnames : ((entries runtime).map AddonChartSpec.name).Nodup)
include hnames

theorem wanted_of_buildIn {name : String} {buildIn : BuildInChart} {chart : HelmChart}
    (htable : (buildInAddons isPrint)[name]? = some buildIn)
    (h : consolidateBuildIn runtime (declaredAddons (entries runtime)) name buildIn = some chart) :
    Wanted isPrint runtime (withAddonImage runtime chart) := by
  cases hdeclared : (declaredAddons (entries runtime))[name]? with
  | none =>
      rw [consolidateBuildIn_undeclared hdeclared] at h
      obtain ⟨henabled, h⟩ := Option.ite_none_right_eq_some.mp h
      cases h
      have hother : ∀ addon ∈ entries runtime, addon.name ≠ name :=
        fun _ haddon => declaredAddons_eq_none hnames hdeclared haddon
      obtain ⟨values, hvalues⟩ := exists_defaultValues runtime buildIn
      exact .default htable henabled (fun addon haddon hname => absurd hname (hother addon haddon))
        (fun addon haddon hname => absurd hname (hother addon haddon)) hvalues
        ((chartFor_default htable hvalues).mpr rfl)
  | some addon =>
      obtain ⟨haddon, hname⟩ := (declaredAddons_getElem? hnames name addon).mp hdeclared
      have honly : ∀ a ∈ entries runtime, a.name = name → a = addon := by
        intro a ha haname
        have hsame := (declaredAddons_getElem? hnames name a).mpr ⟨ha, haname⟩
        rw [hdeclared] at hsame
        exact (Option.some.inj hsame).symm
      cases hinstall : addon.install with
      | some spec =>
          rw [consolidateBuildIn_installed hdeclared hinstall] at h
          cases h
          rw [← hname]
          exact .installed haddon hinstall (chartFor_installed.mpr rfl)
      | none =>
          by_cases hoff : addon.enabled = some false ∨ buildIn.enabled = false
          · rw [consolidateBuildIn_off hdeclared hinstall hoff] at h
            cases h
          · rw [not_or] at hoff
            have henabled := Bool.eq_true_of_not_eq_false hoff.2
            have hkept : NotReplaced runtime name := by
              intro a ha haname
              rw [honly a ha haname]
              exact ⟨hinstall, hoff.1⟩
            cases hoverride : addon.override with
            | none =>
                rw [consolidateBuildIn_default hdeclared hinstall hoff.1 henabled hoverride] at h
                cases h
                obtain ⟨values, hvalues⟩ := exists_defaultValues runtime buildIn
                refine .default htable henabled hkept (fun a ha haname => ?_) hvalues
                  ((chartFor_default htable hvalues).mpr rfl)
                rw [honly a ha haname]
                exact hoverride
            | some override =>
                rw [consolidateBuildIn_overridden hdeclared hinstall hoff.1 henabled hoverride] at h
                cases h
                exact .overridden htable henabled hkept haddon hname hoverride
                  ((chartFor_withValues htable).mpr rfl)

theorem mem_consolidateAddons_iff_wanted (ob : GoMap.RangeOrder BuildInChart)
    (od : GoMap.RangeOrder AddonChartSpec) (c : HelmChart) :
    c ∈ consolidateAddons isPrint ob od runtime ↔ Wanted isPrint runtime c := by
  rw [mem_consolidateAddons]
  constructor
  · rintro ⟨chart, rfl, ⟨name, buildIn, htable, h⟩ | ⟨name, addon, hdeclared, h⟩⟩
    · exact wanted_of_buildIn hnames htable h
    · obtain ⟨haddon, rfl⟩ := (declaredAddons_getElem? hnames name addon).mp hdeclared
      rw [consolidateDeclared, Option.ite_none_left_eq_some] at h
      obtain ⟨spec, hinstall, rfl⟩ := Option.map_eq_some_iff.mp h.2
      exact .installed haddon hinstall (chartFor_installed.mpr rfl)
  · intro h
    cases h with
    | @installed addon spec haddon hinstall hchart =>
        have hdeclared := (declaredAddons_getElem? hnames addon.name addon).mpr ⟨haddon, rfl⟩
        refine ⟨_, chartFor_installed.mp hchart, ?_⟩
        -- the entry is met in the loop that its name belongs to
        cases htable : (buildInAddons isPrint)[addon.name]? with
        | some buildIn =>
            exact .inl ⟨addon.name, buildIn, htable,
              consolidateBuildIn_installed hdeclared hinstall⟩
        | none =>
            refine .inr ⟨addon.name, addon, hdeclared, ?_⟩
            rw [consolidateDeclared, htable, hinstall]
            rfl
    | @overridden name buildIn addon override htable henabled hkept haddon hname hoverride hchart =>
        have hdeclared := (declaredAddons_getElem? hnames name addon).mpr ⟨haddon, hname⟩
        obtain ⟨hinstall, hnot⟩ := hkept addon haddon hname
        exact ⟨_, (chartFor_withValues htable).mp hchart, .inl ⟨name, buildIn, htable,
          consolidateBuildIn_overridden hdeclared hinstall hnot henabled hoverride⟩⟩
    | @default name buildIn values htable henabled hkept hnone hvalues hchart =>
        refine ⟨_, (chartFor_default htable hvalues).mp hchart, .inl ⟨name, buildIn, htable, ?_⟩⟩
        cases hdeclared : (declaredAddons (entries runtime))[name]? with
        | none =>
            refine (consolidateBuildIn_undeclared hdeclared).trans ?_
            rw [if_pos henabled]
        | some addon =>
            obtain ⟨haddon, hname⟩ := (declaredAddons_getElem? hnames name addon).mp hdeclared
            obtain ⟨hinstall, hnot⟩ := hkept addon haddon hname
            exact consolidateBuildIn_default hdeclared hinstall hnot henabled
              (hnone addon haddon hname)

end Consolidation

/-! ## Memory -/

/-- A chart in memory, with the address of the map of its labels; nil if there is none. -/
structure SharedChart where
  chart : HelmChart
  labels : Option Nat := none

structure Memory where
  /-- The table of the package. -/
  table : GoMap BuildInChart
  /-- The maps of labels that the charts of the table have. -/
  tableLabels : GoMap Nat := ∅
  /-- The maps of labels, by address. -/
  heap : List (GoMap String) := []
  /-- The slices that calls have returned. -/
  returned : List (List SharedChart) := []

/-- A chart as it is read. -/
def SharedChart.view (heap : List (GoMap String)) (c : SharedChart) : HelmChart :=
  match c.labels with
  | none => c.chart
  | some a => { c.chart with metadata.labels := (heap[a]?).getD ∅ }

/-- `ConsolidateAddons` with this table. -/
def consolidateFrom (table : GoMap BuildInChart) (ob : GoMap.RangeOrder BuildInChart)
    (od : GoMap.RangeOrder AddonChartSpec) (runtime : Runtime) : List HelmChart :=
  let declared := declaredAddons (entries runtime)
  let charts :=
    (ob.visit table).filterMap (fun e => consolidateBuildIn runtime declared e.1 e.2) ++
      (od.visit declared).filterMap
        (fun e => if (table[e.1]?).isSome then none else e.2.install.map (installedChart e.1))
  charts.map (withAddonImage runtime)

theorem consolidateFrom_buildInAddons (isPrint : Char → Bool) (ob : GoMap.RangeOrder BuildInChart)
    (od : GoMap.RangeOrder AddonChartSpec) (runtime : Runtime) :
    consolidateFrom (buildInAddons isPrint) ob od runtime = consolidateAddons isPrint ob od runtime :=
  rfl

/-- What a call returns in a memory: a chart of the table is a copy that has the same map of labels,
an installed one has none. -/
def Memory.consolidate (m : Memory) (ob : GoMap.RangeOrder BuildInChart)
    (od : GoMap.RangeOrder AddonChartSpec) (runtime : Runtime) : List SharedChart :=
  let declared := declaredAddons (entries runtime)
  (consolidateFrom m.table ob od runtime).map fun chart =>
    let name := chart.metadata.name
    let installs := ((declared[name]?).bind AddonChartSpec.install).isSome
    { chart := chart, labels := if installs then none else m.tableLabels[name]? }

/-- Change a chart of a slice that was returned. -/
def Memory.edit (m : Memory) (i j : Nat) (c : SharedChart) : Memory :=
  { m with returned := m.returned.modify i fun charts => charts.set j c }

inductive Event where
  /-- A call of `ConsolidateAddons`. -/
  | consolidate (ob : GoMap.RangeOrder BuildInChart) (od : GoMap.RangeOrder AddonChartSpec)
      (runtime : Runtime)
  /-- The `j`-th chart of the `i`-th slice gets the label of the addons, in a new map if it has
  none. -/
  | label (i j : Nat)
  /-- The image of such a chart is set. -/
  | image (i j : Nat) (image : String)

/-- The chart of a slice. -/
def Memory.chartAt (m : Memory) (i j : Nat) : Option SharedChart := (m.returned[i]?).bind (·[j]?)

/-- The label is written to the map at an address. -/
def Memory.writeLabel (m : Memory) (a : Nat) : Memory :=
  { m with heap := m.heap.modify a fun labels => labels.insert addonManagedByLabel addonLabelValue }

def Memory.step (m : Memory) : Event → Option Memory
  | .consolidate ob od runtime =>
      some { m with returned := m.returned ++ [m.consolidate ob od runtime] }
  | .label i j =>
      match m.chartAt i j with
      | none => none
      | some c =>
          match c.labels with
          | some a => some (m.writeLabel a)
          | none =>
              let a := m.heap.length
              let m := { m with heap := m.heap ++ [∅] }
              some ((m.edit i j { c with labels := some a }).writeLabel a)
  | .image i j image =>
      match m.chartAt i j with
      | none => none
      | some c => some (m.edit i j { c with chart.spec.runtime.image := image })

/-- The package at its start: its charts have no labels. -/
def sharing (isPrint : Char → Bool) : Automaton Memory Event where
  init := { table := buildInAddons isPrint }
  step := Memory.step

/-! ## No event reaches the table -/

/-- What an event does to the table and its maps of labels: nothing. -/
theorem step_table {m m' : Memory} {e : Event} (h : m.step e = some m') :
    m'.table = m.table ∧ m'.tableLabels = m.tableLabels := by
  cases e with
  | consolidate ob od runtime =>
      cases h
      exact ⟨rfl, rfl⟩
  | label i j =>
      unfold Memory.step at h
      cases hchart : m.chartAt i j with
      | none =>
          simp only [hchart] at h
          cases h
      | some c =>
          cases hlabels : c.labels with
          | some a | none =>
              simp only [hchart, hlabels] at h
              cases h
              exact ⟨rfl, rfl⟩
  | image i j image =>
      unfold Memory.step at h
      cases hchart : m.chartAt i j with
      | none =>
          simp only [hchart] at h
          cases h
      | some c =>
          simp only [hchart] at h
          cases h
          exact ⟨rfl, rfl⟩

theorem table_of_trace {isPrint : Char → Bool} {h : List Event} {m : Memory}
    (hrun : (sharing isPrint).Trace h m) :
    m.table = buildInAddons isPrint ∧ m.tableLabels = ∅ := by
  refine hrun.invariant (fun _ m => m.table = buildInAddons isPrint ∧ m.tableLabels = ∅)
    ⟨rfl, rfl⟩ ?_
  intro h m e m' _ hinv hstep
  obtain ⟨htable, hlabels⟩ := step_table hstep
  exact ⟨htable.trans hinv.1, hlabels.trans hinv.2⟩

/-- So every call returns what the first would have returned. -/
theorem view_consolidate {isPrint : Char → Bool} {h : List Event} {m : Memory}
    (hrun : (sharing isPrint).Trace h m) (ob : GoMap.RangeOrder BuildInChart)
    (od : GoMap.RangeOrder AddonChartSpec) (runtime : Runtime) :
    (m.consolidate ob od runtime).map (SharedChart.view m.heap) =
      consolidateAddons isPrint ob od runtime := by
  obtain ⟨htable, hlabels⟩ := table_of_trace hrun
  have hnil : ∀ name : String, m.tableLabels[name]? = none := by
    intro name
    rw [hlabels]
    exact Std.ExtTreeMap.getElem?_empty
  unfold Memory.consolidate
  dsimp only
  rw [htable, consolidateFrom_buildInAddons, List.map_map]
  simp only [hnil, ite_self, Function.comp_def, SharedChart.view, List.map_id']

/-- **The addons of a Runtime.** In every memory that calls of `ConsolidateAddons` and edits of the
charts they returned can lead to, a call for a Runtime whose entries have distinct names returns the
charts that the Runtime asks for and no others, no two of one name, in whatever order the maps are
ranged over. -/
theorem addons_consolidated {isPrint : Char → Bool} {h : List Event} {m : Memory}
    (hrun : (sharing isPrint).Trace h m) {runtime : Runtime}
    (hnames : ((entries runtime).map AddonChartSpec.name).Nodup)
    (ob : GoMap.RangeOrder BuildInChart) (od : GoMap.RangeOrder AddonChartSpec) :
    (((m.consolidate ob od runtime).map (SharedChart.view m.heap)).map
      fun c => c.metadata.name).Nodup ∧
    ∀ c, c ∈ (m.consolidate ob od runtime).map (SharedChart.view m.heap) ↔
      Wanted isPrint runtime c := by
  rw [view_consolidate hrun]
  exact ⟨nodup_names_consolidateAddons ob od, mem_consolidateAddons_iff_wanted hnames ob od⟩

/-- A call, and its first chart gets the label and another image. -/
def editedChart : List Event :=
  [.consolidate .byKey .byKey (.minimal "tenant" "default"), .label 0 0, .image 0 0 "other"]

/-- A Runtime that installs a chart, overrides the values of one of the table and switches the other
one off, with an image for all of them. -/
def tenantAddons : HelmAddonsSpec where
  image := "registry.local/helm:3"
  charts :=
    [{ name := "web", install := some { chart := { name := "nginx", repo := "stable" } } },
     { name := "coredns", override := some ⟨{ content := "replicaCount: 3\n" }⟩ },
     { name := "flannel", enabled := some false }]

def tenant : Runtime :=
  { ControlPlane.Runtime.minimal "other" "default" with spec.cluster.addons := tenantAddons }

theorem mem_tenant {addon : AddonChartSpec} (h : addon ∈ entries tenant) :
    addon = { name := "web", install := some { chart := { name := "nginx", repo := "stable" } } } ∨
      addon = { name := "coredns", override := some ⟨{ content := "replicaCount: 3\n" }⟩ } ∨
      addon = { name := "flannel", enabled := some false } := by
  simpa [entries, tenant, tenantAddons] using h

/-- A later call for another Runtime returns what that one asks for. -/
theorem later_call_wanted :
    ∃ m charts, (sharing fun _ => true).Trace editedChart m ∧
      charts = (m.consolidate .byKey .byKey tenant).map (SharedChart.view m.heap) ∧
      (charts.map fun c => c.metadata.name).Nodup ∧
      (∃ c ∈ charts, c.metadata.name = "web" ∧ c.spec.chart.name = "nginx" ∧
        c.spec.runtime.image = "registry.local/helm:3") ∧
      (∃ c ∈ charts, c.metadata.name = "coredns" ∧ c.spec.values.content = "replicaCount: 3\n" ∧
        c.spec.runtime.image = "registry.local/helm:3") ∧
      ∀ c ∈ charts, c.metadata.name ≠ "flannel" := by
  obtain ⟨m, hrun, -⟩ := Automaton.exists_trace (sharing fun _ => true) editedChart (fun _ => True)
    (by decide +kernel)
  have hnames : ((entries tenant).map AddonChartSpec.name).Nodup := by decide
  obtain ⟨hnodup, hwanted⟩ := addons_consolidated hrun hnames .byKey .byKey
  have hcoredns := buildInAddons_getElem? (fun _ => true) "coredns"
  refine ⟨m, _, hrun, rfl, hnodup, ?_, ?_, fun c hc hname => ?_⟩
  · refine ⟨_, (hwanted _).mpr (.installed (.head _) rfl (chartFor_installed.mpr rfl)), ?_⟩
    exact ⟨rfl, rfl, rfl⟩
  · refine ⟨_, (hwanted _).mpr (.overridden hcoredns rfl ?_ (.tail _ (.head _)) rfl rfl
      ((chartFor_withValues hcoredns).mpr rfl)), ?_⟩
    · intro addon haddon hname
      rcases mem_tenant haddon with rfl | rfl | rfl
      · exact absurd hname (by decide)
      · exact ⟨rfl, by simp⟩
      · exact absurd hname (by decide)
    · exact ⟨rfl, rfl, rfl⟩
  · have hoff : ¬ NotReplaced tenant "flannel" := fun hkept =>
      (hkept _ (.tail _ (.tail _ (.head _))) rfl).2 rfl
    cases (hwanted c).mp hc with
    | installed haddon hinstall hchart =>
        rw [hchart.metadata] at hname
        rcases mem_tenant haddon with rfl | rfl | rfl
        · exact absurd hname (by decide)
        · cases hinstall
        · cases hinstall
    | overridden _ _ hkept _ _ _ hchart | default _ _ hkept _ _ hchart =>
        rw [hchart.metadata] at hname
        exact hoff (hname ▸ hkept)

end Heir.Controller.Addons
