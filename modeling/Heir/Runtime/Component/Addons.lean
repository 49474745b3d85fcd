import Heir.Lib.GoString
import Heir.Runtime.Component.NodeProfile

set_option autoImplicit false

/-! # The charts of a tenant cluster

`ConsolidateAddons` puts together the charts that come with the control plane, as the addon entries
of the Runtime change them, and the charts the entries add. It ranges over two maps, so the charts
come in an open order.

The table of printable characters behind `%q` is a parameter.
-/

namespace Heir.Runtime

open Heir.ControlPlane Heir.ClusterAgent

variable (isPrint : Char → Bool)

/-! ## Charts that come with the control plane -/

structure BuildInChart where
  enabled : Bool
  chart : HelmChart
  /-- The values that depend on the Runtime. -/
  values : Option (Runtime → ValuesSpec) := none

/-- The values of the CoreDNS chart for a cluster address. -/
def corednsValues (clusterIP : String) : String :=
  "\nreplicaCount: 1\nservice:\n  clusterIP: " ++ GoString.quote isPrint clusterIP ++ "\n"

def defaultCorednsValues : String := corednsValues isPrint clusterDNSIP

def flannelValues (runtime : Runtime) : ValuesSpec where
  content := "\nflannel:\n  podCidr: " ++
    GoString.quote isPrint runtime.spec.cluster.network.podCIDR ++
    "\n  nodeSelector:\n    kubernetes.io/os: linux\n  healthz:\n    port: 0\n"

/-- The options the two charts share. What a literal leaves out is empty: defaults are filled in by
the API server only. -/
def buildInSpec (chart : ChartSpec) (values : ValuesSpec) : HelmChartSpec where
  chart := chart
  runtime := { bootstrap := true, image := "" }
  helm :=
    { version := .unset, backOffLimit := some 1000, atomic := true
      timeout := ⟨600000000000⟩ }
  values := values

def corednsChart : HelmChart where
  metadata := { name := "coredns", ns := "kube-system" }
  spec := buildInSpec
    { name := "coredns", repo := "https://coredns.github.io/helm", version := "1.48.2"
      targetNamespace := "kube-system" }
    { content := defaultCorednsValues isPrint }

def flannelChart : HelmChart where
  metadata := { name := "flannel", ns := "kube-system" }
  spec := buildInSpec
    { name := "flannel", repo := "https://flannel-io.github.io/flannel/", version := "v0.28.10"
      createNamespace := true, targetNamespace := "kube-flannel" }
    {}

def buildInAddons : GoMap BuildInChart :=
  GoMap.setAll ∅
    [("coredns", { enabled := true, chart := corednsChart isPrint }),
     ("flannel", { enabled := true, chart := flannelChart, values := some (flannelValues isPrint) })]

def withValues (chart : HelmChart) (values : ValuesSpec) : HelmChart :=
  { chart with spec.values := values }

def installedChart (name : String) (spec : HelmChartSpec) : HelmChart where
  metadata := { name := name, ns := "kube-system" }
  spec := spec

/-! ## Consolidation -/

/-- The addon entries by name; a later entry replaces an earlier one. -/
def declaredAddons (charts : List AddonChartSpec) : GoMap AddonChartSpec :=
  GoMap.setAll ∅ (charts.map (fun c => (c.name, c)))

/-- What becomes of a chart that comes with the control plane. -/
def consolidateBuildIn (runtime : Runtime) (declared : GoMap AddonChartSpec)
    (name : String) (buildIn : BuildInChart) : Option HelmChart :=
  let chart :=
    match buildIn.values with
    | none => buildIn.chart
    | some values => withValues buildIn.chart (values runtime)
  match declared[name]? with
  | none => if buildIn.enabled then some chart else none
  | some addon =>
      match addon.install with
      -- a full install spec replaces the chart entirely
      | some spec => some (installedChart name spec)
      | none =>
          if addon.enabled = some false then none
          else if !buildIn.enabled then none
          else
            match addon.override with
            | none => some chart
            | some override => some (withValues chart override.values)

/-- What becomes of an addon entry of another name. -/
def consolidateDeclared (name : String) (addon : AddonChartSpec) : Option HelmChart :=
  if ((buildInAddons isPrint)[name]?).isSome then none
  else addon.install.map (installedChart name)

def setImage (image : String) (chart : HelmChart) : HelmChart :=
  if image = "" then chart else { chart with spec.runtime.image := image }

/-- `ConsolidateAddons`, with the orders of its two loops over maps. -/
def consolidateAddons (ob : GoMap.RangeOrder BuildInChart) (od : GoMap.RangeOrder AddonChartSpec)
    (runtime : Runtime) : List HelmChart :=
  let helmAddons := runtime.spec.cluster.addons
  let declared := declaredAddons helmAddons.charts
  let charts :=
    (ob.visit (buildInAddons isPrint)).filterMap
        (fun e => consolidateBuildIn runtime declared e.1 e.2) ++
      (od.visit declared).filterMap (fun e => consolidateDeclared isPrint e.1 e.2)
  charts.map (setImage helmAddons.image)

/-! ## Which charts there are -/

section Names

variable {isPrint : Char → Bool} {runtime : Runtime}

theorem buildInAddons_getElem? (isPrint : Char → Bool) (name : String) :
    (buildInAddons isPrint)[name]? =
      if "flannel" = name then
        some { enabled := true, chart := flannelChart, values := some (flannelValues isPrint) }
      else if "coredns" = name then some { enabled := true, chart := corednsChart isPrint }
      else none := by
  simp only [buildInAddons, GoMap.setAll_cons, GoMap.setAll_nil, GoMap.getElem?_insert,
    Std.ExtTreeMap.getElem?_empty]

theorem metadata_of_buildInAddons {name : String} {buildIn : BuildInChart}
    (h : (buildInAddons isPrint)[name]? = some buildIn) :
    buildIn.chart.metadata = { name := name, ns := "kube-system" } ∧ buildIn.chart.status = {} := by
  rw [buildInAddons_getElem?] at h
  split at h
  · next hname =>
      cases h
      exact ⟨by rw [← hname]; rfl, rfl⟩
  · split at h
    · next hname =>
        cases h
        exact ⟨by rw [← hname]; rfl, rfl⟩
    · cases h

theorem name_of_buildInAddons {name : String} {buildIn : BuildInChart}
    (h : (buildInAddons isPrint)[name]? = some buildIn) : buildIn.chart.metadata.name = name := by
  rw [(metadata_of_buildInAddons h).1]

theorem name_of_consolidateBuildIn {declared : GoMap AddonChartSpec} {name : String}
    {buildIn : BuildInChart} {chart : HelmChart} (hname : buildIn.chart.metadata.name = name)
    (h : consolidateBuildIn runtime declared name buildIn = some chart) :
    chart.metadata.name = name := by
  -- the values of the Runtime do not change the name
  obtain ⟨base, hbuilt, h⟩ : ∃ base : HelmChart, base.metadata.name = name ∧
      consolidateBuildIn runtime declared name ⟨buildIn.enabled, base, none⟩ = some chart := by
    obtain ⟨enabled, built, values⟩ := buildIn
    cases values with
    | none => exact ⟨built, hname, h⟩
    | some values => exact ⟨withValues built (values runtime), hname, h⟩
  simp only [consolidateBuildIn] at h
  split at h
  · rw [Option.ite_none_right_eq_some] at h
    cases h.2
    exact hbuilt
  · split at h
    · cases h
      rfl
    · rw [Option.ite_none_left_eq_some, Option.ite_none_left_eq_some] at h
      obtain ⟨-, -, h⟩ := h
      split at h
      · cases h
        exact hbuilt
      · cases h
        exact hbuilt

theorem of_consolidateDeclared {name : String} {addon : AddonChartSpec} {chart : HelmChart}
    (h : consolidateDeclared isPrint name addon = some chart) :
    chart.metadata.name = name ∧ (buildInAddons isPrint)[name]? = none := by
  rw [consolidateDeclared, Option.ite_none_left_eq_some] at h
  obtain ⟨hnot, h⟩ := h
  obtain ⟨spec, -, rfl⟩ := Option.map_eq_some_iff.mp h
  exact ⟨rfl, by simpa using hnot⟩

theorem setImage_name (image : String) (chart : HelmChart) :
    (setImage image chart).metadata.name = chart.metadata.name := by
  unfold setImage
  split <;> rfl

theorem setImage_content (image : String) (chart : HelmChart) :
    (setImage image chart).spec.values.content = chart.spec.values.content := by
  unfold setImage
  split <;> rfl

/-- A chart of the list stems from an entry of one of the two maps. -/
theorem mem_consolidateAddons {ob : GoMap.RangeOrder BuildInChart}
    {od : GoMap.RangeOrder AddonChartSpec} {c : HelmChart} :
    c ∈ consolidateAddons isPrint ob od runtime ↔
      ∃ chart, c = setImage runtime.spec.cluster.addons.image chart ∧
        ((∃ name buildIn, (buildInAddons isPrint)[name]? = some buildIn ∧
            consolidateBuildIn runtime (declaredAddons runtime.spec.cluster.addons.charts) name
              buildIn = some chart) ∨
          ∃ name addon,
            (declaredAddons runtime.spec.cluster.addons.charts)[name]? = some addon ∧
            consolidateDeclared isPrint name addon = some chart) := by
  simp only [consolidateAddons, List.mem_map, List.mem_append, List.mem_filterMap, Prod.exists,
    GoMap.RangeOrder.mem_visit]
  exact exists_congr fun chart => ⟨fun h => ⟨h.2.symm, h.1⟩, fun h => ⟨h.2, h.1.symm⟩⟩

theorem nodup_names_consolidateAddons (ob : GoMap.RangeOrder BuildInChart)
    (od : GoMap.RangeOrder AddonChartSpec) :
    ((consolidateAddons isPrint ob od runtime).map (fun c => c.metadata.name)).Nodup := by
  have hbuildIn := fun (e : String × BuildInChart) (he : e ∈ ob.visit (buildInAddons isPrint)) =>
    name_of_buildInAddons ((ob.mem_visit _ e.1 e.2).mp he)
  simp only [consolidateAddons, List.map_map, Function.comp_def, setImage_name, List.map_append]
  refine List.nodup_append.mpr ⟨?_, ?_, ?_⟩
  · exact ob.nodup_filterMap _ fun e he c hc => name_of_consolidateBuildIn (hbuildIn e he) hc
  · exact od.nodup_filterMap _ fun e _ c hc => (of_consolidateDeclared hc).1
  · -- the second loop leaves out the names of the first
    intro a ha b hb
    obtain ⟨c, hc, rfl⟩ := List.mem_map.mp ha
    obtain ⟨d, hd, rfl⟩ := List.mem_map.mp hb
    obtain ⟨e, he, hc⟩ := List.mem_filterMap.mp hc
    obtain ⟨e', -, hd⟩ := List.mem_filterMap.mp hd
    obtain ⟨hname, hnone⟩ := of_consolidateDeclared hd
    rw [name_of_consolidateBuildIn (hbuildIn e he) hc, hname]
    intro heq
    rw [← heq, (ob.mem_visit _ e.1 e.2).mp he] at hnone
    cases hnone

end Names

end Heir.Runtime
