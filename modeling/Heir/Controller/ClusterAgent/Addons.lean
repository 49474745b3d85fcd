import Heir.Controller.Helm.World
import Heir.Runtime.Component.Addons

set_option autoImplicit false

/-! # The addons of a tenant cluster

Once a replica is elected, it creates the HelmCharts that `ConsolidateAddons` gives, all with one
label, and deletes the labelled HelmCharts that are not among them. A HelmChart that is there
already is not touched: `Create` answers that it exists, and nothing is updated. So the stored
charts are the wanted ones exactly if those that were there had the wanted specification
(`converged_iff`).

The API server fills in defaults when it stores an object; these are a parameter. A HelmChart with
finalizers is only marked by a deletion.
-/

namespace Heir.Controller.Addons

open Heir.ClusterAgent Heir.Runtime Interact Function
open Heir.Controller.Helm (ChartAt notFound alreadyExists)

/-! ## The program -/

inductive Call where
  /-- Wait for the election or the end of the context. -/
  | elected
  | create (chart : HelmChart)
  /-- List the HelmCharts with the label. -/
  | list
  | delete (key : NamespacedName)

abbrev Call.Answer : Call → Type
  | .elected => Except GoError Unit
  | .create _ => Except GoError Unit
  | .list => Except GoError (List HelmChart)
  | .delete _ => Except GoError Unit

abbrev sig : Sig := ⟨Call, Call.Answer⟩

def addonManagedByLabel : String := "clusteragent.tardigrade.runtime.io/managed-by"

def addonLabelValue : String := "tardigrade-addon"

def withLabel (chart : HelmChart) : HelmChart :=
  { chart with metadata.labels := chart.metadata.labels.insert addonManagedByLabel addonLabelValue }

/-- The name of an object in an error. -/
def fullName (key : NamespacedName) : String := key.ns ++ "/" ++ key.name

/-- The error of a call that ends `Start`, if it is not one that is tolerated. -/
def fatal (tolerated : Reason) (context : String) : Except GoError Unit → Option GoError
  | .ok _ => none
  | .error err => if err.reason = tolerated then none else some (err.wrap context)

/-- The first loop of `Start`. -/
def provision : List HelmChart → Prog sig (Except GoError Unit)
  | [] => .ret (.ok ())
  | chart :: rest =>
      .call (S := sig) (.create (withLabel chart)) fun r =>
        match fatal .alreadyExists ("failed to create helmchart " ++ fullName chart.metadata.key) r with
        | some err => .ret (.error err)
        | none => provision rest

/-- The second loop of `Start`. -/
def prune (want : List NamespacedName) : List HelmChart → Prog sig (Except GoError Unit)
  | [] => .ret (.ok ())
  | chart :: rest =>
      if chart.metadata.key ∈ want then prune want rest
      else
        .call (S := sig) (.delete chart.metadata.key) fun r =>
          match fatal .notFound ("failed to delete stale helmchart " ++ fullName chart.metadata.key) r with
          | some err => .ret (.error err)
          | none => prune want rest

/-- `Start` from the list of its charts on. -/
def install (desired : List HelmChart) : Prog sig (Except GoError Unit) := do
  match ← provision desired with
  | .error err => return .error err
  | .ok _ =>
      match ← Prog.perform (S := sig) .list with
      | .error err => return .error (err.wrap "failed to list addon-managed helmcharts")
      | .ok existing => prune (desired.map fun c => c.metadata.key) existing

/-- `Start`, with the orders in which `ConsolidateAddons` ranges over its maps. -/
def start (isPrint : Char → Bool) (ob : GoMap.RangeOrder BuildInChart)
    (od : GoMap.RangeOrder ControlPlane.AddonChartSpec) (runtime : ControlPlane.Runtime) :
    Prog sig (Except GoError Unit) := do
  match ← Prog.perform (S := sig) .elected with
  | .error err => return .error err
  | .ok _ => install (consolidateAddons isPrint ob od runtime)

/-! ## The API server -/

/-- The stored HelmCharts. -/
abbrev Charts : Type := (key : NamespacedName) → Option (ChartAt key)

/-- The HelmChart has the label of the addons. -/
def Labelled (chart : HelmChart) : Prop :=
  chart.metadata.labels[addonManagedByLabel]? = some addonLabelValue

instance (chart : HelmChart) : Decidable (Labelled chart) := inferInstanceAs (Decidable (_ = _))

/-- The items are the HelmCharts with the label. -/
def Lists (w : Charts) (items : List HelmChart) : Prop :=
  ∀ c, c ∈ items ↔ (∃ stored, w c.metadata.key = some stored ∧ stored.1 = c) ∧ Labelled c

section Server

variable (defaults : HelmChartSpec → HelmChartSpec)

/-- What is stored when the HelmChart `o` is created. The server chooses the UID and the resource
version. -/
structure Admitted (o stored : HelmChart) : Prop where
  spec : stored.spec = defaults o.spec
  labels : stored.metadata.labels = o.metadata.labels
  deletion : stored.metadata.deletionTimestamp = none

/-- The HelmChart with the time of its first deletion. -/
def marked (chart : HelmChart) (now : Time) : HelmChart :=
  { chart with metadata.deletionTimestamp := chart.metadata.deletionTimestamp.or (some now) }

theorem key_marked {key : NamespacedName} (stored : ChartAt key) (now : Time) :
    (marked stored.1 now).metadata.key = key :=
  stored.2

/-- What a deletion leaves of a HelmChart. -/
def afterDelete {key : NamespacedName} (stored : ChartAt key) (now : Time) : Option (ChartAt key) :=
  if stored.1.metadata.finalizers.isEmpty then none
  else some ⟨marked stored.1 now, key_marked stored now⟩

/-- Every call may fail, and then nothing is stored. -/
inductive Serves : (op : Call) → Charts → op.Answer → Charts → Prop where
  | elected (x : Except GoError Unit) (w : Charts) : Serves .elected w x w
  | createFails (o : HelmChart) {err : GoError} (w : Charts) (herr : err.reason = .other) :
      Serves (.create o) w (.error err) w
  | found {o : HelmChart} {w : Charts} {stored : ChartAt o.metadata.key}
      (hstored : w o.metadata.key = some stored) :
      Serves (.create o) w (.error (alreadyExists o.metadata.name)) w
  | created {o : HelmChart} {w : Charts} {stored : ChartAt o.metadata.key}
      (hfree : w o.metadata.key = none) (hadmitted : Admitted defaults o stored.1) :
      Serves (.create o) w (.ok ()) (update w o.metadata.key (some stored))
  | listFails (err : GoError) (w : Charts) : Serves .list w (.error err) w
  | listed {w : Charts} {items : List HelmChart} (hitems : Lists w items) :
      Serves .list w (.ok items) w
  | deleteFails (key : NamespacedName) {err : GoError} (w : Charts) (herr : err.reason = .other) :
      Serves (.delete key) w (.error err) w
  | absent {key : NamespacedName} {w : Charts} (hfree : w key = none) :
      Serves (.delete key) w (.error (notFound key.name)) w
  | deleted {key : NamespacedName} {w : Charts} {stored : ChartAt key} (now : Time)
      (hstored : w key = some stored) :
      Serves (.delete key) w (.ok ()) (update w key (afterDelete stored now))

abbrev server : Server sig Charts := Serves defaults

end Server

/-! ## Creation -/

/-- After the first loop: nothing that was there has changed, and whatever is new stems from one of
the charts. -/
structure Provisioned (defaults : HelmChartSpec → HelmChartSpec) (desired : List HelmChart)
    (w w' : Charts) : Prop where
  kept : ∀ key stored, w key = some stored → w' key = some stored
  added : ∀ key stored, w' key = some stored → w key = some stored ∨
    ∃ c ∈ desired, c.metadata.key = key ∧ Admitted defaults (withLabel c) stored.1
  present : ∀ c ∈ desired, w' c.metadata.key ≠ none

variable {chart : HelmChart} {rest : List HelmChart} {w w' : Charts}

theorem Provisioned.cons {defaults : HelmChartSpec → HelmChartSpec}
    (h : Provisioned defaults rest w w') (hpresent : w chart.metadata.key ≠ none) :
    Provisioned defaults (chart :: rest) w w' := by
  refine ⟨h.kept, fun key stored hstored => ?_, fun c hc => ?_⟩
  · rcases h.added key stored hstored with hold | ⟨c, hc, hnew⟩
    · exact Or.inl hold
    · exact Or.inr ⟨c, List.mem_cons_of_mem _ hc, hnew⟩
  · rcases List.mem_cons.mp hc with rfl | hc
    · obtain ⟨stored, hstored⟩ := Option.ne_none_iff_exists'.mp hpresent
      rw [h.kept _ stored hstored]
      exact Option.some_ne_none stored
    · exact h.present c hc

theorem Provisioned.create {defaults : HelmChartSpec → HelmChartSpec}
    {stored : ChartAt chart.metadata.key} (hfree : w chart.metadata.key = none)
    (hadmitted : Admitted defaults (withLabel chart) stored.1)
    (h : Provisioned defaults rest (update w chart.metadata.key (some stored)) w') :
    Provisioned defaults (chart :: rest) w w' := by
  have hcons : Provisioned defaults (chart :: rest) _ w' := h.cons (by simp)
  refine ⟨fun key s hs => hcons.kept key s ?_, fun key s hs => ?_, hcons.present⟩
  · have hne : key ≠ chart.metadata.key := by
      rintro rfl
      rw [hfree] at hs
      cases hs
    rw [update_of_ne hne]
    exact hs
  · rcases hcons.added key s hs with hold | hnew
    · by_cases hkey : key = chart.metadata.key
      · subst hkey
        rw [update_self] at hold
        cases hold
        exact Or.inr ⟨chart, List.mem_cons_self, rfl, hadmitted⟩
      · rw [update_of_ne hkey] at hold
        exact Or.inl hold
    · exact Or.inr hnew

theorem provision_wp (defaults : HelmChartSpec → HelmChartSpec) (desired : List HelmChart)
    (w : Charts) : (provision desired).wp (server defaults)
      (fun r w' => r = .ok () → Provisioned defaults desired w w') w := by
  induction desired generalizing w with
  | nil =>
      exact fun _ => ⟨fun _ _ h => h, fun _ _ h => Or.inl h, fun _ hc => absurd hc List.not_mem_nil⟩
  | cons chart rest ih =>
      intro x w₁ hserve
      cases hserve with
      | createFails _ _ herr =>
          simp only [fatal, herr, reduceCtorEq, if_false, Prog.wp_ret]
          exact fun h => by cases h
      | found hstored =>
          refine (ih w).mono fun r w' h hr => (h hr).cons ?_
          exact fun hnone => Option.some_ne_none _ (hstored.symm.trans hnone)
      | created hfree hadmitted =>
          exact (ih _).mono fun r w' h hr => (h hr).create hfree hadmitted

/-! ## Deletion -/

/-- Nothing is stored, or it is about to be deleted. -/
def Gone (w : Charts) (key : NamespacedName) : Prop :=
  ∀ stored, w key = some stored → stored.1.metadata.deletionTimestamp.isSome = true

/-- After the second loop: the items that are not wanted are gone, and nothing else has changed. -/
structure Pruned (want : List NamespacedName) (items : List HelmChart) (w w' : Charts) : Prop where
  kept : ∀ key, (∀ c ∈ items, c.metadata.key = key → key ∈ want) → w' key = w key
  gone : ∀ c ∈ items, c.metadata.key ∉ want → Gone w' c.metadata.key
  mono : ∀ key, Gone w key → Gone w' key

theorem gone_of_none {key : NamespacedName} (h : w key = none) : Gone w key := by
  intro stored hstored
  rw [h] at hstored
  cases hstored

theorem gone_afterDelete {key : NamespacedName} (stored : ChartAt key) (now : Time) :
    Gone (update w key (afterDelete stored now)) key := by
  intro s hs
  rw [update_self, afterDelete, Option.ite_none_left_eq_some] at hs
  obtain ⟨-, hs⟩ := hs
  cases hs
  simp [marked]

theorem Pruned.skip {want : List NamespacedName} (h : Pruned want rest w w')
    (hwant : chart.metadata.key ∈ want) : Pruned want (chart :: rest) w w' := by
  refine ⟨fun key hkey => h.kept key fun c hc => hkey c (List.mem_cons_of_mem _ hc),
    fun c hc hnot => ?_, h.mono⟩
  rcases List.mem_cons.mp hc with rfl | hc
  · exact absurd hwant hnot
  · exact h.gone c hc hnot

/-- One round in which something is deleted. -/
theorem Pruned.delete {want : List NamespacedName} {w₁ : Charts}
    (hother : ∀ key, key ≠ chart.metadata.key → w₁ key = w key) (hgone : Gone w₁ chart.metadata.key)
    (hnot : chart.metadata.key ∉ want) (h : Pruned want rest w₁ w') :
    Pruned want (chart :: rest) w w' := by
  refine ⟨fun key hkey => ?_, fun c hc hc' => ?_, fun key hkey => ?_⟩
  · have hne : key ≠ chart.metadata.key := by
      rintro rfl
      exact hnot (hkey chart List.mem_cons_self rfl)
    rw [h.kept key fun c hc => hkey c (List.mem_cons_of_mem _ hc), hother key hne]
  · rcases List.mem_cons.mp hc with rfl | hc
    · exact h.mono _ hgone
    · exact h.gone c hc hc'
  · apply h.mono
    by_cases hne : key = chart.metadata.key
    · exact hne ▸ hgone
    · intro stored hstored
      rw [hother key hne] at hstored
      exact hkey stored hstored

theorem prune_wp (defaults : HelmChartSpec → HelmChartSpec) (want : List NamespacedName)
    (items : List HelmChart) (w : Charts) : (prune want items).wp (server defaults)
      (fun r w' => r = .ok () → Pruned want items w w') w := by
  induction items generalizing w with
  | nil => exact fun _ => ⟨fun _ _ => rfl, fun c hc => absurd hc List.not_mem_nil, fun _ h => h⟩
  | cons chart rest ih =>
      rw [prune]
      split
      · next hwant => exact (ih w).mono fun r w' h hr => (h hr).skip hwant
      next hnot =>
      intro x w₁ hserve
      cases hserve with
      | deleteFails _ _ herr =>
          simp only [fatal, herr, reduceCtorEq, if_false, Prog.wp_ret]
          exact fun h => by cases h
      | absent hfree =>
          exact (ih w).mono fun r w' h hr =>
            (h hr).delete (fun _ _ => rfl) (gone_of_none hfree) hnot
      | deleted now hstored =>
          exact (ih _).mono fun r w' h hr =>
            (h hr).delete (fun key hne => update_of_ne hne _ _) (gone_afterDelete _ now) hnot

/-! ## Convergence -/

/-- The stored charts are the wanted ones: a wanted chart that is not someone else's is stored with
its specification, a labelled chart that is not wanted is gone, and others' charts are untouched. -/
structure Converged (defaults : HelmChartSpec → HelmChartSpec) (desired : List HelmChart)
    (w w' : Charts) : Prop where
  current : ∀ c ∈ desired, (∀ stored, w c.metadata.key = some stored → Labelled stored.1) →
    ∃ stored, w' c.metadata.key = some stored ∧ stored.1.spec = defaults c.spec
  stale : ∀ key stored, w' key = some stored → Labelled stored.1 →
    (∀ c ∈ desired, c.metadata.key ≠ key) → stored.1.metadata.deletionTimestamp.isSome = true
  foreign : ∀ key stored, w key = some stored → ¬ Labelled stored.1 → w' key = some stored

section Convergence

variable {defaults : HelmChartSpec → HelmChartSpec} {desired : List HelmChart} {w w₁ w' : Charts}

variable {items : List HelmChart}

theorem mem_of_stored (hitems : Lists w items) {key : NamespacedName} {stored : ChartAt key}
    (hstored : w key = some stored) (hlabel : Labelled stored.1) : stored.1 ∈ items := by
  obtain ⟨c, rfl⟩ := stored
  exact (hitems c).mpr ⟨⟨_, hstored, rfl⟩, hlabel⟩

theorem labelled_of_mem (hitems : Lists w items) {c : HelmChart} (hc : c ∈ items)
    {stored : ChartAt c.metadata.key} (hstored : w c.metadata.key = some stored) :
    Labelled stored.1 := by
  obtain ⟨⟨stored', hstored', heq⟩, hlabel⟩ := (hitems c).mp hc
  rw [hstored] at hstored'
  cases hstored'
  rw [heq]
  exact hlabel

theorem Pruned.wanted (h : Pruned (desired.map fun c => c.metadata.key) items w₁ w') {c : HelmChart}
    (hc : c ∈ desired) : w' c.metadata.key = w₁ c.metadata.key :=
  h.kept _ fun _ _ _ => List.mem_map.mpr ⟨c, hc, rfl⟩

/-- The two loops lead to the wanted charts exactly if those that were there had the wanted
specification. -/
theorem converged_iff_of_loops (hnodup : (desired.map fun c => c.metadata.name).Nodup)
    (hprovisioned : Provisioned defaults desired w w₁) (hitems : Lists w₁ items)
    (hpruned : Pruned (desired.map fun c => c.metadata.key) items w₁ w') :
    Converged defaults desired w w' ↔ ∀ c ∈ desired, ∀ stored, w c.metadata.key = some stored →
      Labelled stored.1 → stored.1.spec = defaults c.spec := by
  constructor
  · intro hconverged c hc stored hstored hlabel
    have hkept := (hpruned.wanted hc).trans (hprovisioned.kept _ stored hstored)
    obtain ⟨stored', hstored', hspec⟩ := hconverged.current c hc fun s hs => by
      rw [hstored] at hs
      cases hs
      exact hlabel
    rw [hkept] at hstored'
    cases hstored'
    exact hspec
  · intro hspecs
    refine ⟨fun c hc hlabels => ?_, fun key stored hstored hlabel hunwanted => ?_,
      fun key stored hstored hlabel => ?_⟩
    · obtain ⟨stored, hstored⟩ := Option.ne_none_iff_exists'.mp (hprovisioned.present c hc)
      refine ⟨stored, (hpruned.wanted hc).trans hstored, ?_⟩
      rcases hprovisioned.added _ stored hstored with hold | ⟨c', hc', hkey, hadmitted⟩
      · exact hspecs c hc stored hold (hlabels stored hold)
      · -- no other chart has the key
        have hname : c'.metadata.name = c.metadata.name := congrArg NamespacedName.name hkey
        have heq : c' = c := List.inj_on_of_nodup_map hnodup hc' hc hname
        subst heq
        exact hadmitted.spec
    · by_contra hundeleted
      have hkept : ∀ c ∈ items, c.metadata.key = key → key ∈ desired.map fun c => c.metadata.key := by
        intro c hc hkey
        by_contra hnot
        subst hkey
        exact hundeleted (hpruned.gone c hc hnot stored hstored)
      rw [hpruned.kept key hkept] at hstored
      have hmem := hkept stored.1 (mem_of_stored hitems hstored hlabel) stored.2
      obtain ⟨c, hc, hkey⟩ := List.mem_map.mp hmem
      exact hunwanted c hc hkey
    · have hthere := hprovisioned.kept key stored hstored
      rw [hpruned.kept key fun c hc hkey => ?_, hthere]
      subst hkey
      exact absurd (labelled_of_mem hitems hc hthere) hlabel

theorem install_wp (hnodup : (desired.map fun c => c.metadata.name).Nodup) :
    (install desired).wp (server defaults) (fun r w' => r = .ok () →
      (Converged defaults desired w w' ↔ ∀ c ∈ desired, ∀ stored, w c.metadata.key = some stored →
        Labelled stored.1 → stored.1.spec = defaults c.spec)) w := by
  rw [install, Prog.wp_bind]
  refine (provision_wp defaults desired w).mono fun r w₁ hprovisioned => ?_
  cases r with
  | error err => exact fun h => by cases h
  | ok u =>
      intro x w₂ hserve
      cases hserve with
      | listFails err _ => exact fun h => by cases h
      | listed hitems =>
          exact (prune_wp defaults _ _ w₁).mono fun r w' hpruned hr =>
            converged_iff_of_loops hnodup (hprovisioned rfl) hitems (hpruned hr)

/-- **Convergence of the addons.** After every call of `Start` that returns nil, whatever was stored
before: the stored charts are the wanted ones exactly if every labelled chart that was there and is
wanted had the wanted specification already. -/
theorem converged_iff {isPrint : Char → Bool} {ob : GoMap.RangeOrder BuildInChart}
    {od : GoMap.RangeOrder ControlPlane.AddonChartSpec} {runtime : ControlPlane.Runtime}
    {t : List (Called sig)}
    (hrun : Exec (server defaults) (start isPrint ob od runtime) w t (.ok ()) w') :
    Converged defaults (consolidateAddons isPrint ob od runtime) w w' ↔
      ∀ c ∈ consolidateAddons isPrint ob od runtime, ∀ stored, w c.metadata.key = some stored →
        Labelled stored.1 → stored.1.spec = defaults c.spec := by
  obtain ⟨x, w₁, t₁, hserve, -, hrest⟩ := Exec.call_inv hrun
  cases hserve with
  | elected x _ =>
      cases x with
      | error err =>
          obtain ⟨-, h, -⟩ := Exec.ret_inv hrest
          cases h
      | ok u => exact hrest.wp (install_wp (nodup_names_consolidateAddons ob od)) rfl

end Convergence

/-! ## A cluster that has the charts -/

section Settled

variable (defaults : HelmChartSpec → HelmChartSpec) {w : Charts}

theorem exec_provision_found {desired : List HelmChart} (h : ∀ c ∈ desired, w c.metadata.key ≠ none) :
    ∃ t, Exec (server defaults) (provision desired) w t (.ok ()) w := by
  induction desired with
  | nil => exact ⟨[], .ret _ w⟩
  | cons chart rest ih =>
      obtain ⟨t, ht⟩ := ih fun c hc => h c (List.mem_cons_of_mem _ hc)
      obtain ⟨stored, hstored⟩ := Option.ne_none_iff_exists'.mp (h chart List.mem_cons_self)
      exact ⟨_, .call (Serves.found (o := withLabel chart) hstored) ht⟩

theorem exec_prune_wanted {want : List NamespacedName} {items : List HelmChart}
    (h : ∀ c ∈ items, c.metadata.key ∈ want) :
    ∃ t, Exec (server defaults) (prune want items) w t (.ok ()) w := by
  induction items with
  | nil => exact ⟨[], .ret _ w⟩
  | cons chart rest ih =>
      rw [prune, if_pos (h chart List.mem_cons_self)]
      exact ih fun c hc => h c (List.mem_cons_of_mem _ hc)

/-- `Start` changes nothing if its charts are there, with whatever specification, and no others
have the label. -/
theorem exec_start_settled {isPrint : Char → Bool} {ob : GoMap.RangeOrder BuildInChart}
    {od : GoMap.RangeOrder ControlPlane.AddonChartSpec} {runtime : ControlPlane.Runtime}
    {items : List HelmChart} (hitems : Lists w items)
    (hpresent : ∀ c ∈ consolidateAddons isPrint ob od runtime, w c.metadata.key ≠ none)
    (hwanted : ∀ c ∈ items,
      c.metadata.key ∈ (consolidateAddons isPrint ob od runtime).map fun c => c.metadata.key) :
    ∃ t, Exec (server defaults) (start isPrint ob od runtime) w t (.ok ()) w := by
  obtain ⟨t₁, ht₁⟩ := exec_provision_found defaults hpresent
  obtain ⟨t₂, ht₂⟩ := exec_prune_wanted defaults (w := w) hwanted
  exact ⟨_, .call (.elected (.ok ()) w) (ht₁.bind (.call (.listed hitems) ht₂))⟩

end Settled

section Samples

def metricsKey : NamespacedName := ⟨"kube-system", "metrics"⟩

def metricsSpec (version : String) : HelmChartSpec where
  chart := { name := "metrics", version := version, repo := "charts" }

/-- A Runtime without the charts that come with the control plane and with one of its own. -/
def sampleRuntime : ControlPlane.Runtime where
  metadata := { name := "tenant", ns := "default" }
  spec := {
    cluster := {
      controlPlaneExternalEndpoint := { apiServer := ⟨"api", 6443⟩, planeTunnel := ⟨"tunnel", 8443⟩ }
      addons := {
        image := ""
        charts := [{ name := "coredns", enabled := some false },
          { name := "flannel", enabled := some false },
          { name := "metrics", install := some (metricsSpec "2") }] } } }

/-- The chart is stored in one version. -/
def sampleChart (version : String) : ChartAt metricsKey where
  val := {
    metadata := {
      name := "metrics"
      ns := "kube-system"
      labels := (∅ : GoMap String).insert addonManagedByLabel addonLabelValue }
    spec := metricsSpec version }
  property := rfl

def sampleCharts (version : String) : Charts :=
  update (fun _ => none) metricsKey (some (sampleChart version))

theorem sample_desired : consolidateAddons (fun _ => true) .byKey .byKey sampleRuntime =
    [installedChart "metrics" (metricsSpec "2")] := by
  with_unfolding_all rfl

theorem sampleCharts_self (version : String) :
    sampleCharts version metricsKey = some (sampleChart version) :=
  update_self _ _ _

theorem eq_of_sampleCharts {version : String} {key : NamespacedName} {stored : ChartAt key}
    (h : sampleCharts version key = some stored) : stored.1 = (sampleChart version).1 := by
  by_cases hkey : key = metricsKey
  · subst hkey
    rw [sampleCharts_self] at h
    cases h
    rfl
  · rw [sampleCharts, update_of_ne hkey] at h
    cases h

theorem sampleChart_labelled (version : String) : Labelled (sampleChart version).1 := by
  simp [Labelled, sampleChart]

theorem sampleCharts_lists (version : String) :
    Lists (sampleCharts version) [(sampleChart version).1] := by
  intro c
  rw [List.mem_singleton]
  constructor
  · rintro rfl
    exact ⟨⟨sampleChart version, sampleCharts_self version, rfl⟩, sampleChart_labelled version⟩
  · rintro ⟨⟨stored, hstored, heq⟩, -⟩
    exact heq.symm.trans (eq_of_sampleCharts hstored)

theorem exec_start_sample (version : String) :
    ∃ t, Exec (server id) (start (fun _ => true) .byKey .byKey sampleRuntime) (sampleCharts version) t
      (.ok ()) (sampleCharts version) := by
  refine exec_start_settled id (sampleCharts_lists version) ?_ ?_
  · rw [sample_desired]
    intro c hc hnone
    rw [List.mem_singleton.mp hc] at hnone
    exact Option.some_ne_none _ ((sampleCharts_self version).symm.trans hnone)
  · rw [sample_desired]
    intro c hc
    rw [List.mem_singleton.mp hc]
    exact List.mem_singleton.mpr rfl

/-- The chart is there with the wanted specification. -/
theorem same_version_converged :
    ∃ t w', Exec (server id) (start (fun _ => true) .byKey .byKey sampleRuntime) (sampleCharts "2") t
        (.ok ()) w' ∧
      Converged id (consolidateAddons (fun _ => true) .byKey .byKey sampleRuntime) (sampleCharts "2")
        w' := by
  obtain ⟨t, hrun⟩ := exec_start_sample "2"
  refine ⟨t, _, hrun, (converged_iff hrun).mpr ?_⟩
  rw [sample_desired]
  intro c hc stored hstored _
  rw [eq_of_sampleCharts hstored, List.mem_singleton.mp hc]
  rfl

/-- The chart is there in an older version. `Start` succeeds and leaves it as it is. -/
theorem old_version_kept :
    ∃ t w', Exec (server id) (start (fun _ => true) .byKey .byKey sampleRuntime) (sampleCharts "1") t
        (.ok ()) w' ∧
      w' metricsKey = some (sampleChart "1") ∧
      ¬ Converged id (consolidateAddons (fun _ => true) .byKey .byKey sampleRuntime) (sampleCharts "1")
        w' := by
  obtain ⟨t, hrun⟩ := exec_start_sample "1"
  refine ⟨t, _, hrun, sampleCharts_self "1", fun hconverged => ?_⟩
  rw [sample_desired] at hconverged
  obtain ⟨stored, hstored, hspec⟩ := hconverged.current _ List.mem_cons_self fun stored hstored => by
    rw [eq_of_sampleCharts hstored]
    exact sampleChart_labelled "1"
  rw [eq_of_sampleCharts hstored] at hspec
  have hversion := congrArg (fun spec => spec.chart.version) hspec
  exact absurd hversion (by decide)

end Samples

end Heir.Controller.Addons
