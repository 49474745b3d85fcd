import Heir.Controller.Helm.World

set_option autoImplicit false

/-! # The permissions of different HelmCharts

HelmCharts live in namespaces, but a ClusterRoleBinding does not: its name is made from the name of
the HelmChart alone. Two HelmCharts of the same name in different namespaces share a binding, which
is only for the one that came first, and which goes with the one that is deleted first. If this does
not happen, every HelmChart with an install Job has its own binding (`bindings_isolated`).
-/

namespace Heir.Controller.Helm

open Heir.Core Heir.ClusterAgent Heir.Runtime Interact Function

/-! ## The property and the condition -/

/-- The ServiceAccount of the HelmChart, as a subject. -/
def ownSubject (key : NamespacedName) : Subject :=
  ⟨"ServiceAccount", serviceAccountName key.name, key.ns⟩

/-- The binding of each HelmChart is its own. -/
structure Isolated (s : State sig (Except Fault Unit) World) : Prop where
  /-- Where an install Job was created for a HelmChart that is not being deleted, there is the
  binding that it needs. -/
  granted : ∀ k c j, s.world.charts k = some c → c.1.metadata.deletionTimestamp = none →
    s.world.jobs (jobKeyOf k .install) = some j → j.origin.metadata.uid = c.1.metadata.uid →
    ∃ b, s.world.clusterRoleBindings (serviceAccountName k.name) = some b ∧
      b.subjects = [ownSubject k]
  /-- No other HelmChart has taken the name of the binding. -/
  own : ∀ k c b, s.world.charts k = some c →
    s.world.clusterRoleBindings (serviceAccountName k.name) = some b → b.subjects = [ownSubject k]
  /-- The pass of a HelmChart does not delete the binding of another one. -/
  kept : ∀ n cont c, s.running = some (.call (.deleteClusterRoleBinding n) cont) →
    s.world.fetched = some c → ∀ k t, s.world.charts k = some t → k ≠ c.metadata.key →
    n ≠ serviceAccountName k.name

/-- A HelmChart is created only where no other has its name, and no binding for another namespace is
left under that name. -/
def Separate (w : World) : Label sig (Except Fault Unit) World → Prop
  | .env w' => ∀ k, w.charts k = none → (w'.charts k).isSome = true →
      (∀ k', k'.name = k.name → w.charts k' = none) ∧
      ∀ b, w.clusterRoleBindings (serviceAccountName k.name) = some b → b.subjects = [ownSubject k]
  | _ => True

/-! ## Invariants -/

structure Bound (w : World) : Prop where
  distinct : ∀ k k' c c', w.charts k = some c → w.charts k' = some c' → k.name = k'.name → k = k'
  own : ∀ k c b, w.charts k = some c →
    w.clusterRoleBindings (serviceAccountName k.name) = some b → b.subjects = [ownSubject k]
  granted : ∀ k c j, w.charts k = some c → c.1.metadata.deletionTimestamp = none →
    w.jobs (jobKeyOf k .install) = some j → j.origin.metadata.uid = c.1.metadata.uid →
    (w.clusterRoleBindings (serviceAccountName k.name)).isSome = true
  chartUids : ∀ k c, w.charts k = some c → c.1.metadata.uid ∈ w.uids
  jobUids : ∀ k j, w.jobs k = some j → j.origin.metadata.uid ∈ w.uids

/-- The pass works on a copy that has the finalizer. -/
structure Working (c : HelmChart) (w : World) : Prop extends Bound w where
  present : Present c w
  finalizer : hasFinalizer c = true
  fetched : w.fetched = some c

/-- What holds in each phase of a pass. -/
def Granting : Phase → World → Prop
  | .waiting | .begun _ | .done | .failed => Bound
  | .fetched c => fun w => Bound w ∧ (hasFinalizer c = true → Working c w)
  | .accounted c | .found c _ => Working c
  | .bound c | .absent c => fun w => Working c w ∧
      (w.clusterRoleBindings (serviceAccountName c.metadata.name)).isSome = true
  | .torn c _ | .untorn c | .succeeded c | .clearing c | .unbound c | .cleared c => fun w =>
      Working c w ∧ c.metadata.deletionTimestamp.isSome = true

/-- HelmCharts and Jobs may have changed or gone, but none is new, and the bindings are the same. -/
structure NoneNew (w w' : World) : Prop where
  charts : ∀ k c', w'.charts k = some c' → ∃ c, w.charts k = some c ∧
    c'.1.metadata.uid = c.1.metadata.uid ∧
    (c'.1.metadata.deletionTimestamp = none → c.1.metadata.deletionTimestamp = none)
  jobs : ∀ k j', w'.jobs k = some j' → ∃ j, w.jobs k = some j ∧ j'.origin = j.origin
  bindings : w'.clusterRoleBindings = w.clusterRoleBindings
  uids : w'.uids = w.uids

theorem NoneNew.of_eq {w w' : World} (hcharts : w'.charts = w.charts) (hjobs : w'.jobs = w.jobs)
    (hbindings : w'.clusterRoleBindings = w.clusterRoleBindings) (huids : w'.uids = w.uids) :
    NoneNew w w' where
  charts := fun _ c' hc' => ⟨c', hcharts ▸ hc', rfl, id⟩
  jobs := fun _ j' hj' => ⟨j', hjobs ▸ hj', rfl⟩
  bindings := hbindings
  uids := huids

theorem NoneNew.of_change {w w' : World} (hch : Change w w') : NoneNew w w' where
  charts := fun _ _ hc' => by
    obtain ⟨c, hc, hnew⟩ := hch.chart hc'
    exact ⟨c, hc, hnew.uid, hnew.live⟩
  jobs := fun _ _ hj' => by
    obtain ⟨j, hj, horigin, -⟩ := hch.noNewJobs _ _ hj'
    exact ⟨j, hj, horigin⟩
  bindings := hch.clusterRoleBindings_eq
  uids := hch.uids_eq

theorem Bound.mono {w w' : World} (h : Bound w) (hw : NoneNew w w') : Bound w' where
  distinct := fun k k' c c' hc hc' hname => by
    obtain ⟨d, hd, -⟩ := hw.charts k c hc
    obtain ⟨d', hd', -⟩ := hw.charts k' c' hc'
    exact h.distinct k k' d d' hd hd' hname
  own := fun k c b hc hb => by
    obtain ⟨d, hd, -⟩ := hw.charts k c hc
    rw [hw.bindings] at hb
    exact h.own k d b hd hb
  granted := fun k c j hc hlive hj huid => by
    obtain ⟨d, hd, huid', hlive'⟩ := hw.charts k c hc
    obtain ⟨i, hi, horigin⟩ := hw.jobs _ j hj
    rw [hw.bindings]
    refine h.granted k d i hd (hlive' hlive) hi ?_
    rw [← horigin, huid, huid']
  chartUids := fun k c hc => by
    obtain ⟨d, hd, huid, -⟩ := hw.charts k c hc
    rw [huid, hw.uids]
    exact h.chartUids k d hd
  jobUids := fun k j hj => by
    obtain ⟨i, hi, horigin⟩ := hw.jobs k j hj
    rw [horigin, hw.uids]
    exact h.jobUids k i hi

/-! ## Acts of others -/

section Outside

variable {w w' : World}

theorem Bound.created {key : NamespacedName} {uid : String} {spec : HelmChartSpec} (h : Bound w)
    (hnone : w.charts key = none) (huid : uid ∉ w.uids)
    (hnames : ∀ k', k'.name = key.name → w.charts k' = none)
    (hbinding : ∀ b, w.clusterRoleBindings (serviceAccountName key.name) = some b →
      b.subjects = [ownSubject key]) {entries : List Entry} :
    Bound { putChart w (some (newHelmChart key uid (w.version + 1) spec)) entries with
      uids := uid :: w.uids } := by
  -- a HelmChart that is there now is the new one, or it was there before
  have hcases : ∀ k c, update w.charts key (some (newHelmChart key uid (w.version + 1) spec)) k =
      some c → (k = key ∧ c.1.metadata.uid = uid) ∨ (k ≠ key ∧ w.charts k = some c) := by
    intro k c hc
    by_cases hk : k = key
    · subst hk
      rw [update_self] at hc
      cases hc
      exact Or.inl ⟨rfl, rfl⟩
    · rw [update_of_ne hk] at hc
      exact Or.inr ⟨hk, hc⟩
  refine ⟨fun k k' c c' hc hc' hname => ?_, fun k c b hc hb => ?_, fun k c j hc hlive hj hj' => ?_,
    fun k c hc => ?_, fun k j hj => List.mem_cons_of_mem _ (h.jobUids k j hj)⟩
  · rcases hcases k c hc with ⟨rfl, -⟩ | ⟨-, hold⟩ <;>
      rcases hcases k' c' hc' with ⟨rfl, -⟩ | ⟨-, hold'⟩
    · rfl
    · rw [hnames k' hname.symm] at hold'
      cases hold'
    · rw [hnames k hname] at hold
      cases hold
    · exact h.distinct k k' c c' hold hold' hname
  · rcases hcases k c hc with ⟨rfl, -⟩ | ⟨-, hold⟩
    · exact hbinding b hb
    · exact h.own k c b hold hb
  · rcases hcases k c hc with ⟨rfl, hc'⟩ | ⟨-, hold⟩
    · -- no Job was generated from an object that did not exist
      have hmem := h.jobUids _ j hj
      rw [hj', hc'] at hmem
      exact absurd hmem huid
    · exact h.granted k c j hold hlive hj hj'
  · rcases hcases k c hc with ⟨-, hc'⟩ | ⟨-, hold⟩
    · exact hc' ▸ List.mem_cons_self ..
    · exact List.mem_cons_of_mem _ (h.chartUids k c hold)

theorem Bound.outside (h : Bound w) (ho : Outside w w') (hsep : Separate w (.env w')) :
    Bound w' := by
  cases ho with
  | change hch => exact h.mono (.of_change hch)
  | @created key uid spec hnone huid =>
      obtain ⟨hnames, hbinding⟩ := hsep key hnone (by simp [putChart])
      exact h.created hnone huid hnames hbinding

theorem Working.outside {c : HelmChart} (h : Working c w) (ho : Outside w w')
    (hsep : Separate w (.env w')) : Working c w' :=
  ⟨h.toBound.outside ho hsep, h.present.outside h.finalizer ho, h.finalizer,
    ho.fetched_eq.trans h.fetched⟩

theorem granting_outside {ph : Phase} (h : Granting ph w) (ho : Outside w w')
    (hsep : Separate w (.env w')) : Granting ph w' := by
  cases ph with
  | waiting | begun k | done | failed => exact Bound.outside h ho hsep
  | fetched c => exact ⟨h.1.outside ho hsep, fun hfin => (h.2 hfin).outside ho hsep⟩
  | accounted c | found c job => exact Working.outside h ho hsep
  | bound c | absent c =>
      refine ⟨h.1.outside ho hsep, ?_⟩
      rw [ho.clusterRoleBindings_eq]
      exact h.2
  | _ =>
      exact ⟨h.1.outside ho hsep, h.2⟩

end Outside

/-! ## Steps of a pass -/

section Pass

variable {w w' : World} {c : HelmChart}

theorem NoneNew.of_same (hw : Same w w') : NoneNew w w' :=
  .of_eq hw.charts hw.jobs hw.bindings hw.uids

theorem NoneNew.same {w'' : World} (h : NoneNew w w') (hw : Same w' w'') : NoneNew w w'' where
  charts := fun k c hc => h.charts k c (hw.charts ▸ hc)
  jobs := fun k j hj => h.jobs k j (hw.jobs ▸ hj)
  bindings := hw.bindings.trans h.bindings
  uids := hw.uids.trans h.uids

theorem Working.same (h : Working c w) (hw : Same w w') : Working c w' where
  toBound := h.toBound.mono (.of_same hw)
  present := by
    rw [Present, hw.charts]
    exact h.present
  finalizer := h.finalizer
  fetched := hw.fetched.trans h.fetched

theorem Granting.bound {ph : Phase} (h : Granting ph w) : Bound w := by
  cases ph with
  | waiting | begun _ | done | failed => exact h
  | fetched c => exact h.1
  | accounted c | found c job => exact Working.toBound h
  | _ => exact h.1.toBound

theorem Granting.failed {ph : Phase} (h : Granting ph w) (hw : Same w w') : Bound w' :=
  h.bound.mono (.of_same hw)

theorem granting_fetch {key : NamespacedName} (h : Bound w)
    (hs : server (.getHelmChart key) w (.ok c) w') : Granting (.fetched c) w' := by
  rcases server_getHelmChart hs with ⟨⟨d, rfl⟩, hstored, hx, rfl⟩ | ⟨⟨e, hx⟩, -⟩
  · cases hx
    have hbound : Bound { w with fetched := some d } := h.mono (.of_eq rfl rfl rfl rfl)
    exact ⟨hbound, fun hfin => ⟨hbound, ⟨_, hstored, .refl _⟩, hfin, rfl⟩⟩
  · cases hx

/-- An update changes a HelmChart that is there, or removes it. -/
theorem NoneNew.of_update {key : NamespacedName} {s : ChartAt key} {s' : Option (ChartAt key)}
    {version : Nat} (hs : w.charts key = some s)
    (hs' : ∀ t, s' = some t → t.1.metadata.uid = s.1.metadata.uid ∧
      t.1.metadata.deletionTimestamp = s.1.metadata.deletionTimestamp) :
    NoneNew w { w with charts := update w.charts key s', version := version } where
  charts := fun k t ht => by
    dsimp only at ht
    by_cases hk : k = key
    · subst hk
      rw [update_self] at ht
      obtain ⟨huid, hdel⟩ := hs' t ht
      exact ⟨s, hs, huid, fun hlive => hdel ▸ hlive⟩
    · rw [update_of_ne hk] at ht
      exact ⟨t, ht, rfl, id⟩
  jobs := fun _ j hj => ⟨j, hj, rfl⟩
  bindings := rfl
  uids := rfl

theorem noneNew_updateHelmChart {o : HelmChart} {x : Except GoError HelmChart}
    (hs : server (.updateHelmChart o) w x w') : NoneNew w w' := by
  rcases server_updateHelmChart hs with ⟨s, s', hstored, -, hupd, hw⟩ | rfl
  · refine NoneNew.same (.of_update hstored fun t ht => ?_) hw
    split at ht
    · cases ht
    · cases ht
      exact ⟨hupd.uid, hupd.deletion⟩
  · exact .of_same (.refuse w)

theorem noneNew_status {o : HelmChart} {x : Except GoError HelmChart}
    (hs : server (.updateHelmChartStatus o) w x w') : NoneNew w w' := by
  rcases server_status hs with ⟨s, s', hstored, -, hupd, hw⟩ | rfl
  · refine NoneNew.same (.of_update hstored fun t ht => ?_) hw
    cases ht
    rw [hupd]
    exact ⟨rfl, rfl⟩
  · exact .of_same (.refuse w)

theorem noneNew_deleteJob {key : NamespacedName} {x : Except GoError Unit}
    (hs : server (.deleteJob key) w x w') : NoneNew w w' := by
  rcases server_deleteJob hs with hw | rfl
  · have herased : NoneNew w { w with jobs := update w.jobs key none } :=
      ⟨fun _ t ht => ⟨t, ht, rfl, id⟩, fun k j hj => ⟨j, jobs_of_erase hj, rfl⟩, rfl, rfl⟩
    exact herased.same hw
  · exact .of_same (.refuse w)

/-- A HelmChart of the same name as the one the pass works on is that one. -/
theorem Working.unique (h : Working c w) {k : NamespacedName} {t : ChartAt k}
    (ht : w.charts k = some t) (hname : k.name = c.metadata.name) : k = c.metadata.key := by
  obtain ⟨s, hs, -⟩ := h.present
  exact h.distinct k _ t s ht hs hname

/-- Bindings are created by the pass of the HelmChart they are for. -/
theorem Working.bind (h : Working c w) :
    Working c { w with
      clusterRoleBindings := update w.clusterRoleBindings (serviceAccountName c.metadata.name)
        (some (generateRBAC c).2) } where
  distinct := h.distinct
  own := fun k t b ht hb => by
    dsimp only at hb
    by_cases hname : k.name = c.metadata.name
    · rw [hname, update_self] at hb
      cases hb
      rw [h.unique ht hname]
      rfl
    · rw [update_of_ne fun heq => hname (serviceAccountName_inj heq)] at hb
      exact h.own k t b ht hb
  granted := fun k t j ht hlive hj huid => by
    have hbefore := h.granted k t j ht hlive hj huid
    dsimp only
    by_cases hname : serviceAccountName k.name = serviceAccountName c.metadata.name
    · rw [hname, update_self]
      rfl
    · rwa [update_of_ne hname]
  chartUids := h.chartUids
  jobUids := h.jobUids
  present := h.present
  finalizer := h.finalizer
  fetched := h.fetched

theorem Working.unbind (h : Working c w) (hdel : c.metadata.deletionTimestamp.isSome = true) :
    Working c { w with
      clusterRoleBindings := update w.clusterRoleBindings (serviceAccountName c.metadata.name)
        none } where
  distinct := h.distinct
  own := fun k t b ht hb => by
    dsimp only at hb
    by_cases hname : serviceAccountName k.name = serviceAccountName c.metadata.name
    · rw [hname, update_self] at hb
      cases hb
    · rw [update_of_ne hname] at hb
      exact h.own k t b ht hb
  granted := fun k t j ht hlive hj huid => by
    dsimp only
    by_cases hname : k.name = c.metadata.name
    · obtain rfl := h.unique ht hname
      obtain ⟨s, hs, hnew⟩ := h.present
      rw [hs] at ht
      cases ht
      have hgone := hnew.deletion hdel
      rw [hlive] at hgone
      cases hgone
    · rw [update_of_ne fun heq => hname (serviceAccountName_inj heq)]
      exact h.granted k t j ht hlive hj huid
  chartUids := h.chartUids
  jobUids := h.jobUids
  present := h.present
  finalizer := h.finalizer
  fetched := h.fetched

/-- Jobs are created by the pass of their HelmChart, an install Job after its binding. -/
theorem Working.createJob {operation : JobOperation} {job : Job} {x : Except GoError Unit}
    (h : Working c w) (hfrom : GeneratedFrom c operation job)
    (hbinding : operation = .install →
      (w.clusterRoleBindings (serviceAccountName c.metadata.name)).isSome = true)
    (hs : server (.createJob job operation c) w x w') : Working c w' := by
  rcases server_createJob hs with ⟨answered, -, hw⟩ | ⟨-, rfl⟩ | ⟨-, rfl⟩
  · refine Working.same ?_ hw
    have hcases : ∀ k j, update w.jobs job.metadata.key (some ⟨job, operation, c, answered⟩) k = some j →
        (k = jobKeyOf c.metadata.key operation ∧ j.origin = c) ∨ w.jobs k = some j := by
      intro k j hj
      by_cases hk : k = job.metadata.key
      · subst hk
        rw [update_self] at hj
        cases hj
        exact Or.inl ⟨hfrom.key, rfl⟩
      · rw [update_of_ne hk] at hj
        exact Or.inr hj
    refine ⟨⟨h.distinct, h.own, fun k t j ht hlive hj huid => ?_, h.chartUids, fun k j hj => ?_⟩,
      h.present, h.finalizer, h.fetched⟩
    · rcases hcases _ j hj with ⟨hk, -⟩ | hold
      · obtain ⟨hname, hop⟩ := jobName_inj (congrArg NamespacedName.name hk)
        rw [show k.name = c.metadata.name from hname]
        exact hbinding hop.symm
      · exact h.granted k t j ht hlive hold huid
    · rcases hcases k j hj with ⟨-, horigin⟩ | hold
      · obtain ⟨s, hs, hnew⟩ := h.present
        rw [horigin, ← hnew.uid]
        exact h.chartUids _ s hs
      · exact h.jobUids k j hold
  · exact h
  · exact h.same (.refuse w)

theorem granting_skip {ph ph' : Phase} (hskip : Skip ph ph') (h : Granting ph w) :
    Granting ph' w := by
  cases hskip with
  | released _ _ | leave _ _ | running _ _ => exact h.bound
  | ended _ => exact h

/-- **Every call of a pass keeps the bindings apart.** -/
theorem granting_move {ph ph' : Phase} {op : Call} {x : op.Answer} (hmove : Move ph op x ph')
    (h : Granting ph w) (hs : server op w x w') : Granting ph' w' := by
  cases hmove with
  | take k =>
      obtain rfl := server_next hs
      exact h
  | fetch c => exact granting_fetch h hs
  | fetchGone _ | fetchFailed _ _ => exact h.failed (same_getHelmChart hs)
  | adopt _ _ _ | adoptFailed _ _ => exact h.bound.mono (noneNew_updateHelmChart hs)
  | account _ hactive _ => exact (h.2 hactive.2).same (same_createServiceAccount hs)
  | accountFailed _ _ _ => exact h.failed (same_createServiceAccount hs)
  | bind hx =>
      rcases server_createClusterRoleBinding hs with hw | ⟨⟨b, hb⟩, rfl⟩ | ⟨⟨e, rfl, he⟩, -⟩
      · exact ⟨Working.same h.bind hw, by rw [hw.bindings]; simp [generateRBAC]⟩
      · exact ⟨h, Option.isSome_iff_exists.mpr ⟨b, hb⟩⟩
      · simp [failedUnless, he] at hx
  | bindFailed c e =>
      rcases server_createClusterRoleBinding hs with hw | ⟨-, rfl⟩ | ⟨-, rfl⟩
      · exact (Working.same (Working.bind h) hw).toBound
      · exact h.bound
      · exact h.failed (.refuse w)
  | find c job =>
      obtain ⟨rfl, -⟩ := lookup_ok hs
      exact h.1
  | miss he =>
      obtain ⟨rfl, -⟩ := lookup_notFound hs he
      exact h
  | findFailed _ _ => exact h.failed (same_getJob hs)
  | install hfrom _ | installFailed _ hfrom =>
      exact (h.1.createJob hfrom (fun _ => h.2) hs).toBound
  | renew _ _ | renewFailed _ _ => exact h.bound.mono (noneNew_deleteJob hs)
  | report _ _ _ | reportFailed _ _ _ => exact h.bound.mono (noneNew_status hs)
  | findTeardown job hleaving =>
      obtain ⟨rfl, -⟩ := lookup_ok hs
      exact ⟨h.2 hleaving.2, hleaving.1⟩
  | missTeardown hleaving he =>
      obtain ⟨rfl, -⟩ := lookup_notFound hs he
      exact ⟨h.2 hleaving.2, hleaving.1⟩
  | findTeardownFailed _ _ => exact h.failed (same_getJob hs)
  | findInstalled _ | findUninstalled _ =>
      obtain ⟨rfl, -⟩ := lookup_ok hs
      exact h
  | missInstalled he =>
      obtain ⟨rfl, -⟩ := lookup_notFound hs he
      exact h
  | findInstalledFailed _ _ => exact h.failed (same_getJob hs)
  | tearDown hfrom _ => exact (h.1.createJob hfrom (fun heq => by cases heq) hs).toBound
  | tearDownFailed hfrom _ => exact ⟨h.1.createJob hfrom (fun heq => by cases heq) hs, h.2⟩
  | unbind c x =>
      rcases server_deleteClusterRoleBinding hs with hw | rfl
      · exact ⟨(h.1.unbind h.2).same hw, h.2⟩
      · exact ⟨h.1.same (.refuse w), h.2⟩
  | dismiss c x => exact ⟨h.1.same (same_deleteServiceAccount hs), h.2⟩
  | release _ _ | releaseFailed _ _ => exact h.bound.mono (noneNew_updateHelmChart hs)

end Pass

/-! ## Whole runs -/

/-- The binding that a pass deletes is that of the HelmChart it works on. -/
theorem Granting.unbinds {ph : Phase} {w : World} (h : Granting ph w) {n : String}
    (hmoves : ∀ x, ∃ ph', Move ph (.deleteClusterRoleBinding n) x ph') :
    ∃ c, Working c w ∧ n = serviceAccountName c.metadata.name := by
  obtain ⟨ph', hmove⟩ := hmoves (.ok ())
  cases hmove with
  | unbind c _ => exact ⟨c, h.1, rfl⟩

/-- **HelmCharts have bindings of their own**: in every run from a state without HelmCharts and Jobs
in which no HelmChart is created while another has its name or a binding of that name is left from
another namespace, the bindings are kept apart in every state reached. -/
theorem bindings_isolated {w₀ : World} (hcharts : ∀ k, w₀.charts k = none)
    (hjobs : ∀ k, w₀.jobs k = none) {s : State sig (Except Fault Unit) World}
    (hrun : controller.toSystem.Run Separate ⟨w₀, none⟩ s) : Isolated s := by
  have hstable : ∀ ph, controller.toSystem.Stable Separate (Granting ph) :=
    fun ph w w' ⟨e, he⟩ hok hw => granting_outside hw (outside_of_act he) hok
  have hstart : Bound w₀ := by
    refine ⟨fun k _ _ _ h => ?_, fun k _ _ h => ?_, fun k _ _ h => ?_, fun k _ h => ?_,
      fun k _ h => ?_⟩
    all_goals first | (rw [hcharts k] at h; cases h) | (rw [hjobs k] at h; cases h)
  obtain ⟨hidle, hreturn, hcall⟩ := System.run_flow (I := Bound) controller_follows
    (hstable .done) hstable (fun _ _ _ hskip h => granting_skip hskip h)
    (fun _ _ _ _ _ _ hmove h hs _ => granting_move hmove h hs)
    (fun w hw => hw.mono (.of_eq rfl rfl rfl rfl))
    (fun a q w hq hw => by cases a <;> cases hq <;> exact hw) rfl hstart hrun
  have hbound : Bound s.world := by
    cases hrunning : s.running with
    | none => exact hidle hrunning
    | some p =>
        cases p with
        | ret a =>
            obtain ⟨q, -, hq⟩ := hreturn a hrunning
            exact hq.bound
        | call op k =>
            obtain ⟨q, -, hq⟩ := hcall op k hrunning
            exact hq.bound
  refine ⟨fun k c j hc hlive hj huid => ?_, hbound.own, fun n cont c hdel hfetched k t ht hk => ?_⟩
  · obtain ⟨b, hb⟩ := Option.isSome_iff_exists.mp (hbound.granted k c j hc hlive hj huid)
    exact ⟨b, hb, hbound.own k c b hc hb⟩
  · obtain ⟨q, hmoves, hq⟩ := hcall _ cont hdel
    obtain ⟨d, hwork, rfl⟩ := hq.unbinds hmoves
    rw [hwork.fetched] at hfetched
    cases hfetched
    intro hname
    exact hk (hwork.unique ht (serviceAccountName_inj hname).symm)

theorem Change.separate {w w' : World} (hch : Change w w') : Separate w (.env w') := by
  intro k hnone hsome
  obtain ⟨c', hc'⟩ := Option.isSome_iff_exists.mp hsome
  obtain ⟨c, hc, -⟩ := hch.chart hc'
  rw [hnone] at hc
  cases hc

/-- The HelmChart is not being deleted and has an install Job, and its binding is as given. -/
def jobWithBinding (key : NamespacedName) (binding : ClusterRoleBinding → Bool)
    (s : State sig (Except Fault Unit) World) : Bool :=
  match s.world.charts key, s.world.jobs (jobKeyOf key .install),
      s.world.clusterRoleBindings (serviceAccountName key.name) with
  | some c, some j, some b => c.1.metadata.deletionTimestamp.isNone &&
      decide (j.origin.metadata.uid = c.1.metadata.uid) && binding b
  | _, _, _ => false

theorem jobWithBinding_spec {key : NamespacedName} {binding : ClusterRoleBinding → Bool}
    {s : State sig (Except Fault Unit) World} (h : jobWithBinding key binding s = true) :
    ∃ c j b, s.world.charts key = some c ∧ c.1.metadata.deletionTimestamp = none ∧
      s.world.jobs (jobKeyOf key .install) = some j ∧
      j.origin.metadata.uid = c.1.metadata.uid ∧
      s.world.clusterRoleBindings (serviceAccountName key.name) = some b ∧ binding b = true := by
  rw [jobWithBinding] at h
  split at h
  · rename_i c j b hc hj hb
    simp only [Bool.and_eq_true, Option.isNone_iff_eq_none, decide_eq_true_eq] at h
    exact ⟨c, j, b, hc, h.1.1, hj, h.1.2, hb, h.2⟩
  · cases h

def otherKey : NamespacedName := ⟨"other", "db"⟩

/-- A second HelmChart of another name has been created. -/
def twoStart : State sig (Except Fault Unit) World :=
  let c := newHelmChart otherKey "uid-2" 2 sampleSpec
  ⟨{ putChart sampleStart.world (some c) [wroteEntry c.1] with uids := ["uid-2", "uid-1"] }, none⟩

theorem separate_other : Separate sampleStart.world (.env twoStart.world) := by
  intro k hnone hsome
  by_cases hk : k = otherKey
  · subst hk
    refine ⟨fun k' hname => ?_, fun b hb => by cases hb⟩
    have hne : k' ≠ sampleKey := by
      rintro rfl
      exact absurd hname (by decide)
    exact update_of_ne hne (some (newHelmChart sampleKey "uid-1" 1 sampleSpec)) (fun _ => none)
  · have hsame : twoStart.world.charts k = sampleStart.world.charts k := update_of_ne hk ..
    rw [hsame, hnone] at hsome
    cases hsome

/-- Two HelmCharts of different names in different namespaces get their bindings. -/
theorem two_charts_isolated :
    ∃ s, controller.toSystem.Run Separate ⟨emptyWorld, none⟩ s ∧ Isolated s ∧
      jobWithBinding sampleKey (fun b => b.subjects = [ownSubject sampleKey]) s = true ∧
      jobWithBinding otherKey (fun b => b.subjects = [ownSubject otherKey]) s = true := by
  have hcreate : controller.toSystem.Run Separate ⟨emptyWorld, none⟩ twoStart :=
    .step (.step .refl (.env ⟨.create sampleKey "uid-1" sampleSpec, create_sample⟩)
      fun _ _ _ => ⟨fun _ _ => rfl, fun b hb => by cases hb⟩)
      (.env ⟨.create otherKey "uid-2" sampleSpec, rfl⟩) separate_other
  obtain ⟨s, hrun, hs⟩ := Machine.exists_run (controller.restrict (fun e => ! e.creates))
    (fun _ _ => True) twoStart
    (servedPass sampleKey 2 ++ servedPass otherKey 2 ++ servedPass otherKey 5 ++ servedPass sampleKey 5)
    (fun s => jobWithBinding sampleKey (fun b => b.subjects = [ownSubject sampleKey]) s &&
      jobWithBinding otherKey (fun b => b.subjects = [ownSubject otherKey]) s) (by decide +kernel)
  rw [Bool.and_eq_true] at hs
  have hrun' : controller.toSystem.Run Separate ⟨emptyWorld, none⟩ s := by
    refine hcreate.trans (Machine.run_of_restrict (fun w l hl => ?_) (fun e w w' he hact => ?_) hrun)
    · cases l with
      | env w' => exact absurd rfl (hl w')
      | enter | call | leave => trivial
    · exact (change_of_act hact (by simpa using he)).separate
  exact ⟨s, hrun', bindings_isolated (fun _ => rfl) (fun _ => rfl) hrun', hs⟩

/-- **Two HelmCharts share a binding**: `web` is installed in the namespace `default`, then another
`web` in the namespace `other`. The second one has its install Job, but the binding of that name is
for the first one. -/
theorem binding_shared :
    ∃ s, controller.toSystem.Run (fun _ _ => True) ⟨emptyWorld, none⟩ s ∧ ¬ Isolated s := by
  obtain ⟨s, hrun, hs⟩ := Machine.exists_run controller (fun _ _ => True) ⟨emptyWorld, none⟩
    ([.env (.create sampleKey "uid-1" sampleSpec),
      .env (.create ⟨"other", "web"⟩ "uid-2" sampleSpec)] ++
      servedPass sampleKey 2 ++ servedPass sampleKey 5 ++
      servedPass ⟨"other", "web"⟩ 2 ++ servedPass ⟨"other", "web"⟩ 5)
    (jobWithBinding ⟨"other", "web"⟩ (fun b => b.subjects ≠ [ownSubject ⟨"other", "web"⟩]))
    (by decide +kernel)
  obtain ⟨c, j, b, hc, hlive, hj, huid, hb, hne⟩ := jobWithBinding_spec hs
  refine ⟨s, hrun, fun hiso => ?_⟩
  obtain ⟨b', hb', hsubjects⟩ := hiso.granted _ c j hc hlive hj huid
  rw [hb] at hb'
  cases hb'
  simp [hsubjects] at hne

end Heir.Controller.Helm
