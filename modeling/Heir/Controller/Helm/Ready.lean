import Heir.Controller.Helm.World

set_option autoImplicit false

/-! # What the Ready condition of a HelmChart says

The controller finds the install Job of a HelmChart by its name and compares the generation it was
generated from with the present one. Generations are counted anew for an object that is created
again under the same name, so the Job of a former object can pass for that of the present one until
the garbage collector has removed it. Apart from that, the Ready condition is right
(`ready_means_installed`).
-/

namespace Heir.Controller.Helm

open Heir.Core Heir.ClusterAgent Heir.Runtime Interact Function

/-! ## The property and the condition -/

/-- The Job is one that was generated from its origin, whatever its status is by now. -/
def Genuine (j : StoredJob) : Prop :=
  ∃ job, GeneratedFrom j.origin j.operation job ∧ j.job = { job with status := j.job.status }

/-- An install Job that was generated from the specification that the object had at that generation
has completed. -/
def InstalledAt (uid : String) (generation : Nat) (log : List Entry) : Prop :=
  ∃ key j, .ended key j ∈ log ∧ hasCondition j.job .complete = true ∧ Genuine j ∧
    j.operation = .install ∧ j.origin.metadata.uid = uid ∧
    .wrote uid generation j.origin.spec ∈ log

/-- What the status says is true. -/
def ReadySound (w : World) : Prop :=
  ∀ k c condition, w.charts k = some c → condition ∈ c.1.status.conditions →
    condition.type = typeReadyHelmChart → condition.status = .true →
    InstalledAt c.1.metadata.uid condition.observedGeneration w.log

/-- A Job that has completed and has the present generation was generated from the present object. -/
def OwnJob (w : World) : Label sig (Except Fault Unit) World → Prop
  | .call (.getJob k) (.ok job) => ∀ c, w.fetched = some c → k = jobKeyOf c.metadata.key .install →
      hasCondition job .complete = true →
      job.metadata.labels.getD observedGenerationLabel "" = toString c.metadata.generation →
      ∀ j, w.jobs k = some j → j.origin.metadata.uid = c.metadata.uid
  | _ => True

/-! ## Invariants -/

/-- What is known about each Job. -/
structure JobSound (log : List Entry) (key : NamespacedName) (j : StoredJob) : Prop where
  genuine : Genuine j
  named : key = jobKeyOf j.origin.metadata.key j.operation
  wrote : wroteEntry j.origin ∈ log
  ended : Finished j.job → .ended key j ∈ log

/-- What is known about each HelmChart. -/
structure ChartSound (log : List Entry) (version : Nat) (c : HelmChart) : Prop where
  version : c.metadata.resourceVersion ≤ version
  wrote : wroteEntry c ∈ log
  ready : ∀ condition ∈ c.status.conditions, condition.type = typeReadyHelmChart →
    condition.status = .true → InstalledAt c.metadata.uid condition.observedGeneration log

structure Sound (w : World) : Prop where
  charts : ∀ k c, w.charts k = some c → ChartSound w.log w.version c.1
  jobs : ∀ k j, w.jobs k = some j → JobSound w.log k j

/-- The pass works on the copy `c`: as long as its resource version is the stored one, it is what is
stored. -/
structure Current (c : HelmChart) (w : World) : Prop extends Sound w where
  fetched : w.fetched = some c
  version : c.metadata.resourceVersion ≤ w.version
  wrote : wroteEntry c ∈ w.log
  same : ∀ s, w.charts c.metadata.key = some s →
    s.1.metadata.resourceVersion = c.metadata.resourceVersion → s.1 = c

/-- What the pass knows about the install Job it has found. -/
def Evidence (c : HelmChart) (job : Job) (log : List Entry) : Prop :=
  ∃ k j, j.job = job ∧ j.operation = .install ∧ JobSound log k j ∧
    (hasCondition job .complete = true →
      job.metadata.labels.getD observedGenerationLabel "" = toString c.metadata.generation →
      j.origin.metadata.uid = c.metadata.uid)

/-- What holds in each phase of a pass. -/
def Reporting : Phase → World → Prop
  | .waiting | .begun _ | .done | .failed => Sound
  | .found c job => fun w => Current c w ∧ Evidence c job w.log
  | .fetched c | .accounted c | .bound c | .absent c | .torn c _ | .untorn c | .succeeded c
  | .clearing c | .unbound c | .cleared c => Current c

section Mono

variable {log log' : List Entry}

theorem InstalledAt.mono {uid : String} {generation : Nat} (h : InstalledAt uid generation log)
    (hlog : log ⊆ log') : InstalledAt uid generation log' := by
  obtain ⟨key, j, hended, hdone, hgen, hop, huid, hwrote⟩ := h
  exact ⟨key, j, hlog hended, hdone, hgen, hop, huid, hlog hwrote⟩

theorem JobSound.mono {k : NamespacedName} {j : StoredJob} (h : JobSound log k j)
    (hlog : log ⊆ log') : JobSound log' k j :=
  ⟨h.genuine, h.named, hlog h.wrote, fun hfin => hlog (h.ended hfin)⟩

theorem ChartSound.mono {version version' : Nat} {c : HelmChart} (h : ChartSound log version c)
    (hlog : log ⊆ log') (hversion : version ≤ version') : ChartSound log' version' c :=
  ⟨h.version.trans hversion, hlog h.wrote,
    fun condition hmem htype htrue => (h.ready condition hmem htype htrue).mono hlog⟩

theorem Evidence.mono {c : HelmChart} {job : Job} (h : Evidence c job log) (hlog : log ⊆ log') :
    Evidence c job log' := by
  obtain ⟨k, j, hjob, hop, hsound, huid⟩ := h
  exact ⟨k, j, hjob, hop, hsound.mono hlog, huid⟩

theorem ChartSound.next {version : Nat} {c c' : HelmChart} (h : ChartSound log version c)
    (hlog : log ⊆ log') (hversion : c'.metadata.resourceVersion = version + 1)
    (hwrote : wroteEntry c' ∈ log') (huid : c'.metadata.uid = c.metadata.uid)
    (hstatus : c'.status = c.status) : ChartSound log' (version + 1) c' := by
  refine ⟨hversion.le, hwrote, ?_⟩
  rw [hstatus, huid]
  exact fun condition hmem htype htrue => (h.ready condition hmem htype htrue).mono hlog

variable {w w' : World}

theorem Sound.mono (h : Sound w) (hcharts : ∀ k c, w'.charts k = some c → w.charts k = some c)
    (hjobs : ∀ k j, w'.jobs k = some j → w.jobs k = some j) (hlog : w.log ⊆ w'.log)
    (hversion : w.version ≤ w'.version) : Sound w' where
  charts := fun k c hc => (h.charts k c (hcharts k c hc)).mono hlog hversion
  jobs := fun k j hj => (h.jobs k j (hjobs k j hj)).mono hlog

end Mono

theorem Sound.update {w : World} {key : NamespacedName} {s' : Option (ChartAt key)}
    {entries : List Entry} (h : Sound w)
    (hs' : ∀ t, s' = some t → ChartSound (entries ++ w.log) (w.version + 1) t.1) :
    Sound (putChart w s' entries) where
  charts := fun k t ht => by
    dsimp only [putChart] at ht ⊢
    by_cases hk : k = key
    · subst hk
      rw [update_self] at ht
      exact hs' t ht
    · rw [update_of_ne hk] at ht
      exact (h.charts k t ht).mono (List.subset_append_right _ _) (Nat.le_succ _)
  jobs := fun k j hj => (h.jobs k j hj).mono (List.subset_append_right _ _)

theorem Sound.store {w : World} {key : NamespacedName} {s' : Option (ChartAt key)} (h : Sound w)
    (hs' : ∀ t, s' = some t → ChartSound w.log (w.version + 1) t.1) :
    Sound { w with charts := Function.update w.charts key s', version := w.version + 1 } := by
  show Sound (putChart w s' [])
  exact h.update hs'

theorem Sound.updateJob {w : World} {key : NamespacedName} {j' : StoredJob} {log : List Entry}
    (h : Sound w) (hlog : w.log ⊆ log) (hj' : JobSound log key j') :
    Sound { w with jobs := Function.update w.jobs key (some j'), log := log } where
  charts := fun k c hc => (h.charts k c hc).mono hlog le_rfl
  jobs := fun k j hj => by
    dsimp only at hj ⊢
    by_cases hk : k = key
    · subst hk
      rw [update_self] at hj
      cases hj
      exact hj'
    · rw [update_of_ne hk] at hj
      exact (h.jobs k j hj).mono hlog

/-! ## Acts of others -/

section Outside

variable {w w' : World}

theorem JobSound.withConditions {log log' : List Entry} {k : NamespacedName} {j : StoredJob}
    {conditions : List JobCondition} (h : JobSound log k j) (hlog : log ⊆ log')
    (hended : Finished (j.withConditions conditions).job →
      .ended k (j.withConditions conditions) ∈ log') :
    JobSound log' k (j.withConditions conditions) := by
  obtain ⟨job, hfrom, hjob⟩ := h.genuine
  refine ⟨⟨job, hfrom, ?_⟩, h.named, hlog h.wrote, hended⟩
  show { j.job with status.conditions := conditions } = _
  rw [hjob]
  rfl

theorem Sound.outside (h : Sound w) (ho : Outside w w') : Sound w' := by
  cases ho with
  | change hch =>
      cases hch with
      | @changed k c c' entries hc hnew hversion hentries =>
          refine h.update fun t ht => ?_
          cases ht
          refine (h.charts k c hc).next (List.subset_append_right _ _) hversion ?_ hnew.uid
            hnew.status
          rcases hentries with ⟨rfl, hspec, hgen⟩ | ⟨rfl, -⟩
          · rw [wroteEntry, hnew.uid, hgen, hspec]
            exact (h.charts k c hc).wrote
          · exact List.mem_cons_self ..
      | gone _ _ => exact h.update fun t ht => by cases ht
      | @progressed k j conditions hj _ hrun =>
          refine h.updateJob (List.Subset.refl _) ((h.jobs k j hj).withConditions
            (List.Subset.refl _) fun hfin => absurd hfin hrun)
      | @ended k j conditions hj _ _ _ =>
          refine h.updateJob (List.subset_cons_self _ _) ((h.jobs k j hj).withConditions
            (List.subset_cons_self _ _) fun _ => List.mem_cons_self ..)
      | @collected k j _ _ =>
          exact h.mono (fun _ _ hc => hc) (fun _ _ => jobs_of_erase) (List.Subset.refl _) le_rfl
      | accounts f =>
          exact h.mono (fun _ _ hc => hc) (fun _ _ hj => hj) (List.Subset.refl _) le_rfl
  | @created k uid spec _ _ =>
      have hnew : Sound (putChart w (some (newHelmChart k uid (w.version + 1) spec))
          [wroteEntry (newHelmChart k uid (w.version + 1) spec).1]) := by
        refine h.update fun t ht => ?_
        cases ht
        exact ⟨le_rfl, List.mem_cons_self .., fun _ hmem => by cases hmem⟩
      exact ⟨hnew.charts, hnew.jobs⟩

theorem Outside.log_subset (ho : Outside w w') : w.log ⊆ w'.log := by
  cases ho with
  | change hch =>
      cases hch with
      | changed | gone => exact List.subset_append_right _ _
      | ended => exact List.subset_cons_self _ _
      | progressed | collected | accounts => exact List.Subset.refl _
  | created _ _ => exact List.subset_append_right _ _

theorem Outside.version_le (ho : Outside w w') : w.version ≤ w'.version := by
  cases ho with
  | change hch =>
      cases hch with
      | changed | gone => exact Nat.le_succ _
      | _ => exact le_rfl
  | created _ _ => exact Nat.le_succ _

/-- A HelmChart that has not changed, or has a new resource version. -/
theorem Outside.chart_cases (ho : Outside w w') {k : NamespacedName} {s : ChartAt k}
    (hs : w'.charts k = some s) :
    w.charts k = some s ∨ s.1.metadata.resourceVersion = w.version + 1 := by
  have hput : ∀ {key : NamespacedName} {s' : Option (ChartAt key)}, update w.charts key s' k = some s →
      (∀ t, s' = some t → t.1.metadata.resourceVersion = w.version + 1) →
      w.charts k = some s ∨ s.1.metadata.resourceVersion = w.version + 1 := by
    intro key s' heq hv
    by_cases hk : k = key
    · subst hk
      rw [update_self] at heq
      exact Or.inr (hv s heq)
    · rw [update_of_ne hk] at heq
      exact Or.inl heq
  cases ho with
  | change hch =>
      cases hch with
      | changed _ _ hversion _ => exact hput hs fun t ht => by cases ht; exact hversion
      | gone => exact hput hs fun t ht => by cases ht
      | _ => exact Or.inl hs
  | created _ _ => exact hput hs fun t ht => by cases ht; rfl

theorem Current.outside {c : HelmChart} (h : Current c w) (ho : Outside w w') : Current c w' where
  toSound := h.toSound.outside ho
  fetched := ho.fetched_eq.trans h.fetched
  version := h.version.trans ho.version_le
  wrote := ho.log_subset h.wrote
  same := fun s hs hv => by
    rcases ho.chart_cases hs with hold | hnew
    · exact h.same s hold hv
    · -- the copy is older than any new version
      have hle := h.version
      rw [← hv, hnew] at hle
      exact absurd hle (Nat.not_succ_le_self _)

theorem reporting_outside {ph : Phase} (h : Reporting ph w) (ho : Outside w w') :
    Reporting ph w' := by
  cases ph with
  | waiting | begun _ | done | failed => exact Sound.outside h ho
  | found c job => exact ⟨h.1.outside ho, h.2.mono ho.log_subset⟩
  | _ => exact Current.outside h ho

end Outside

/-! ## Steps of a pass -/

section Pass

variable {w w' : World} {c : HelmChart}

theorem Sound.alike (h : Sound w) (hw : Alike w w') : Sound w' :=
  h.mono (fun _ _ hc => by rwa [hw.charts] at hc) (fun _ _ hj => by rwa [hw.jobs] at hj)
    hw.log_subset hw.version.ge

theorem Current.alike (h : Current c w) (hw : Alike w w') : Current c w' where
  toSound := h.toSound.alike hw
  fetched := hw.fetched.trans h.fetched
  version := h.version.trans hw.version.ge
  wrote := hw.log_subset h.wrote
  same := fun s hs => h.same s (by rwa [hw.charts] at hs)

theorem Reporting.sound {ph : Phase} (h : Reporting ph w) : Sound w := by
  cases ph with
  | waiting | begun _ | done | failed => exact h
  | found c job => exact h.1.toSound
  | _ => exact Current.toSound h

theorem current_fetch {key : NamespacedName} (h : Sound w)
    (hs : server (.getHelmChart key) w (.ok c) w') : Current c w' := by
  rcases server_getHelmChart hs with ⟨⟨d, rfl⟩, hstored, hx, rfl⟩ | ⟨⟨e, hx⟩, -⟩
  · cases hx
    have hchart := h.charts _ _ hstored
    refine ⟨⟨h.charts, h.jobs⟩, rfl, hchart.version, hchart.wrote, fun s hs _ => ?_⟩
    rw [show w.charts d.metadata.key = some s from hs] at hstored
    cases hstored
    rfl
  · cases hx

/-- The finalizers of the copy are written. Since its resource version is the stored one, nothing else
changes. -/
theorem Current.updateHelmChart {finalizers : List String} {x : Except GoError HelmChart}
    (h : Current c w)
    (hs : server (.updateHelmChart { c with metadata.finalizers := finalizers }) w x w') :
    Sound w' := by
  rcases server_updateHelmChart hs with ⟨s, s', hstored, hversion, hupd, hw⟩ | rfl
  · have hsame : s.1 = c := h.same s hstored hversion
    have hnext : ChartSound w.log (w.version + 1) s'.1 := by
      refine (h.charts _ s hstored).next (List.Subset.refl _) hupd.version ?_ hupd.uid hupd.status
      rw [wroteEntry, hupd.uid, hupd.generation, hupd.spec, hsame]
      exact h.wrote
    refine Sound.alike (h.toSound.store fun t ht => ?_) hw.toAlike
    split at ht
    · cases ht
    · cases ht
      exact hnext
  · exact h.toSound.alike (Same.refuse w).toAlike

theorem Current.createJob {operation : JobOperation} {job : Job} {x : Except GoError Unit}
    (h : Current c w) (hfrom : GeneratedFrom c operation job)
    (hs : server (.createJob job operation c) w x w') : Current c w' := by
  rcases server_createJob hs with ⟨answered, -, hw⟩ | ⟨-, rfl⟩ | ⟨-, rfl⟩
  · have hnew : Finished job → .ended job.metadata.key ⟨job, operation, c, answered⟩ ∈ w.log := by
      obtain ⟨hcomplete, hfailed⟩ := hfrom.conditions
      rintro (hdone | hdone)
      · exact absurd (hcomplete.symm.trans hdone) (by simp)
      · exact absurd (hfailed.symm.trans hdone) (by simp)
    have hstored : JobSound w.log job.metadata.key ⟨job, operation, c, answered⟩ :=
      ⟨⟨job, hfrom, rfl⟩, hfrom.key, h.wrote, hnew⟩
    have hsound := h.toSound.updateJob (List.Subset.refl _) hstored
    exact ⟨hsound.alike hw.toAlike, hw.fetched.trans h.fetched, h.version.trans hw.version.ge,
      hw.log_subset h.wrote, fun s hs => h.same s (by rwa [hw.charts] at hs)⟩
  · exact h
  · exact h.alike (Same.refuse w).toAlike

theorem Sound.deleteJob {key : NamespacedName} {x : Except GoError Unit} (h : Sound w)
    (hs : server (.deleteJob key) w x w') : Sound w' := by
  rcases server_deleteJob hs with hw | rfl
  · exact Sound.alike (w := { w with jobs := Function.update w.jobs key none })
      (h.mono (fun _ _ hc => hc) (fun _ _ => jobs_of_erase) (List.Subset.refl _) le_rfl) hw.toAlike
  · exact h.alike (Same.refuse w).toAlike

theorem Current.find {job : Job} (h : Current c w)
    (hs : server (.getJob (jobKey c .install)) w (.ok job) w')
    (hok : OwnJob w (.call (.getJob (jobKey c .install)) (.ok job))) :
    Reporting (.found c job) w' := by
  obtain ⟨rfl, j, hj, rfl⟩ := lookup_ok hs
  have hsound := h.jobs _ j hj
  obtain ⟨-, hop⟩ := jobName_inj (congrArg NamespacedName.name hsound.named)
  exact ⟨h, _, j, rfl, hop.symm, hsound,
    fun hdone hlabel => hok c h.fetched rfl hdone hlabel j hj⟩

theorem Genuine.label {j : StoredJob} (h : Genuine j) :
    j.job.metadata.labels.getD observedGenerationLabel "" =
      toString j.origin.metadata.generation := by
  obtain ⟨job, ⟨newJob, refs, hnew, rfl⟩, hjob⟩ := h
  cases hnew
  rw [hjob]
  simp

theorem toString_generation_inj {m n : Nat} (h : toString m = toString n) : m = n := by
  -- both are read back from the digits
  have hread := congrArg (Nat.ofDigitChars 10 · 0) (String.ofList_injective h)
  simpa only [Nat.ofDigitChars_ten_toDigits] using hread

theorem Evidence.installedAt {job : Job} {log : List Entry} {condition : Condition}
    (h : Evidence c job log) (hlabel : job.metadata.labels.getD observedGenerationLabel "" =
      toString c.metadata.generation) (hcondition : readyCondition c job = some condition)
    (htrue : condition.status = .true) :
    InstalledAt c.metadata.uid condition.observedGeneration log := by
  obtain ⟨k, j, rfl, hop, hsound, huid⟩ := h
  rw [readyCondition] at hcondition
  split at hcondition
  · rename_i hdone
    cases hcondition
    have hgen : j.origin.metadata.generation = c.metadata.generation :=
      toString_generation_inj (hsound.genuine.label.symm.trans hlabel)
    have huid' := huid hdone hlabel
    refine ⟨k, j, hsound.ended (Or.inl hdone), hdone, hsound.genuine, hop, huid', ?_⟩
    have hwrote := hsound.wrote
    rw [wroteEntry, huid', hgen] at hwrote
    exact hwrote
  · split at hcondition
    · cases hcondition
      cases htrue
    · cases hcondition

theorem Current.report {job : Job} {condition : Condition} {x : Except GoError HelmChart}
    (h : Current c w) (hev : Evidence c job w.log)
    (hlabel : job.metadata.labels.getD observedGenerationLabel "" =
      toString c.metadata.generation) (hcondition : readyCondition c job = some condition)
    (hs : server (.updateHelmChartStatus { c with
      status.conditions := setStatusCondition c.status.conditions condition }) w x w') :
    Sound w' := by
  rcases server_status hs with ⟨s, s', hstored, hversion, hs', hw⟩ | rfl
  · have hsame : s.1 = c := h.same s hstored hversion
    have hchart := h.charts _ s hstored
    rw [hsame] at hchart hs'
    refine Sound.alike (h.toSound.store fun t ht => ?_) hw.toAlike
    cases ht
    rw [hs']
    refine ⟨le_rfl, h.wrote, fun d hd htype htrue => ?_⟩
    rcases mem_setStatusCondition hd with rfl | hold
    · exact hev.installedAt hlabel hcondition htrue
    · exact hchart.ready d hold htype htrue
  · exact h.toSound.alike (Same.refuse w).toAlike

theorem reporting_skip {ph ph' : Phase} (hskip : Skip ph ph') (h : Reporting ph w) :
    Reporting ph' w := by
  cases hskip with
  | released _ _ | leave _ _ | running _ _ => exact h.sound
  | ended _ => exact h

/-- **Every call of a pass keeps the conditions right**, if a Job that passes for the present one is
one of the present object. -/
theorem reporting_move {ph ph' : Phase} {op : Call} {x : op.Answer} (hmove : Move ph op x ph')
    (h : Reporting ph w) (hs : server op w x w') (hok : OwnJob w (.call op x)) :
    Reporting ph' w' := by
  cases hmove with
  | take k =>
      obtain rfl := server_next hs
      exact h
  | fetch c => exact current_fetch h hs
  | fetchGone _ | fetchFailed _ _ => exact h.sound.alike (same_getHelmChart hs).toAlike
  | adopt _ _ _ | adoptFailed _ _ | release _ _ | releaseFailed _ _ =>
      exact Current.updateHelmChart h hs
  | account _ _ _ => exact Current.alike h (same_createServiceAccount hs).toAlike
  | accountFailed _ _ _ => exact h.sound.alike (same_createServiceAccount hs).toAlike
  | bind _ => exact Current.alike h (alike_createClusterRoleBinding hs)
  | bindFailed _ _ => exact h.sound.alike (alike_createClusterRoleBinding hs)
  | find c job => exact Current.find h hs hok
  | miss he | missTeardown _ he | missInstalled he =>
      obtain ⟨rfl, -⟩ := lookup_notFound hs he
      exact h
  | findFailed _ _ | findTeardownFailed _ _ | findInstalledFailed _ _ =>
      exact h.sound.alike (same_getJob hs).toAlike
  | install hfrom _ | installFailed _ hfrom | tearDown hfrom _ =>
      exact (Current.createJob h hfrom hs).toSound
  | renew _ _ | renewFailed _ _ => exact h.sound.deleteJob hs
  | report _ hlabel hcondition | reportFailed _ hlabel hcondition =>
      exact h.1.report h.2 hlabel hcondition hs
  | findTeardown _ _ | findInstalled _ | findUninstalled _ =>
      obtain ⟨rfl, -⟩ := lookup_ok hs
      exact h
  | tearDownFailed hfrom _ => exact Current.createJob h hfrom hs
  | unbind _ _ => exact Current.alike h (alike_deleteClusterRoleBinding hs)
  | dismiss _ _ => exact Current.alike h (same_deleteServiceAccount hs).toAlike

end Pass

/-! ## Whole runs -/

/-- **Ready means installed**: in every run from a state without HelmCharts and Jobs in which a
completed Job that a pass takes for the present one was generated from the present object, each Ready
condition that is stored is about an install that has completed. -/
theorem ready_means_installed {w₀ : World} (hcharts : ∀ k, w₀.charts k = none)
    (hjobs : ∀ k, w₀.jobs k = none) {s : State sig (Except Fault Unit) World}
    (hrun : controller.toSystem.Run OwnJob ⟨w₀, none⟩ s) : ReadySound s.world := by
  have hstable : ∀ ph, controller.toSystem.Stable OwnJob (Reporting ph) :=
    fun ph w w' ⟨e, he⟩ _ hw => reporting_outside hw (outside_of_act he)
  have hstart : Sound w₀ := by
    refine ⟨fun k c hc => ?_, fun k j hj => ?_⟩
    · rw [hcharts k] at hc
      cases hc
    · rw [hjobs k] at hj
      cases hj
  have hends := System.run_flow_world (I := Sound) controller_follows (hstable .done) hstable
    (fun _ _ _ hskip h => reporting_skip hskip h)
    (fun _ _ _ _ _ _ hmove h hs hok => reporting_move hmove h hs hok)
    (fun w hw => ⟨hw.charts, hw.jobs⟩)
    (fun a q w hq hw => by cases a <;> cases hq <;> exact hw) rfl hstart hrun
  have hsound : Sound s.world := by
    rcases hends with h | ⟨q, h⟩
    · exact h
    · exact h.sound
  exact fun k c condition hc => (hsound.charts k c hc).ready condition

instance (w : World) (l : Label sig (Except Fault Unit) World) : Decidable (OwnJob w l) := by
  cases l
  case call op x =>
    cases op
    case getJob k =>
      cases x with
      | ok job =>
          exact decidable_of_iff (∀ c ∈ w.fetched, k = jobKeyOf c.metadata.key .install →
            hasCondition job .complete = true →
            job.metadata.labels.getD observedGenerationLabel "" =
              toString c.metadata.generation →
            ∀ j ∈ w.jobs k, j.origin.metadata.uid = c.metadata.uid) Iff.rfl
      | error _ => exact .isTrue trivial
    all_goals exact .isTrue trivial
  all_goals exact .isTrue trivial

/-- The HelmChart is stored with this UID and says that it is ready. -/
def saysReady (key : NamespacedName) (uid : String) (s : State sig (Except Fault Unit) World) :
    Bool :=
  (s.world.charts key).any (fun c => decide (c.1.metadata.uid = uid) &&
    isStatusConditionTrue c.1.status.conditions typeReadyHelmChart)

/-- A HelmChart is created, adopted and installed. -/
def installed (key : NamespacedName) (uid : String) : List (Machine.Act Choice Event) :=
  [.env (.create key uid sampleSpec)] ++ servedPass key 2 ++ servedPass key 5 ++
    [jobEnds key .install .complete] ++ servedPass key 5

/-- A HelmChart becomes ready. -/
theorem sample_becomes_ready :
    ∃ s, controller.toSystem.Run OwnJob ⟨emptyWorld, none⟩ s ∧
      saysReady sampleKey "uid-1" s = true ∧ ReadySound s.world := by
  obtain ⟨s, hrun, hs⟩ := Machine.exists_run controller OwnJob ⟨emptyWorld, none⟩
    (installed sampleKey "uid-1") (saysReady sampleKey "uid-1") (by decide +kernel)
  exact ⟨s, hrun, hs, ready_means_installed (fun _ => rfl) (fun _ => rfl) hrun⟩

/-- **A HelmChart is ready that was never installed**: a HelmChart is installed, deleted, torn down
and created again. The install Job of the former object is still there, and has the generation of
the new one. -/
theorem recreated_chart_ready :
    ∃ s, controller.toSystem.Run (fun _ _ => True) ⟨emptyWorld, none⟩ s ∧
      ¬ ReadySound s.world := by
  obtain ⟨s, hrun, hs⟩ := Machine.exists_run controller (fun _ _ => True) ⟨emptyWorld, none⟩
    (installed sampleKey "uid-1" ++ [.env (.requestDeletion sampleKey 7)] ++
      servedPass sampleKey 4 ++ [jobEnds sampleKey .teardown .complete] ++ servedPass sampleKey 5 ++
      [.env (.create sampleKey "uid-2" sampleSpec)] ++ servedPass sampleKey 2 ++
      servedPass sampleKey 5)
    (fun s => saysReady sampleKey "uid-2" s && s.world.log.all (fun e =>
      match e with
      | .ended _ j => j.origin.metadata.uid ≠ "uid-2"
      | _ => true)) (by decide +kernel)
  rw [Bool.and_eq_true, List.all_eq_true] at hs
  refine ⟨s, hrun, fun hsound => ?_⟩
  obtain ⟨c, hc, hready⟩ := (Option.any_eq_true _ _).mp hs.1
  rw [Bool.and_eq_true, decide_eq_true_eq] at hready
  obtain ⟨condition, hfind, htrue⟩ := (Option.any_eq_true _ _).mp hready.2
  have htype := List.find?_some hfind
  obtain ⟨key, j, hended, -, -, -, huid, -⟩ := hsound sampleKey c condition hc
    (List.mem_of_find?_eq_some hfind) (by simpa using htype) (by simpa using htrue)
  -- no Job was ever generated from the new object
  have hnot := hs.2 _ hended
  simp [huid, hready.1] at hnot

end Heir.Controller.Helm
