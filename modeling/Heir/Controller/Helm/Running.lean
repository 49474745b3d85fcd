import Heir.Controller.Helm.World

set_option autoImplicit false

/-! # Jobs in progress

A Job that runs `helm` must not lose its permissions or be removed before it has ended, or the
release stays locked. The install path checks this before it deletes a Job, and the deletion of a
HelmChart waits for its teardown Job. It does not wait for its install Job, though, it takes the
teardown Job of a former HelmChart of the same name for its own, and it goes on at once when it is
not told that its teardown Job was created. Apart from that, the controller keeps all Jobs running
(`running_jobs_kept`).
-/

namespace Heir.Controller.Helm

open Heir.Core Heir.ClusterAgent Heir.Runtime Interact Function

/-! ## The property and the condition -/

/-- No Job of the HelmChart is in progress. -/
def Quiet (key : NamespacedName) (w : World) : Prop :=
  ∀ operation j, w.jobs (jobKeyOf key operation) = some j → Finished j.job

/-- The calls that take something away from a Job: its permissions, the Job itself, or the finalizer
of its HelmChart, after which the garbage collector removes the Job. -/
def Destructive : Call → Prop
  | .deleteServiceAccount _ => True
  | .deleteClusterRoleBinding _ => True
  | .deleteJob _ => True
  | .updateHelmChart o => hasFinalizer o = false
  | _ => False

/-- What a deletion looks up is in order: an install Job has ended, and a teardown Job was generated
from the object itself. -/
def InOrder (key : NamespacedName) (w : World) : Label sig (Except Fault Unit) World → Prop
  | .call (.getJob k) (.ok job) =>
      ∀ c, w.fetched = some c → c.metadata.deletionTimestamp.isSome = true →
        (k = jobKeyOf key .install → Finished job) ∧
        (k = jobKeyOf key .teardown →
          ∀ t, w.jobs k = some t → t.origin.metadata.uid = c.metadata.uid)
  | _ => True

/-! ## Invariants -/

/-- The install Job, if there is one, has ended. -/
def Ended (key : NamespacedName) (w : World) : Prop :=
  ∀ j, w.jobs (jobKeyOf key .install) = some j → Finished j.job

/-- The teardown Job, if there is one, has ended, or the controller was not told of it. -/
def AtRest (key : NamespacedName) (w : World) : Prop :=
  ∀ t, w.jobs (jobKeyOf key .teardown) = some t → t.answered = true → Finished t.job

/-- There is no teardown Job of this object. -/
def Untorn (key : NamespacedName) (uid : String) (w : World) : Prop :=
  ∀ t, w.jobs (jobKeyOf key .teardown) = some t → t.origin.metadata.uid ≠ uid

/-- What is known about a teardown Job. -/
structure Torn (key : NamespacedName) (w : World) (t : StoredJob) : Prop where
  known : t.origin.metadata.uid ∈ w.uids
  /-- It is created for an object to be deleted, after its install Job has ended. -/
  own : ∀ c, w.charts key = some c → c.1.metadata.uid = t.origin.metadata.uid →
    c.1.metadata.deletionTimestamp.isSome = true ∧ Ended key w
  /-- While it is in progress, the object has its finalizer. -/
  held : t.answered = true → ¬ Finished t.job → ∃ c, w.charts key = some c ∧
    c.1.metadata.uid = t.origin.metadata.uid ∧ hasFinalizer c.1 = true

/-- What holds between passes. -/
structure Tidy (key : NamespacedName) (w : World) : Prop where
  known : ∀ c, w.charts key = some c → c.1.metadata.uid ∈ w.uids
  torn : ∀ t, w.jobs (jobKeyOf key .teardown) = some t → Torn key w t

/-- The pass works on the copy `c`. -/
structure CopyOf (key : NamespacedName) (c : HelmChart) (w : World) : Prop where
  named : c.metadata.key = key
  fetched : w.fetched = some c
  present : hasFinalizer c = true → Present c w

/-- The pass works on a copy that is not being deleted. -/
structure Installing (key : NamespacedName) (c : HelmChart) (w : World) : Prop extends
    CopyOf key c w where
  finalizer : hasFinalizer c = true
  untorn : Untorn key c.metadata.uid w
  rest : AtRest key w

/-- The pass works on a copy that is being deleted. -/
structure Parting (key : NamespacedName) (c : HelmChart) (w : World) : Prop extends
    CopyOf key c w where
  leaving : Leaving c

/-- What a pass knows in each of its phases. -/
def Aware (key : NamespacedName) : Phase → World → Prop
  | .waiting => fun _ => False
  | .begun k => fun _ => k = key
  | .fetched c => fun w => CopyOf key c w ∧
      (c.metadata.deletionTimestamp = none → Untorn key c.metadata.uid w ∧ AtRest key w)
  | .accounted c | .bound c | .absent c => Installing key c
  | .found c job => fun w => Installing key c w ∧ (Finished job → Ended key w)
  | .torn c job => fun w => Parting key c w ∧ (Finished job → Ended key w ∧ AtRest key w)
  | .untorn c => fun w => Parting key c w ∧ w.jobs (jobKeyOf key .teardown) = none
  | .succeeded c => fun w => Parting key c w ∧ w.jobs (jobKeyOf key .teardown) = none ∧ Ended key w
  | .clearing c | .unbound c | .cleared c => fun w => Parting key c w ∧ Ended key w ∧ AtRest key w
  | .done | .failed => fun _ => True

/-- What holds in each phase of a pass. -/
def Guarding (key : NamespacedName) (ph : Phase) (w : World) : Prop := Tidy key w ∧ Aware key ph w

/-! ## Steps without new Jobs -/

section Steps

variable {key : NamespacedName} {c : HelmChart} {w w' : World}

theorem Ended.step (h : Ended key w) (hjobs : NoNewJobs w w') : Ended key w' := by
  intro j' hj'
  obtain ⟨j, hj, -, -, hsame⟩ := hjobs _ j' hj'
  rw [hsame (h j hj)]
  exact h j hj

theorem AtRest.step (h : AtRest key w) (hjobs : NoNewJobs w w') : AtRest key w' := by
  intro t' ht' hanswered
  obtain ⟨t, ht, -, heq, hsame⟩ := hjobs _ t' ht'
  rw [hsame (h t ht (heq ▸ hanswered))]
  exact h t ht (heq ▸ hanswered)

theorem Untorn.step {uid : String} (h : Untorn key uid w) (hjobs : NoNewJobs w w') :
    Untorn key uid w' := by
  intro t' ht'
  obtain ⟨t, ht, horigin, -⟩ := hjobs _ t' ht'
  rw [horigin]
  exact h t ht

/-- A step that creates no Job. A new HelmChart has a new UID, and one with the finalizer stays as
long as its teardown Job is in progress. -/
theorem Tidy.step (h : Tidy key w) (hjobs : NoNewJobs w w') (huids : w.uids ⊆ w'.uids)
    (hcharts : ∀ c', w'.charts key = some c' → (∃ c, w.charts key = some c ∧
        c'.1.metadata.uid = c.1.metadata.uid ∧ (c.1.metadata.deletionTimestamp.isSome = true →
          c'.1.metadata.deletionTimestamp.isSome = true)) ∨
      (c'.1.metadata.uid ∉ w.uids ∧ c'.1.metadata.uid ∈ w'.uids))
    (hheld : AtRest key w ∨ ∀ c, w.charts key = some c → hasFinalizer c.1 = true →
      ∃ c', w'.charts key = some c' ∧ c'.1.metadata.uid = c.1.metadata.uid ∧
        hasFinalizer c'.1 = true) : Tidy key w' := by
  refine ⟨fun c' hc' => ?_, fun t' ht' => ?_⟩
  · rcases hcharts c' hc' with ⟨c, hc, huid, -⟩ | ⟨-, hnew⟩
    · rw [huid]
      exact huids (h.known c hc)
    · exact hnew
  · obtain ⟨t, ht, horigin, hanswered, hsame⟩ := hjobs _ t' ht'
    have htorn := h.torn t ht
    refine ⟨?_, fun c' hc' huid => ?_, fun hans hrun => ?_⟩
    · rw [horigin]
      exact huids htorn.known
    · rw [horigin] at huid
      rcases hcharts c' hc' with ⟨c, hc, huid', hdel⟩ | ⟨hnew, -⟩
      · obtain ⟨hdeleted, hended⟩ := htorn.own c hc (huid'.symm.trans huid)
        exact ⟨hdel hdeleted, hended.step hjobs⟩
      · rw [huid] at hnew
        exact absurd htorn.known hnew
    · rw [hanswered] at hans
      have hrun' : ¬ Finished t.job := fun hfin => hrun (hsame hfin ▸ hfin)
      rcases hheld with hrest | hstays
      · exact absurd (hrest t ht hans) hrun'
      · obtain ⟨c, hc, huid, hfin⟩ := htorn.held hans hrun'
        obtain ⟨c', hc', huid', hfin'⟩ := hstays c hc hfin
        exact ⟨c', hc', by rw [huid', huid, horigin], hfin'⟩

theorem Aware.step {ph : Phase} (h : Aware key ph w) (hjobs : NoNewJobs w w')
    (hfetched : w'.fetched = w.fetched)
    (hpresent : ∀ c, hasFinalizer c = true → Present c w → Present c w') : Aware key ph w' := by
  have hcopy : ∀ {c}, CopyOf key c w → CopyOf key c w' := fun h =>
    ⟨h.named, hfetched.trans h.fetched, fun hfin => hpresent _ hfin (h.present hfin)⟩
  have hinst : ∀ {c}, Installing key c w → Installing key c w' := fun h =>
    ⟨hcopy h.toCopyOf, h.finalizer, h.untorn.step hjobs, h.rest.step hjobs⟩
  have hpart : ∀ {c}, Parting key c w → Parting key c w' := fun h => ⟨hcopy h.toCopyOf, h.leaving⟩
  cases ph with
  | waiting | begun | done | failed => exact h
  | fetched c =>
      exact ⟨hcopy h.1, fun hlive => ⟨(h.2 hlive).1.step hjobs, (h.2 hlive).2.step hjobs⟩⟩
  | accounted c | bound c | absent c => exact hinst h
  | found c job => exact ⟨hinst h.1, fun hfin => (h.2 hfin).step hjobs⟩
  | torn c job => exact ⟨hpart h.1, fun hfin => ⟨(h.2 hfin).1.step hjobs, (h.2 hfin).2.step hjobs⟩⟩
  | untorn c => exact ⟨hpart h.1, hjobs.none h.2⟩
  | succeeded c => exact ⟨hpart h.1, hjobs.none h.2.1, h.2.2.step hjobs⟩
  | clearing c | unbound c | cleared c => exact ⟨hpart h.1, h.2.1.step hjobs, h.2.2.step hjobs⟩

theorem Tidy.outside (h : Tidy key w) (ho : Outside w w') : Tidy key w' := by
  refine h.step ho.noNewJobs ho.uids_subset (fun c' hc' => ?_) (Or.inr fun c hc hfin => ?_)
  · exact (ho.chart hc').imp_left fun ⟨c, hc, hnew⟩ => ⟨c, hc, hnew.uid, hnew.deletion⟩
  · obtain ⟨c, rfl⟩ := c
    have hpresent : Present c w := ⟨_, hc, .refl _⟩
    obtain ⟨c', hc', hnew⟩ := hpresent.outside hfin ho
    exact ⟨c', hc', hnew.uid, hnew.hasFinalizer_eq.trans hfin⟩

theorem guarding_outside {ph : Phase} (h : Guarding key ph w) (ho : Outside w w') :
    Guarding key ph w' :=
  ⟨h.1.outside ho, h.2.step ho.noNewJobs ho.fetched_eq fun _ hfin hp => hp.outside hfin ho⟩

theorem Tidy.congr (h : Tidy key w) (hcharts : w'.charts = w.charts) (hjobs : NoNewJobs w w')
    (huids : w'.uids = w.uids) : Tidy key w' := by
  refine h.step hjobs (huids ▸ List.Subset.refl _) (fun c' hc' => ?_) (Or.inr fun c hc hfin => ?_)
  · exact Or.inl ⟨c', hcharts ▸ hc', rfl, id⟩
  · exact ⟨c, hcharts ▸ hc, rfl, hfin⟩

theorem Tidy.alike (h : Tidy key w) (hw : Alike w w') : Tidy key w' :=
  h.congr hw.charts (.of_subset fun _ _ hj => hw.jobs ▸ hj) hw.uids

theorem Guarding.alike {ph : Phase} (h : Guarding key ph w) (hw : Alike w w') :
    Guarding key ph w' := by
  refine ⟨h.1.alike hw, h.2.step (.of_subset fun _ _ hj => hw.jobs ▸ hj) hw.fetched fun c _ hp => ?_⟩
  rw [Present, hw.charts]
  exact hp

end Steps

/-! ## Steps of a pass -/

theorem jobKeyOf_ne (key : NamespacedName) : jobKeyOf key .install ≠ jobKeyOf key .teardown := by
  intro h
  exact absurd (jobName_inj (congrArg NamespacedName.name h)).2 (by simp)

theorem hasFinalizer_addFinalizer (c : HelmChart) : hasFinalizer (addFinalizer c) = true := by
  simp [hasFinalizer, addFinalizer]

section Pass

variable {key : NamespacedName} {c : HelmChart} {w w' : World}

/-- An object that is not being deleted has no teardown Job, and none is in progress. -/
theorem Tidy.live {s : ChartAt key} (h : Tidy key w) (hs : w.charts key = some s)
    (hlive : s.1.metadata.deletionTimestamp = none) :
    Untorn key s.1.metadata.uid w ∧ AtRest key w := by
  have hown : ∀ t, w.jobs (jobKeyOf key .teardown) = some t →
      s.1.metadata.uid ≠ t.origin.metadata.uid := by
    intro t ht huid
    have hdel := ((h.torn t ht).own s hs huid).1
    rw [hlive] at hdel
    cases hdel
  refine ⟨fun t ht huid => hown t ht huid.symm, fun t ht hanswered => ?_⟩
  by_contra hrun
  obtain ⟨s', hs', huid, -⟩ := (h.torn t ht).held hanswered hrun
  rw [hs] at hs'
  cases hs'
  exact hown t ht huid

/-- Updates of the object: the finalizer stays, or no teardown Job is in progress. -/
theorem Tidy.updateHelmChart {o : HelmChart} {x : Except GoError HelmChart}
    (h : Tidy o.metadata.key w) (hfin : AtRest o.metadata.key w ∨ hasFinalizer o = true)
    (hs : server (.updateHelmChart o) w x w') : Tidy o.metadata.key w' := by
  rcases server_updateHelmChart hs with ⟨s, s', hstored, -, hupd, hw⟩ | rfl
  · have hstored' := (congrFun hw.charts _).trans (update_self ..)
    refine h.step (.of_subset fun _ _ hj => hw.jobs ▸ hj) (hw.uids ▸ List.Subset.refl _)
      (fun t ht => Or.inl ⟨s, hstored, ?_⟩) (hfin.imp_right fun hfin _ hc _ => ?_)
    · rw [hstored'] at ht
      split at ht
      · cases ht
      · cases ht
        exact ⟨hupd.uid, fun hdel => hupd.deletion ▸ hdel⟩
    · rw [hstored] at hc
      cases hc
      have hfin' : hasFinalizer s'.1 = true := by rwa [hasFinalizer, hupd.finalizers]
      have hnonempty : o.metadata.finalizers.isEmpty = false := by
        cases hnil : o.metadata.finalizers with
        | nil => simp [hasFinalizer, hnil] at hfin
        | cons f fs => rfl
      exact ⟨s', hstored'.trans (by simp [hnonempty]), hupd.uid, hfin'⟩
  · exact h.alike (Same.refuse w).toAlike

theorem Tidy.updateStatus {o : HelmChart} {x : Except GoError HelmChart}
    (h : Tidy o.metadata.key w) (hs : server (.updateHelmChartStatus o) w x w') :
    Tidy o.metadata.key w' := by
  rcases server_status hs with ⟨s, s', hstored, -, hupd, hw⟩ | rfl
  · have hstored' := (congrFun hw.charts _).trans (update_self ..)
    refine h.step (.of_subset fun _ _ hj => hw.jobs ▸ hj) (hw.uids ▸ List.Subset.refl _)
      (fun t ht => Or.inl ⟨s, hstored, ?_⟩) (Or.inr fun t ht hfin => ?_)
    · cases hstored'.symm.trans ht
      rw [hupd]
      exact ⟨rfl, id⟩
    · rw [hstored] at ht
      cases ht
      refine ⟨s', hstored', ?_, ?_⟩ <;> rw [hupd]
      exact hfin
  · exact h.alike (Same.refuse w).toAlike

theorem Tidy.deleteJob {k : NamespacedName} {x : Except GoError Unit} (h : Tidy key w)
    (hs : server (.deleteJob k) w x w') : Tidy key w' := by
  rcases server_deleteJob hs with hw | rfl
  · exact h.congr hw.charts (.of_subset fun _ _ hj => jobs_of_erase (hw.jobs ▸ hj)) hw.uids
  · exact h.alike (Same.refuse w).toAlike

/-- What the pass knows from a lookup that found a Job: if that has ended, so has what is there. -/
theorem ended_of_found {j : StoredJob} (hj : w.jobs (jobKeyOf key .install) = some j)
    (hfin : Finished j.job) : Ended key w := by
  intro t ht
  rw [hj] at ht
  cases ht
  exact hfin

theorem atRest_of_none (hj : w.jobs (jobKeyOf key .teardown) = none) : AtRest key w := by
  intro t ht
  rw [hj] at ht
  cases ht

theorem CopyOf.stored (h : CopyOf key c w) (hfin : hasFinalizer c = true) :
    ∃ s, w.charts key = some s ∧ Newer s.1 c := by
  obtain rfl := h.named
  exact h.present hfin

/-- A teardown Job of the object itself that has ended was preceded by an install Job that had
ended. -/
theorem Parting.quiet {t : StoredJob} (h : Parting key c w) (htidy : Tidy key w)
    (ht : w.jobs (jobKeyOf key .teardown) = some t)
    (huid : t.origin.metadata.uid = c.metadata.uid) (hfin : Finished t.job) :
    Ended key w ∧ AtRest key w := by
  obtain ⟨s, hs, hnew⟩ := h.stored h.leaving.2
  refine ⟨((htidy.torn t ht).own s hs (hnew.uid.trans huid.symm)).2, fun t' ht' _ => ?_⟩
  rw [ht] at ht'
  cases ht'
  exact hfin

theorem guarding_fetch (h : Tidy key w) (hs : server (.getHelmChart key) w (.ok c) w') :
    Guarding key (.fetched c) w' := by
  rcases server_getHelmChart hs with ⟨⟨d, rfl⟩, hstored, hx, rfl⟩ | ⟨⟨e, hx⟩, -⟩
  · cases hx
    exact ⟨h.congr rfl (.of_subset fun _ _ hj => hj) rfl,
      ⟨rfl, rfl, fun _ => ⟨_, hstored, .refl _⟩⟩, fun hlive => h.live hstored hlive⟩
  · cases hx

theorem Tidy.install {job : Job} {x : Except GoError Unit} (h : Tidy key w)
    (hpass : Installing key c w) (hfrom : GeneratedFrom c .install job)
    (hs : server (.createJob job .install c) w x w') : Tidy key w' := by
  have hkey : job.metadata.key = jobKeyOf key .install := hpass.named ▸ hfrom.key
  rcases server_createJob hs with ⟨answered, -, hw⟩ | ⟨-, rfl⟩ | ⟨-, rfl⟩
  · rw [hkey] at hw
    refine ⟨fun s hs => hw.uids ▸ h.known s (hw.charts ▸ hs), fun t ht => ?_⟩
    replace ht := ((congrFun hw.jobs _).trans (update_of_ne (jobKeyOf_ne key).symm ..)).symm.trans ht
    refine ⟨hw.uids ▸ (h.torn t ht).known, fun s hs huid => ?_, fun hans hrun => ?_⟩
    · -- the object has no teardown Job
      obtain ⟨s', hs', hnew⟩ := hpass.stored hpass.finalizer
      rw [hw.charts, hs'] at hs
      cases hs
      exact absurd (huid.symm.trans hnew.uid) (hpass.untorn t ht)
    · rw [hw.charts]
      exact (h.torn t ht).held hans hrun
  · exact h
  · exact h.alike (Same.refuse w).toAlike

/-- A pass creates a teardown Job. If it is told that this failed, the Job does not count. -/
theorem Tidy.tearDown {job : Job} {x : Except GoError Unit} (h : Tidy key w)
    (hpass : Aware key (.succeeded c) w) (hfrom : GeneratedFrom c .teardown job)
    (hs : server (.createJob job .teardown c) w x w') :
    Tidy key w' ∧ ((∃ e, x = .error e) → Aware key (.clearing c) w') := by
  obtain ⟨hpart, hnone, hended⟩ := hpass
  have hkey : job.metadata.key = jobKeyOf key .teardown := hpart.named ▸ hfrom.key
  have hkeep : Alike w w' → Tidy key w' ∧ ((∃ e, x = .error e) → Aware key (.clearing c) w') :=
    fun hw =>
      have hg : Guarding key (.clearing c) w := ⟨h, hpart, hended, atRest_of_none hnone⟩
      ⟨(hg.alike hw).1, fun _ => (hg.alike hw).2⟩
  rcases server_createJob hs with ⟨answered, hanswered, hw⟩ | ⟨-, rfl⟩ | ⟨-, rfl⟩
  · rw [hkey] at hw
    obtain ⟨s, hchart, hnew⟩ := hpart.stored hpart.leaving.2
    have hended' : Ended key w' := by
      intro j hj
      exact hended j (((congrFun hw.jobs _).trans (update_of_ne (jobKeyOf_ne key) ..)).symm.trans hj)
    have hstored : w'.charts key = some s := hw.charts ▸ hchart
    have hjob : ∀ t, w'.jobs (jobKeyOf key .teardown) = some t →
        t.origin = c ∧ t.answered = answered := by
      intro t ht
      cases ((congrFun hw.jobs _).trans (update_self ..)).symm.trans ht
      exact ⟨rfl, rfl⟩
    refine ⟨⟨fun s hs => hw.uids ▸ h.known s (hw.charts ▸ hs), fun t ht => ?_⟩, ?_⟩
    · obtain ⟨rfl, -⟩ := hjob t ht
      refine ⟨hw.uids ▸ hnew.uid ▸ h.known s hchart, fun s' hs' _ => ?_, fun _ _ => ?_⟩
      · rw [hstored] at hs'
        cases hs'
        exact ⟨hnew.deletion hpart.leaving.1, hended'⟩
      · exact ⟨s, hstored, hnew.uid, hnew.hasFinalizer_eq.trans hpart.leaving.2⟩
    · rintro ⟨e, rfl⟩
      refine ⟨⟨⟨hpart.named, hw.fetched.trans hpart.fetched, fun hfin => ?_⟩, hpart.leaving⟩, hended',
        fun t ht hans => ?_⟩
      · rw [Present, hw.charts]
        exact hpart.present hfin
      · rw [(hjob t ht).2] at hans
        cases hanswered hans
  · exact hkeep (Same.refl _).toAlike
  · exact hkeep (Same.refuse w).toAlike

theorem guarding_skip {ph ph' : Phase} (hskip : Skip ph ph') (h : Guarding key ph w) :
    Guarding key ph' w := by
  cases hskip with
  | released | leave | running => exact ⟨h.1, trivial⟩
  | ended hfin => exact ⟨h.1, h.2.1, h.2.2 hfin⟩

/-- **Every call of a pass keeps the Jobs in order**, if what a deletion looks up is. -/
theorem guarding_move {ph ph' : Phase} {op : Call} {x : op.Answer} (hmove : Move ph op x ph')
    (h : Guarding key ph w) (hs : server op w x w') (hok : InOrder key w (.call op x)) :
    Guarding key ph' w' := by
  cases hmove with
  | take k => exact False.elim h.2
  | fetch c =>
      obtain ⟨htidy, rfl⟩ := h
      exact guarding_fetch htidy hs
  | fetchGone | fetchFailed => exact ⟨h.1.alike (same_getHelmChart hs).toAlike, trivial⟩
  | @adopt c | @adoptFailed c =>
      obtain rfl := h.2.1.named
      exact ⟨Tidy.updateHelmChart (o := addFinalizer c) h.1
        (Or.inr (hasFinalizer_addFinalizer c)) hs, trivial⟩
  | account _ hactive _ =>
      obtain ⟨htidy, hcopy, hlive⟩ := h.alike (same_createServiceAccount hs).toAlike
      exact ⟨htidy, hcopy, hactive.2, (hlive hactive.1).1, (hlive hactive.1).2⟩
  | accountFailed => exact ⟨h.1.alike (same_createServiceAccount hs).toAlike, trivial⟩
  | bind => exact h.alike (alike_createClusterRoleBinding hs)
  | bindFailed => exact ⟨h.1.alike (alike_createClusterRoleBinding hs), trivial⟩
  | find c job =>
      obtain ⟨rfl, j, hj, rfl⟩ := lookup_ok hs
      obtain rfl := h.2.named
      exact ⟨h.1, h.2, ended_of_found hj⟩
  | miss he =>
      obtain ⟨rfl, -⟩ := lookup_notFound hs he
      exact h
  | findFailed | findTeardownFailed | findInstalledFailed =>
      exact ⟨h.1.alike (same_getJob hs).toAlike, trivial⟩
  | install hfrom _ | installFailed _ hfrom => exact ⟨h.1.install h.2 hfrom hs, trivial⟩
  | renew | renewFailed => exact ⟨h.1.deleteJob hs, trivial⟩
  | @report c _ condition | @reportFailed c _ condition =>
      obtain rfl := h.2.1.named
      exact ⟨Tidy.updateStatus (o := { c with
        status.conditions := setStatusCondition c.status.conditions condition }) h.1 hs, trivial⟩
  | @findTeardown c job hleaving =>
      obtain ⟨rfl, t, ht, rfl⟩ := lookup_ok hs
      obtain rfl := h.2.1.named
      have hpart : Parting c.metadata.key c _ := ⟨h.2.1, hleaving⟩
      have huid := (hok c h.2.1.fetched hleaving.1).2 rfl t ht
      exact ⟨h.1, hpart, hpart.quiet h.1 ht huid⟩
  | missTeardown hleaving he =>
      obtain ⟨rfl, hj⟩ := lookup_notFound hs he
      obtain rfl := h.2.1.named
      exact ⟨h.1, ⟨h.2.1, hleaving⟩, hj⟩
  | findInstalled hcomplete =>
      obtain ⟨rfl, j, hj, rfl⟩ := lookup_ok hs
      obtain rfl := h.2.1.named
      exact ⟨h.1, h.2.1, h.2.2, ended_of_found hj (Or.inl hcomplete)⟩
  | @findUninstalled c job _ =>
      obtain ⟨rfl, j, hj, rfl⟩ := lookup_ok hs
      obtain rfl := h.2.1.named
      -- this is where the install Job might still be running
      have hfin : Finished j.job := (hok c h.2.1.fetched h.2.1.leaving.1).1 rfl
      exact ⟨h.1, h.2.1, ended_of_found hj hfin, atRest_of_none h.2.2⟩
  | missInstalled he =>
      obtain ⟨rfl, hj⟩ := lookup_notFound hs he
      obtain rfl := h.2.1.named
      refine ⟨h.1, h.2.1, fun j hj' => ?_, atRest_of_none h.2.2⟩
      cases hj.symm.trans hj'
  | tearDown hfrom _ => exact ⟨(h.1.tearDown h.2 hfrom hs).1, trivial⟩
  | tearDownFailed hfrom _ =>
      obtain ⟨htidy, haware⟩ := h.1.tearDown h.2 hfrom hs
      exact ⟨htidy, haware ⟨_, rfl⟩⟩
  | unbind c x => exact h.alike (alike_deleteClusterRoleBinding hs)
  | dismiss c x => exact h.alike (same_deleteServiceAccount hs).toAlike
  | release c _ | releaseFailed c _ =>
      obtain rfl := h.2.1.named
      exact ⟨Tidy.updateHelmChart (o := dropFinalizer c) h.1 (Or.inl h.2.2.2) hs, trivial⟩

end Pass

/-! ## Whole runs -/

/-- Where a pass makes a destructive call, the install Job has ended, and the teardown Job too if the
controller was told of it. -/
theorem Guarding.quiet {key : NamespacedName} {ph ph' : Phase} {w : World} {op : Call}
    {x : op.Answer} (h : Guarding key ph w) (hmove : Move ph op x ph') (hop : Destructive op) :
    Ended key w ∧ AtRest key w := by
  cases hmove with
  | @adopt c | @adoptFailed c =>
      exact absurd ((hasFinalizer_addFinalizer c).symm.trans hop) (by simp)
  | renew hfin _ | renewFailed _ hfin => exact ⟨h.2.2 hfin, h.2.1.rest⟩
  | unbind | dismiss | release | releaseFailed => exact h.2.2
  | _ => exact False.elim hop

theorem Destructive.answer {op : Call} (h : Destructive op) : Nonempty op.Answer := by
  cases op with
  | updateHelmChart | deleteServiceAccount | deleteClusterRoleBinding | deleteJob =>
      exact ⟨.error (errorf "")⟩
  | _ => exact False.elim h

/-- Where a run may start: a teardown Job that is there belongs to an earlier HelmChart of the name
and has ended. -/
structure Inherited (key : NamespacedName) (w : World) : Prop where
  known : ∀ c, w.charts key = some c → c.1.metadata.uid ∈ w.uids
  torn : ∀ t, w.jobs (jobKeyOf key .teardown) = some t → Finished t.job ∧
    t.origin.metadata.uid ∈ w.uids ∧
    ∀ c, w.charts key = some c → c.1.metadata.uid ≠ t.origin.metadata.uid

theorem Inherited.tidy {key : NamespacedName} {w : World} (h : Inherited key w) : Tidy key w := by
  refine ⟨h.known, fun t ht => ?_⟩
  obtain ⟨hfin, hknown, hother⟩ := h.torn t ht
  exact ⟨hknown, fun c hc huid => absurd huid (hother c hc), fun _ hrun => absurd hfin hrun⟩

theorem inherited_sample : Inherited sampleKey sampleStart.world := by
  refine ⟨fun c hc => ?_, fun t ht => by cases ht⟩
  cases hc
  exact List.mem_singleton_self _

/-- **Jobs in progress are kept**: in every run in which what a deletion looks up is in order, the
controller deletes permissions and Jobs and removes the finalizer only while no Job is in progress,
unless there is a teardown Job whose creation was reported to it as failed. The HelmChart may be
deleted and created again in the run. -/
theorem running_jobs_kept (key : NamespacedName) {w₀ : World} (hstart : Inherited key w₀)
    {s : State sig (Except Fault Unit) World}
    (hrun : (controllerOf key).toSystem.Run (InOrder key) ⟨w₀, none⟩ s)
    (hanswered : ∀ t, s.world.jobs (jobKeyOf key .teardown) = some t → t.answered = true)
    {op : Call} {k : op.Answer → Prog sig (Except Fault Unit)}
    (hcall : s.running = some (.call op k)) (hop : Destructive op) : Quiet key s.world := by
  have hstable : ∀ ph, (controllerOf key).toSystem.Stable (InOrder key) (Guarding key ph) :=
    fun ph w w' ⟨e, he⟩ _ hw => guarding_outside hw (outside_of_act he)
  obtain ⟨-, -, hcalls⟩ := System.run_flow (I := Guarding key .done) (controllerOf_follows key)
    (hstable .done) hstable (fun _ _ _ hskip h => guarding_skip hskip h)
    (fun _ _ _ _ _ _ hmove h hs hok => guarding_move hmove h hs hok)
    (fun w hw => ⟨hw.1.congr rfl (.of_subset fun _ _ hj => hj) rfl, rfl⟩)
    (fun a q w hq hw => by cases a <;> cases hq <;> exact hw)
    rfl ⟨hstart.tidy, trivial⟩ hrun
  obtain ⟨q, hmoves, hq⟩ := hcalls op k hcall
  obtain ⟨x⟩ := hop.answer
  obtain ⟨q', hmove⟩ := hmoves x
  obtain ⟨hended, hrest⟩ := hq.quiet hmove hop
  intro operation j hj
  cases operation with
  | install => exact hended j hj
  | teardown => exact hrest j hj (hanswered j hj)

instance (key : NamespacedName) (w : World) (l : Label sig (Except Fault Unit) World) :
    Decidable (InOrder key w l) :=
  match l with
  | .call (.getJob k) (.ok job) =>
      decidable_of_iff (∀ c ∈ w.fetched, c.metadata.deletionTimestamp.isSome = true →
        (k = jobKeyOf key .install → Finished job) ∧ (k = jobKeyOf key .teardown →
          ∀ t ∈ w.jobs k, t.origin.metadata.uid = c.metadata.uid)) Iff.rfl
  | .call (.getJob _) (.error _) | .call .next _ | .call (.getHelmChart _) _
  | .call (.updateHelmChart _) _ | .call (.updateHelmChartStatus _) _
  | .call (.createServiceAccount _) _ | .call (.deleteServiceAccount _) _
  | .call (.createClusterRoleBinding _) _ | .call (.deleteClusterRoleBinding _) _
  | .call (.createJob _ _ _) _ | .call (.deleteJob _) _ | .enter | .leave _ | .env _ =>
      .isTrue trivial

/-- The controller is about to delete the ClusterRoleBinding. -/
def unbinding (s : State sig (Except Fault Unit) World) : Bool :=
  match s.running with
  | some (.call (.deleteClusterRoleBinding _) _) => true
  | _ => false

theorem unbinding_call {s : State sig (Except Fault Unit) World} (h : unbinding s = true) :
    ∃ op k, s.running = some (.call op k) ∧ Destructive op := by
  rw [unbinding] at h
  split at h
  · rename_i name k hrunning
    exact ⟨_, k, hrunning, trivial⟩
  · cases h

/-- A HelmChart is installed and torn down, and the next pass goes on to delete the permissions. -/
theorem ended_job_unbound :
    ∃ s op k, (controllerOf sampleKey).toSystem.Run (InOrder sampleKey) sampleStart s ∧
      s.running = some (.call op k) ∧ Destructive op ∧
      (∃ t, s.world.jobs (jobKeyOf sampleKey .teardown) = some t ∧ t.answered = true) ∧
      Quiet sampleKey s.world := by
  obtain ⟨s, hrun, hs⟩ := Machine.exists_run (controllerOf sampleKey) (InOrder sampleKey)
    sampleStart
    (installPasses ++ [jobEnds sampleKey .install .complete, .env (.requestDeletion sampleKey 7)] ++
      pass (List.replicate 4 .serve) ++ [jobEnds sampleKey .teardown .complete] ++
      .enter :: [.call .serve, .call .serve])
    (fun s => unbinding s && (s.world.jobs (jobKeyOf sampleKey .teardown)).any (·.answered))
    (by decide +kernel)
  rw [Bool.and_eq_true] at hs
  obtain ⟨op, k, hcall, hop⟩ := unbinding_call hs.1
  obtain ⟨t, ht, hanswered⟩ := (Option.any_eq_true _ _).mp hs.2
  refine ⟨s, op, k, hrun, hcall, hop, ⟨t, ht, hanswered⟩,
    running_jobs_kept sampleKey inherited_sample hrun (fun t' ht' => ?_) hcall hop⟩
  cases ht.symm.trans ht'
  exact hanswered

/-- **A running Job loses its permissions**: the HelmChart is deleted while its install Job is
running, and the pass that sees this goes on to delete the ClusterRoleBinding. -/
theorem running_job_unbound :
    ∃ s op k, (controllerOf sampleKey).toSystem.Run (fun _ _ => True) sampleStart s ∧
      s.running = some (.call op k) ∧ Destructive op ∧ ¬ Quiet sampleKey s.world := by
  obtain ⟨s, hrun, hs⟩ := Machine.exists_run (controllerOf sampleKey) (fun _ _ => True) sampleStart
    (installPasses ++ [.env (.requestDeletion sampleKey 7), .enter, .call .serve, .call .serve,
      .call .serve])
    (fun s => unbinding s && (s.world.jobs (jobKeyOf sampleKey .install)).any
      (fun j => ! decide (Finished j.job))) (by decide +kernel)
  rw [Bool.and_eq_true] at hs
  obtain ⟨op, k, hcall, hop⟩ := unbinding_call hs.1
  obtain ⟨j, hj, hunfinished⟩ := (Option.any_eq_true _ _).mp hs.2
  refine ⟨s, op, k, hrun, hcall, hop, fun hquiet => ?_⟩
  simp [hquiet .install j hj] at hunfinished

end Heir.Controller.Helm
