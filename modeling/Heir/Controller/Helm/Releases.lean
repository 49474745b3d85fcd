import Heir.Controller.Helm.Running

set_option autoImplicit false

/-! # Releases that are left behind

The install Job of a HelmChart installs a release of Helm, and the teardown Job uninstalls the one
its command names. When the finalizer is removed, every release that was ever installed should have
been uninstalled. The controller decides from the present install Job whether there is anything to
uninstall, from the present teardown Job whether that has been done, and from the present
specification what there is to uninstall: it leaves nothing behind if these tell the whole history
(`releases_uninstalled`), but the target namespace may have changed since, the present install Job
may be that of an upgrade, and the present teardown Job that of a former HelmChart of the same name.
-/

namespace Heir.Controller.Helm

open Heir.Core Heir.ClusterAgent Heir.Runtime Interact Function

/-! ## The property -/

/-- The command of the Job uninstalls the release. -/
def Uninstalls (job : Job) (r : Release) : Prop :=
  ∃ container ∈ job.spec.template.spec.containers, ∃ rest,
    container.command = ["helm", "uninstall", r.name, "--namespace", r.ns] ++ rest

/-- The Job has completed. -/
def Completed (j : StoredJob) : Prop := hasCondition j.job .complete = true

instance (j : StoredJob) : Decidable (Completed j) := inferInstanceAs (Decidable (_ = _))

/-- This install Job of the HelmChart has completed at some time. -/
def Installed (key : NamespacedName) (uid : String) (log : List Entry) (j : StoredJob) : Prop :=
  .ended (jobKeyOf key .install) j ∈ log ∧ Completed j ∧ j.origin.metadata.uid = uid

/-- Every release that such an install Job has installed has been uninstalled later on. The log has
its newest entry first. -/
def SettledFor (key : NamespacedName) (P : StoredJob → Prop) (log : List Entry) : Prop :=
  ∀ newer j older, log = newer ++ .ended (jobKeyOf key .install) j :: older → Completed j → P j →
    ∃ t, .ended (jobKeyOf key .teardown) t ∈ newer ∧ Completed t ∧ Uninstalls t.job j.release

/-- Every release that was installed for a HelmChart of this name has been uninstalled. -/
def Settled (key : NamespacedName) (log : List Entry) : Prop := SettledFor key (fun _ => True) log

/-- No teardown Job has failed, and no call of a deletion. -/
def Clean (key : NamespacedName) (log : List Entry) : Prop :=
  .refused key ∉ log ∧
    ∀ t, .ended (jobKeyOf key .teardown) t ∈ log → hasCondition t.job .failed = false

/-- The HelmChart is gone, or it does not have the finalizer. -/
def Released (key : NamespacedName) (w : World) : Prop :=
  ∀ s, w.charts key = some s → hasFinalizer s.1 = false

/-- What a deletion looks up tells the whole history: the install Job has completed, or nothing was
ever installed for this object; a teardown Job is one of this object; and the teardown Job that is
created uninstalls the only release that the object has. -/
def Telling (key : NamespacedName) (w : World) : Label sig (Except Fault Unit) World → Prop
  | .call (.getJob k) (.ok job) =>
      ∀ c, w.fetched = some c → c.metadata.deletionTimestamp.isSome = true →
        (k = jobKeyOf key .install → hasCondition job .complete = true ∨
          (Finished job ∧ ∀ j, ¬ Installed key c.metadata.uid w.log j)) ∧
        (k = jobKeyOf key .teardown →
          ∀ t, w.jobs k = some t → t.origin.metadata.uid = c.metadata.uid)
  | .call (.getJob k) (.error e) =>
      ∀ c, w.fetched = some c → c.metadata.deletionTimestamp.isSome = true →
        k = jobKeyOf key .install → e.reason = .notFound →
          ∀ j, ¬ Installed key c.metadata.uid w.log j
  | .call (.createJob _ .teardown origin) _ => ∀ j, Installed key origin.metadata.uid w.log j →
      j.release = ⟨origin.metadata.name, origin.spec.chart.targetNamespace⟩
  | _ => True

variable {key : NamespacedName}

theorem Telling.inOrder {w : World} {op : Call} {x : op.Answer} (h : Telling key w (.call op x)) :
    InOrder key w (.call op x) := by
  cases op with
  | getJob k =>
      cases x with
      | ok job =>
          exact fun c hc hdel =>
            ⟨fun hk => ((h c hc hdel).1 hk).elim Or.inl (·.1), (h c hc hdel).2⟩
      | error e => trivial
  | _ => trivial

/-- The teardown Job uninstalls the release of the HelmChart it was generated from. -/
theorem GeneratedFrom.uninstalls {c : HelmChart} {job : Job}
    (h : GeneratedFrom c .teardown job) :
    Uninstalls job ⟨c.metadata.name, c.spec.chart.targetNamespace⟩ := by
  obtain ⟨newJob, refs, hnew, rfl⟩ := h
  cases hnew
  refine ⟨_, List.mem_singleton.mpr rfl,
    if 0 < c.spec.helm.timeout.ns then ["--timeout", c.spec.helm.timeout.text] else [], ?_⟩
  simp [containerCommand, command]

/-! ## The log -/

/-- An entry that is not about an install Job that has completed. -/
def Harmless (key : NamespacedName) (e : Entry) : Prop :=
  ∀ j, e = .ended (jobKeyOf key .install) j → ¬ Completed j

section Log

variable {key : NamespacedName} {log es : List Entry} {P Q : StoredJob → Prop}

theorem installed_append (hes : ∀ e ∈ es, Harmless key e) {uid : String} {j : StoredJob}
    (h : Installed key uid (es ++ log) j) : Installed key uid log j := by
  rcases List.mem_append.mp h.1 with hmem | hmem
  · exact absurd h.2.1 (hes _ hmem j rfl)
  · exact ⟨hmem, h.2⟩

theorem Clean.of_append (h : Clean key (es ++ log)) : Clean key log :=
  ⟨fun hmem => h.1 (List.mem_append_right _ hmem),
    fun t hmem => h.2 t (List.mem_append_right _ hmem)⟩

theorem SettledFor.mono (h : SettledFor key P log)
    (himp : ∀ j, .ended (jobKeyOf key .install) j ∈ log → Completed j → Q j → P j) :
    SettledFor key Q log := by
  intro newer j older heq hj hQ
  exact h newer j older heq hj (himp j (by simp [heq]) hj hQ)

theorem SettledFor.cons {e : Entry} (h : SettledFor key P log)
    (he : ∀ j, e = .ended (jobKeyOf key .install) j → Completed j → ¬ P j) :
    SettledFor key P (e :: log) := by
  intro newer j older heq hj hP
  cases newer with
  | nil =>
      injection heq with heq _
      exact absurd hP (he j heq hj)
  | cons e' newer =>
      injection heq with _ heq
      obtain ⟨t, hmem, ht⟩ := h newer j older heq hj hP
      exact ⟨t, List.mem_cons_of_mem _ hmem, ht⟩

theorem SettledFor.append (h : SettledFor key P log) (hes : ∀ e ∈ es, Harmless key e) :
    SettledFor key P (es ++ log) := by
  induction es with
  | nil => exact h
  | cons e es ih =>
      have hrest := ih fun e' he' => hes e' (List.mem_cons_of_mem _ he')
      exact hrest.cons fun j heq hj => absurd hj (hes e (List.mem_cons_self ..) j heq)

/-- A completed teardown Job settles what there is if that is only one release. -/
theorem settledFor_uninstalled {t : StoredJob}
    (hall : ∀ j, Installed key t.origin.metadata.uid log j → j.release = t.release)
    (ht : Completed t) (hun : Uninstalls t.job t.release) :
    SettledFor key (fun j => j.origin.metadata.uid = t.origin.metadata.uid)
      (.ended (jobKeyOf key .teardown) t :: log) := by
  intro newer j older heq hj huid
  cases newer with
  | nil =>
      injection heq with heq _
      injection heq with hk _
      exact absurd hk.symm (jobKeyOf_ne key)
  | cons e newer =>
      injection heq with he heq
      refine ⟨t, by simp [← he], ht, ?_⟩
      rw [hall j ⟨by simp [heq], hj, huid⟩]
      exact hun

end Log

/-! ## Invariants -/

/-- What is known about a teardown Job. Until it ends, it is about everything that was installed for
its object. -/
structure TeardownJob (key : NamespacedName) (log : List Entry) (t : StoredJob) : Prop where
  uninstalls : Uninstalls t.job t.release
  all : ¬ Finished t.job →
    ∀ j, Installed key t.origin.metadata.uid log j → j.release = t.release
  completed : Completed t →
    SettledFor key (fun j => j.origin.metadata.uid = t.origin.metadata.uid) log
  failed : hasCondition t.job .failed = true → ¬ Clean key log

/-- The HelmChart is there and has the finalizer. -/
def Kept (key : NamespacedName) (uid : String) (w : World) : Prop :=
  ∃ s, w.charts key = some s ∧ s.1.metadata.uid = uid ∧ hasFinalizer s.1 = true

structure Orderly (key : NamespacedName) (w : World) : Prop where
  torn : ∀ t s, w.jobs (jobKeyOf key .teardown) = some t → w.charts key = some s →
    s.1.metadata.uid = t.origin.metadata.uid → TeardownJob key w.log t
  /-- An install Job in progress belongs to the object that is there. -/
  owned : ∀ j, w.jobs (jobKeyOf key .install) = some j → ¬ Finished j.job →
    Kept key j.origin.metadata.uid w
  /-- What former objects have installed is uninstalled. -/
  past : Clean key w.log → SettledFor key (fun j => ¬ Kept key j.origin.metadata.uid w) w.log

/-- What a pass knows about the releases in each of its phases. -/
def Accounted (key : NamespacedName) : Phase → World → Prop
  | .torn _ job => fun w => Finished job → Clean key w.log → Settled key w.log
  | .clearing _ | .unbound _ | .cleared _ => fun w => Clean key w.log → Settled key w.log
  | .waiting | .begun _ | .fetched _ | .accounted _ | .bound _ | .absent _ | .found _ _
  | .untorn _ | .succeeded _ | .done | .failed => fun _ => True

/-- What holds in each phase of a pass. -/
def Tracked (key : NamespacedName) (ph : Phase) (w : World) : Prop :=
  Orderly key w ∧ Accounted key ph w

theorem Orderly.settled {w : World} {s : ChartAt key} (h : Orderly key w)
    (hs : w.charts key = some s)
    (hset : SettledFor key (fun j => j.origin.metadata.uid = s.1.metadata.uid) w.log)
    (hclean : Clean key w.log) : Settled key w.log := by
  intro newer j older heq hj _
  by_cases huid : j.origin.metadata.uid = s.1.metadata.uid
  · exact hset newer j older heq hj huid
  · refine h.past hclean newer j older heq hj ?_
    rintro ⟨s', hs', huid', -⟩
    cases hs.symm.trans hs'
    exact huid huid'.symm

/-- More has been logged, but nothing was installed. -/
def Grown (key : NamespacedName) (log' log : List Entry) : Prop :=
  ∃ es, log' = es ++ log ∧ ∀ e ∈ es, Harmless key e

section Grown

variable {key : NamespacedName} {log' log : List Entry}

theorem Grown.refl (key : NamespacedName) (log : List Entry) : Grown key log log :=
  ⟨[], rfl, fun _ h => by simp at h⟩

theorem Grown.cons {e : Entry} (he : Harmless key e) : Grown key (e :: log) log :=
  ⟨[e], rfl, fun _ hmem => List.mem_singleton.mp hmem ▸ he⟩

theorem Grown.settledFor {P : StoredJob → Prop} (h : Grown key log' log)
    (hset : Clean key log → SettledFor key P log) (hclean : Clean key log') :
    SettledFor key P log' := by
  obtain ⟨es, rfl, hes⟩ := h
  exact (hset hclean.of_append).append hes

theorem Grown.teardownJob {t : StoredJob} (h : Grown key log' log)
    (ht : TeardownJob key log t) : TeardownJob key log' t := by
  obtain ⟨es, rfl, hes⟩ := h
  exact ⟨ht.uninstalls, fun hrun j hj => ht.all hrun j (installed_append hes hj),
    fun hdone => (ht.completed hdone).append hes,
    fun hfail hclean => ht.failed hfail hclean.of_append⟩

theorem World.refuse_grown (w : World) (key : NamespacedName) :
    Grown key w.refuse.log w.log := by
  rw [World.refuse]
  dsimp only
  split
  · split
    · exact .cons fun j h => by cases h
    · exact .refl key _
  · exact .refl key _

theorem Alike.grown {w w' : World} (h : Alike w w') (key : NamespacedName) :
    Grown key w'.log w.log := by
  rcases h.log with hlog | hlog
  · rw [hlog]
    exact .refl key _
  · rw [hlog]
    exact w.refuse_grown key

end Grown

section Steps

variable {key : NamespacedName} {w w' : World}

/-- Jobs may go and the log may grow, as long as the object that is there keeps its finalizer. -/
theorem Orderly.mono (h : Orderly key w) (hjobs : ∀ k j, w'.jobs k = some j → w.jobs k = some j)
    (hlog : Grown key w'.log w.log)
    (hcharts : ∀ t s', w.jobs (jobKeyOf key .teardown) = some t → w'.charts key = some s' →
      s'.1.metadata.uid = t.origin.metadata.uid →
      ∃ s, w.charts key = some s ∧ s.1.metadata.uid = t.origin.metadata.uid)
    (hkept : ∀ uid, Kept key uid w → Kept key uid w') : Orderly key w' where
  torn := fun t s' ht hs' huid' => by
    obtain ⟨s, hs, huid⟩ := hcharts t s' (hjobs _ t ht) hs' huid'
    exact hlog.teardownJob (h.torn t s (hjobs _ t ht) hs huid)
  owned := fun j hj hrun => hkept _ (h.owned j (hjobs _ j hj) hrun)
  past := hlog.settledFor fun hclean =>
    (h.past hclean).mono fun j _ _ hnot hk => hnot (hkept _ hk)

theorem Orderly.congr (h : Orderly key w) (hcharts : w'.charts = w.charts)
    (hjobs : ∀ k j, w'.jobs k = some j → w.jobs k = some j) (hlog : Grown key w'.log w.log) :
    Orderly key w' := by
  refine h.mono hjobs hlog (fun t s' _ hs' huid' => ⟨s', hcharts ▸ hs', huid'⟩) fun uid hk => ?_
  obtain ⟨s, hs, hrest⟩ := hk
  exact ⟨s, hcharts ▸ hs, hrest⟩

theorem Orderly.alike (h : Orderly key w) (hw : Alike w w') : Orderly key w' :=
  h.congr hw.charts (fun _ _ hj => hw.jobs ▸ hj) (hw.grown key)

end Steps

/-! ## Acts of others -/

section Outside

variable {key : NamespacedName} {w w' : World}

/-- A Job that has ended is not the one that makes progress. -/
theorem Ended.ne {k : NamespacedName} {j : StoredJob} (h : Ended key w) (hj : w.jobs k = some j)
    (hrun : ¬ Finished j.job) : jobKeyOf key .install ≠ k := by
  rintro rfl
  exact hrun (h j hj)

theorem harmless_ended {k : NamespacedName} (hk : jobKeyOf key .install ≠ k) (j : StoredJob) :
    Harmless key (.ended k j) := by
  intro j' heq
  injection heq with heq _
  exact absurd heq.symm hk

/-- A Job of the cluster makes progress, and the log says so if it ends. -/
structure Progress (w w' : World) (k : NamespacedName) (j : StoredJob)
    (conditions : List JobCondition) : Prop where
  before : w.jobs k = some j
  running : ¬ Finished j.job
  charts : w'.charts = w.charts
  jobs : w'.jobs = update w.jobs k (some (j.withConditions conditions))
  log : (¬ Finished (j.withConditions conditions).job ∧ w'.log = w.log) ∨
    (Finished (j.withConditions conditions).job ∧
      w'.log = .ended k (j.withConditions conditions) :: w.log)

variable {k : NamespacedName} {j : StoredJob} {conditions : List JobCondition}

theorem Progress.grown (h : Progress w w' k j conditions) (hk : jobKeyOf key .install ≠ k) :
    Grown key w'.log w.log := by
  rcases h.log with ⟨-, hlog⟩ | ⟨-, hlog⟩
  · rw [hlog]
    exact .refl key _
  · rw [hlog]
    exact .cons (harmless_ended hk _)

/-- The teardown Job makes progress: when it completes, everything is settled. -/
theorem Progress.teardownJob (h : Progress w w' (jobKeyOf key .teardown) j conditions)
    (ht : TeardownJob key w.log j) : TeardownJob key w'.log (j.withConditions conditions) := by
  have hall := ht.all h.running
  rcases h.log with ⟨hrun, hlog⟩ | ⟨hfin, hlog⟩
  · rw [hlog]
    exact ⟨ht.uninstalls, fun _ => hall, fun hc => absurd (Or.inl hc) hrun,
      fun hf => absurd (Or.inr hf) hrun⟩
  · rw [hlog]
    refine ⟨ht.uninstalls, fun hrun => absurd hfin hrun,
      fun hc => settledFor_uninstalled hall hc ht.uninstalls, fun hf hclean => ?_⟩
    rw [hclean.2 _ (List.mem_cons_self ..)] at hf
    cases hf

theorem Progress.kept (h : Progress w w' k j conditions) {uid : String} :
    Kept key uid w' ↔ Kept key uid w := by
  rw [Kept, h.charts]
  exact Iff.rfl

/-- What an install Job adds to the log belongs to the object that is there. -/
theorem Progress.past (hp : Progress w w' k j conditions) (h : Orderly key w)
    (hclean : Clean key w'.log) :
    SettledFor key (fun j => ¬ Kept key j.origin.metadata.uid w') w'.log := by
  simp only [hp.kept]
  by_cases hk : jobKeyOf key .install = k
  · subst hk
    rcases hp.log with ⟨-, hlog⟩ | ⟨-, hlog⟩ <;> rw [hlog] at hclean ⊢
    · exact h.past hclean
    · have hbefore : Clean key w.log := Clean.of_append (List.singleton_append ▸ hclean)
      refine (h.past hbefore).cons fun j' heq _ hnot => hnot ?_
      cases heq
      exact h.owned j hp.before hp.running
  · exact (hp.grown hk).settledFor h.past hclean

theorem Orderly.progress (h : Orderly key w) (htidy : Tidy key w)
    (hp : Progress w w' k j conditions) : Orderly key w' where
  torn := fun t s ht hs huid => by
    rw [hp.jobs] at ht
    rw [hp.charts] at hs
    by_cases hk : jobKeyOf key .teardown = k
    · subst hk
      rw [update_self] at ht
      cases ht
      exact hp.teardownJob (h.torn j s hp.before hs huid)
    · rw [update_of_ne hk] at ht
      -- the install Job of the object has ended before its teardown Job was created
      have hended := ((htidy.torn t ht).own s hs huid).2
      exact (hp.grown (hended.ne hp.before hp.running)).teardownJob (h.torn t s ht hs huid)
  owned := fun j' hj' hrun => by
    rw [hp.kept]
    rw [hp.jobs] at hj'
    by_cases hk : jobKeyOf key .install = k
    · subst hk
      rw [update_self] at hj'
      cases hj'
      exact h.owned j hp.before hp.running
    · rw [update_of_ne hk] at hj'
      exact h.owned j' hj' hrun
  past := hp.past h

/-- The finalizers are the business of the controller. -/
theorem Kept.outside {uid : String} (h : Kept key uid w) (ho : Outside w w') :
    Kept key uid w' := by
  obtain ⟨⟨c, rfl⟩, hc, huid, hfin⟩ := h
  have hpresent : Present c w := ⟨_, hc, .refl _⟩
  obtain ⟨s, hs, hnew⟩ := hpresent.outside hfin ho
  exact ⟨s, hs, hnew.uid.trans huid, hnew.hasFinalizer_eq.trans hfin⟩

theorem Orderly.others (h : Orderly key w) (htidy : Tidy key w) (ho : Outside w w')
    (hjobs : ∀ k j, w'.jobs k = some j → w.jobs k = some j) (hlog : Grown key w'.log w.log) :
    Orderly key w' := by
  refine h.mono hjobs hlog (fun t s' ht hs' huid => ?_) fun uid hk => hk.outside ho
  rcases ho.chart hs' with ⟨s, hs, hnew⟩ | ⟨hnew, -⟩
  · exact ⟨s, hs, hnew.uid.symm.trans huid⟩
  · -- a new object has a new UID
    exact absurd (huid ▸ (htidy.torn t ht).known) hnew

theorem Orderly.outside (h : Orderly key w) (htidy : Tidy key w) (ho : Outside w w') :
    Orderly key w' := by
  have hother := h.others htidy ho
  cases ho with
  | created => exact hother (fun _ _ hj => hj) (.cons fun j heq => by cases heq)
  | change hch =>
      cases hch with
      | changed _ _ _ hentries =>
          refine hother (fun _ _ hj => hj) ?_
          rcases hentries with ⟨rfl, -⟩ | ⟨rfl, -⟩
          · exact .refl key _
          · exact .cons fun j heq => by cases heq
      | gone | accounts => exact hother (fun _ _ hj => hj) (.refl key _)
      | collected => exact hother (fun _ _ => jobs_of_erase) (.refl key _)
      | progressed hj hrun hrun' => exact h.progress htidy ⟨hj, hrun, rfl, rfl, Or.inl ⟨hrun', rfl⟩⟩
      | ended hj hrun hfin _ => exact h.progress htidy ⟨hj, hrun, rfl, rfl, Or.inr ⟨hfin, rfl⟩⟩

/-- After the install Job has ended, nothing more gets installed. -/
theorem Outside.grown (ho : Outside w w') (h : Ended key w) : Grown key w'.log w.log := by
  cases ho with
  | created => exact .cons fun j heq => by cases heq
  | change hch =>
      cases hch with
      | changed hc hnew _ hentries =>
          rcases hentries with ⟨rfl, -⟩ | ⟨rfl, -⟩
          · exact .refl key _
          · exact .cons fun j heq => by cases heq
      | ended hj hrun _ _ => exact .cons (harmless_ended (h.ne hj hrun) _)
      | _ => exact .refl key _

theorem tracked_outside {ph : Phase} (hg : Guarding key ph w) (h : Tracked key ph w)
    (ho : Outside w w') : Tracked key ph w' := by
  refine ⟨h.1.outside hg.1 ho, ?_⟩
  cases ph with
  | torn c job => exact fun hfin => (ho.grown (hg.2.2 hfin).1).settledFor (h.2 hfin)
  | clearing c | unbound c | cleared c => exact (ho.grown hg.2.2.1).settledFor h.2
  | _ => trivial

end Outside

/-! ## Steps of a pass -/

section Pass

variable {key : NamespacedName} {c : HelmChart} {w w' : World}

theorem Orderly.deleteJob {k : NamespacedName} {x : Except GoError Unit} (h : Orderly key w)
    (hs : server (.deleteJob k) w x w') : Orderly key w' := by
  rcases server_deleteJob hs with hw | rfl
  · exact h.congr hw.charts (fun _ _ hj => jobs_of_erase (hw.jobs ▸ hj)) (hw.grown key)
  · exact h.alike (Same.refuse w).toAlike

/-- The object is updated. If it loses its finalizer, everything has to be settled. -/
theorem Orderly.updateHelmChart {o : HelmChart} {x : Except GoError HelmChart}
    (h : Orderly o.metadata.key w)
    (hfin : hasFinalizer o = true ∨ (Ended o.metadata.key w ∧
      (Clean o.metadata.key w.log → Settled o.metadata.key w.log)))
    (hs : server (.updateHelmChart o) w x w') : Orderly o.metadata.key w' := by
  rcases server_updateHelmChart hs with ⟨s, s', hstored, -, hupd, hw⟩ | rfl
  · have hstored' := (congrFun hw.charts _).trans (update_self ..)
    have hjobs : ∀ k j, w'.jobs k = some j → w.jobs k = some j := fun _ _ hj => hw.jobs ▸ hj
    have hlog : Grown o.metadata.key w'.log w.log := hw.grown _
    have hcharts : ∀ t, w'.charts o.metadata.key = some t → t.1.metadata.uid = s.1.metadata.uid := by
      intro t ht
      rw [hstored'] at ht
      split at ht
      · cases ht
      · cases ht
        exact hupd.uid
    rcases hfin with hfin | ⟨hended, hset⟩
    · refine h.mono hjobs hlog (fun t s₁ _ hs₁ huid => ⟨s, hstored, (hcharts s₁ hs₁).symm.trans huid⟩)
        fun uid ⟨s₁, hs₁, huid, _⟩ => ?_
      cases hstored.symm.trans hs₁
      have hnonempty : o.metadata.finalizers.isEmpty = false := by
        cases hnil : o.metadata.finalizers with
        | nil => simp [hasFinalizer, hnil] at hfin
        | cons f fs => rfl
      have hfin' : hasFinalizer s'.1 = true := by rwa [hasFinalizer, hupd.finalizers]
      exact ⟨s', hstored'.trans (by simp [hnonempty]), hupd.uid.trans huid, hfin'⟩
    · refine ⟨fun t s₁ ht hs₁ huid => ?_, fun j hj hrun => absurd (hended j (hjobs _ j hj)) hrun,
        fun hclean => (hlog.settledFor hset hclean).mono fun _ _ _ _ => trivial⟩
      exact hlog.teardownJob (h.torn t s (hjobs _ t ht) hstored ((hcharts s₁ hs₁).symm.trans huid))
  · exact h.alike (Same.refuse w).toAlike

theorem Orderly.report {o : HelmChart} {x : Except GoError HelmChart}
    (h : Orderly o.metadata.key w) (hs : server (.updateHelmChartStatus o) w x w') :
    Orderly o.metadata.key w' := by
  rcases server_status hs with ⟨s, s', hstored, -, hupd, hw⟩ | rfl
  · have hstored' := (congrFun hw.charts _).trans (update_self ..)
    refine h.mono (fun _ _ hj => hw.jobs ▸ hj) (hw.grown _) (fun t s₁ _ hs₁ huid => ?_)
      fun uid ⟨s₁, hs₁, huid, hfin⟩ => ?_
    · cases hstored'.symm.trans hs₁
      rw [hupd] at huid
      exact ⟨s, hstored, huid⟩
    · cases hstored.symm.trans hs₁
      refine ⟨s', hstored', ?_, ?_⟩ <;> rw [hupd]
      · exact huid
      · exact hfin
  · exact h.alike (Same.refuse w).toAlike

theorem CopyOf.kept (h : CopyOf key c w) (hfin : hasFinalizer c = true) :
    Kept key c.metadata.uid w := by
  obtain ⟨s, hs, hnew⟩ := h.stored hfin
  exact ⟨s, hs, hnew.uid, hnew.hasFinalizer_eq.trans hfin⟩

theorem Orderly.install {job : Job} {x : Except GoError Unit} (h : Orderly key w)
    (hpass : Installing key c w) (hfrom : GeneratedFrom c .install job)
    (hs : server (.createJob job .install c) w x w') : Orderly key w' := by
  have hkey : job.metadata.key = jobKeyOf key .install := hpass.named ▸ hfrom.key
  rcases server_createJob hs with ⟨answered, -, hw⟩ | ⟨-, rfl⟩ | ⟨-, rfl⟩
  · rw [hkey] at hw
    have hkept : ∀ uid, Kept key uid w → Kept key uid w' := fun _ ⟨s, hs, hrest⟩ =>
      ⟨s, hw.charts ▸ hs, hrest⟩
    refine ⟨fun t s ht hs huid => ?_, fun j hj _ => ?_, (hw.grown key).settledFor fun hclean =>
      (h.past hclean).mono fun j _ _ hnot hk => hnot (hkept _ hk)⟩
    · have ht' := ((congrFun hw.jobs _).trans (update_of_ne (jobKeyOf_ne key).symm ..)).symm.trans ht
      exact (hw.grown key).teardownJob (h.torn t s ht' (hw.charts ▸ hs) huid)
    · cases ((congrFun hw.jobs _).trans (update_self ..)).symm.trans hj
      exact hkept _ (hpass.kept hpass.finalizer)
  · exact h
  · exact h.alike (Same.refuse w).toAlike

theorem Orderly.tearDown {job : Job} {x : Except GoError Unit} (h : Orderly key w)
    (hpart : Parting key c w) (hfrom : GeneratedFrom c .teardown job)
    (hall : ∀ j, Installed key c.metadata.uid w.log j →
      j.release = ⟨c.metadata.name, c.spec.chart.targetNamespace⟩)
    (hs : server (.createJob job .teardown c) w x w') : Orderly key w' := by
  have hkey : job.metadata.key = jobKeyOf key .teardown := hpart.named ▸ hfrom.key
  rcases server_createJob hs with ⟨answered, -, hw⟩ | ⟨-, rfl⟩ | ⟨-, rfl⟩
  · rw [hkey] at hw
    have hkept : ∀ uid, Kept key uid w → Kept key uid w' := fun _ ⟨s, hs, hrest⟩ =>
      ⟨s, hw.charts ▸ hs, hrest⟩
    refine ⟨fun t s ht hs huid => ?_, fun j hj hrun => hkept _ (h.owned j ?_ hrun),
      (hw.grown key).settledFor fun hclean =>
        (h.past hclean).mono fun j _ _ hnot hk => hnot (hkept _ hk)⟩
    · cases ((congrFun hw.jobs _).trans (update_self ..)).symm.trans ht
      obtain ⟨hcomplete, hfailed⟩ := hfrom.conditions
      refine (hw.grown key).teardownJob ⟨hfrom.uninstalls, fun _ => hall, fun hc => ?_, fun hf => ?_⟩
      · exact absurd (hcomplete.symm.trans hc) (by simp)
      · exact absurd (hfailed.symm.trans hf) (by simp)
    · exact ((congrFun hw.jobs _).trans (update_of_ne (jobKeyOf_ne key) ..)).symm.trans hj
  · exact h
  · exact h.alike (Same.refuse w).toAlike

/-- A call that fails is noted, also if only its answer is lost. -/
theorem refused_createJob {job : Job} {operation : JobOperation} {e : GoError}
    (hs : server (.createJob job operation c) w (.error e) w') (he : e.reason ≠ .alreadyExists) :
    w'.log = w.refuse.log := by
  obtain ⟨ch, hs⟩ := hs
  cases ch <;> simp only [respond, reduceCtorEq, serveCreateJob] at hs
  · rcases insertNew_cases w.jobs job.metadata.key job.metadata.name ⟨job, operation, c, true⟩ with
      ⟨-, heq⟩ | ⟨-, heq⟩ <;> rw [heq] at hs <;> cases hs
    exact absurd rfl he
  · cases hs
    rfl
  · rcases insertNew_cases w.jobs job.metadata.key job.metadata.name ⟨job, operation, c, false⟩ with
      ⟨-, heq⟩ | ⟨-, heq⟩ <;> rw [heq] at hs <;> cases hs
    · rfl
    · exact absurd rfl he

/-- A failed call of a deletion is remembered. -/
theorem Parting.refuse_not_clean (h : Parting key c w) : ¬ Clean key w.refuse.log := by
  intro hclean
  refine hclean.1 ?_
  rw [World.refuse, h.fetched]
  simp only [h.leaving.1, if_true, h.named]
  exact List.mem_cons_self ..

/-- Nothing was ever installed for the object. -/
theorem Orderly.settled_of_never (h : Orderly key w) (hpart : Parting key c w)
    (hnever : ∀ j, ¬ Installed key c.metadata.uid w.log j) (hclean : Clean key w.log) :
    Settled key w.log := by
  obtain ⟨s, hs, hnew⟩ := hpart.stored hpart.leaving.2
  refine h.settled hs (fun newer j older heq hj huid => ?_) hclean
  exact absurd ⟨by simp [heq], hj, huid.trans hnew.uid⟩ (hnever j)

theorem Orderly.settled_of_torn {t : StoredJob} (h : Orderly key w) (hpart : Parting key c w)
    (ht : w.jobs (jobKeyOf key .teardown) = some t)
    (huid : t.origin.metadata.uid = c.metadata.uid) (hfin : Finished t.job)
    (hclean : Clean key w.log) : Settled key w.log := by
  obtain ⟨s, hs, hnew⟩ := hpart.stored hpart.leaving.2
  have htorn := h.torn t s ht hs (hnew.uid.trans huid.symm)
  rcases hfin with hdone | hfailed
  · refine h.settled hs ((htorn.completed hdone).mono fun j _ _ hj => ?_) hclean
    rw [hj, hnew.uid, huid]
  · exact absurd hclean (htorn.failed hfailed)

theorem tracked_skip {ph ph' : Phase} (hskip : Skip ph ph') (h : Tracked key ph w) :
    Tracked key ph' w := by
  cases hskip with
  | released | leave | running => exact ⟨h.1, trivial⟩
  | ended hfin => exact ⟨h.1, h.2 hfin⟩

theorem tracked_fetch (h : Orderly key w) (hs : server (.getHelmChart key) w (.ok c) w') :
    Orderly key w' := by
  rcases server_getHelmChart hs with ⟨s, hstored, hx, rfl⟩ | ⟨⟨e, hx⟩, -⟩
  · exact h.congr rfl (fun _ _ hj => hj) (.refl key _)
  · cases hx

/-- **Every call of a pass keeps account of the releases**, if what a deletion looks up tells the
whole history. -/
theorem tracked_move {ph ph' : Phase} {op : Call} {x : op.Answer} (hmove : Move ph op x ph')
    (hg : Guarding key ph w) (h : Tracked key ph w) (hs : server op w x w')
    (hok : Telling key w (.call op x)) : Tracked key ph' w' := by
  cases hmove with
  | take k => exact False.elim hg.2
  | fetch c =>
      obtain ⟨-, rfl⟩ := hg
      exact ⟨tracked_fetch h.1 hs, trivial⟩
  | fetchGone | fetchFailed => exact ⟨h.1.alike (same_getHelmChart hs).toAlike, trivial⟩
  | @adopt c | @adoptFailed c =>
      obtain rfl := hg.2.1.named
      exact ⟨Orderly.updateHelmChart (o := addFinalizer c) h.1
        (Or.inl (hasFinalizer_addFinalizer c)) hs, trivial⟩
  | account | accountFailed => exact ⟨h.1.alike (same_createServiceAccount hs).toAlike, trivial⟩
  | bind | bindFailed => exact ⟨h.1.alike (alike_createClusterRoleBinding hs), trivial⟩
  | find =>
      obtain ⟨rfl, -⟩ := lookup_ok hs
      exact ⟨h.1, trivial⟩
  | miss he | missTeardown _ he =>
      obtain ⟨rfl, -⟩ := lookup_notFound hs he
      exact ⟨h.1, trivial⟩
  | findFailed | findTeardownFailed | findInstalledFailed =>
      exact ⟨h.1.alike (same_getJob hs).toAlike, trivial⟩
  | install hfrom _ | installFailed _ hfrom => exact ⟨h.1.install hg.2 hfrom hs, trivial⟩
  | renew | renewFailed => exact ⟨h.1.deleteJob hs, trivial⟩
  | @report c _ condition | @reportFailed c _ condition =>
      obtain rfl := hg.2.1.named
      exact ⟨Orderly.report (o := { c with
        status.conditions := setStatusCondition c.status.conditions condition }) h.1 hs, trivial⟩
  | @findTeardown c job hleaving =>
      obtain ⟨rfl, t, ht, rfl⟩ := lookup_ok hs
      obtain rfl := hg.2.1.named
      have huid := (hok c hg.2.1.fetched hleaving.1).2 rfl t ht
      exact ⟨h.1, h.1.settled_of_torn ⟨hg.2.1, hleaving⟩ ht huid⟩
  | findInstalled =>
      obtain ⟨rfl, -⟩ := lookup_ok hs
      exact ⟨h.1, trivial⟩
  | @findUninstalled c job hnot =>
      obtain ⟨rfl, -⟩ := lookup_ok hs
      obtain rfl := hg.2.1.named
      -- a failed Job means that nothing was installed
      rcases (hok c hg.2.1.fetched hg.2.1.leaving.1).1 rfl with hcomplete | ⟨-, hnever⟩
      · rw [hnot] at hcomplete
        cases hcomplete
      · exact ⟨h.1, h.1.settled_of_never hg.2.1 hnever⟩
  | @missInstalled c e he =>
      obtain ⟨rfl, -⟩ := lookup_notFound hs he
      obtain rfl := hg.2.1.named
      exact ⟨h.1, h.1.settled_of_never hg.2.1 (hok c hg.2.1.fetched hg.2.1.leaving.1 rfl he)⟩
  | tearDown hfrom _ => exact ⟨h.1.tearDown hg.2.1 hfrom hok hs, trivial⟩
  | tearDownFailed hfrom he =>
      refine ⟨h.1.tearDown hg.2.1 hfrom hok hs, fun hclean => ?_⟩
      rw [refused_createJob hs he] at hclean
      exact absurd hclean hg.2.1.refuse_not_clean
  | unbind c x =>
      have hw := alike_deleteClusterRoleBinding hs
      exact ⟨h.1.alike hw, (hw.grown key).settledFor h.2⟩
  | dismiss c x =>
      have hw := (same_deleteServiceAccount hs).toAlike
      exact ⟨h.1.alike hw, (hw.grown key).settledFor h.2⟩
  | release c _ | releaseFailed c _ =>
      obtain rfl := hg.2.1.named
      exact ⟨Orderly.updateHelmChart (o := dropFinalizer c) h.1 (Or.inr ⟨hg.2.2.1, h.2⟩) hs, trivial⟩

end Pass

/-! ## Whole runs -/

/-- **No release is left behind**: in every run in which what a deletion looks up tells the whole
history, every release that was installed has been uninstalled when the finalizer is removed, unless
a teardown Job or a call of the deletion has failed. The HelmChart may be deleted and created again
in the run; what is left of an earlier one at the start has ended and is settled. -/
theorem releases_uninstalled (key : NamespacedName) {w₀ : World} (hstart : Inherited key w₀)
    (hended : Ended key w₀) (hsettled : Settled key w₀.log)
    {s : State sig (Except Fault Unit) World}
    (hrun : (controllerOf key).toSystem.Run (Telling key) ⟨w₀, none⟩ s)
    (hreleased : Released key s.world) (hclean : Clean key s.world.log) :
    Settled key s.world.log := by
  have hstable : ∀ ph, (controllerOf key).toSystem.Stable (Telling key)
      (fun w => Guarding key ph w ∧ Tracked key ph w) :=
    fun ph w w' ⟨e, he⟩ _ ⟨hg, ht⟩ =>
      ⟨guarding_outside hg (outside_of_act he), tracked_outside hg ht (outside_of_act he)⟩
  have horderly₀ : Orderly key w₀ := by
    refine ⟨fun t s ht hs huid => absurd huid ((hstart.torn t ht).2.2 s hs),
      fun j hj hrun => absurd (hended j hj) hrun, fun _ => ?_⟩
    exact hsettled.mono fun _ _ _ _ => trivial
  have hends := System.run_flow_world
    (I := fun w => Guarding key .done w ∧ Tracked key .done w)
    (controllerOf_follows key) (hstable .done) hstable
    (fun _ _ _ hskip h => ⟨guarding_skip hskip h.1, tracked_skip hskip h.2⟩)
    (fun _ _ _ _ _ _ hmove h hs hok =>
      ⟨guarding_move hmove h.1 hs hok.inOrder, tracked_move hmove h.1 h.2 hs hok⟩)
    (fun w hw => ⟨⟨hw.1.1.congr rfl (.of_subset fun _ _ hj => hj) rfl, rfl⟩,
      hw.2.1.congr rfl (fun _ _ hj => hj) (.refl key _), trivial⟩)
    (fun a q w hq hw => by cases a <;> cases hq <;> exact hw)
    rfl ⟨⟨hstart.tidy, trivial⟩, horderly₀, trivial⟩ hrun
  have horderly : Orderly key s.world := by
    rcases hends with h | ⟨q, h⟩
    · exact h.2.1
    · exact h.2.1
  refine (horderly.past hclean).mono fun j _ _ _ => ?_
  rintro ⟨c, hc, -, hfin⟩
  rw [hreleased c hc] at hfin
  cases hfin

/-- What the entry says about completed install Jobs of the object satisfies `P`. -/
def Entry.Installs (key : NamespacedName) (uid : String) (P : StoredJob → Prop) : Entry → Prop
  | .ended k j => k = jobKeyOf key .install → Completed j → j.origin.metadata.uid = uid → P j
  | .wrote _ _ _ | .refused _ => True

instance (key : NamespacedName) (uid : String) (P : StoredJob → Prop) [DecidablePred P]
    (e : Entry) : Decidable (e.Installs key uid P) :=
  match e with
  | .ended k j => inferInstanceAs (Decidable (k = jobKeyOf key .install → Completed j →
      j.origin.metadata.uid = uid → P j))
  | .wrote _ _ _ | .refused _ => .isTrue trivial

theorem forall_installs_iff {uid : String} {log : List Entry} {P : StoredJob → Prop} :
    (∀ e ∈ log, e.Installs key uid P) ↔ ∀ j, Installed key uid log j → P j := by
  constructor
  · exact fun h j hj => h _ hj.1 rfl hj.2.1 hj.2.2
  · intro h e he
    cases e with
    | ended k j =>
        rintro rfl hj huid
        exact h j ⟨he, hj, huid⟩
    | wrote | refused => trivial

instance (key : NamespacedName) (w : World) (l : Label sig (Except Fault Unit) World) :
    Decidable (Telling key w l) :=
  match l with
  | .call (.getJob k) (.ok job) =>
      decidable_of_iff (∀ c ∈ w.fetched, c.metadata.deletionTimestamp.isSome = true →
        (k = jobKeyOf key .install → hasCondition job .complete = true ∨
          (Finished job ∧ ∀ e ∈ w.log, e.Installs key c.metadata.uid (fun _ => False))) ∧
        (k = jobKeyOf key .teardown →
          ∀ t ∈ w.jobs k, t.origin.metadata.uid = c.metadata.uid))
        (by simp only [forall_installs_iff]; exact Iff.rfl)
  | .call (.getJob k) (.error e) =>
      decidable_of_iff (∀ c ∈ w.fetched, c.metadata.deletionTimestamp.isSome = true →
        k = jobKeyOf key .install → e.reason = .notFound →
          ∀ e ∈ w.log, e.Installs key c.metadata.uid (fun _ => False))
        (by simp only [forall_installs_iff]; exact Iff.rfl)
  | .call (.createJob _ .teardown origin) _ =>
      decidable_of_iff (∀ e ∈ w.log, e.Installs key origin.metadata.uid (fun j => j.release =
        ⟨origin.metadata.name, origin.spec.chart.targetNamespace⟩)) forall_installs_iff
  | .call (.createJob _ .install _) _ | .call .next _ | .call (.getHelmChart _) _
  | .call (.updateHelmChart _) _ | .call (.updateHelmChartStatus _) _
  | .call (.createServiceAccount _) _ | .call (.deleteServiceAccount _) _
  | .call (.createClusterRoleBinding _) _ | .call (.deleteClusterRoleBinding _) _
  | .call (.deleteJob _) _ | .enter | .leave _ | .env _ => .isTrue trivial

/-- The entry says that no Job of the deletion has failed, and no call. -/
def Entry.clean (key : NamespacedName) : Entry → Bool
  | .ended k t => k ≠ jobKeyOf key .teardown ∨ hasCondition t.job .failed = false
  | .refused k => k ≠ key
  | .wrote _ _ _ => true

theorem clean_of_all {log : List Entry} (h : log.all (·.clean key) = true) : Clean key log := by
  rw [List.all_eq_true] at h
  refine ⟨fun hmem => ?_, fun t hmem => ?_⟩
  · simpa [Entry.clean] using h _ hmem
  · simpa [Entry.clean] using h _ hmem

/-- The HelmChart is gone, nothing has failed, and something was installed for that object. -/
def goneAfterInstall (key : NamespacedName) (uid : String)
    (s : State sig (Except Fault Unit) World) : Bool :=
  (s.world.charts key).isNone && s.world.log.all (·.clean key) &&
    ! s.world.log.all (fun e => e.Installs key uid (fun _ => False))

theorem goneAfterInstall_spec {uid : String} {s : State sig (Except Fault Unit) World}
    (h : goneAfterInstall key uid s = true) :
    Released key s.world ∧ Clean key s.world.log ∧ ∃ j, Installed key uid s.world.log j := by
  simp only [goneAfterInstall, Bool.and_eq_true, Option.isNone_iff_eq_none] at h
  refine ⟨fun c hc => ?_, clean_of_all h.1.2, ?_⟩
  · rw [h.1.1] at hc
    cases hc
  · by_contra hnone
    have hall : ∀ e ∈ s.world.log, e.Installs key uid (fun _ => False) :=
      forall_installs_iff.mpr fun j hj => hnone ⟨j, hj⟩
    obtain ⟨e, he, hnot⟩ : ∃ e ∈ s.world.log, ¬ e.Installs key uid (fun _ => False) := by
      simpa using h.2
    exact hnot (hall e he)

/-- The life of a HelmChart: it is installed, deleted and torn down. -/
def life : List (Machine.Act Choice Event) :=
  installPasses ++ [jobEnds sampleKey .install .complete, .env (.requestDeletion sampleKey 7)] ++
    pass (List.replicate 4 .serve) ++ [jobEnds sampleKey .teardown .complete] ++
    pass (List.replicate 5 .serve)

/-- Two lives: the HelmChart is created again for another namespace when the Jobs of the first one
are gone. -/
theorem lives_settled :
    ∃ s, (controllerOf sampleKey).toSystem.Run (Telling sampleKey) sampleStart s ∧
      Released sampleKey s.world ∧ Clean sampleKey s.world.log ∧
      (∃ j, Installed sampleKey "uid-1" s.world.log j) ∧
      (∃ j, Installed sampleKey "uid-2" s.world.log j) ∧ Settled sampleKey s.world.log := by
  obtain ⟨s, hrun, hs⟩ := Machine.exists_run (controllerOf sampleKey) (Telling sampleKey)
    sampleStart
    (life ++ [.env (.collect (jobKeyOf sampleKey .install)),
      .env (.collect (jobKeyOf sampleKey .teardown)),
      .env (.create sampleKey "uid-2" { sampleSpec with chart.targetNamespace := "web" })] ++ life)
    (fun s => goneAfterInstall sampleKey "uid-1" s && goneAfterInstall sampleKey "uid-2" s)
    (by decide +kernel)
  rw [Bool.and_eq_true] at hs
  obtain ⟨hreleased, hclean, hfirst⟩ := goneAfterInstall_spec hs.1
  have hsettled : Settled sampleKey sampleStart.world.log := by
    intro newer j older heq
    have hmem : Entry.ended (jobKeyOf sampleKey .install) j ∈ sampleStart.world.log := by simp [heq]
    cases List.mem_singleton.mp hmem
  exact ⟨s, hrun, hreleased, hclean, hfirst, (goneAfterInstall_spec hs.2).2.2,
    releases_uninstalled sampleKey inherited_sample (fun j hj => by cases hj) hsettled hrun hreleased
      hclean⟩

/-- The HelmChart is installed; then it changes, and its upgrade fails. -/
def failedUpgrade : List (Machine.Act Choice Event) :=
  installPasses ++ [jobEnds sampleKey .install .complete,
    .env (.edit sampleKey { sampleSpec with chart.version := "2" })] ++
  pass (List.replicate 5 .serve) ++ pass (List.replicate 5 .serve) ++
  [jobEnds sampleKey .install .failed]

/-- **A release is left behind**: after a failed upgrade, the deletion of the HelmChart does not
uninstall what its first install Job has installed. -/
theorem upgraded_release_left_behind :
    ∃ s, (controllerOf sampleKey).toSystem.Run (fun _ _ => True) sampleStart s ∧
      Released sampleKey s.world ∧ Clean sampleKey s.world.log ∧
      ¬ Settled sampleKey s.world.log := by
  obtain ⟨s, hrun, hs⟩ := Machine.exists_run (controllerOf sampleKey) (fun _ _ => True) sampleStart
    (failedUpgrade ++ [.env (.requestDeletion sampleKey 7)] ++ pass (List.replicate 6 .serve))
    (fun s => goneAfterInstall sampleKey "uid-1" s && s.world.log.all (fun e =>
      match e with
      | .ended k _ => k ≠ jobKeyOf sampleKey .teardown
      | _ => true)) (by decide +kernel)
  rw [Bool.and_eq_true, List.all_eq_true] at hs
  obtain ⟨hreleased, hclean, j, hmem, hj, -⟩ := goneAfterInstall_spec hs.1
  refine ⟨s, hrun, hreleased, hclean, fun hsettled => ?_⟩
  -- there never was a teardown Job
  obtain ⟨newer, older, heq⟩ := List.append_of_mem hmem
  obtain ⟨t, ht, -⟩ := hsettled newer j older heq hj trivial
  have hnot := hs.2 _ (heq ▸ List.mem_append_left _ ht)
  simp at hnot

end Heir.Controller.Helm
