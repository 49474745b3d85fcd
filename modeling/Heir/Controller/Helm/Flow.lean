import Heir.Controller.Helm.Reconcile

set_option autoImplicit false

/-! # The control flow of the HelmChart controller

`Reconcile` as a transition system, like that of the WorkerJoinToken controller: the phases of a
pass carry the copy `c` of the HelmChart that the pass has fetched, and what it has looked up.
`reconcile_follows` says that the program makes no other calls.
-/

namespace Heir.Controller.Helm

open Heir.Core Heir.ClusterAgent Heir.Runtime Interact

inductive Phase where
  | waiting
  | begun (key : NamespacedName)
  | fetched (c : HelmChart)
  -- installation
  | accounted (c : HelmChart)
  | bound (c : HelmChart)
  | absent (c : HelmChart)
  | found (c : HelmChart) (installJob : Job)
  -- deletion
  | torn (c : HelmChart) (teardownJob : Job)
  | untorn (c : HelmChart)
  | succeeded (c : HelmChart)
  /-- The end of the deletion: the permissions are deleted, then the finalizer is removed. -/
  | clearing (c : HelmChart)
  | unbound (c : HelmChart)
  | cleared (c : HelmChart)
  | done
  | failed

/-- A copy that is not being deleted and has the finalizer. -/
def Active (c : HelmChart) : Prop :=
  c.metadata.deletionTimestamp = none ∧ hasFinalizer c = true

/-- A copy that is being deleted and has the finalizer. -/
def Leaving (c : HelmChart) : Prop :=
  c.metadata.deletionTimestamp.isSome = true ∧ hasFinalizer c = true

/-- The Job has a condition that says it has ended. -/
def Finished (job : Job) : Prop :=
  hasCondition job .complete = true ∨ hasCondition job .failed = true

instance (job : Job) : Decidable (Finished job) := inferInstanceAs (Decidable (_ ∨ _))

/-- The Job was generated from the copy for this operation, and the copy owns it. -/
def GeneratedFrom (c : HelmChart) (operation : JobOperation) (job : Job) : Prop :=
  ∃ newJob refs, generateJob c operation = .ok newJob ∧
    job = { newJob with metadata.ownerReferences := refs }

variable {c : HelmChart} {job : Job}

theorem ownedJob_spec {operation : JobOperation} {build own : String}
    (h : ownedJob c operation build own = .ok job) : GeneratedFrom c operation job := by
  rw [ownedJob] at h
  split at h
  · cases h
  · rename_i newJob hnew
    split at h
    · cases h
    · rename_i m hm
      cases h
      obtain ⟨refs, rfl⟩ := setControllerReference_ok hm
      exact ⟨newJob, refs, hnew, rfl⟩

/-- The Job can always be built: it is a fresh object in the namespace of its owner. -/
theorem ownedJob_ok (c : HelmChart) (operation : JobOperation) (build own : String) :
    ∃ job, ownedJob c operation build own = .ok job ∧ GeneratedFrom c operation job := by
  obtain ⟨newJob, hnew, hns, hrefs⟩ : ∃ newJob, generateJob c operation = .ok newJob ∧
      newJob.metadata.ns = c.metadata.ns ∧ newJob.metadata.ownerReferences = [] :=
    ⟨_, rfl, rfl, rfl⟩
  have hok : ∃ job, ownedJob c operation build own = .ok job := by
    rw [ownedJob, hnew]
    dsimp only
    rw [setControllerReference_fresh hns hrefs]
    exact ⟨_, rfl⟩
  exact hok.imp fun job h => ⟨h, ownedJob_spec h⟩

theorem GeneratedFrom.key {operation : JobOperation} (h : GeneratedFrom c operation job) :
    job.metadata.key = jobKey c operation := by
  obtain ⟨newJob, refs, hnew, rfl⟩ := h
  cases hnew
  rfl

/-- A new Job has not ended. -/
theorem GeneratedFrom.conditions {operation : JobOperation} (h : GeneratedFrom c operation job) :
    hasCondition job .complete = false ∧ hasCondition job .failed = false := by
  obtain ⟨newJob, refs, hnew, rfl⟩ := h
  cases hnew
  exact ⟨rfl, rfl⟩

/-- The calls of a pass. -/
inductive Move : Phase → (op : Call) → op.Answer → Phase → Prop where
  | take (key : NamespacedName) : Move .waiting .next key (.begun key)
  | fetch {key : NamespacedName} (c : HelmChart) :
      Move (.begun key) (.getHelmChart key) (.ok c) (.fetched c)
  | fetchGone {key : NamespacedName} {e : GoError} : e.reason = .notFound →
      Move (.begun key) (.getHelmChart key) (.error e) .done
  | fetchFailed (key : NamespacedName) (e : GoError) :
      Move (.begun key) (.getHelmChart key) (.error e) .failed
  -- the finalizer
  | adopt {c : HelmChart} (o : HelmChart) : c.metadata.deletionTimestamp = none →
      hasFinalizer c = false →
      Move (.fetched c) (.updateHelmChart (addFinalizer c)) (.ok o) .done
  | adoptFailed (c : HelmChart) (e : GoError) :
      Move (.fetched c) (.updateHelmChart (addFinalizer c)) (.error e) .failed
  -- the permissions
  | account {c : HelmChart} {m : ObjectMeta} (x : Except GoError Unit) : Active c →
      setControllerReference c.metadata apiVersion kind (generateRBAC c).1.metadata = .ok m →
      Move (.fetched c) (.createServiceAccount ⟨m⟩) x (.accounted c)
  | accountFailed (c : HelmChart) (sa : ServiceAccount) (e : GoError) :
      Move (.fetched c) (.createServiceAccount sa) (.error e) .failed
  | bind {c : HelmChart} {x : Except GoError Unit} : failedUnless .alreadyExists x = none →
      Move (.accounted c) (.createClusterRoleBinding (generateRBAC c).2) x (.bound c)
  | bindFailed (c : HelmChart) (e : GoError) :
      Move (.accounted c) (.createClusterRoleBinding (generateRBAC c).2) (.error e) .failed
  -- the install Job
  | find (c : HelmChart) (job : Job) :
      Move (.bound c) (.getJob (jobKey c .install)) (.ok job) (.found c job)
  | miss {c : HelmChart} {e : GoError} : e.reason = .notFound →
      Move (.bound c) (.getJob (jobKey c .install)) (.error e) (.absent c)
  | findFailed (c : HelmChart) (e : GoError) :
      Move (.bound c) (.getJob (jobKey c .install)) (.error e) .failed
  | install {c : HelmChart} {job : Job} {x : Except GoError Unit} :
      GeneratedFrom c .install job → failedUnless .alreadyExists x = none →
      Move (.absent c) (.createJob job .install c) x .done
  | installFailed {c : HelmChart} {job : Job} (e : GoError) : GeneratedFrom c .install job →
      Move (.absent c) (.createJob job .install c) (.error e) .failed
  | renew {c : HelmChart} {job : Job} {x : Except GoError Unit} : Finished job →
      failedUnless .notFound x = none →
      Move (.found c job) (.deleteJob job.metadata.key) x .done
  | renewFailed {c : HelmChart} {job : Job} (e : GoError) : Finished job →
      Move (.found c job) (.deleteJob job.metadata.key) (.error e) .failed
  | report {c : HelmChart} {job : Job} {condition : Condition} (o : HelmChart) :
      job.metadata.labels.getD observedGenerationLabel "" = toString c.metadata.generation →
      readyCondition c job = some condition →
      Move (.found c job) (.updateHelmChartStatus { c with
        status.conditions := setStatusCondition c.status.conditions condition }) (.ok o) .done
  | reportFailed {c : HelmChart} {job : Job} {condition : Condition} (e : GoError) :
      job.metadata.labels.getD observedGenerationLabel "" = toString c.metadata.generation →
      readyCondition c job = some condition →
      Move (.found c job) (.updateHelmChartStatus { c with
        status.conditions := setStatusCondition c.status.conditions condition }) (.error e) .failed
  -- deletion
  | findTeardown {c : HelmChart} (job : Job) : Leaving c →
      Move (.fetched c) (.getJob (jobKey c .teardown)) (.ok job) (.torn c job)
  | missTeardown {c : HelmChart} {e : GoError} : Leaving c → e.reason = .notFound →
      Move (.fetched c) (.getJob (jobKey c .teardown)) (.error e) (.untorn c)
  | findTeardownFailed {c : HelmChart} (e : GoError) : Leaving c →
      Move (.fetched c) (.getJob (jobKey c .teardown)) (.error e) .failed
  | findInstalled {c : HelmChart} {job : Job} : hasCondition job .complete = true →
      Move (.untorn c) (.getJob (jobKey c .install)) (.ok job) (.succeeded c)
  | findUninstalled {c : HelmChart} {job : Job} : hasCondition job .complete = false →
      Move (.untorn c) (.getJob (jobKey c .install)) (.ok job) (.clearing c)
  | missInstalled {c : HelmChart} {e : GoError} : e.reason = .notFound →
      Move (.untorn c) (.getJob (jobKey c .install)) (.error e) (.clearing c)
  | findInstalledFailed (c : HelmChart) (e : GoError) :
      Move (.untorn c) (.getJob (jobKey c .install)) (.error e) .failed
  | tearDown {c : HelmChart} {job : Job} {x : Except GoError Unit} :
      GeneratedFrom c .teardown job → failedUnless .alreadyExists x = none →
      Move (.succeeded c) (.createJob job .teardown c) x .done
  | tearDownFailed {c : HelmChart} {job : Job} {e : GoError} : GeneratedFrom c .teardown job →
      e.reason ≠ .alreadyExists →
      Move (.succeeded c) (.createJob job .teardown c) (.error e) (.clearing c)
  | unbind (c : HelmChart) (x : Except GoError Unit) :
      Move (.clearing c) (.deleteClusterRoleBinding (serviceAccountName c.metadata.name)) x
        (.unbound c)
  | dismiss (c : HelmChart) (x : Except GoError Unit) :
      Move (.unbound c)
        (.deleteServiceAccount ⟨c.metadata.ns, serviceAccountName c.metadata.name⟩) x (.cleared c)
  | release (c o : HelmChart) :
      Move (.cleared c) (.updateHelmChart (dropFinalizer c)) (.ok o) .done
  | releaseFailed (c : HelmChart) (e : GoError) :
      Move (.cleared c) (.updateHelmChart (dropFinalizer c)) (.error e) .failed

/-- The decisions of a pass between two calls. -/
inductive Skip : Phase → Phase → Prop where
  | released {c : HelmChart} : c.metadata.deletionTimestamp.isSome = true →
      hasFinalizer c = false → Skip (.fetched c) .done
  /-- The Job is running, or there is nothing to report. -/
  | leave (c : HelmChart) (job : Job) : Skip (.found c job) .done
  | ended {c : HelmChart} {job : Job} : Finished job → Skip (.torn c job) (.clearing c)
  | running (c : HelmChart) (job : Job) : Skip (.torn c job) .done

def flow : Flow sig Phase := ⟨Move, Skip⟩

/-! ## The program follows the flow -/

/-- From the phase `ph` on, the function follows the flow of a pass and ends in the phase `q`. -/
abbrev Along {α : Type} (p : Go α) (q ph : Phase) : Prop :=
  FollowsTo flow .failed p (fun _ q' => q' = q) ph

theorem fail_along {α : Type} {q : Phase} (e : GoError) : Along (Go.fail e : Go α) q .failed :=
  FollowsTo.fail rfl

theorem failedUnless_cases (reason : Reason) (x : Except GoError Unit) :
    failedUnless reason x = none ∨
      ∃ e, x = .error e ∧ e.reason ≠ reason ∧ failedUnless reason x = some e := by
  cases x with
  | ok u => exact Or.inl rfl
  | error e =>
      by_cases he : e.reason = reason
      · exact Or.inl (by simp [failedUnless, he])
      · exact Or.inr ⟨e, rfl, he, by simp [failedUnless, he]⟩

theorem updateReadyCondition_along (hlabel : job.metadata.labels.getD observedGenerationLabel "" =
      toString c.metadata.generation) :
    Along (updateReadyCondition c job) .done (.found c job) := by
  rw [updateReadyCondition]
  split
  · exact FollowsTo.skip (Skip.leave c job) (FollowsTo.ret rfl)
  · rename_i condition hcond
    split
    · exact FollowsTo.skip (Skip.leave c job) (FollowsTo.ret rfl)
    · refine FollowsTo.call_bind fun x => ?_
      cases x with
      | ok o => exact ⟨_, .report o hlabel hcond, FollowsTo.ret rfl⟩
      | error e => exact ⟨_, .reportFailed e hlabel hcond, fail_along _⟩

theorem reconcileInstalled_along (c : HelmChart) (job : Job) :
    Along (reconcileInstalled c job) .done (.found c job) := by
  rw [reconcileInstalled]
  split
  · split
    · exact FollowsTo.skip (Skip.leave c job) (FollowsTo.ret rfl)
    · rename_i hfin
      have hfin' : Finished job := by
        rw [Finished]
        revert hfin
        cases hasCondition job .complete <;> cases hasCondition job .failed <;> simp
      refine FollowsTo.call_bind fun x => ?_
      rcases failedUnless_cases .notFound x with hx | ⟨e, rfl, -, hx⟩
      · refine ⟨_, .renew hfin' hx, ?_⟩
        rw [hx]
        exact FollowsTo.ret rfl
      · refine ⟨_, .renewFailed e hfin', ?_⟩
        rw [hx]
        exact fail_along _
  · rename_i hlabel
    exact updateReadyCondition_along (not_not.mp hlabel)

theorem install_along (c : HelmChart) : Along (install c) .done (.absent c) := by
  obtain ⟨job, hjob, hfrom⟩ := ownedJob_ok c .install "failed to build install job"
    "failed to set owner reference on install job"
  rw [install, hjob, Go.ofExcept_ok_bind]
  refine FollowsTo.call_bind fun x => ?_
  rcases failedUnless_cases .alreadyExists x with hx | ⟨e, rfl, -, hx⟩
  · refine ⟨_, .install hfrom hx, ?_⟩
    rw [hx]
    exact FollowsTo.ret rfl
  · refine ⟨_, .installFailed e hfrom, ?_⟩
    rw [hx]
    exact fail_along _

theorem reconcileLive_along (hact : Active c) : Along (reconcileLive c) .done (.fetched c) := by
  rw [reconcileLive]
  split
  · rename_i e he
    -- the account is a fresh object in the namespace of the HelmChart
    have hns : (generateRBAC c).1.metadata.ns = c.metadata.ns := rfl
    rw [setControllerReference_fresh hns rfl] at he
    cases he
  · rename_i m hm
    refine FollowsTo.call_bind fun x => ?_
    rcases failedUnless_cases .alreadyExists x with hx | ⟨e, rfl, -, hx⟩
    · refine ⟨_, .account x hact hm, ?_⟩
      rw [hx]
      refine FollowsTo.call_bind fun y => ?_
      rcases failedUnless_cases .alreadyExists y with hy | ⟨e, rfl, -, hy⟩
      · refine ⟨_, .bind hy, ?_⟩
        rw [hy]
        refine FollowsTo.call_bind fun z => ?_
        cases z with
        | ok job => exact ⟨_, .find c job, reconcileInstalled_along c job⟩
        | error e =>
            by_cases he : e.reason = .notFound
            · refine ⟨_, .miss he, ?_⟩
              simp only [he, if_true]
              exact install_along c
            · refine ⟨_, .findFailed c e, ?_⟩
              simp only [he, if_false]
              exact fail_along e
      · refine ⟨_, .bindFailed c e, ?_⟩
        rw [hy]
        exact fail_along _
    · refine ⟨_, .accountFailed c _ e, ?_⟩
      rw [hx]
      exact fail_along _

theorem release_along (c : HelmChart) : Along (release c) .done (.clearing c) := by
  refine FollowsTo.bind (B := fun _ q => q = .cleared c) ?_ fun _ q hq => ?_
  · refine FollowsTo.call_bind fun x => ⟨_, .unbind c x, ?_⟩
    exact FollowsTo.call_bind fun y => ⟨_, .dismiss c y, FollowsTo.ret rfl⟩
  · subst hq
    refine FollowsTo.call_bind fun x => ?_
    cases x with
    | ok o => exact ⟨_, .release c o, FollowsTo.ret rfl⟩
    | error e => exact ⟨_, .releaseFailed c e, fail_along _⟩

theorem installJobSucceeded_along (c : HelmChart) :
    FollowsTo flow .failed (installJobSucceeded c)
      (fun b q => q = if b = true then .succeeded c else .clearing c) (.untorn c) := by
  refine FollowsTo.call_bind fun x => ?_
  cases x with
  | error e =>
      by_cases he : e.reason = .notFound
      · refine ⟨_, .missInstalled he, ?_⟩
        simp only [he, if_true]
        exact FollowsTo.ret rfl
      · refine ⟨_, .findInstalledFailed c e, ?_⟩
        simp only [he, if_false]
        exact FollowsTo.fail rfl
  | ok job =>
      cases hjob : hasCondition job .complete with
      | true => exact ⟨_, .findInstalled hjob, FollowsTo.ret (by simp [hjob])⟩
      | false => exact ⟨_, .findUninstalled hjob, FollowsTo.ret (by simp [hjob])⟩

theorem reconcileDelete_along (hdel : c.metadata.deletionTimestamp.isSome = true) :
    Along (reconcileDelete c) .done (.fetched c) := by
  rw [reconcileDelete]
  split
  · rename_i hfin
    exact FollowsTo.skip (Skip.released hdel (by simpa using hfin)) (FollowsTo.ret rfl)
  · rename_i hfin
    have hl : Leaving c := ⟨hdel, by simpa using hfin⟩
    refine FollowsTo.call_bind fun x => ?_
    cases x with
    | error e =>
        by_cases he : e.reason = .notFound
        · refine ⟨_, .missTeardown hl he, ?_⟩
          simp only [he, if_true]
          refine FollowsTo.bind (installJobSucceeded_along c) fun b q hq => ?_
          cases b with
          | false =>
              cases hq
              exact release_along c
          | true =>
              cases hq
              obtain ⟨job, hjob, hfrom⟩ := ownedJob_ok c .teardown "failed to build teardown job"
                "failed to set owner reference on teardown job"
              simp only [if_true, hjob]
              refine FollowsTo.call_bind fun y => ?_
              rcases failedUnless_cases .alreadyExists y with hy | ⟨e, rfl, he, hy⟩
              · refine ⟨_, .tearDown hfrom hy, ?_⟩
                rw [hy]
                exact FollowsTo.ret rfl
              · refine ⟨_, .tearDownFailed hfrom he, ?_⟩
                rw [hy]
                exact release_along c
        · refine ⟨_, .findTeardownFailed e hl, ?_⟩
          simp only [he, if_false]
          exact fail_along e
    | ok job =>
        refine ⟨_, .findTeardown job hl, ?_⟩
        dsimp only
        split
        · rename_i hjob
          exact FollowsTo.skip (Skip.ended (Or.inl hjob)) (release_along c)
        · split
          · rename_i hjob
            exact FollowsTo.skip (Skip.ended (Or.inr hjob)) (release_along c)
          · exact FollowsTo.skip (Skip.running c job) (FollowsTo.ret rfl)

/-- **Reconcile follows the flow.** -/
theorem reconcile_follows (key : NamespacedName) : Along (reconcile key) .done (.begun key) := by
  refine FollowsTo.call_bind fun x => ?_
  cases x with
  | error e =>
      by_cases he : e.reason = .notFound
      · refine ⟨_, .fetchGone he, ?_⟩
        simp only [he, if_true]
        exact FollowsTo.ret rfl
      · refine ⟨_, .fetchFailed key e, ?_⟩
        simp only [he, if_false]
        exact fail_along e
  | ok c =>
      refine ⟨_, .fetch c, ?_⟩
      dsimp only
      split
      · rename_i hdel
        exact reconcileDelete_along hdel
      · rename_i hdel
        have hdel' : c.metadata.deletionTimestamp = none := by simpa using hdel
        split
        · rename_i hfin
          refine FollowsTo.call_bind fun y => ?_
          cases y with
          | ok o => exact ⟨_, .adopt o hdel' (by simpa using hfin), FollowsTo.ret rfl⟩
          | error e => exact ⟨_, .adoptFailed c e, fail_along _⟩
        · rename_i hfin
          exact reconcileLive_along ⟨hdel', by simpa using hfin⟩

theorem processNextWorkItem_follows : Along processNextWorkItem .done .waiting :=
  FollowsTo.call_bind fun key => ⟨_, .take key, reconcile_follows key⟩

end Heir.Controller.Helm
