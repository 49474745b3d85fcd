import Heir.Controller.Helm.Flow
import Mathlib.Logic.Function.Basic

set_option autoImplicit false

/-! # The cluster around the HelmCharts

The API server as the HelmChart controller sees it: HelmCharts, Jobs, ServiceAccounts and
ClusterRoleBindings. Any call may fail, and then nothing is stored, or what a write has stored stays
although its answer gets lost. Between any two calls others act: users create, change and delete
HelmCharts, Jobs make progress and end, and the garbage collector removes what belonged to a
HelmChart that is gone.

The world also keeps a log of what the properties of the controller speak about, newest entry
first.
-/

namespace Heir.Controller.Helm

open Heir.Core Heir.ClusterAgent Heir.Runtime Interact Function

/-! ## Worlds -/

/-- A HelmChart stored under its own key. -/
abbrev ChartAt (key : NamespacedName) : Type := { c : HelmChart // c.metadata.key = key }

/-- The key of a Job of the HelmChart with the given key. -/
def jobKeyOf (key : NamespacedName) (operation : JobOperation) : NamespacedName :=
  ⟨key.ns, jobName key.name operation⟩

/-- A Job, and what it was generated from. -/
structure StoredJob where
  job : Job
  operation : JobOperation
  origin : HelmChart
  /-- The controller was told that the Job was created. -/
  answered : Bool := true

/-- A release of Helm. -/
structure Release where
  name : String
  ns : String
  deriving DecidableEq, Repr

/-- The release that the Job works on. -/
def StoredJob.release (j : StoredJob) : Release :=
  ⟨j.origin.metadata.name, j.origin.spec.chart.targetNamespace⟩

inductive Entry where
  /-- The object with this UID got this specification. -/
  | wrote (uid : String) (generation : Nat) (spec : HelmChartSpec)
  /-- The Job under this key has ended. -/
  | ended (key : NamespacedName) (job : StoredJob)
  /-- A call of `reconcileDelete` for the HelmChart with this key has failed. -/
  | refused (key : NamespacedName)

structure World where
  charts : (key : NamespacedName) → Option (ChartAt key)
  jobs : NamespacedName → Option StoredJob := fun _ => none
  serviceAccounts : NamespacedName → Option ServiceAccount := fun _ => none
  clusterRoleBindings : String → Option ClusterRoleBinding := fun _ => none
  /-- The last resource version that was given out. -/
  version : Nat := 0
  /-- The UIDs of all objects that have been created. -/
  uids : List String := []
  /-- The HelmChart as the running pass has fetched it. -/
  fetched : Option HelmChart := none
  log : List Entry := []

/-- A call has failed, which is noted when it is one of a deletion. -/
def World.refuse (w : World) : World :=
  { w with log :=
      match w.fetched with
      | some c =>
          if c.metadata.deletionTimestamp.isSome then .refused c.metadata.key :: w.log else w.log
      | none => w.log }

/-! ## Answers -/

/-- The resolution of what an answer leaves open. -/
inductive Choice where
  | serve
  | fail (text : String)
  /-- The write is carried out, and its answer gets lost. -/
  | lost (text : String)
  | request (key : NamespacedName)

def notFound (name : String) : GoError := ⟨.notFound, name ++ " not found"⟩

def alreadyExists (name : String) : GoError := ⟨.alreadyExists, name ++ " already exists"⟩

def conflict (name : String) : GoError :=
  ⟨.conflict, "the object " ++ name ++ " has been modified"⟩

section Collections

variable {K V : Type} [DecidableEq K]

/-- Create an object in a collection. -/
def insertNew (f : K → Option V) (key : K) (name : String) (v : V) :
    Except GoError Unit × (K → Option V) :=
  match f key with
  | some _ => (.error (alreadyExists name), f)
  | none => (.ok (), update f key (some v))

/-- Delete an object of a collection. -/
def erase (f : K → Option V) (key : K) (name : String) : Except GoError Unit × (K → Option V) :=
  match f key with
  | none => (.error (notFound name), f)
  | some _ => (.ok (), update f key none)

end Collections

section Serve

variable (w : World)

def serveGetHelmChart (key : NamespacedName) : Except GoError HelmChart × World :=
  match w.charts key with
  | some c => (.ok c.1, { w with fetched := some c.1 })
  | none => (.error (notFound key.name), w)

/-- An update stores the specification and the metadata that clients may change. An object to be
deleted goes away with its last finalizer. -/
def serveUpdateHelmChart (o : HelmChart) : Except GoError HelmChart × World :=
  match w.charts o.metadata.key with
  | none => (.error (notFound o.metadata.name), w.refuse)
  | some s =>
      if s.1.metadata.resourceVersion = o.metadata.resourceVersion then
        let s' : ChartAt o.metadata.key :=
          ⟨{ s.1 with
              spec := o.spec
              metadata := { s.1.metadata with
                resourceVersion := w.version + 1
                finalizers := o.metadata.finalizers
                labels := o.metadata.labels
                annotations := o.metadata.annotations
                ownerReferences := o.metadata.ownerReferences } }, s.2⟩
        let gone := s.1.metadata.deletionTimestamp.isSome && o.metadata.finalizers.isEmpty
        (.ok s'.1, { w with
          charts := update w.charts o.metadata.key (if gone then none else some s')
          version := w.version + 1 })
      else (.error (conflict o.metadata.name), w.refuse)

/-- The status subresource: only the status is stored. -/
def serveStatus (o : HelmChart) : Except GoError HelmChart × World :=
  match w.charts o.metadata.key with
  | none => (.error (notFound o.metadata.name), w.refuse)
  | some s =>
      if s.1.metadata.resourceVersion = o.metadata.resourceVersion then
        let s' : ChartAt o.metadata.key :=
          ⟨{ s.1 with status := o.status, metadata.resourceVersion := w.version + 1 }, s.2⟩
        (.ok s'.1, { w with
          charts := update w.charts o.metadata.key (some s')
          version := w.version + 1 })
      else (.error (conflict o.metadata.name), w.refuse)

def serveGetJob (key : NamespacedName) : Except GoError Job × World :=
  match w.jobs key with
  | some j => (.ok j.job, w)
  | none => (.error (notFound key.name), w)

def serveCreateServiceAccount (o : ServiceAccount) : Except GoError Unit × World :=
  (insertNew w.serviceAccounts o.metadata.key o.metadata.name o).map id
    ({ w with serviceAccounts := · })

def serveDeleteServiceAccount (key : NamespacedName) : Except GoError Unit × World :=
  (erase w.serviceAccounts key key.name).map id ({ w with serviceAccounts := · })

def serveCreateClusterRoleBinding (o : ClusterRoleBinding) : Except GoError Unit × World :=
  (insertNew w.clusterRoleBindings o.metadata.name o.metadata.name o).map id
    ({ w with clusterRoleBindings := · })

def serveDeleteClusterRoleBinding (name : String) : Except GoError Unit × World :=
  (erase w.clusterRoleBindings name name).map id ({ w with clusterRoleBindings := · })

def serveCreateJob (j : StoredJob) : Except GoError Unit × World :=
  (insertNew w.jobs j.job.metadata.key j.job.metadata.name j).map id ({ w with jobs := · })

def serveDeleteJob (key : NamespacedName) : Except GoError Unit × World :=
  (erase w.jobs key key.name).map id ({ w with jobs := · })

/-- A call fails, and nothing is stored. -/
def failing {α : Type} (text : String) : Except GoError α × World := (.error (errorf text), w.refuse)

/-- The answer to a call that was carried out gets lost. A call that fails has no such answer. -/
def lose {α : Type} (text : String) (r : Except GoError α × World) : Except GoError α × World :=
  match r.1 with
  | .ok _ => failing r.2 text
  | .error _ => r

end Serve

/-- The answer to a call, and the world after it. -/
@[simp] def respond : (op : Call) → Choice → World → Option (op.Answer × World)
  | .next, .request key, w => some (key, w)
  | .getHelmChart key, .serve, w => some (serveGetHelmChart w key)
  | .getHelmChart _, .fail t, w => some (failing w t)
  | .updateHelmChart o, .serve, w => some (serveUpdateHelmChart w o)
  | .updateHelmChart _, .fail t, w => some (failing w t)
  | .updateHelmChart o, .lost t, w => some (lose t (serveUpdateHelmChart w o))
  | .updateHelmChartStatus o, .serve, w => some (serveStatus w o)
  | .updateHelmChartStatus _, .fail t, w => some (failing w t)
  | .updateHelmChartStatus o, .lost t, w => some (lose t (serveStatus w o))
  | .createServiceAccount o, .serve, w => some (serveCreateServiceAccount w o)
  | .createServiceAccount _, .fail t, w => some (failing w t)
  | .createServiceAccount o, .lost t, w => some (lose t (serveCreateServiceAccount w o))
  | .deleteServiceAccount key, .serve, w => some (serveDeleteServiceAccount w key)
  | .deleteServiceAccount _, .fail t, w => some (failing w t)
  | .deleteServiceAccount key, .lost t, w => some (lose t (serveDeleteServiceAccount w key))
  | .createClusterRoleBinding o, .serve, w => some (serveCreateClusterRoleBinding w o)
  | .createClusterRoleBinding _, .fail t, w => some (failing w t)
  | .createClusterRoleBinding o, .lost t, w => some (lose t (serveCreateClusterRoleBinding w o))
  | .deleteClusterRoleBinding name, .serve, w => some (serveDeleteClusterRoleBinding w name)
  | .deleteClusterRoleBinding _, .fail t, w => some (failing w t)
  | .deleteClusterRoleBinding name, .lost t, w => some (lose t (serveDeleteClusterRoleBinding w name))
  | .getJob key, .serve, w => some (serveGetJob w key)
  | .getJob _, .fail t, w => some (failing w t)
  | .createJob o operation origin, .serve, w => some (serveCreateJob w ⟨o, operation, origin, true⟩)
  | .createJob _ _ _, .fail t, w => some (failing w t)
  | .createJob o operation origin, .lost t, w =>
      some (lose t (serveCreateJob w ⟨o, operation, origin, false⟩))
  | .deleteJob key, .serve, w => some (serveDeleteJob w key)
  | .deleteJob _, .fail t, w => some (failing w t)
  | .deleteJob key, .lost t, w => some (lose t (serveDeleteJob w key))
  | _, _, _ => none

/-- The server of the cluster. -/
abbrev server : Server sig World := Machine.serve (S := sig) respond

/-! ## What a call can do -/

section Collections

variable {K V : Type} [DecidableEq K]

theorem insertNew_cases (f : K → Option V) (key : K) (name : String) (v : V) :
    (f key = none ∧ insertNew f key name v = (.ok (), update f key (some v))) ∨
      ((∃ v', f key = some v') ∧ insertNew f key name v = (.error (alreadyExists name), f)) := by
  cases hf : f key with
  | none => exact Or.inl ⟨rfl, by simp [insertNew, hf]⟩
  | some v' => exact Or.inr ⟨⟨v', rfl⟩, by simp [insertNew, hf]⟩

theorem erase_snd (f : K → Option V) (key : K) (name : String) :
    (erase f key name).2 = update f key none := by
  cases hf : f key with
  | none =>
      have hself : update f key none = f := by
        rw [← hf]
        exact update_eq_self key f
      simp [erase, hf, hself]
  | some v => simp [erase, hf]

end Collections

/-- HelmCharts and Jobs are as they were. -/
structure Alike (w w' : World) : Prop where
  charts : w'.charts = w.charts
  jobs : w'.jobs = w.jobs
  fetched : w'.fetched = w.fetched
  uids : w'.uids = w.uids
  version : w'.version = w.version
  log : w'.log = w.log ∨ w'.log = w.refuse.log

/-- HelmCharts, Jobs and ClusterRoleBindings are as they were. -/
structure Same (w w' : World) : Prop extends Alike w w' where
  bindings : w'.clusterRoleBindings = w.clusterRoleBindings

theorem Same.refl (w : World) : Same w w := ⟨⟨rfl, rfl, rfl, rfl, rfl, Or.inl rfl⟩, rfl⟩

theorem Same.refuse (w : World) : Same w w.refuse := ⟨⟨rfl, rfl, rfl, rfl, rfl, Or.inr rfl⟩, rfl⟩

section Server

variable {w w' : World}

theorem Alike.log_subset (h : Alike w w') : w.log ⊆ w'.log := by
  rcases h.log with hlog | hlog
  · rw [hlog]
    exact List.Subset.refl _
  · rw [hlog, World.refuse]
    dsimp only
    split
    · split
      · exact List.subset_cons_self _ _
      · exact List.Subset.refl _
    · exact List.Subset.refl _

/-- What a write leaves: it is answered, or it is carried out while its answer gets lost, or it
fails. -/
inductive Wrote {α : Type} (w : World) (r : Except GoError α × World) :
    Except GoError α → World → Prop where
  | answered : Wrote w r r.1 r.2
  | lost {a : α} {e : GoError} : r.1 = .ok a → e.reason = .other → Wrote w r (.error e) r.2.refuse
  | failed {e : GoError} : e.reason = .other → Wrote w r (.error e) w.refuse

section Wrote

variable {α : Type} {r : Except GoError α × World} {x : Except GoError α}

theorem wrote_of {f : Choice → Option (Except GoError α × World)} (hserve : f .serve = some r)
    (hfail : ∀ t, f (.fail t) = some (failing w t)) (hlost : ∀ t, f (.lost t) = some (lose t r))
    (hrequest : ∀ key, f (.request key) = none) (h : ∃ ch, f ch = some (x, w')) :
    Wrote w r x w' := by
  obtain ⟨ch, h⟩ := h
  cases ch with
  | serve =>
      rw [hserve] at h
      cases h
      exact .answered
  | fail t =>
      rw [hfail] at h
      cases h
      exact .failed rfl
  | lost t =>
      rw [hlost, lose] at h
      split at h
      · rename_i a ha
        cases h
        exact .lost ha rfl
      · cases h
        exact .answered
  | request key =>
      rw [hrequest] at h
      cases h

theorem Wrote.same (h : Wrote w r x w') : Same r.2 w' ∨ w' = w.refuse := by
  cases h with
  | answered => exact Or.inl (.refl _)
  | lost => exact Or.inl (.refuse _)
  | failed => exact Or.inr rfl

end Wrote

theorem server_next {x : NamespacedName} (h : server .next w x w') : w' = w := by
  obtain ⟨ch, h⟩ := h
  cases ch <;> simp only [respond, reduceCtorEq] at h
  cases h
  rfl

variable {key : NamespacedName} {x : Except GoError Unit}

/-- The HelmChart is fetched, or it is not there, or the call fails. -/
theorem server_getHelmChart {x : Except GoError HelmChart} (h : server (.getHelmChart key) w x w') :
    (∃ c, w.charts key = some c ∧ x = .ok c.1 ∧ w' = { w with fetched := some c.1 }) ∨
    ((∃ e, x = .error e) ∧ (w' = w ∨ w' = w.refuse)) := by
  obtain ⟨ch, h⟩ := h
  cases ch <;> simp only [respond, reduceCtorEq] at h
  · rw [serveGetHelmChart] at h
    split at h
    · rename_i c hc
      cases h
      exact Or.inl ⟨c, hc, rfl, rfl⟩
    · cases h
      exact Or.inr ⟨⟨_, rfl⟩, Or.inl rfl⟩
  · cases h
    exact Or.inr ⟨⟨_, rfl⟩, Or.inr rfl⟩

/-- What an update stores: the metadata and the specification of the request, or nothing when that
was the last finalizer of an object to be deleted. -/
structure Updated (o : HelmChart) (s s' : HelmChart) (version : Nat) : Prop where
  spec : s'.spec = o.spec
  status : s'.status = s.status
  finalizers : s'.metadata.finalizers = o.metadata.finalizers
  deletion : s'.metadata.deletionTimestamp = s.metadata.deletionTimestamp
  uid : s'.metadata.uid = s.metadata.uid
  generation : s'.metadata.generation = s.metadata.generation
  version : s'.metadata.resourceVersion = version

theorem server_updateHelmChart {o : HelmChart} {x : Except GoError HelmChart}
    (h : server (.updateHelmChart o) w x w') :
    (∃ s s' : ChartAt o.metadata.key, w.charts o.metadata.key = some s ∧
      s.1.metadata.resourceVersion = o.metadata.resourceVersion ∧
      Updated o s.1 s'.1 (w.version + 1) ∧
      Same { w with
        charts := update w.charts o.metadata.key
          (if s.1.metadata.deletionTimestamp.isSome && o.metadata.finalizers.isEmpty then none
            else some s')
        version := w.version + 1 } w') ∨ w' = w.refuse := by
  have hw : Wrote w (serveUpdateHelmChart w o) x w' :=
    wrote_of rfl (fun _ => rfl) (fun _ => rfl) (fun _ => rfl) h
  cases hs : w.charts o.metadata.key with
  | none =>
      refine Or.inr ?_
      simp only [serveUpdateHelmChart, hs] at hw
      cases hw with
      | answered | failed => rfl
      | lost hx => cases hx
  | some s =>
      by_cases hv : s.1.metadata.resourceVersion = o.metadata.resourceVersion
      · simp only [serveUpdateHelmChart, hs, hv, if_true] at hw
        refine hw.same.imp_left fun hsame => ⟨s, _, rfl, hv, ?_, hsame⟩
        exact ⟨rfl, rfl, rfl, rfl, rfl, rfl, rfl⟩
      · refine Or.inr ?_
        simp only [serveUpdateHelmChart, hs, hv, if_false] at hw
        cases hw with
        | answered | failed => rfl
        | lost hx => cases hx

theorem server_status {o : HelmChart} {x : Except GoError HelmChart}
    (h : server (.updateHelmChartStatus o) w x w') :
    (∃ s s' : ChartAt o.metadata.key, w.charts o.metadata.key = some s ∧
      s.1.metadata.resourceVersion = o.metadata.resourceVersion ∧
      s'.1 = { s.1 with status := o.status, metadata.resourceVersion := w.version + 1 } ∧
      Same { w with
        charts := update w.charts o.metadata.key (some s')
        version := w.version + 1 } w') ∨ w' = w.refuse := by
  have hw : Wrote w (serveStatus w o) x w' :=
    wrote_of rfl (fun _ => rfl) (fun _ => rfl) (fun _ => rfl) h
  cases hs : w.charts o.metadata.key with
  | none =>
      refine Or.inr ?_
      simp only [serveStatus, hs] at hw
      cases hw with
      | answered | failed => rfl
      | lost hx => cases hx
  | some s =>
      by_cases hv : s.1.metadata.resourceVersion = o.metadata.resourceVersion
      · simp only [serveStatus, hs, hv, if_true] at hw
        exact hw.same.imp_left fun hsame => ⟨s, _, rfl, hv, rfl, hsame⟩
      · refine Or.inr ?_
        simp only [serveStatus, hs, hv, if_false] at hw
        cases hw with
        | answered | failed => rfl
        | lost hx => cases hx

theorem same_createServiceAccount {o : ServiceAccount}
    (h : server (.createServiceAccount o) w x w') : Same w w' := by
  have hw : Wrote w (serveCreateServiceAccount w o) x w' :=
    wrote_of rfl (fun _ => rfl) (fun _ => rfl) (fun _ => rfl) h
  rcases hw.same with hsame | rfl
  · exact ⟨⟨hsame.charts, hsame.jobs, hsame.fetched, hsame.uids, hsame.version, hsame.log⟩,
      hsame.bindings⟩
  · exact .refuse w

theorem same_deleteServiceAccount (h : server (.deleteServiceAccount key) w x w') : Same w w' := by
  have hw : Wrote w (serveDeleteServiceAccount w key) x w' :=
    wrote_of rfl (fun _ => rfl) (fun _ => rfl) (fun _ => rfl) h
  rcases hw.same with hsame | rfl
  · exact ⟨⟨hsame.charts, hsame.jobs, hsame.fetched, hsame.uids, hsame.version, hsame.log⟩,
      hsame.bindings⟩
  · exact .refuse w

/-- The binding is stored, or one of that name was there, or the call fails. -/
theorem server_createClusterRoleBinding {o : ClusterRoleBinding}
    (h : server (.createClusterRoleBinding o) w x w') :
    Same { w with
      clusterRoleBindings := update w.clusterRoleBindings o.metadata.name (some o) } w' ∨
    ((∃ b, w.clusterRoleBindings o.metadata.name = some b) ∧ w' = w) ∨
    ((∃ e, x = .error e ∧ e.reason = .other) ∧ w' = w.refuse) := by
  have hw : Wrote w (serveCreateClusterRoleBinding w o) x w' :=
    wrote_of rfl (fun _ => rfl) (fun _ => rfl) (fun _ => rfl) h
  rw [serveCreateClusterRoleBinding] at hw
  rcases insertNew_cases w.clusterRoleBindings o.metadata.name o.metadata.name o with
    ⟨-, heq⟩ | ⟨hf, heq⟩ <;> rw [heq] at hw
  · cases hw with
    | answered => exact Or.inl (.refl _)
    | lost => exact Or.inl (.refuse _)
    | failed he => exact Or.inr (Or.inr ⟨⟨_, rfl, he⟩, rfl⟩)
  · cases hw with
    | answered => exact Or.inr (Or.inl ⟨hf, rfl⟩)
    | lost hx => cases hx
    | failed he => exact Or.inr (Or.inr ⟨⟨_, rfl, he⟩, rfl⟩)

theorem server_deleteClusterRoleBinding {name : String}
    (h : server (.deleteClusterRoleBinding name) w x w') :
    Same { w with clusterRoleBindings := update w.clusterRoleBindings name none } w' ∨
      w' = w.refuse := by
  have hw : Wrote w (serveDeleteClusterRoleBinding w name) x w' :=
    wrote_of rfl (fun _ => rfl) (fun _ => rfl) (fun _ => rfl) h
  rw [← erase_snd]
  exact hw.same

theorem server_getJob {x : Except GoError Job} (h : server (.getJob key) w x w') :
    (∃ j, w.jobs key = some j ∧ x = .ok j.job ∧ w' = w) ∨
    ((∃ e, x = .error e ∧ e.reason = .notFound) ∧ w.jobs key = none ∧ w' = w) ∨
    ((∃ e, x = .error e ∧ e.reason = .other) ∧ w' = w.refuse) := by
  obtain ⟨ch, h⟩ := h
  cases ch <;> simp only [respond, reduceCtorEq] at h
  · rw [serveGetJob] at h
    split at h
    · rename_i j hj
      cases h
      exact Or.inl ⟨j, hj, rfl, rfl⟩
    · rename_i hj
      cases h
      exact Or.inr (Or.inl ⟨⟨_, rfl, rfl⟩, hj, rfl⟩)
  · cases h
    exact Or.inr (Or.inr ⟨⟨_, rfl, rfl⟩, rfl⟩)

/-- The Job is stored, or one of that name was there, or the call fails. -/
theorem server_createJob {o : Job} {operation : JobOperation} {origin : HelmChart}
    (h : server (.createJob o operation origin) w x w') :
    (∃ answered, (answered = true → x = .ok ()) ∧ Same { w with
      jobs := update w.jobs o.metadata.key (some ⟨o, operation, origin, answered⟩) } w') ∨
    ((∃ e, x = .error e ∧ e.reason = .alreadyExists) ∧ w' = w) ∨
    ((∃ e, x = .error e ∧ e.reason = .other) ∧ w' = w.refuse) := by
  obtain ⟨ch, h⟩ := h
  have hcases := fun answered =>
    insertNew_cases w.jobs o.metadata.key o.metadata.name ⟨o, operation, origin, answered⟩
  cases ch <;> simp only [respond, reduceCtorEq, serveCreateJob] at h
  · rcases hcases true with ⟨-, heq⟩ | ⟨-, heq⟩ <;> rw [heq] at h <;> cases h
    · exact Or.inl ⟨true, fun _ => rfl, .refl _⟩
    · exact Or.inr (Or.inl ⟨⟨_, rfl, rfl⟩, rfl⟩)
  · cases h
    exact Or.inr (Or.inr ⟨⟨_, rfl, rfl⟩, rfl⟩)
  · rcases hcases false with ⟨-, heq⟩ | ⟨-, heq⟩ <;> rw [heq] at h <;> cases h
    · exact Or.inl ⟨false, fun hanswered => (by cases hanswered), .refuse _⟩
    · exact Or.inr (Or.inl ⟨⟨_, rfl, rfl⟩, rfl⟩)

theorem server_deleteJob (h : server (.deleteJob key) w x w') :
    Same { w with jobs := update w.jobs key none } w' ∨ w' = w.refuse := by
  have hw : Wrote w (serveDeleteJob w key) x w' :=
    wrote_of rfl (fun _ => rfl) (fun _ => rfl) (fun _ => rfl) h
  rw [← erase_snd]
  exact hw.same

/-! The calls on the permissions, and lookups that fail, leave HelmCharts and Jobs alone. -/

theorem alike_createClusterRoleBinding {o : ClusterRoleBinding}
    (hs : server (.createClusterRoleBinding o) w x w') : Alike w w' := by
  rcases server_createClusterRoleBinding hs with hw | ⟨-, rfl⟩ | ⟨-, rfl⟩
  · exact ⟨hw.charts, hw.jobs, hw.fetched, hw.uids, hw.version, hw.log⟩
  · exact (Same.refl _).toAlike
  · exact (Same.refuse w).toAlike

theorem alike_deleteClusterRoleBinding {name : String}
    (hs : server (.deleteClusterRoleBinding name) w x w') : Alike w w' := by
  rcases server_deleteClusterRoleBinding hs with hw | rfl
  · exact ⟨hw.charts, hw.jobs, hw.fetched, hw.uids, hw.version, hw.log⟩
  · exact (Same.refuse w).toAlike

theorem same_getHelmChart {e : GoError} (hs : server (.getHelmChart key) w (.error e) w') :
    Same w w' := by
  rcases server_getHelmChart hs with ⟨s, -, hx, -⟩ | ⟨-, rfl | rfl⟩
  · cases hx
  · exact .refl w'
  · exact .refuse w

theorem same_getJob {e : GoError} (hs : server (.getJob key) w (.error e) w') : Same w w' := by
  rcases server_getJob hs with ⟨j, -, hx, -⟩ | ⟨-, -, rfl⟩ | ⟨-, rfl⟩
  · cases hx
  · exact .refl w'
  · exact .refuse w

theorem lookup_ok {k : NamespacedName} {job : Job} (hs : server (.getJob k) w (.ok job) w') :
    w' = w ∧ ∃ j, w.jobs k = some j ∧ j.job = job := by
  rcases server_getJob hs with ⟨j, hj, hx, hw⟩ | ⟨⟨e, hx, -⟩, -⟩ | ⟨⟨e, hx, -⟩, -⟩
  · cases hx
    exact ⟨hw, j, hj, rfl⟩
  · cases hx
  · cases hx

theorem lookup_notFound {k : NamespacedName} {e : GoError}
    (hs : server (.getJob k) w (.error e) w') (he : e.reason = .notFound) :
    w' = w ∧ w.jobs k = none := by
  rcases server_getJob hs with ⟨j, -, hx, -⟩ | ⟨-, hnone, hw⟩ | ⟨⟨e', hx, he'⟩, -⟩
  · cases hx
  · exact ⟨hw, hnone⟩
  · cases hx
    rw [he] at he'
    cases he'

end Server

/-! ## Others -/

/-- What others do. -/
inductive Event where
  | create (key : NamespacedName) (uid : String) (spec : HelmChartSpec)
  | edit (key : NamespacedName) (spec : HelmChartSpec)
  | requestDeletion (key : NamespacedName) (now : Time)
  | relabel (key : NamespacedName) (labels : GoMap String)
  /-- The Job controller writes the conditions of a Job that has not ended. -/
  | progress (key : NamespacedName) (conditions : List JobCondition)
  /-- The garbage collector removes what belonged to a HelmChart that is gone. -/
  | collect (key : NamespacedName)
  | collectAccount (key : NamespacedName)

def Event.creates : Event → Bool
  | .create _ _ _ => true
  | _ => false

/-- A HelmChart as a user creates it. -/
def newHelmChart (key : NamespacedName) (uid : String) (version : Nat) (spec : HelmChartSpec) :
    ChartAt key :=
  ⟨{ metadata :=
      { name := key.name, ns := key.ns, uid := uid, resourceVersion := version, generation := 1 }
     spec := spec }, rfl⟩

section Act

variable (w : World)

/-- Store another version of a HelmChart. -/
def putChart {key : NamespacedName} (c : Option (ChartAt key)) (entries : List Entry) : World :=
  { w with
    charts := update w.charts key c
    version := w.version + 1
    log := entries ++ w.log }

/-- The HelmChart with another specification. -/
def respec {key : NamespacedName} (c : ChartAt key) (spec : HelmChartSpec) : ChartAt key :=
  ⟨{ c.1 with
      spec := spec
      metadata := { c.1.metadata with
        generation := c.1.metadata.generation + 1
        resourceVersion := w.version + 1 } }, c.2⟩

/-- The HelmChart after the request to delete it. -/
def marked {key : NamespacedName} (c : ChartAt key) (now : Time) : ChartAt key :=
  ⟨{ c.1 with metadata := { c.1.metadata with
      deletionTimestamp := some now
      generation := c.1.metadata.generation + 1
      resourceVersion := w.version + 1 } }, c.2⟩

/-- The entry about the specification of a HelmChart. -/
def wroteEntry (c : HelmChart) : Entry := .wrote c.metadata.uid c.metadata.generation c.spec

/-- The HelmChart that a Job was generated from is not there any more. -/
def ownerGone (j : StoredJob) : Bool :=
  (w.charts j.origin.metadata.key).all (fun c => c.1.metadata.uid ≠ j.origin.metadata.uid)

/-- The Job with new conditions. -/
def StoredJob.withConditions (j : StoredJob) (conditions : List JobCondition) : StoredJob :=
  { j with job.status.conditions := conditions }

end Act

/-- The effect of an event. A Job that has ended stays as it is, and it never both completes and
fails. -/
def act : Event → World → Option World
  | .create key uid spec, w =>
      if (w.charts key).isNone ∧ uid ∉ w.uids then
        let c := newHelmChart key uid (w.version + 1) spec
        some { putChart w (some c) [wroteEntry c.1] with uids := uid :: w.uids }
      else none
  | .edit key spec, w => (w.charts key).map fun c =>
      putChart w (some (respec w c spec)) [wroteEntry (respec w c spec).1]
  | .requestDeletion key now, w => (w.charts key).bind fun c =>
      if c.1.metadata.finalizers = [] then some (putChart w (none : Option (ChartAt key)) [])
      else if c.1.metadata.deletionTimestamp = none then
        some (putChart w (some (marked w c now)) [wroteEntry (marked w c now).1])
      else none
  | .relabel key labels, w => (w.charts key).map fun c =>
      putChart w (some (⟨{ c.1 with metadata := { c.1.metadata with
        labels := labels
        resourceVersion := w.version + 1 } }, c.2⟩ : ChartAt key)) []
  | .progress key conditions, w => (w.jobs key).bind fun j =>
      let j' := j.withConditions conditions
      if Finished j.job ∨ (hasCondition j'.job .complete ∧ hasCondition j'.job .failed) then none
      else some { w with
        jobs := update w.jobs key (some j')
        log := if Finished j'.job then .ended key j' :: w.log else w.log }
  | .collect key, w => (w.jobs key).bind fun j =>
      if ownerGone w j then some { w with jobs := update w.jobs key none } else none
  | .collectAccount key, w => (w.serviceAccounts key).bind fun sa =>
      if sa.metadata.ownerReferences.all (fun ref =>
          (w.charts ⟨key.ns, ref.name⟩).all (fun c => c.1.metadata.uid ≠ ref.uid)) then
        some { w with serviceAccounts := update w.serviceAccounts key none }
      else none

/-- Two versions of a HelmChart, the newer one first, between which only others have acted. -/
structure Newer (c' c : HelmChart) : Prop where
  uid : c'.metadata.uid = c.metadata.uid
  finalizers : c'.metadata.finalizers = c.metadata.finalizers
  status : c'.status = c.status
  deletion : c.metadata.deletionTimestamp.isSome = true →
    c'.metadata.deletionTimestamp.isSome = true

theorem Newer.refl (c : HelmChart) : Newer c c := ⟨rfl, rfl, rfl, id⟩

theorem Newer.trans {a b c : HelmChart} (h : Newer a b) (h' : Newer b c) : Newer a c :=
  ⟨h.uid.trans h'.uid, h.finalizers.trans h'.finalizers, h.status.trans h'.status,
    h.deletion ∘ h'.deletion⟩

theorem Newer.hasFinalizer_eq {c' c : HelmChart} (h : Newer c' c) :
    hasFinalizer c' = hasFinalizer c := by
  rw [hasFinalizer, hasFinalizer, h.finalizers]

theorem Newer.live {c' c : HelmChart} (h : Newer c' c)
    (hdel : c'.metadata.deletionTimestamp = none) : c.metadata.deletionTimestamp = none := by
  by_contra hne
  have hsome := h.deletion (Option.isSome_iff_ne_none.mpr hne)
  rw [hdel] at hsome
  cases hsome

/-- What others can do to what is there, step by step. -/
inductive Change (w : World) : World → Prop where
  | changed {key : NamespacedName} {c c' : ChartAt key} {entries : List Entry} :
      w.charts key = some c → Newer c'.1 c.1 →
      c'.1.metadata.resourceVersion = w.version + 1 →
      (entries = [] ∧ c'.1.spec = c.1.spec ∧
          c'.1.metadata.generation = c.1.metadata.generation ∨
        entries = [wroteEntry c'.1] ∧
          c'.1.metadata.generation = c.1.metadata.generation + 1) →
      Change w (putChart w (some c') entries)
  | gone {key : NamespacedName} {c : ChartAt key} : w.charts key = some c →
      c.1.metadata.finalizers = [] → Change w (putChart w (none : Option (ChartAt key)) [])
  | progressed {key : NamespacedName} {j : StoredJob} {conditions : List JobCondition} :
      w.jobs key = some j → ¬ Finished j.job → ¬ Finished (j.withConditions conditions).job →
      Change w { w with jobs := update w.jobs key (some (j.withConditions conditions)) }
  | ended {key : NamespacedName} {j : StoredJob} {conditions : List JobCondition} :
      w.jobs key = some j → ¬ Finished j.job → Finished (j.withConditions conditions).job →
      ¬ (hasCondition (j.withConditions conditions).job .complete = true ∧
        hasCondition (j.withConditions conditions).job .failed = true) →
      Change w { w with
        jobs := update w.jobs key (some (j.withConditions conditions))
        log := .ended key (j.withConditions conditions) :: w.log }
  | collected {key : NamespacedName} {j : StoredJob} : w.jobs key = some j →
      ownerGone w j = true → Change w { w with jobs := update w.jobs key none }
  | accounts (f : NamespacedName → Option ServiceAccount) :
      Change w { w with serviceAccounts := f }

/-- What others can do: they also create HelmCharts. -/
inductive Outside (w : World) : World → Prop where
  | change {w' : World} : Change w w' → Outside w w'
  | created {key : NamespacedName} {uid : String} {spec : HelmChartSpec} : w.charts key = none →
      uid ∉ w.uids → Outside w
        { putChart w (some (newHelmChart key uid (w.version + 1) spec))
            [wroteEntry (newHelmChart key uid (w.version + 1) spec).1] with uids := uid :: w.uids }

theorem change_of_act {e : Event} {w w' : World} (h : act e w = some w')
    (hcreate : e.creates = false) : Change w w' := by
  cases e with
  | create key uid spec => cases hcreate
  | edit key spec =>
      obtain ⟨c, hc, rfl⟩ := Option.map_eq_some_iff.mp h
      exact .changed hc ⟨rfl, rfl, rfl, id⟩ rfl (Or.inr ⟨rfl, rfl⟩)
  | requestDeletion key now =>
      obtain ⟨c, hc, h⟩ := Option.bind_eq_some_iff.mp h
      split at h
      · rename_i hfin
        cases h
        exact .gone hc hfin
      · split at h
        · cases h
          exact .changed hc ⟨rfl, rfl, rfl, fun _ => rfl⟩ rfl (Or.inr ⟨rfl, rfl⟩)
        · cases h
  | relabel key labels =>
      obtain ⟨c, hc, rfl⟩ := Option.map_eq_some_iff.mp h
      exact .changed hc ⟨rfl, rfl, rfl, id⟩ rfl (Or.inl ⟨rfl, rfl, rfl⟩)
  | progress key conditions =>
      obtain ⟨j, hj, h⟩ := Option.bind_eq_some_iff.mp h
      dsimp only at h
      split at h
      · cases h
      · rename_i hno
        rw [not_or] at hno
        cases h
        by_cases hfin : Finished (j.withConditions conditions).job
        · rw [if_pos hfin]
          exact .ended hj hno.1 hfin hno.2
        · rw [if_neg hfin]
          exact .progressed hj hno.1 hfin
  | collect key =>
      obtain ⟨j, hj, h⟩ := Option.bind_eq_some_iff.mp h
      split at h
      · rename_i hgone
        cases h
        exact .collected hj hgone
      · cases h
  | collectAccount key =>
      obtain ⟨sa, -, h⟩ := Option.bind_eq_some_iff.mp h
      split at h
      · cases h
        exact .accounts _
      · cases h

theorem outside_of_act {e : Event} {w w' : World} (h : act e w = some w') : Outside w w' := by
  cases e with
  | create key uid spec =>
      rw [act] at h
      split at h
      · rename_i hc
        cases h
        exact .created (Option.isNone_iff_eq_none.mp hc.1) hc.2
      · cases h
  | _ =>
      exact .change (change_of_act h rfl)

section Change

variable {w w' : World}

theorem Change.fetched_eq (h : Change w w') : w'.fetched = w.fetched := by
  cases h <;> rfl

theorem Change.uids_eq (h : Change w w') : w'.uids = w.uids := by
  cases h <;> rfl

theorem Change.clusterRoleBindings_eq (h : Change w w') :
    w'.clusterRoleBindings = w.clusterRoleBindings := by
  cases h <;> rfl

theorem Outside.fetched_eq (ho : Outside w w') : w'.fetched = w.fetched := by
  cases ho with
  | change hch => exact hch.fetched_eq
  | created _ _ => rfl

theorem Outside.clusterRoleBindings_eq (ho : Outside w w') :
    w'.clusterRoleBindings = w.clusterRoleBindings := by
  cases ho with
  | change hch => exact hch.clusterRoleBindings_eq
  | created _ _ => rfl

theorem Change.chart {key : NamespacedName} {s' : ChartAt key} (h : Change w w')
    (hs' : w'.charts key = some s') : ∃ s, w.charts key = some s ∧ Newer s'.1 s.1 := by
  cases h with
  | @changed k c c' entries hc hnew _ _ =>
      dsimp only [putChart] at hs'
      by_cases hk : key = k
      · subst hk
        rw [update_self] at hs'
        cases hs'
        exact ⟨c, hc, hnew⟩
      · rw [update_of_ne hk] at hs'
        exact ⟨s', hs', .refl _⟩
  | @gone k c hc hfin =>
      dsimp only [putChart] at hs'
      by_cases hk : key = k
      · subst hk
        rw [update_self] at hs'
        cases hs'
      · rw [update_of_ne hk] at hs'
        exact ⟨s', hs', .refl _⟩
  | _ => exact ⟨s', hs', .refl _⟩

/-- Every Job was there before, and one that had ended is the same. -/
def NoNewJobs (w w' : World) : Prop :=
  ∀ k j', w'.jobs k = some j' → ∃ j, w.jobs k = some j ∧ j'.origin = j.origin ∧
    j'.answered = j.answered ∧ (Finished j.job → j' = j)

theorem NoNewJobs.of_subset (h : ∀ k j, w'.jobs k = some j → w.jobs k = some j) : NoNewJobs w w' :=
  fun k j hj => ⟨j, h k j hj, rfl, rfl, fun _ => rfl⟩

theorem NoNewJobs.none (h : NoNewJobs w w') {k : NamespacedName} (hj : w.jobs k = none) :
    w'.jobs k = none := by
  cases hj' : w'.jobs k with
  | none => rfl
  | some j' =>
      obtain ⟨j, hj₀, -⟩ := h k j' hj'
      rw [hj] at hj₀
      cases hj₀

theorem jobs_of_erase {k k' : NamespacedName} {j : StoredJob}
    (h : update w.jobs k none k' = some j) : w.jobs k' = some j := by
  by_cases hk : k' = k
  · subst hk
    rw [update_self] at h
    cases h
  · rwa [update_of_ne hk] at h

theorem Change.noNewJobs (h : Change w w') : NoNewJobs w w' := by
  have hupdate : ∀ {k : NamespacedName} {j₀ : StoredJob} {conditions : List JobCondition} {log},
      w.jobs k = some j₀ → ¬ Finished j₀.job →
      NoNewJobs w { w with jobs := update w.jobs k (some (j₀.withConditions conditions)), log := log } := by
    intro k j₀ conditions log hj₀ hrun key j' hj
    dsimp only at hj
    by_cases hk : key = k
    · subst hk
      rw [update_self] at hj
      cases hj
      exact ⟨j₀, hj₀, rfl, rfl, fun hfin => absurd hfin hrun⟩
    · rw [update_of_ne hk] at hj
      exact ⟨j', hj, rfl, rfl, fun _ => rfl⟩
  cases h with
  | changed | gone | accounts => exact .of_subset fun _ _ hj => hj
  | progressed hj₀ hrun _ | ended hj₀ hrun _ _ => exact hupdate hj₀ hrun
  | collected => exact .of_subset fun _ _ => jobs_of_erase

theorem Outside.noNewJobs (ho : Outside w w') : NoNewJobs w w' := by
  cases ho with
  | change hch => exact hch.noNewJobs
  | created _ _ => exact .of_subset fun _ _ hj => hj

/-- A HelmChart that is there was there before, or it is a new object. -/
theorem Outside.chart {key : NamespacedName} {s' : ChartAt key} (ho : Outside w w')
    (hs' : w'.charts key = some s') : (∃ s, w.charts key = some s ∧ Newer s'.1 s.1) ∨
      (s'.1.metadata.uid ∉ w.uids ∧ s'.1.metadata.uid ∈ w'.uids) := by
  cases ho with
  | change hch => exact Or.inl (hch.chart hs')
  | @created k uid spec hnone huid =>
      dsimp only [putChart] at hs'
      by_cases hk : key = k
      · subst hk
        rw [update_self] at hs'
        cases hs'
        exact Or.inr ⟨huid, List.mem_cons_self ..⟩
      · rw [update_of_ne hk] at hs'
        exact Or.inl ⟨s', hs', .refl _⟩

theorem Outside.uids_subset (ho : Outside w w') : w.uids ⊆ w'.uids := by
  cases ho with
  | change hch => exact hch.uids_eq ▸ List.Subset.refl _
  | created _ _ => exact List.subset_cons_self _ _

/-- The object that the pass works on is still there. -/
def Present (c : HelmChart) (w : World) : Prop :=
  ∃ s, w.charts c.metadata.key = some s ∧ Newer s.1 c

/-- An object with the finalizer does not go away by itself. -/
theorem Present.outside {c : HelmChart} (h : Present c w) (hfin : hasFinalizer c = true)
    (ho : Outside w w') : Present c w' := by
  obtain ⟨s, hs, hnew⟩ := h
  -- a step at another key, or one that leaves the HelmCharts alone
  have hother : ∀ {k : NamespacedName} {s' : Option (ChartAt k)}, c.metadata.key ≠ k →
      update w.charts k s' c.metadata.key = some s := fun hk => by rw [update_of_ne hk, hs]
  cases ho with
  | change hch =>
      cases hch with
      | @changed k t t' entries ht hnew' _ _ =>
          by_cases hk : c.metadata.key = k
          · subst hk
            rw [hs] at ht
            cases ht
            exact ⟨t', by dsimp only [putChart]; rw [update_self], hnew'.trans hnew⟩
          · exact ⟨s, hother hk, hnew⟩
      | @gone k t ht hnone =>
          by_cases hk : c.metadata.key = k
          · subst hk
            rw [hs] at ht
            cases ht
            rw [hasFinalizer, ← hnew.finalizers, hnone] at hfin
            cases hfin
          · exact ⟨s, hother hk, hnew⟩
      | _ => exact ⟨s, hs, hnew⟩
  | @created k uid spec hnone _ =>
      by_cases hk : c.metadata.key = k
      · subst hk
        rw [hs] at hnone
        cases hnone
      · exact ⟨s, hother hk, hnew⟩

end Change

/-! ## The controller -/

/-- The controller at work on all HelmCharts: one worker, which takes the requests in any order. -/
def controller : Machine sig (Except Fault Unit) World Choice Event where
  prog := processNextWorkItem.run
  respond := respond
  act := act
  enter := fun w => { w with fetched := none }
  leave := fun _ w => w

/-- The controller at work on one HelmChart, which may be deleted and created again. -/
def controllerOf (key : NamespacedName) : Machine sig (Except Fault Unit) World Choice Event where
  prog := (reconcile key).run
  respond := respond
  act := act
  enter := fun w => { w with fetched := none }
  leave := fun _ w => w

/-- The last phase of a pass. -/
def Ends : Except Fault Unit → Phase → Prop
  | .ok _, q => q = .done
  | .error _, q => q = .failed

theorem controllerOf_follows (key : NamespacedName) :
    (controllerOf key).toSystem.prog.Follows flow Ends (.begun key) :=
  (reconcile_follows key).mono fun a q h => by cases a <;> exact h

theorem controller_follows : controller.toSystem.prog.Follows flow Ends .waiting :=
  processNextWorkItem_follows.mono fun a q h => by cases a <;> exact h

/-! ## A HelmChart to try things on -/

def sampleKey : NamespacedName := ⟨"default", "web"⟩

def sampleSpec : HelmChartSpec :=
  { chart := { name := "nginx", repo := "stable" } }

/-- The HelmChart has just been created. -/
def sampleStart : State sig (Except Fault Unit) World :=
  let c := newHelmChart sampleKey "uid-1" 1 sampleSpec
  ⟨{ charts := update (fun _ => none) sampleKey (some c)
     version := 1
     uids := ["uid-1"]
     log := [wroteEntry c.1] }, none⟩

/-- A whole pass whose calls are resolved as given. -/
def pass (answers : List Choice) : List (Machine.Act Choice Event) :=
  [.enter] ++ answers.map .call ++ [.leave]

/-- The pass that adds the finalizer, and the one that creates the install Job. -/
def installPasses : List (Machine.Act Choice Event) :=
  pass (List.replicate 2 .serve) ++ pass (List.replicate 5 .serve)

/-- The Job of the HelmChart ends with this condition. -/
def jobEnds (key : NamespacedName) (operation : JobOperation) (type : JobConditionType) :
    Machine.Act Choice Event :=
  .env (.progress (jobKeyOf key operation) [⟨type, .true⟩])

/-- A cluster without HelmCharts. -/
def emptyWorld : World := { charts := fun _ => none }

theorem create_sample : act (.create sampleKey "uid-1" sampleSpec) emptyWorld =
    some sampleStart.world := rfl

/-- A pass for the HelmChart in which `n` calls are answered. -/
def servedPass (key : NamespacedName) (n : Nat) : List (Machine.Act Choice Event) :=
  pass (.request key :: List.replicate n .serve)

end Heir.Controller.Helm
