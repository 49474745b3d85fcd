import Heir.Api.Go
import Heir.Runtime.HelmChart

set_option autoImplicit false

/-! # The HelmChart controller

A HelmChart is installed by a Job that the controller creates from its specification. A changed
specification needs a new Job, so the old one is deleted when it has finished. A HelmChart that is
being deleted is uninstalled by another Job, if its install Job succeeded, before its finalizer is
removed. Log lines are left out.
-/

namespace Heir.Controller.Helm

open Heir.Core Heir.ClusterAgent Heir.Runtime Interact

/-! ## Calls -/

inductive Call where
  /-- The work queue of the controller, which hands out one request after the other. -/
  | next
  | getHelmChart (key : NamespacedName)
  | updateHelmChart (obj : HelmChart)
  | updateHelmChartStatus (obj : HelmChart)
  | createServiceAccount (obj : ServiceAccount)
  | deleteServiceAccount (key : NamespacedName)
  | createClusterRoleBinding (obj : ClusterRoleBinding)
  | deleteClusterRoleBinding (name : String)
  | getJob (key : NamespacedName)
  /-- The operation and the HelmChart that the Job was generated from are not part of the request;
  the history of the cluster remembers them. -/
  | createJob (obj : Job) (operation : JobOperation) (origin : HelmChart)
  | deleteJob (key : NamespacedName)

abbrev Call.Answer : Call → Type
  | .next => NamespacedName
  | .getHelmChart _ => Except GoError HelmChart
  | .updateHelmChart _ => Except GoError HelmChart
  | .updateHelmChartStatus _ => Except GoError HelmChart
  | .createServiceAccount _ => Except GoError Unit
  | .deleteServiceAccount _ => Except GoError Unit
  | .createClusterRoleBinding _ => Except GoError Unit
  | .deleteClusterRoleBinding _ => Except GoError Unit
  | .getJob _ => Except GoError Job
  | .createJob _ _ _ => Except GoError Unit
  | .deleteJob _ => Except GoError Unit

abbrev sig : Sig := ⟨Call, Call.Answer⟩

/-- A function of the HelmChart controller. -/
abbrev Go (α : Type) : Type := GoProg sig α

/-- Make a call. -/
def call (c : Call) : Go c.Answer := ExceptT.lift (Prog.perform (S := sig) c)

/-! ## Constants and helpers -/

def helmChartFinalizer : String := "clusteragent.tardigrade.runtime.io/helmchart"

def typeReadyHelmChart : String := "Ready"

/-- `GroupVersion.String()` of the cluster agent's API group. -/
def apiVersion : String := "clusteragent.tardigrade.runtime.io/v1alpha1"

def kind : String := "HelmChart"

/-- `controllerutil.ContainsFinalizer`. -/
def hasFinalizer (helmChart : HelmChart) : Bool :=
  helmChart.metadata.finalizers.contains helmChartFinalizer

def addFinalizer (helmChart : HelmChart) : HelmChart :=
  { helmChart with metadata.finalizers := helmChart.metadata.finalizers ++ [helmChartFinalizer] }

/-- `controllerutil.RemoveFinalizer`. -/
def dropFinalizer (helmChart : HelmChart) : HelmChart :=
  { helmChart with metadata.finalizers :=
      helmChart.metadata.finalizers.filter (fun f => f ≠ helmChartFinalizer) }

/-- `jobCondition(job, condType) != nil`. -/
def hasCondition (job : Job) (type : JobConditionType) : Bool :=
  job.status.conditions.any (fun c => c.type = type ∧ c.status = .true)

/-- The key of a Job of the HelmChart. -/
def jobKey (helmChart : HelmChart) (operation : JobOperation) : NamespacedName :=
  ⟨helmChart.metadata.ns, jobName helmChart.metadata.name operation⟩

/-- Whether an error is left and is not of the given reason. -/
def failedUnless (reason : Reason) : Except GoError Unit → Option GoError
  | .ok _ => none
  | .error e => if e.reason = reason then none else some e

/-- The Job of an operation, owned by the HelmChart. -/
def ownedJob (helmChart : HelmChart) (operation : JobOperation) (build own : String) :
    Except GoError Job :=
  match generateJob helmChart operation with
  | .error e => .error (e.wrap build)
  | .ok newJob =>
      match setControllerReference helmChart.metadata apiVersion kind newJob.metadata with
      | .error e => .error (e.wrap own)
      | .ok m => .ok { newJob with metadata := m }

/-! ## Installation -/

/-- The condition that `updateReadyCondition` derives from the install Job, once that has
finished. -/
def readyCondition (helmChart : HelmChart) (installJob : Job) : Option Condition :=
  if hasCondition installJob .complete then some
    { type := typeReadyHelmChart
      observedGeneration := helmChart.metadata.generation
      status := .true
      reason := "InstallSucceeded"
      message := "install job " ++ installJob.metadata.name ++ " completed successfully" }
  else if hasCondition installJob .failed then some
    { type := typeReadyHelmChart
      observedGeneration := helmChart.metadata.generation
      status := .false
      reason := "InstallFailed"
      message := "install job " ++ installJob.metadata.name ++ " failed" }
  else none

def updateReadyCondition (helmChart : HelmChart) (installJob : Job) : Go Unit := do
  match readyCondition helmChart installJob with
  | none => return ()
  | some condition =>
      if findStatusCondition helmChart.status.conditions condition.type = some condition then
        return ()
      else
        match ← call (.updateHelmChartStatus { helmChart with
            status.conditions := setStatusCondition helmChart.status.conditions condition }) with
        | .error e => Go.fail (e.wrap "failed to update helmchart status")
        | .ok _ => return ()

/-- The rest of `Reconcile` for an install Job that exists. -/
def reconcileInstalled (helmChart : HelmChart) (installJob : Job) : Go Unit := do
  let wantGeneration := toString helmChart.metadata.generation
  if installJob.metadata.labels.getD observedGenerationLabel "" ≠ wantGeneration then
    if ¬ hasCondition installJob .complete ∧ ¬ hasCondition installJob .failed then return ()
    else
      match failedUnless .notFound (← call (.deleteJob installJob.metadata.key)) with
      | some e => Go.fail (e.wrap "failed to delete stale install job")
      | none => return ()
  else updateReadyCondition helmChart installJob

/-- The rest of `Reconcile` for a HelmChart without an install Job. -/
def install (helmChart : HelmChart) : Go Unit := do
  let newJob ← Go.ofExcept (ownedJob helmChart .install "failed to build install job"
    "failed to set owner reference on install job")
  match failedUnless .alreadyExists (← call (.createJob newJob .install helmChart)) with
  | some e => Go.fail (e.wrap "failed to create install job")
  | none => return ()

/-- The rest of `Reconcile` for a HelmChart that is not being deleted and has the finalizer. -/
def reconcileLive (helmChart : HelmChart) : Go Unit := do
  let rbac := generateRBAC helmChart
  match setControllerReference helmChart.metadata apiVersion kind rbac.1.metadata with
  | .error e => Go.fail (e.wrap "failed to set owner reference on serviceaccount")
  | .ok m =>
      match failedUnless .alreadyExists (← call (.createServiceAccount ⟨m⟩)) with
      | some e => Go.fail (e.wrap "failed to create serviceaccount")
      | none =>
          match failedUnless .alreadyExists (← call (.createClusterRoleBinding rbac.2)) with
          | some e => Go.fail (e.wrap "failed to create clusterrolebinding")
          | none =>
              match ← call (.getJob (jobKey helmChart .install)) with
              | .error e => if e.reason = .notFound then install helmChart else Go.fail e
              | .ok installJob => reconcileInstalled helmChart installJob

/-! ## Deletion -/

/-- `deleteJobRBAC`: failures are only logged. -/
def deleteJobRBAC (helmChart : HelmChart) : Go Unit := do
  let name := serviceAccountName helmChart.metadata.name
  let _ ← call (.deleteClusterRoleBinding name)
  let _ ← call (.deleteServiceAccount ⟨helmChart.metadata.ns, name⟩)

def removeFinalizer (helmChart : HelmChart) : Go Unit := do
  match ← call (.updateHelmChart (dropFinalizer helmChart)) with
  | .error e => Go.fail (e.wrap "failed to remove finalizer")
  | .ok _ => return ()

/-- The end of the deletion. -/
def release (helmChart : HelmChart) : Go Unit := do
  deleteJobRBAC helmChart
  removeFinalizer helmChart

def installJobSucceeded (helmChart : HelmChart) : Go Bool := do
  match ← call (.getJob (jobKey helmChart .install)) with
  | .error e => if e.reason = .notFound then return false else Go.fail e
  | .ok installJob => return hasCondition installJob .complete

def reconcileDelete (helmChart : HelmChart) : Go Unit := do
  if ¬ hasFinalizer helmChart then return ()
  else
    match ← call (.getJob (jobKey helmChart .teardown)) with
    | .error e =>
        if e.reason = .notFound then
          if ← installJobSucceeded helmChart then
            match ownedJob helmChart .teardown "failed to build teardown job"
                "failed to set owner reference on teardown job" with
            | .error _ => release helmChart
            | .ok newJob =>
                match failedUnless .alreadyExists
                    (← call (.createJob newJob .teardown helmChart)) with
                | some _ => release helmChart
                | none => return ()
          else release helmChart
        else Go.fail e
    | .ok teardownJob =>
        if hasCondition teardownJob .complete then release helmChart
        else if hasCondition teardownJob .failed then release helmChart
        else return ()

/-! ## Reconcile -/

/-- `HelmChartReconciler.Reconcile`; its results never ask for another pass. -/
def reconcile (req : NamespacedName) : Go Unit := do
  match ← call (.getHelmChart req) with
  | .error e => if e.reason = .notFound then return () else Go.fail e
  | .ok helmChart =>
      if helmChart.metadata.deletionTimestamp.isSome then reconcileDelete helmChart
      else if ¬ hasFinalizer helmChart then
        match ← call (.updateHelmChart (addFinalizer helmChart)) with
        | .error e => Go.fail (e.wrap "failed to add finalizer")
        | .ok _ => return ()
      else reconcileLive helmChart

/-- One round of the worker: take a request from the queue and reconcile it. -/
def processNextWorkItem : Go Unit := do
  let req ← call .next
  reconcile req

end Heir.Controller.Helm
