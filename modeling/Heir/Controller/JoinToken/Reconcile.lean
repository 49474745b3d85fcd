import Heir.Token.Create

set_option autoImplicit false

/-! # The WorkerJoinToken controller

A WorkerJoinToken asks for one bootstrap token. The controller issues the token, publishes its
kubeconfig in the Secret `<name>-jointoken`, and records both in the status together with a
checksum of what it published. A changed or missing Secret makes it issue another token. Events and
log lines are left out.
-/

namespace Heir.Controller.JoinToken

open Heir.Core Heir.ClusterAgent Heir.Bootstrap Interact
open Heir.Runtime (apiServerURL)

/-! ## Constants -/

def typeReadyWorkerJoinToken : String := "Ready"

def workerJoinTokenFinalizer : String := "clusteragent.tardigrade.runtime.io/worker-join-token"

def workerJoinTokenClusterKey : String := "clusteragent.tardigrade.runtime.io/jointoken-ref"

/-- `GroupVersion.String()` of the cluster agent's API group. -/
def apiVersion : String := "clusteragent.tardigrade.runtime.io/v1alpha1"

def kind : String := "WorkerJoinToken"

/-- The key of the kubeconfig in the published Secret. -/
def joinTokenKey : String := "jointoken"

/-- The name of the published Secret. -/
def joinSecretName (name : String) : String := name ++ "-jointoken"

/-- The fields of the reconciler that do not change. -/
structure Reconciler where
  libs : Libs
  ca : Bytes
  runtime : ControlPlane.Runtime

structure Result where
  requeueAfter : Option Duration := none
  deriving DecidableEq

/-! ## Helpers -/

/-- `secret.Data["jointoken"]`. -/
def joinTokenData (secret : Secret) : Bytes := secret.data.getD joinTokenKey []

def containsFinalizer (m : ObjectMeta) (finalizer : String) : Bool := m.finalizers.contains finalizer

def removeFinalizer (m : ObjectMeta) (finalizer : String) : ObjectMeta :=
  { m with finalizers := m.finalizers.filter (fun f => f ≠ finalizer) }

/-- The token with its Ready condition set. -/
def withReady (joinToken : WorkerJoinToken) (status : ConditionStatus) (reason message : String) :
    WorkerJoinToken :=
  { joinToken with
    status.conditions := setStatusCondition joinToken.status.conditions
      { type := typeReadyWorkerJoinToken, status := status, reason := reason, message := message } }

/-- The fields of a Secret that a mutation may change. -/
def sameSecret (a b : Secret) : Bool :=
  a.data = b.data ∧ a.type = b.type ∧ a.metadata.labels = b.metadata.labels ∧
    a.metadata.annotations = b.metadata.annotations ∧
    a.metadata.ownerReferences = b.metadata.ownerReferences

/-- `controllerutil.CreateOrUpdate` of a Secret in `kube-system`. -/
def createOrUpdate (name : String) (mutate : Secret → Except GoError Secret) : Go Secret := do
  match ← call (.getSecret name) with
  | .error e =>
      if e.reason = .notFound then
        let obj ← Go.ofExcept (mutate { metadata := { name := name, ns := namespaceSystem } })
        Go.ofExcept (← call (.createSecret obj))
      else Go.fail e
  | .ok existing =>
      let obj ← Go.ofExcept (mutate existing)
      if sameSecret existing obj then return obj
      else Go.ofExcept (← call (.updateSecret obj))

/-! ## Reconcile -/

section Reconcile

variable (r : Reconciler)

/-- `deleteBootstrapTokenSecret`: a token that is gone counts as deleted. -/
def deleteBootstrapTokenSecret (tokenID : String) : Go (Except GoError Unit) := do
  let name := bootstrapTokenName tokenID
  match ← call (.deleteToken name) with
  | .ok _ => return .ok ()
  | .error e =>
      if e.reason = .notFound then return .ok ()
      else return .error (e.wrap ("failed to delete bootstrap token secret " ++ GoString.quote r.libs.isPrint name))

def secretChecksum (kubeconfig : Bytes) : String := r.libs.sha256 kubeconfig

def secretDrifted (joinToken : WorkerJoinToken) : Go Bool := do
  match joinToken.status.secretRef with
  | none => return true
  | some name =>
      match ← call (.getSecret name) with
      | .error e => if e.reason = .notFound then return true else Go.fail e
      | .ok secret =>
          return secretChecksum r (joinTokenData secret) ≠ joinToken.status.secretChecksum

/-- `setDegraded`: the status update is made on a best-effort basis. -/
def setDegraded {α : Type} (joinToken : WorkerJoinToken) (reason message : String) : Go α := do
  let _ ← call (.updateJoinTokenStatus (withReady joinToken .false reason message))
  Go.fail (errorf (reason ++ ": " ++ message))

/-- `markExpired`: nothing is written when the expiry is recorded already. -/
def markExpired (joinToken : WorkerJoinToken) : Go Result := do
  match findStatusCondition joinToken.status.conditions typeReadyWorkerJoinToken with
  | some cond =>
      if cond.status = .false ∧ cond.reason = "Expired" then return {}
      else record
  | none => record
where
  record : Go Result := do
    let _ ← Go.ofExcept (← call (.updateJoinTokenStatus (withReady joinToken .false "Expired"
      "token has expired; ttl is immutable, so delete and recreate this object to mint a new one")))
    return {}

/-- The mutation of the published Secret. -/
def publish (joinToken : WorkerJoinToken) (kubeconfigBytes : Bytes) (joinSecret : Secret) :
    Except GoError Secret := do
  let m ← setControllerReference joinToken.metadata apiVersion kind joinSecret.metadata
  return { joinSecret with
    metadata := m
    data := joinSecret.data.insert joinTokenKey kubeconfigBytes }

/-- The seconds of the wall clock at which a token issued now expires: times are stored in whole
seconds. -/
def expiryOf (now : Instant) (ttl : Duration) : Time := (now + ttl.ns).toNat / 1000000000

/-- The time from now until a stored time. -/
def until_ (t : Time) (now : Instant) : Duration := ⟨t * 1000000000 - now⟩

/-- The status that records an issued token. -/
def issued (joinToken : WorkerJoinToken) (now : Instant) (tok : Token) (joinSecret : Secret) :
    WorkerJoinToken :=
  withReady
    { joinToken with status := { joinToken.status with
        tokenID := tok.id
        expiresAt := some (expiryOf now joinToken.spec.ttl)
        secretRef := some (joinSecretName joinToken.metadata.name)
        secretChecksum := secretChecksum r (joinTokenData joinSecret) } }
    .true "TokenIssued" ("bootstrap token issued, expires at " ++
      r.libs.rfc3339Micro (now + joinToken.spec.ttl.ns).toNat)

def mint (joinToken : WorkerJoinToken) : Go Result := do
  let apiServerAddress := apiServerURL r.runtime
  let previousTokenID := joinToken.status.tokenID
  match ← Go.attempt (issueBootstrapToken r.libs r.ca apiServerAddress joinToken.spec.ttl
      ((∅ : GoMap String).insert workerJoinTokenClusterKey joinToken.metadata.name)) with
  | .error (.error e) =>
      setDegraded joinToken "TokenIssuanceFailed" ("failed to mint bootstrap token: " ++ e.text)
  | .error (.panic t) => Go.ofResult (.error (.panic t))
  | .ok (tok, kubeconfigBytes) =>
      let secretName := joinSecretName joinToken.metadata.name
      match ← Go.attempt (createOrUpdate secretName (publish joinToken kubeconfigBytes)) with
      | .error (.error e) =>
          setDegraded joinToken "SecretWriteFailed"
            ("failed to write join token secret " ++ GoString.quote r.libs.isPrint secretName ++ ": " ++ e.text)
      | .error (.panic t) => Go.ofResult (.error (.panic t))
      | .ok joinSecret =>
          if previousTokenID ≠ "" then
            let _ ← deleteBootstrapTokenSecret r previousTokenID
          let now ← call .now
          match ← call (.updateJoinTokenStatus (issued r joinToken now tok joinSecret)) with
          | .error e => Go.fail (e.wrap "failed to update status after minting token")
          | .ok stored =>
              return { requeueAfter := stored.status.expiresAt.map (fun t => until_ t now) }

def reconcileDelete (joinToken : WorkerJoinToken) : Go Result := do
  if ¬ containsFinalizer joinToken.metadata workerJoinTokenFinalizer then return {}
  else
    if joinToken.status.tokenID ≠ "" then
      let _ ← deleteBootstrapTokenSecret r joinToken.status.tokenID
    match ← call (.updateJoinToken { joinToken with
        metadata := removeFinalizer joinToken.metadata workerJoinTokenFinalizer }) with
    | .error e => Go.fail (e.wrap "failed to remove finalizer")
    | .ok _ => return {}

def reconcile (req : NamespacedName) : Go Result := do
  match ← call (.getJoinToken req) with
  | .error e => if e.reason = .notFound then return {} else Go.fail e
  | .ok joinToken =>
      if joinToken.metadata.deletionTimestamp.isSome then reconcileDelete r joinToken
      else if ¬ containsFinalizer joinToken.metadata workerJoinTokenFinalizer then
        match ← call (.updateJoinToken { joinToken with metadata.finalizers :=
            joinToken.metadata.finalizers ++ [workerJoinTokenFinalizer] }) with
        | .error e => Go.fail (e.wrap "failed to add finalizer")
        | .ok _ => return {}
      else
        match joinToken.status.expiresAt with
        | none => mint r joinToken
        | some expiresAt =>
            if ← secretDrifted r joinToken then mint r joinToken
            else
              let now ← call .now
              if now < expiresAt * 1000000000 then
                return { requeueAfter := some (until_ expiresAt now) }
              else
                call .expired
                markExpired joinToken

end Reconcile

end Heir.Controller.JoinToken
