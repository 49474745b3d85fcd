import Heir.Runtime.Workloads

set_option autoImplicit false

/-! # The Runtime controller

`Reconcile` of the Runtime controller and the nine functions that each bring one managed object
(three, for the plane tunnel's Services) in line with the specification. Events and log lines are
left out.

Every setup function reads the object it is about and either creates it, leaves it alone or
updates it. Those for Secrets, the ConfigMap and the plane tunnel's Services refuse an existing
object that the Runtime does not control; those for the control plane's own Service and for the
three Deployments do not look at its owner.
-/

namespace Heir.Controller.Runtime

open Heir.ControlPlane Heir.Core Heir.Runtime Interact

/-! ## Shared steps -/

/-- `ctrl.SetControllerReference(runtime, obj)`. -/
def setControllerRef (runtime : Runtime) (k : Kind) (obj : Obj k) : Go (Obj k) := do
  let m ← Go.ofExcept (setControllerReference runtime.metadata ControlPlane.Runtime.apiVersion
    ControlPlane.Runtime.kind (Obj.getMeta k obj))
  return Obj.setMeta k obj m

/-- Read an object and go on with what is there, or without it. -/
def getOrElse {α : Type} (k : Kind) (key : NamespacedName) (onAbsent : Go α)
    (onExisting : Obj k → Go α) : Go α := do
  match ← Go.get k key with
  | .ok existing => onExisting existing
  | .error e => if e.reason = .notFound then onAbsent else Go.fail e

def createObj (k : Kind) (obj : Obj k) : Go Unit := do
  match ← Go.create k obj with
  | .ok _ => return ()
  | .error e => Go.fail e

def updateObj (k : Kind) (obj : Obj k) : Go Unit := do
  match ← Go.update k obj with
  | .ok _ => return ()
  | .error e => Go.fail e

/-- The refusal to take over an object of somebody else. -/
def refuseToAdopt {α : Type} (what : String) (m : ObjectMeta) : Go α :=
  Go.fail (errorf (what ++ " " ++ m.ns ++ "/" ++ m.name ++
    " exists but is not owned by Heir Runtime; refusing to adopt"))

/-- The Service to store over an existing one, or none when it is up to date. The cluster IP is
preserved. -/
def syncService (desired existing : Service) : Option Service :=
  let spec := { desired.spec with clusterIP := existing.spec.clusterIP }
  if existing.spec.type = spec.type ∧ existing.spec.ports = spec.ports ∧
      existing.metadata.labels = desired.metadata.labels ∧
      existing.metadata.annotations = desired.metadata.annotations then none
  else
    some
      { metadata :=
          { existing.metadata with
            labels := desired.metadata.labels
            annotations := desired.metadata.annotations }
        spec := spec }

/-- The Deployment to store over an existing one, or none when it is up to date. -/
def syncDeployment (desired existing : Deployment) : Option Deployment :=
  if existing.spec = desired.spec ∧ existing.metadata.labels = desired.metadata.labels then none
  else
    some
      { metadata := { existing.metadata with labels := desired.metadata.labels }
        spec := desired.spec }

/-- Store the new version of an object, if there is one. -/
def updateIfNeeded (k : Kind) : Option (Obj k) → Go Unit
  | none => return ()
  | some obj => updateObj k obj

/-- Create the desired object, or bring the existing one in line, whoever controls it. -/
def createOrSync (runtime : Runtime) (k : Kind) (desired : Obj k)
    (sync : Obj k → Obj k → Option (Obj k)) : Go Unit := do
  let desired ← setControllerRef runtime k desired
  getOrElse k (Obj.getMeta k desired).key (createObj k desired)
    (fun existing => updateIfNeeded k (sync desired existing))

/-! ## The setup functions -/

section Setup

variable (libs : Libs) (wrkCtx : WorkerContext) (runtime : Runtime)

def setupService : Go Unit := do
  let ranges ← Go.call .ranges
  createOrSync runtime .service (generateService ranges.strings runtime) syncService

def setupDeployment (opts : DeployOpts) : Go Unit := do
  let ranges ← Go.call .ranges
  let desired ← Go.ofResult (generateDeployment ranges.strings runtime layout opts)
  createOrSync runtime .deployment desired syncDeployment

def setupClusterAgentDeployment (opts : DeployOpts) : Go Unit := do
  let ranges ← Go.call .ranges
  createOrSync runtime .deployment
    (generateClusterAgentDeployment ranges.strings runtime layout opts) syncDeployment

def setupPlaneTunnelDeployment (opts : DeployOpts) : Go Unit := do
  let ranges ← Go.call .ranges
  createOrSync runtime .deployment
    (generatePlaneTunnelDeployment ranges.strings wrkCtx runtime layout opts) syncDeployment

/-- One round of the loop in `setupPlaneTunnelService`. -/
def setupTunnelService (svc : Service) : Go Unit := do
  let svc : Service ← setControllerRef runtime .service svc
  getOrElse .service svc.metadata.key (createObj .service svc) (fun existing =>
    if isControlledBy existing.metadata runtime.metadata then
      updateIfNeeded .service (syncService svc existing)
    else refuseToAdopt "plane tunnel service" existing.metadata)

def setupPlaneTunnelService : Go Unit :=
  (generatePlaneTunnelService wrkCtx runtime).forM (setupTunnelService runtime)

/-- The Secret of the cluster agent to store over an existing one. -/
def syncSecret (desired existing : Secret) : Option Secret :=
  if existing.data = desired.data ∧ existing.metadata.labels = desired.metadata.labels then none
  else
    some
      { existing with
        metadata := { existing.metadata with labels := desired.metadata.labels }
        data := desired.data }

/-- `setupClusterAgentRuntimeSecret`: the hash of the generated data. -/
def setupClusterAgentRuntimeSecret : Go String := do
  let desired ← Go.ofExcept (generateClusterAgentRuntimeSecret libs runtime layout)
  let ranges ← Go.call .ranges
  let hash := hashSecretData libs ranges.bytes desired.data
  let desired : Secret ← setControllerRef runtime .secret desired
  getOrElse .secret desired.metadata.key
    (do
      match ← Go.create .secret desired with
      | .ok _ => return hash
      | .error e => if e.reason = .alreadyExists then return hash else Go.fail e)
    (fun existing => do
      if isControlledBy existing.metadata runtime.metadata then
        updateIfNeeded .secret (syncSecret desired existing)
        return hash
      else refuseToAdopt "secret" existing.metadata)

/-- Store new data in the existing ConfigMap. Its annotations were decoded, so the assignment
panics when it has none. -/
def updateConfigMap (existing desired : ConfigMap) (desiredHash : String) : Go Unit := do
  let annotations ← Go.ofResult
    (assignDecoded existing.metadata.annotations controlPlaneConfigHashAnnotation desiredHash)
  updateObj .configMap
    { metadata := { existing.metadata with annotations := annotations }
      data := desired.data }

/-- `setupControlPlaneConfiguration`: the hash of the ConfigMap's data. -/
def setupControlPlaneConfiguration : Go String := do
  let ranges ← Go.call .ranges
  let (desired, desiredHash) ← Go.ofResult
    (generateControlPlaneConfig libs.toYaml libs.sha256 ranges.strings runtime layout)
  getOrElse .configMap desired.metadata.key
    (do
      let desired ← setControllerRef runtime .configMap desired
      createObj .configMap desired
      return desiredHash)
    (fun existing => do
      if isControlledBy existing.metadata runtime.metadata then
        let existingHash := hashConfigData libs.sha256 existing.data
        if existingHash = desiredHash then return existingHash
        else
          updateConfigMap existing desired desiredHash
          return desiredHash
      else refuseToAdopt "secret" existing.metadata)

/-- `setupPKIAuthConfiguration`: the PKI Secret. When another writer created it first, the
generated one is returned, not the stored one. -/
def setupPKIAuthConfiguration : Go Secret :=
  getOrElse .secret runtime.metadata.key
    (do
      let secret ← generatePKIAuthSecret libs runtime layout
      let secret : Secret ← setControllerRef runtime .secret secret
      match ← Go.create .secret secret with
      | .ok created => return created
      | .error e => if e.reason = .alreadyExists then return secret else Go.fail e)
    (fun existing => do
      if isControlledBy existing.metadata runtime.metadata then
        match ← Go.attempt (regeneratePKILeafCerts libs existing runtime layout) with
        | .error (.error e) => Go.fail (e.wrap "failed to regenerate PKI leaf certs")
        | .error (.panic t) => Go.ofResult (.error (.panic t))
        | .ok (secret, updated) =>
            if updated then
              match ← Go.update .secret secret with
              | .ok stored => return stored
              | .error e => Go.fail e
            else return secret
      else refuseToAdopt "secret" existing.metadata)

def setupClientKubeconfig : Go Unit := do
  match ← Go.get .secret runtime.metadata.key with
  | .error e => Go.fail (e.wrap "failed to get PKI secret for client kubeconfig")
  | .ok pkiSecret =>
      let ca := storedCA pkiSecret layout
      let newSecret ← generateClientKubeconfigAuthSecret libs ca runtime layout
      getOrElse .secret ⟨runtime.ns, clientKubeconfigName runtime.name⟩
        (do
          let newSecret : Secret ← setControllerRef runtime .secret newSecret
          match ← Go.create .secret newSecret with
          | .ok _ => return ()
          | .error e => if e.reason = .alreadyExists then return () else Go.fail e)
        (fun existing => do
          if isControlledBy existing.metadata runtime.metadata then
            match ← validateClientKubeconfigSecret libs existing ca runtime layout with
            | .ok _ => return ()
            | .error _ => updateObj .secret { existing with data := newSecret.data }
          else refuseToAdopt "secret" existing.metadata)

end Setup

/-! ## Status -/

def typeAvailableRuntime : String := "Available"

/-- The Runtime with its Available condition set. -/
def withAvailable (runtime : Runtime) (status : ConditionStatus)
    (reason message : String) : Runtime :=
  { runtime with
    status.conditions := setStatusCondition runtime.status.conditions
      { type := typeAvailableRuntime, status := status, reason := reason, message := message } }

/-- `setDegraded`: the status update is made on a best-effort basis. -/
def setDegraded {α : Type} (obj : Runtime) (reason message : String) : Go α := do
  let obj := { obj with status.observedGeneration := obj.metadata.generation }
  let _ ← Go.call (.updateRuntimeStatus (withAvailable obj .false reason message))
  Go.fail (errorf (reason ++ ": " ++ message))

/-- Run a setup function; its error marks the Runtime as degraded, a panic unwinds. -/
def orDegraded {α : Type} (runtime : Runtime) (reason : String) (p : Go α) :
    Go α := do
  match ← Go.attempt p with
  | .ok a => return a
  | .error (.error e) => setDegraded runtime reason e.text
  | .error (.panic t) => Go.ofResult (.error (.panic t))

/-- The expiry of one certificate, unless there is none. -/
def certificateStatus (libs : Libs) (name : String) (certPEM : Bytes) :
    Except GoError CertificateStatus :=
  match libs.parseCertificateExpiry certPEM with
  | .error e => .error (e.wrap ("failed to parse " ++ name ++ " certificate"))
  | .ok expiresAt => .ok ⟨name, expiresAt⟩

/-- The expiry of the client certificate of one kubeconfig. -/
def kubeconfigStatus (libs : Libs) (name : String) (raw : Bytes) :
    Except GoError CertificateStatus :=
  match resolveKubeconfig libs raw with
  | .error e => .error (e.wrap ("failed to parse " ++ name ++ " kubeconfig"))
  | .ok kc => certificateStatus libs name kc.authInfo.clientCertificateData

/-- The entries that are present, each with its status. -/
def statusesOf (secret : Secret) (f : String → Bytes → Except GoError CertificateStatus) :
    List (String × String) → Except GoError (List CertificateStatus)
  | [] => .ok []
  | (name, key) :: entries => do
      let raw := secretEntry secret key
      if raw = [] then statusesOf secret f entries
      else return (← f name raw) :: (← statusesOf secret f entries)

def certificateStatuses (libs : Libs) (secret : Secret) :
    Except GoError (List CertificateStatus) := do
  let certs ← statusesOf secret (certificateStatus libs)
    [("ca", layout.pki.caCert.secretKey),
     ("apiServer", layout.pki.apiServerCert.secretKey),
     ("serviceAccount", layout.pki.serviceAccountCert.secretKey),
     ("planeTunnelServer", layout.pki.planeTunnelCert.secretKey),
     ("egressSelector", layout.pki.apiServerPlaneTunnelCert.secretKey)]
  let kubeconfigs ← statusesOf secret (kubeconfigStatus libs)
    [("controllerManager", layout.auth.controllerManagerConf.secretKey),
     ("scheduler", layout.auth.schedulerConf.secretKey)]
  return certs ++ kubeconfigs

/-! ## Reconcile -/

/-- A call that returns a Runtime, its error being the function's. -/
def runtimeCall (p : Go (Except GoError Runtime)) : Go Runtime := do
  Go.ofExcept (← p)

/-- Bring all managed objects in line with one copy of the Runtime, in the source's order. -/
def setupAll (libs : Libs) (wrkCtx : WorkerContext) (runtime : Runtime) :
    Go Secret := do
  let pkiSecret ← orDegraded runtime "PKIAuthSetupFailed" (setupPKIAuthConfiguration libs runtime)
  orDegraded runtime "ClientKubeconfigFailed" (setupClientKubeconfig libs runtime)
  let clusterAgentRuntimeHash ← orDegraded runtime "ClusterAgentRuntimeSecretFailed"
    (setupClusterAgentRuntimeSecret libs runtime)
  orDegraded runtime "ClusterAgentDeploymentFailed" (setupClusterAgentDeployment runtime
    [( clusterAgentRuntimeHashAnnotation, clusterAgentRuntimeHash)])
  let configHash ← orDegraded runtime "ControlPlaneConfigFailed"
    (setupControlPlaneConfiguration libs runtime)
  orDegraded runtime "DeploymentFailed" (setupDeployment runtime
    [( configHashAnnotation, configHash),
     ( pkiAPIServerHashAnnotation,
       pkiSecret.metadata.annotations.getD pkiAPIServerHashAnnotation "")])
  orDegraded runtime "ServiceFailed" (setupService runtime)
  orDegraded runtime "PlaneTunnelServiceSyncFailed" (setupPlaneTunnelService wrkCtx runtime)
  orDegraded runtime "PlaneTunnelDeploymentSyncFailed" (setupPlaneTunnelDeployment wrkCtx runtime
    [( pkiPlaneTunnelHashAnnotation,
      pkiSecret.metadata.annotations.getD pkiPlaneTunnelHashAnnotation "")])
  return pkiSecret

/-- The first part of `Reconcile`: a Runtime without conditions gets one and is fetched again. -/
def prepare (req : NamespacedName) (runtime : Runtime) : Go Runtime := do
  if runtime.status.conditions = [] then
    let _ ← runtimeCall (Go.call (.updateRuntimeStatus
      (withAvailable runtime .unknown "Reconciling" "Starting reconciliation")))
    runtimeCall (Go.call (.getRuntime req))
  else return runtime

/-- The last part of `Reconcile`: fetch the Runtime again and record that it is available. -/
def finish (libs : Libs) (req : NamespacedName) (pkiSecret : Secret) : Go Unit := do
  let runtime ← runtimeCall (Go.call (.getRuntime req))
  let certStatuses ← Go.ofExcept (certificateStatuses libs pkiSecret)
  let runtime := { runtime with
    status.certificates := certStatuses
    status.observedGeneration := runtime.metadata.generation }
  let _ ← runtimeCall (Go.call (.updateRuntimeStatus
    (withAvailable runtime .true "Reconciled" "All control-plane resources are in sync")))
  return ()

def reconcile (libs : Libs) (wrkCtx : WorkerContext) (req : NamespacedName) : Go Unit := do
  match ← Go.call (.getRuntime req) with
  | .error e => if e.reason = .notFound then return () else Go.fail e
  | .ok runtime =>
      let runtime ← prepare req runtime
      let pkiSecret ← setupAll libs wrkCtx runtime
      Go.call (.built runtime.metadata.generation)
      finish libs req pkiSecret

end Heir.Controller.Runtime
