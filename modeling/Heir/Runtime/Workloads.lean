import Heir.Runtime.PkiAuth

set_option autoImplicit false

/-! # Services and Deployments of a control plane

The generators of the control plane's own Service and Deployment, of the plane tunnel's three
Services and its Deployment, and of the cluster agent's Deployment and Secret.
-/

namespace Heir.Runtime

open Heir.ControlPlane Heir.Core Interact

/-! ## Shared parts -/

def configHashAnnotation : String := "heir.tardigrade.runtime.io/config-hash"

def clusterAgentRuntimeHashAnnotation : String :=
  "heir.tardigrade.runtime.io/cluster-agent-runtime-hash"

/-- `mergeMaps`, which merges labels and annotations as `MergeArgs` merges arguments. -/
def mergeMaps (ob oe : GoMap.RangeOrder String) (base extra : GoMap String) : GoMap String :=
  mergeArgs ob oe base extra

/-- `DeployOpts`: the annotations set by a list of `WithAnnotation` options. -/
abbrev DeployOpts : Type := List (String × String)

/-- `ptr.Deref(p, 0)`. -/
def deref (p : Option Int32) : Int32 := p.getD 0

/-- A pointer to the runtime class, unless its name is empty. -/
def runtimeClass (name : String) : Option String := if name = "" then none else some name

/-- A read-only mount of one entry of a volume. -/
def mountEntry (volume : String) (e : MountEntry) : VolumeMount :=
  { name := volume, mountPath := e.mountPath, subPath := e.secretKey, readOnly := true }

/-- The parts of a Deployment that the three generators share: labels that select the pods, pod
labels and annotations with the user's on top. -/
def deploymentOf (o : Orders) (runtime : Runtime) (app : String)
    (annotations : GoMap String) (replicas : Option Int32) (deploySpec : ControlPlane.DeploymentSpec)
    (opts : DeployOpts) (volumes : List Volume) (container : Container) : Deployment where
  metadata :=
    { name := app
      ns := runtime.ns
      labels := heirLabels app
      annotations := annotations }
  spec :=
    { replicas := replicas
      selector := heirLabels app
      template :=
        { labels := mergeMaps (o .labelsBase) (o .labelsExtra) (heirLabels app)
            deploySpec.additionalMetadata.labels
          annotations := mergeMaps (o .annotationsBase) (o .annotationsExtra) (mapOf opts)
            deploySpec.additionalMetadata.annotations
          spec :=
            { serviceAccountName := deploySpec.serviceAccountName
              runtimeClassName := runtimeClass deploySpec.runtimeClassName
              tolerations := deploySpec.tolerations
              affinity := deploySpec.affinity
              volumes := volumes
              containers := [container] } } }

/-! ## The control plane -/

def generateService (o : Orders) (runtime : Runtime) : Service :=
  let svcSpec := runtime.spec.controlPlane.service
  { metadata :=
      { name := runtime.name
        ns := runtime.ns
        labels := mergeArgs (o .labelsBase) (o .labelsExtra) (heirLabels runtime.name)
          svcSpec.additionalMetadata.labels
        annotations := mergeArgs (o .annotationsBase) (o .annotationsExtra)
          (mapOf [( deletionProtectionAnnotation, "false")]) svcSpec.additionalMetadata.annotations }
    spec :=
      { type := svcSpec.serviceType
        selector := heirLabels runtime.name
        ports :=
          { name := "apiserver", port := 6443, targetPort := .int 6443, protocol := .tcp
            nodePort := deref svcSpec.apiServerNodePort } ::
          svcSpec.additionalPorts.map (fun p =>
            { name := p.name, port := p.port, targetPort := p.targetPort, protocol := p.protocol
              appProtocol := p.appProtocol }) } }

def deploymentPorts (ports : List AdditionalPort) : List ContainerPort :=
  ports.map (fun p => { name := p.name, containerPort := p.port, protocol := p.protocol }) ++
    [{ name := "apiserver", containerPort := 6443, protocol := .tcp }]

/-- The environment that names the storage endpoint. With kine configured, the reference to the
data source is dereferenced without a check. -/
def storageEnv (storage : StorageSpec) : GoResult (List EnvVar) :=
  match storage.type, storage.kine with
  | .kine, some kine =>
      match kine.dataSourceRef with
      | none => .error (.panic "invalid memory address or nil pointer dereference")
      | some ref =>
          if ref.name = "" then .ok []
          else .ok [{ name := "HEIR_STORAGE_ENDPOINT", secretKeyRef := some ⟨ref.name, ref.key⟩ }]
  | _, _ => .ok []

def generateDeployment (o : Orders) (runtime : Runtime) (layout : ControlPlaneLayout)
    (opts : DeployOpts) : GoResult Deployment := do
  let controlPlane := runtime.spec.controlPlane
  let scriptMode : Int32 := 0o755
  let env ← storageEnv runtime.spec.cluster.storage
  return deploymentOf o runtime runtime.name (mapOf [( deletionProtectionAnnotation, "false")])
    controlPlane.deployment.replicas controlPlane.deployment opts
    [{ name := "pki-auth", source := .secret runtime.name },
     { name := "config", source := .configMap runtime.name (some scriptMode) },
     { name := "static-config", source := .configMap runtime.name (some scriptMode) }]
    { name := "heir"
      image := controlPlane.heirImage
      ports := deploymentPorts controlPlane.service.additionalPorts
      env := env
      volumeMounts :=
        [{ name := "pki-auth", mountPath := "/etc/kubernetes/pki", readOnly := true },
         mountEntry "pki-auth" layout.auth.adminConf,
         mountEntry "pki-auth" layout.auth.controllerManagerConf,
         mountEntry "pki-auth" layout.auth.schedulerConf,
         mountEntry "config" layout.config.apiServer,
         mountEntry "config" layout.config.controllerManager,
         mountEntry "config" layout.config.scheduler,
         mountEntry "config" layout.config.egressSelector,
         mountEntry "static-config" layout.staticManifest.bootstrap,
         mountEntry "static-config" layout.staticManifest.kubeProxy,
         mountEntry "static-config" layout.staticManifest.nodeProfile] }

/-! ## The plane tunnel -/

/-- One of the plane tunnel's Services. -/
def tunnelService (runtime : Runtime) (name : String) (type : ServiceType)
    (clusterIP : String) (port : ServicePort) : Service where
  metadata := { name := name, ns := runtime.ns, labels := heirLabels (planeTunnelName runtime.name) }
  spec :=
    { type := type
      clusterIP := clusterIP
      selector := heirLabels (planeTunnelName runtime.name)
      ports := [port] }

def generatePlaneTunnelService (wrkCtx : WorkerContext) (runtime : Runtime) :
    List Service :=
  let svcSpec := runtime.spec.controlPlane.planeTunnel.service
  let tunnelPort := wrkCtx.planeTunnelServerServer
  let egressPort := wrkCtx.planeTunnelServerEgressSelectorPort
  [tunnelService runtime (planeTunnelHeadlessName runtime.name) .unset "None"
     { name := "tunnel", port := tunnelPort, targetPort := .int 8443, protocol := .tcp },
   tunnelService runtime (planeTunnelName runtime.name) svcSpec.serviceType ""
     { name := "tunnel", port := tunnelPort, targetPort := .int tunnelPort, protocol := .tcp
       nodePort := deref svcSpec.nodePort },
   tunnelService runtime (planeTunnelEgressName runtime.name) .clusterIP ""
     { name := "egress-selector", port := egressPort, targetPort := .int egressPort
       protocol := .tcp }]

def generatePlaneTunnelDeployment (o : Orders) (wrkCtx : WorkerContext)
    (runtime : Runtime) (layout : ControlPlaneLayout) (opts : DeployOpts) :
    Deployment :=
  let spec := runtime.spec.controlPlane.planeTunnel.server
  let port (p : Int32) : String := ":" ++ toString p.toInt
  deploymentOf o runtime (planeTunnelName runtime.name) ∅ spec.deployment.replicas spec.deployment
    opts [{ name := "pki", source := .secret runtime.name }]
    { name := "tunnel-server"
      image := spec.image
      args :=
        ["server",
         "--tunnel-cert", layout.pki.planeTunnelCert.mountPath,
         "--tunnel-key", layout.pki.planeTunnelKey.mountPath,
         "--tunnel-ca-cert", layout.pki.caCert.mountPath,
         "--tunnel-addr", port wrkCtx.planeTunnelServerServer,
         "--egress-cert", layout.pki.apiServerPlaneTunnelCert.mountPath,
         "--egress-key", layout.pki.apiServerPlaneTunnelKey.mountPath,
         "--egress-ca-cert", layout.pki.caCert.mountPath,
         "--egress-addr", port wrkCtx.planeTunnelServerEgressSelectorPort,
         "--replica-discovery-dns",
         planeTunnelHeadlessName runtime.name ++ "." ++ runtime.ns ++ ".svc.cluster.local"]
      ports :=
        [{ name := "tunnel", containerPort := wrkCtx.planeTunnelServerServer, protocol := .tcp },
         { name := "egress-selector"
           containerPort := wrkCtx.planeTunnelServerEgressSelectorPort, protocol := .tcp }]
      volumeMounts :=
        [mountEntry "pki" layout.pki.caCert,
         mountEntry "pki" layout.pki.planeTunnelCert,
         mountEntry "pki" layout.pki.planeTunnelKey,
         mountEntry "pki" layout.pki.apiServerPlaneTunnelCert,
         mountEntry "pki" layout.pki.apiServerPlaneTunnelKey]
      resources := spec.deployment.resources.getD {} }

/-! ## The cluster agent -/

/-- `GenerateClusterAgentDeployment`: always one replica. -/
def generateClusterAgentDeployment (o : Orders) (runtime : Runtime)
    (layout : ControlPlaneLayout) (opts : DeployOpts) : Deployment :=
  let controlPlane := runtime.spec.controlPlane
  deploymentOf o runtime (clusterAgentName runtime.name) ∅ (some 1) controlPlane.deployment opts
    [{ name := "pki-auth", source := .secret runtime.name },
     { name := "runtime-manifest"
       source := .secret (clusterAgentRuntimeSecretName runtime.name) }]
    { name := "clusteragent"
      image := controlPlane.clusterAgentImage
      command := ["/clusteragent"]
      env := [{ name := "KUBECONFIG", value := layout.auth.adminConf.mountPath }]
      volumeMounts :=
        [mountEntry "pki-auth" layout.auth.adminConf,
         mountEntry "pki-auth" layout.pki.caCert,
         mountEntry "runtime-manifest" layout.runtimeManifest] }

/-- `GenerateClusterAgentRuntimeSecret`: the manifest of the Runtime without its status. -/
def generateClusterAgentRuntimeSecret (libs : Libs) (runtime : Runtime)
    (layout : ControlPlaneLayout) : Except GoError Secret :=
  match libs.marshalRuntime { runtime with status := {} } with
  | .error e => .error (e.wrap "failed to marshal runtime manifest")
  | .ok data =>
      .ok
        { metadata :=
            { name := clusterAgentRuntimeSecretName runtime.name
              ns := runtime.ns
              labels := heirLabels (clusterAgentName runtime.name) }
          data := (∅ : GoMap Bytes).insert layout.runtimeManifest.secretKey data }

/-- `HashSecretData`: the digest of the keys and values in the order of the keys. -/
def hashSecretData (libs : Libs) (o : GoMap.RangeOrder Bytes) (data : GoMap Bytes) : String :=
  libs.sha256 ((GoMap.sortedKeys o data).flatMap (fun k => bytes k ++ data.getD k []))

end Heir.Runtime
