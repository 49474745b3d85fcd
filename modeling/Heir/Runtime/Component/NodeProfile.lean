import Heir.Runtime.Component.KubeProxy

set_option autoImplicit false

/-! # The worker profile

`CreateNodeProfileManifest` renders the ConfigMap a worker reads after its bootstrap. The
kubelet arguments go into it as YAML, the endpoint of the control plane as JSON; both are text in
block scalars of a template, which is then parsed, patched and written again.

The YAML and JSON-patch libraries are a parameter (`Yaml`).
-/

namespace Heir.Runtime

open Heir.ControlPlane

/-! ## Libraries -/

/-- The functions of `sigs.k8s.io/yaml` and `json-patch` that the renderers call. -/
structure Yaml where
  /-- `yaml.Marshal` of a `map[string]string`. -/
  marshalMap : GoMap String → Except GoError String
  /-- `yaml.Marshal` of a `map[string]interface`. -/
  marshal : GoMap Json → Except GoError String
  /-- `yaml.Unmarshal` into a `map[string]interface`. -/
  unmarshal : String → Except GoError (GoMap Json)
  yamlToJSON : String → Except GoError String
  jsonToYAML : String → Except GoError String
  mergePatch : String → String → Except GoError String

def configPatch (yaml : Yaml) (baseYAML patches : String) : Except GoError String := do
  let baseJSON ← yaml.yamlToJSON baseYAML
  let patchJSON ← yaml.yamlToJSON patches
  let current ← yaml.mergePatch baseJSON patchJSON
  yaml.jsonToYAML current

/-! ## Configuration -/

structure NodeProfileConfig where
  nodeProfileConfigMapName : String
  clientCAFile : String
  clusterDNS : String
  containerRuntimeEndpoint : String
  kubeletStaticPodPath : String
  kubeletConfigurationKey : String
  kubeletExtraArgsKey : String
  kubeletExtraArgs : String
  controlPlaneEndpointKey : String
  controlPlaneEndpoint : String
  cniProviderKey : String
  cniProvider : String

def clusterDNSIP : String := "10.96.0.10"

/-- `cniProvider`: flannel unless an addon entry of that name disables it. -/
def cniProvider (runtime : Runtime) : String :=
  if runtime.spec.cluster.addons.charts.any
      (fun c => c.name == "flannel" && c.enabled == some false) then "custom"
  else "flannel"

def componentEndpointJson (e : ComponentEndpoint) : Json :=
  .obj [("host", .str e.host), ("port", jsonInt32 e.port)]

/-- `json.Marshal` of the external endpoint. -/
def endpointJson (e : ControlPlaneExternalEndpointSpec) : Json :=
  .obj [("apiServer", componentEndpointJson e.apiServer),
    ("planeTunnel", componentEndpointJson e.planeTunnel)]

def getNodeProfileConfig (yaml : Yaml) (wrkCtx : WorkerContext) (runtime : Runtime) :
    Except GoError NodeProfileConfig :=
  let kubelet := runtime.spec.cluster.kubelet
  match yaml.marshalMap kubelet.extraArgs with
  | .error e => .error (e.wrap "failed to marshal kubelet extra args")
  | .ok extraArgsYAML =>
      .ok
        { nodeProfileConfigMapName := wrkCtx.workerProfileConfigMapName
          clientCAFile := wrkCtx.kubeletPKICaCertPath
          clusterDNS := clusterDNSIP
          containerRuntimeEndpoint := wrkCtx.containerdAddress
          kubeletStaticPodPath := wrkCtx.kubeletStaticPodPath
          kubeletConfigurationKey := wrkCtx.kubeletConfigurationNodeProfileConfigmapKey
          kubeletExtraArgsKey := wrkCtx.kubeletExtraArgsNodeProfileConfigmapKey
          kubeletExtraArgs := extraArgsYAML
          controlPlaneEndpointKey := wrkCtx.controlPlaneEndpointNodeProfileConfigmapKey
          controlPlaneEndpoint :=
            Json.marshal (endpointJson runtime.spec.cluster.controlPlaneExternalEndpoint)
          cniProvider := cniProvider runtime
          cniProviderKey := wrkCtx.cniEnableProviderNodeProfileConfigmapKey }

/-! ## The template -/

/-- The template function `indent`. -/
def indent (n : Nat) (s : String) : String :=
  let pad := List.replicate n ' '
  String.ofList (pad ++ s.toList.flatMap (fun c => if c = '\n' then '\n' :: pad else [c]))

/-- The kubelet configuration inside the template. -/
def kubeletConfiguration (cfg : NodeProfileConfig) : List String :=
  ["apiVersion: kubelet.config.k8s.io/v1beta1",
   "authentication:",
   "  anonymous:",
   "    enabled: false",
   "  webhook:",
   "    cacheTTL: 0s",
   "    enabled: true",
   "  x509:",
   "    clientCAFile: " ++ cfg.clientCAFile,
   "authorization:",
   "  mode: Webhook",
   "  webhook:",
   "    cacheAuthorizedTTL: 0s",
   "    cacheUnauthorizedTTL: 0s",
   "resolvConf: /run/systemd/resolve/resolv.conf",
   "cgroupDriver: systemd",
   "enforceNodeAllocatable: []",
   "clusterDNS:",
   "- " ++ cfg.clusterDNS,
   "clusterDomain: cluster.local",
   "containerRuntimeEndpoint: " ++ cfg.containerRuntimeEndpoint,
   "evictionHard:",
   "  imagefs.available: 0%",
   "  nodefs.available: 0%",
   "  nodefs.inodesFree: 0%",
   "failSwapOn: false",
   "healthzBindAddress: 0.0.0.0",
   "healthzPort: 10248",
   "imageGCHighThresholdPercent: 100",
   "kind: KubeletConfiguration",
   "serverTLSBootstrap: true",
   "rotateCertificates: true",
   "staticPodPath: " ++ cfg.kubeletStaticPodPath]

/-- `NodeProfileTemplate`, filled in. The last action trims the white space after it. -/
def renderNodeProfile (cfg : NodeProfileConfig) : String :=
  unlines
    ["apiVersion: v1",
     "kind: ConfigMap",
     "metadata:",
     "  name: " ++ cfg.nodeProfileConfigMapName,
     "  namespace: kube-system",
     "  labels:",
     "    managed-by: bootstrap",
     "data:",
     "  " ++ cfg.cniProviderKey ++ ": " ++ cfg.cniProvider,
     "  " ++ cfg.controlPlaneEndpointKey ++ ": |",
     indent 4 cfg.controlPlaneEndpoint,
     "  " ++ cfg.kubeletConfigurationKey ++ ": |"] ++
  unlines ((kubeletConfiguration cfg).map (fun l => "    " ++ l)) ++
  unlines ["  " ++ cfg.kubeletExtraArgsKey ++ ": |"] ++
  indent 4 cfg.kubeletExtraArgs

/-! ## The manifest -/

/-- `cm["data"].(map[string]interface)`: a failed assertion panics. -/
def documentData (cm : GoMap Json) : GoResult (List (String × Json)) :=
  match cm["data"]? with
  | some (.obj data) => .ok data
  | _ => .error (.panic "interface conversion: interface is not map[string]interface")

def createNodeProfileManifest (yaml : Yaml) (wrkCtx : WorkerContext)
    (runtime : Runtime) : GoResult String := do
  let cfg ← liftError (getNodeProfileConfig yaml wrkCtx runtime)
  let kubelet := runtime.spec.cluster.kubelet
  let cm ← liftError (yaml.unmarshal (renderNodeProfile cfg))
  let data ← documentData cm
  if kubelet.configPatches = "" then liftError (yaml.marshal cm)
  else
    match Json.member wrkCtx.kubeletConfigurationNodeProfileConfigmapKey data with
    | some (.str kubeletCfgStr) =>
        match configPatch yaml kubeletCfgStr kubelet.configPatches with
        | .error e => .error (.error (e.wrap "failed to apply kubelet config patch"))
        | .ok patched =>
            let data := Json.setMember wrkCtx.kubeletConfigurationNodeProfileConfigmapKey
              (.str patched) data
            liftError (yaml.marshal (cm.insert "data" (.obj data)))
    | _ => .error (.panic "interface conversion: interface is not string")

/-- The manifest, once the template has been parsed to a ConfigMap with a kubelet
configuration. -/
theorem createNodeProfileManifest_eq {yaml : Yaml} {wrkCtx : WorkerContext}
    {runtime : Runtime} {cfg : NodeProfileConfig} {cm : GoMap Json}
    {data : List (String × Json)} {kubelet : String}
    (hcfg : getNodeProfileConfig yaml wrkCtx runtime = .ok cfg)
    (hcm : yaml.unmarshal (renderNodeProfile cfg) = .ok cm)
    (hdata : cm["data"]? = some (.obj data))
    (hkub : Json.member wrkCtx.kubeletConfigurationNodeProfileConfigmapKey data =
      some (.str kubelet)) :
    createNodeProfileManifest yaml wrkCtx runtime =
      if runtime.spec.cluster.kubelet.configPatches = "" then liftError (yaml.marshal cm)
      else
        match configPatch yaml kubelet runtime.spec.cluster.kubelet.configPatches with
        | .error e => .error (.error (e.wrap "failed to apply kubelet config patch"))
        | .ok patched => liftError (yaml.marshal (cm.insert "data" (.obj
            (Json.setMember wrkCtx.kubeletConfigurationNodeProfileConfigmapKey (.str patched)
              data)))) := by
  have hdoc : documentData cm = .ok data := by rw [documentData, hdata]
  simp only [createNodeProfileManifest, hcfg, liftError_ok, ok_bind, hcm, hdoc, hkub]

end Heir.Runtime
