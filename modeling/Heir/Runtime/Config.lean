import Heir.Runtime.Component.NodeProfile

set_option autoImplicit false

/-! # The control-plane configuration

`GenerateControlPlaneConfig` renders seven documents into one ConfigMap and hashes its data. The
run scripts collect the keys of a map and sort them, and the hash is taken of a JSON text with
sorted keys; the only document that shows an iteration order is the manifest of kube-proxy.
-/

namespace Heir.Runtime

open Heir.ControlPlane Heir.Core

/-! ## Iteration orders -/

inductive Script where
  | apiServer
  | controllerManager
  | scheduler
  deriving DecidableEq, Repr

/-- The `range` statements over maps of strings. -/
inductive RangeSite where
  | proxyExtraArgs
  | proxyArgs
  | mergeDefaults (s : Script)
  | mergeExtra (s : Script)
  | scriptKeys (s : Script)
  | configKeys
  | labelsBase
  | labelsExtra
  | annotationsBase
  | annotationsExtra
  deriving DecidableEq, Repr

/-- A resolution of all iteration orders. -/
abbrev Orders : Type := RangeSite → GoMap.RangeOrder String

/-! ## Run scripts -/

/-- `MergeArgs`, with the orders of its two loops. -/
def mergeArgs (od oe : GoMap.RangeOrder String) (defaults extra : GoMap String) : GoMap String :=
  GoMap.setAll (GoMap.setAll ∅ (od.visit defaults)) (oe.visit extra)

/-- `RenderRunScript`, with the order in which the keys are collected. -/
def renderRunScript (o : GoMap.RangeOrder String) (binary : String) (args : GoMap String) :
    String :=
  "#!/bin/sh\n" ++
    if args.isEmpty then "exec " ++ binary
    else
      "exec " ++ binary ++ " \\\n" ++
        String.intercalate " \\\n" ((GoMap.sortedKeys o args).map
          (fun k => "  --" ++ k ++ "=" ++ args.getD k ""))

/-- The script of one supervised process: the user's arguments over the defaults. -/
def runScript (o : Orders) (s : Script) (binary : String) (defaults extra : GoMap String) :
    String :=
  renderRunScript (o (.scriptKeys s)) binary
    (mergeArgs (o (.mergeDefaults s)) (o (.mergeExtra s)) defaults extra)

/-- A map literal. -/
def mapOf (l : List (String × String)) : GoMap String := GoMap.setAll ∅ l

/-- The API server's default arguments. -/
def apiServerParameters (layout : ControlPlaneLayout) (net : NetworkSpec) : GoMap String :=
  mapOf
    [("kubelet-preferred-address-types", "Hostname"),
     ("egress-selector-config-file", layout.config.egressSelector.mountPath),
     ("advertise-address", ""),
     ("allow-privileged", "true"),
     ("endpoint-reconciler-type", "none"),
     ("authorization-mode", "Node,RBAC"),
     ("bind-address", "0.0.0.0"),
     ("client-ca-file", layout.pki.caCert.mountPath),
     ("enable-admission-plugins",
       "NamespaceLifecycle,NodeRestriction,LimitRanger,ServiceAccount,DefaultStorageClass,ResourceQuota"),
     ("etcd-servers", "http://127.0.0.1:2379"),
     ("enable-bootstrap-token-auth", "true"),
     ("event-ttl", "1h"),
     ("kubelet-certificate-authority", layout.pki.caCert.mountPath),
     ("kubelet-client-certificate", layout.pki.apiServerCert.mountPath),
     ("kubelet-client-key", layout.pki.apiServerKey.mountPath),
     ("runtime-config", "api/all=true"),
     ("service-account-issuer", "https://kubernetes.default.svc.cluster.local"),
     ("service-account-key-file", layout.pki.serviceAccountCert.mountPath),
     ("service-account-signing-key-file", layout.pki.serviceAccountKey.mountPath),
     ("service-cluster-ip-range", net.serviceCIDR),
     ("service-node-port-range", "30000-32767"),
     ("tls-cert-file", layout.pki.apiServerCert.mountPath),
     ("tls-private-key-file", layout.pki.apiServerKey.mountPath),
     ("v", "2")]

def controllerManagerParameters (layout : ControlPlaneLayout) (net : NetworkSpec) : GoMap String :=
  mapOf
    [("allocate-node-cidrs", "true"),
     ("bind-address", "0.0.0.0"),
     ("cluster-cidr", net.podCIDR),
     ("cluster-name", "tardigrade"),
     ("cluster-signing-cert-file", layout.pki.caCert.mountPath),
     ("cluster-signing-key-file", layout.pki.caKey.mountPath),
     ("kubeconfig", layout.auth.controllerManagerConf.mountPath),
     ("root-ca-file", layout.pki.caCert.mountPath),
     ("service-account-private-key-file", layout.pki.serviceAccountKey.mountPath),
     ("service-cluster-ip-range", net.serviceCIDR),
     ("use-service-account-credentials", "true"),
     ("controllers", "*,tokencleaner"),
     ("v", "2")]

def schedulerParameters (layout : ControlPlaneLayout) : GoMap String :=
  mapOf
    [("authentication-kubeconfig", layout.auth.schedulerConf.mountPath),
     ("authorization-kubeconfig", layout.auth.schedulerConf.mountPath),
     ("bind-address", "127.0.0.1"),
     ("kubeconfig", layout.auth.schedulerConf.mountPath),
     ("leader-elect", "true")]

/-! ## Fixed manifests -/

structure EgressSelectorConfig where
  egressURL : String
  caCertPath : String
  clientCertPath : String
  clientKeyPath : String

def createEgressSelectorConfiguration (cfg : EgressSelectorConfig) : String :=
  unlines
    ["apiVersion: apiserver.k8s.io/v1beta1",
     "kind: EgressSelectorConfiguration",
     "egressSelections:",
     "- name: cluster",
     "  connection:",
     "    proxyProtocol: HTTPConnect",
     "    transport:",
     "      tcp:",
     "        url: " ++ cfg.egressURL,
     "        tlsConfig:",
     "          caBundle: " ++ cfg.caCertPath,
     "          clientCert: " ++ cfg.clientCertPath,
     "          clientKey: " ++ cfg.clientKeyPath]

/-- A ClusterRoleBinding of the bootstrap manifest, from its name to its role reference. -/
def bootstrapBinding (name group role : String) : List String :=
  ["apiVersion: rbac.authorization.k8s.io/v1",
   "kind: ClusterRoleBinding",
   "metadata:",
   "  name: " ++ name,
   "  labels:",
   "    managed-by: bootstrap",
   "subjects:",
   "  - kind: Group",
   "    name: " ++ group,
   "    apiGroup: rbac.authorization.k8s.io",
   "roleRef:",
   "  kind: ClusterRole",
   "  name: " ++ role,
   "  apiGroup: rbac.authorization.k8s.io",
   "---"]

def createBootstrapManifest : String :=
  unlines
    (["",
      "apiVersion: rbac.authorization.k8s.io/v1",
      "kind: Role",
      "metadata:",
      "  name: heir:worker-profile-reader",
      "  namespace: kube-system",
      "  labels:",
      "    managed-by: bootstrap",
      "rules:",
      "  - apiGroups: [\"\"]",
      "    resources: [\"configmaps\"]",
      "    resourceNames: [\"worker-profile\"]",
      "    verbs: [\"get\", \"watch\", \"list\"]",
      "---",
      "apiVersion: rbac.authorization.k8s.io/v1",
      "kind: RoleBinding",
      "metadata:",
      "  name: heir:worker-profile-reader",
      "  namespace: kube-system",
      "  labels:",
      "    managed-by: bootstrap",
      "subjects:",
      "  - kind: Group",
      "    name: system:nodes",
      "    apiGroup: rbac.authorization.k8s.io",
      "roleRef:",
      "  kind: Role",
      "  name: heir:worker-profile-reader",
      "  apiGroup: rbac.authorization.k8s.io",
      "---"] ++
    bootstrapBinding "heir:kubelet-bootstrap" "system:bootstrappers:worker"
      "system:node-bootstrapper" ++
    bootstrapBinding "heir:kubelet-bootstrap-auto-approve-csrs" "system:bootstrappers:worker"
      "system:certificates.k8s.io:certificatesigningrequests:nodeclient" ++
    bootstrapBinding "heir:kubelet-cert-renew" "system:nodes"
      "system:certificates.k8s.io:certificatesigningrequests:selfnodeclient" ++
    ["apiVersion: rbac.authorization.k8s.io/v1",
     "kind: ClusterRoleBinding",
     "metadata:",
     "  name: system:kube-apiserver-to-kubelet",
     "  labels:",
     "    managed-by: bootstrap",
     "roleRef:",
     "  apiGroup: rbac.authorization.k8s.io",
     "  kind: ClusterRole",
     "  name: system:kubelet-api-admin",
     "subjects:",
     "- kind: User",
     "  name: kube-apiserver"])

/-! ## The ConfigMap -/

def controlPlaneConfigHashAnnotation : String :=
  "controlplane.tardigrade.runtime.io/control-plane-hash"

/-- `HashConfigData`: the digest of the JSON text of the map, whose keys are sorted. -/
def hashConfigData (sha256 : Bytes → String) (data : GoMap String) : String :=
  sha256 (bytes (Json.marshal (.obj (data.toList.map (fun e => (e.1, Json.str e.2))))))

/-- The data of the ConfigMap, given the two documents that are rendered elsewhere. -/
def configData (o : Orders) (runtime : Runtime) (layout : ControlPlaneLayout)
    (kubeProxyManifest nodeProfile : String) : GoMap String :=
  let workerProfile := newWorkerContextWithDefaults
  let cluster := runtime.spec.cluster
  mapOf
    [(layout.config.apiServer.secretKey,
        runScript o .apiServer "/usr/local/bin/kube-apiserver"
          (apiServerParameters layout cluster.network) cluster.apiServer.extraArgs),
     (layout.config.controllerManager.secretKey,
        runScript o .controllerManager "/usr/local/bin/kube-controller-manager"
          (controllerManagerParameters layout cluster.network) cluster.controllerManager.extraArgs),
     (layout.config.scheduler.secretKey,
        runScript o .scheduler "/usr/local/bin/kube-scheduler"
          (schedulerParameters layout) cluster.scheduler.extraArgs),
     (layout.config.egressSelector.secretKey,
        createEgressSelectorConfiguration
          { egressURL := "https://" ++ planeTunnelEgressName runtime.name ++ ":" ++
              toString workerProfile.planeTunnelServerEgressSelectorPort.toInt
            caCertPath := layout.pki.caCert.mountPath
            clientCertPath := layout.pki.apiServerPlaneTunnelCert.mountPath
            clientKeyPath := layout.pki.apiServerPlaneTunnelKey.mountPath }),
     (layout.staticManifest.bootstrap.secretKey, createBootstrapManifest),
     (layout.staticManifest.nodeProfile.secretKey, nodeProfile),
     (layout.staticManifest.kubeProxy.secretKey, kubeProxyManifest)]

/-- The ConfigMap with the given data and hash. -/
def configMapOf (runtime : Runtime) (data : GoMap String) (hash : String) :
    ConfigMap where
  metadata :=
    { name := runtime.name
      ns := runtime.ns
      labels := heirLabels runtime.name
      annotations := mapOf
        [( deletionProtectionAnnotation, "false"), ( controlPlaneConfigHashAnnotation, hash)] }
  data := data

/-- `GenerateControlPlaneConfig`. The final copy of the data goes through the sorted keys. -/
def generateControlPlaneConfig (yaml : Yaml) (sha256 : Bytes → String) (o : Orders)
    (runtime : Runtime) (layout : ControlPlaneLayout) :
    GoResult (ConfigMap × String) := do
  let kubeProxyManifest :=
    createKubeProxyManifest (o .proxyExtraArgs) (o .proxyArgs) runtime
  let nodeProfile ← createNodeProfileManifest yaml newWorkerContextWithDefaults runtime
  let data := configData o runtime layout kubeProxyManifest nodeProfile
  let desiredHash := hashConfigData sha256 data
  let mp := mapOf ((GoMap.sortedKeys (o .configKeys) data).map (fun k => (k, data.getD k "")))
  return (configMapOf runtime mp desiredHash, desiredHash)

/-! ## What depends on the iteration orders -/

theorem mergeArgs_congr (od oe od' oe' : GoMap.RangeOrder String) (defaults extra : GoMap String) :
    mergeArgs od oe defaults extra = mergeArgs od' oe' defaults extra := by
  rw [mergeArgs, mergeArgs, GoMap.setAll_empty_visit, GoMap.setAll_empty_visit,
    GoMap.setAll_congr oe oe']

theorem renderRunScript_congr (o o' : GoMap.RangeOrder String) (binary : String)
    (args : GoMap String) : renderRunScript o binary args = renderRunScript o' binary args := by
  rw [renderRunScript, renderRunScript, GoMap.sortedKeys_eq o o']

theorem runScript_congr (o o' : Orders) (s : Script) (binary : String)
    (defaults extra : GoMap String) :
    runScript o s binary defaults extra = runScript o' s binary defaults extra := by
  rw [runScript, runScript, mergeArgs_congr _ _ (o' (.mergeDefaults s)) (o' (.mergeExtra s)),
    renderRunScript_congr]

theorem configData_congr (o o' : Orders) (runtime : Runtime)
    (layout : ControlPlaneLayout) (kubeProxyManifest nodeProfile : String) :
    configData o runtime layout kubeProxyManifest nodeProfile =
      configData o' runtime layout kubeProxyManifest nodeProfile := by
  simp only [configData, runScript_congr o o']

/-- The data of the ConfigMap holds the kube-proxy manifest as it was rendered. -/
theorem configData_kubeProxy (o : Orders) (runtime : Runtime)
    (kubeProxyManifest nodeProfile : String) :
    (configData o runtime layout kubeProxyManifest nodeProfile)["kubeproxy.yaml"]? =
      some kubeProxyManifest := by
  apply GoMap.getElem?_setAll_of_mem
  · simp only [List.map_cons, List.map_nil]
    decide
  · simp [layout, newControlPlaneLayout]

variable (yaml : Yaml) (sha256 : Bytes → String) (runtime : Runtime)

/-- `GenerateControlPlaneConfig` without the copy through the sorted keys. -/
theorem generateControlPlaneConfig_eq (o : Orders) :
    generateControlPlaneConfig yaml sha256 o runtime layout =
      (createNodeProfileManifest yaml newWorkerContextWithDefaults runtime).map (fun nodeProfile =>
        let data := configData o runtime layout
          (createKubeProxyManifest (o .proxyExtraArgs) (o .proxyArgs) runtime) nodeProfile
        (configMapOf runtime data (hashConfigData sha256 data), hashConfigData sha256 data)) := by
  simp only [generateControlPlaneConfig, mapOf, GoMap.setAll_empty_sortedKeys]
  cases createNodeProfileManifest yaml newWorkerContextWithDefaults runtime <;> rfl

/-- Two resolutions of the orders that agree on the kube-proxy manifest agree on everything. -/
theorem generateControlPlaneConfig_congr {o o' : Orders}
    (h : createKubeProxyManifest (o .proxyExtraArgs) (o .proxyArgs) runtime =
      createKubeProxyManifest (o' .proxyExtraArgs) (o' .proxyArgs) runtime) :
    generateControlPlaneConfig yaml sha256 o runtime layout =
      generateControlPlaneConfig yaml sha256 o' runtime layout := by
  simp only [generateControlPlaneConfig_eq, configData_congr o o', h]

/-- Orders that are the same at every `range` but the one that collects the arguments. -/
def ordersWith (o : GoMap.RangeOrder String) : Orders
  | .proxyArgs => o
  | _ => .byKey

/-- **The configuration is the same for all iteration orders exactly when it has no kube-proxy
manifest**, or when the worker profile cannot be rendered. -/
theorem generateControlPlaneConfig_stable_iff :
    (∀ o o' : Orders, generateControlPlaneConfig yaml sha256 o runtime layout =
        generateControlPlaneConfig yaml sha256 o' runtime layout) ↔
      runtime.spec.cluster.network.kubeProxy.disabled = true ∨
        ∃ f, createNodeProfileManifest yaml newWorkerContextWithDefaults runtime = .error f := by
  constructor
  · intro hall
    by_contra hc
    obtain ⟨hd, hnp⟩ := not_or.mp hc
    rw [Bool.not_eq_true] at hd
    obtain ⟨np, hnp⟩ : ∃ np, createNodeProfileManifest yaml newWorkerContextWithDefaults runtime =
        .ok np := by
      cases h : createNodeProfileManifest yaml newWorkerContextWithDefaults runtime with
      | error f => exact absurd ⟨f, h⟩ hnp
      | ok np => exact ⟨np, rfl⟩
    have h := hall (ordersWith (.startingWith "config"))
      (ordersWith (.startingWith "hostname-override"))
    simp only [generateControlPlaneConfig_eq, hnp, Except.map, Except.ok.injEq, Prod.mk.injEq] at h
    have hdata := congrArg (fun cm : ConfigMap => cm.data["kubeproxy.yaml"]?) h.1
    simp only [configMapOf, configData_kubeProxy, Option.some.injEq] at hdata
    exact createKubeProxyManifest_order hd _ hdata
  · rintro (hd | ⟨f, hf⟩) o o'
    · apply generateControlPlaneConfig_congr
      rw [createKubeProxyManifest_disabled hd, createKubeProxyManifest_disabled hd]
    · simp only [generateControlPlaneConfig_eq, hf, Except.map]

end Heir.Runtime
