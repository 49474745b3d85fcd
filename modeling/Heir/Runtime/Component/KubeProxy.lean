import Heir.Lib.Json
import Heir.Runtime.Layout

set_option autoImplicit false

/-! # The kube-proxy manifest

`CreateKubeProxyManifest` fills a fixed template. All its inputs are rendered in a fixed way but
one: the list of command-line arguments is collected by ranging over a map, and it is used in
the order in which it was collected.
-/

namespace Heir.Runtime

open Heir.ControlPlane

/-! ## Configuration -/

structure ProxyConfig where
  controlPlaneEndpoint : String
  clusterCIDR : String
  image : String
  pullPolicy : String
  mode : String
  metricsBindAddress : String
  ipTables : String
  ipvs : String
  nfTables : String
  nodePortAddresses : String
  args : List String
  deriving DecidableEq

/-- `encoding/json` of an optional member: left out when absent. -/
def jsonOpt {α : Type} (k : String) (f : α → Json) : Option α → List (String × Json)
  | some a => [(k, f a)]
  | none => []

/-- A string member with `omitempty`. -/
def jsonStrOmit (k v : String) : List (String × Json) := if v = "" then [] else [(k, .str v)]

/-- A flag with `omitempty`. -/
def jsonFlagOmit (k : String) (b : Bool) : List (String × Json) := if b then [(k, .bool b)] else []

def jsonDuration (k : String) (d : Duration) : List (String × Json) := [(k, .str d.text)]

def jsonInt32 (n : Int32) : Json := .int n.toInt

/-- `json.Marshal` of a string slice: a nil slice is `null`. -/
def jsonStrings (l : List String) : Json := if l = [] then .null else .arr (l.map .str)

def ipTablesJson (c : KubeProxyIPTablesConfiguration) : Json :=
  .obj (jsonOpt "masqueradeBit" jsonInt32 c.masqueradeBit ++
    jsonFlagOmit "masqueradeAll" c.masqueradeAll ++
    jsonOpt "localhostNodePorts" .bool c.localhostNodePorts ++
    jsonDuration "syncPeriod" c.syncPeriod ++ jsonDuration "minSyncPeriod" c.minSyncPeriod)

def ipvsJson (c : KubeProxyIPVSConfiguration) : Json :=
  .obj (jsonDuration "syncPeriod" c.syncPeriod ++ jsonDuration "minSyncPeriod" c.minSyncPeriod ++
    jsonStrOmit "scheduler" c.scheduler ++
    (if c.excludeCIDRs = [] then [] else [("excludeCIDRs", .arr (c.excludeCIDRs.map .str))]) ++
    jsonFlagOmit "strictARP" c.strictARP ++ jsonDuration "tcpTimeout" c.tcpTimeout ++
    jsonDuration "tcpFinTimeout" c.tcpFinTimeout ++ jsonDuration "udpTimeout" c.udpTimeout)

def nfTablesJson (c : KubeProxyNFTablesConfiguration) : Json :=
  .obj (jsonDuration "syncPeriod" c.syncPeriod ++
    jsonOpt "masqueradeBit" jsonInt32 c.masqueradeBit ++
    jsonFlagOmit "masqueradeAll" c.masqueradeAll ++ jsonDuration "minSyncPeriod" c.minSyncPeriod)

/-- The default arguments of kube-proxy. -/
def proxyDefaultArgs : GoMap String :=
  ((∅ : GoMap String).insert "config" "/var/lib/kube-proxy/config.conf").insert
    "hostname-override" "$(NODE_NAME)"

/-- One command-line argument. -/
def dashedArg (e : String × String) : String := "--" ++ e.1 ++ "=" ++ e.2

/-- `toDashedArg`: the arguments in the order in which the map is visited. -/
def toDashedArg (o : GoMap.RangeOrder String) (p : GoMap String) : List String :=
  (o.visit p).map dashedArg

/-- The arguments of kube-proxy: the user's over the defaults. -/
def proxyArgs (extraOrder : GoMap.RangeOrder String) (extraArgs : GoMap String) : GoMap String :=
  GoMap.setAll proxyDefaultArgs (extraOrder.visit extraArgs)

/-- `getConfig`. `extraOrder` is the order of the range over the user's arguments, `argsOrder`
the one of the range in `toDashedArg`. -/
def getConfig (extraOrder argsOrder : GoMap.RangeOrder String) (runtime : Runtime) :
    Option ProxyConfig :=
  let network := runtime.spec.cluster.network
  let kubeProxy := network.kubeProxy
  if kubeProxy.disabled then none
  else
    some
      { controlPlaneEndpoint := "https://127.0.0.1:6443"
        clusterCIDR := network.podCIDR
        image := kubeProxy.registrySettings.registry ++ "/" ++ kubeProxy.registrySettings.image
        pullPolicy := kubeProxy.registrySettings.pullPolicy
        mode := kubeProxy.mode.text
        metricsBindAddress := kubeProxy.metricsBindAddress
        args := toDashedArg argsOrder (proxyArgs extraOrder kubeProxy.extraArgs)
        nodePortAddresses := Json.marshal (jsonStrings kubeProxy.nodePortAddresses)
        ipTables := Json.marshal (ipTablesJson kubeProxy.ipTables)
        ipvs := Json.marshal (ipvsJson kubeProxy.ipvs)
        nfTables := Json.marshal (nfTablesJson kubeProxy.nfTables) }

/-! ## The template -/

/-- `proxyTemplate` up to the list of arguments. -/
def proxyTemplateHead (cfg : ProxyConfig) : String :=
  unlines
    ["",
     "apiVersion: v1",
     "kind: ServiceAccount",
     "metadata:",
     "  name: kube-proxy",
     "  namespace: kube-system",
     "  labels:",
     "    managed-by: bootstrap",
     "---",
     "apiVersion: rbac.authorization.k8s.io/v1",
     "kind: Role",
     "metadata:",
     "  labels:",
     "    kubernetes.io/bootstrapping: rbac-defaults",
     "    managed-by: bootstrap",
     "  name: kube-proxy",
     "  namespace: kube-system",
     "rules:",
     "  - apiGroups: [\"\"]",
     "    verbs: [\"get\"]",
     "    resources: [\"configmaps\"]",
     "    resourceNames: [\"kube-proxy\"]",
     "---",
     "apiVersion: rbac.authorization.k8s.io/v1",
     "kind: ClusterRoleBinding",
     "metadata:",
     "  annotations:",
     "    rbac.authorization.kubernetes.io/autoupdate: \"true\"",
     "  labels:",
     "    kubernetes.io/bootstrapping: rbac-defaults",
     "    managed-by: bootstrap",
     "  name: node-proxier",
     "roleRef:",
     "  apiGroup: rbac.authorization.k8s.io",
     "  kind: ClusterRole",
     "  name: system:node-proxier",
     "subjects:",
     "- kind: ServiceAccount",
     "  name: kube-proxy",
     "  namespace: kube-system",
     "---",
     "apiVersion: rbac.authorization.k8s.io/v1",
     "kind: RoleBinding",
     "metadata:",
     "  annotations:",
     "    rbac.authorization.kubernetes.io/autoupdate: \"true\"",
     "  labels:",
     "    kubernetes.io/bootstrapping: rbac-defaults",
     "    managed-by: bootstrap",
     "  name: kube-proxy",
     "  namespace: kube-system",
     "roleRef:",
     "  apiGroup: rbac.authorization.k8s.io",
     "  kind: Role",
     "  name: kube-proxy",
     "subjects:",
     "- kind: Group",
     "  name: system:bootstrappers:worker",
     "  apiGroup: rbac.authorization.k8s.io",
     "",
     "---"] ++
  unlines
    ["kind: ConfigMap",
     "apiVersion: v1",
     "metadata:",
     "  name: kube-proxy",
     "  namespace: kube-system",
     "  labels:",
     "    app: kube-proxy",
     "    managed-by: bootstrap",
     "data:",
     "  kubeconfig.conf: |-",
     "    apiVersion: v1",
     "    kind: Config",
     "    clusters:",
     "    - cluster:",
     "        certificate-authority: /var/run/secrets/kubernetes.io/serviceaccount/ca.crt",
     "        server: " ++ cfg.controlPlaneEndpoint,
     "      name: default",
     "    contexts:",
     "    - context:",
     "        cluster: default",
     "        namespace: default",
     "        user: default",
     "      name: default",
     "    current-context: default",
     "    users:",
     "    - name: default",
     "      user:",
     "        tokenFile: /var/run/secrets/kubernetes.io/serviceaccount/token",
     "  config.conf: |-",
     "    apiVersion: kubeproxy.config.k8s.io/v1alpha1",
     "    bindAddress: 0.0.0.0",
     "    clientConnection:",
     "      acceptContentTypes: \"\"",
     "      burst: 0",
     "      contentType: \"\"",
     "      kubeconfig: /var/lib/kube-proxy/kubeconfig.conf",
     "      qps: 0",
     "    clusterCIDR: " ++ cfg.clusterCIDR,
     "    configSyncPeriod: 0s",
     "    mode: \"" ++ cfg.mode ++ "\"",
     "    conntrack:",
     "      maxPerCore: 0",
     "      min: null",
     "      tcpCloseWaitTimeout: null",
     "      tcpEstablishedTimeout: null",
     "    detectLocalMode: \"\"",
     "    enableProfiling: false",
     "    healthzBindAddress: \"\"",
     "    hostnameOverride: \"\"",
     "    iptables: " ++ cfg.ipTables,
     "    ipvs: " ++ cfg.ipvs,
     "    nftables: " ++ cfg.nfTables,
     "    kind: KubeProxyConfiguration",
     "    metricsBindAddress: " ++ cfg.metricsBindAddress,
     "    nodePortAddresses: " ++ cfg.nodePortAddresses,
     "    oomScoreAdj: null",
     "    portRange: \"\"",
     "    showHiddenMetricsForVersion: \"\"",
     "    udpIdleTimeout: 0s",
     "    winkernel:",
     "      enableDSR: false",
     "      networkName: \"\"",
     "      sourceVip: \"\"",
     "---"] ++
  unlines
    ["apiVersion: apps/v1",
     "kind: DaemonSet",
     "metadata:",
     "  labels:",
     "    k8s-app: kube-proxy",
     "    managed-by: bootstrap",
     "  name: kube-proxy",
     "  namespace: kube-system",
     "spec:",
     "  selector:",
     "    matchLabels:",
     "      k8s-app: kube-proxy",
     "  updateStrategy:",
     "    type: RollingUpdate",
     "  template:",
     "    metadata:",
     "      labels:",
     "        k8s-app: kube-proxy",
     "      annotations:",
     "        prometheus.io/scrape: 'true'",
     "        prometheus.io/port: '10249'",
     "    spec:",
     "      priorityClassName: system-node-critical",
     "      containers:",
     "      - name: kube-proxy",
     "        image: " ++ cfg.image,
     "        imagePullPolicy: " ++ cfg.pullPolicy,
     "        command:",
     "        - /usr/local/bin/kube-proxy",
     "        args:"] ++ "        "

/-- What the template's range action writes for the list of arguments. -/
def renderArgs (args : List String) : String :=
  String.join (args.map (fun a => "\n        - " ++ a ++ "\n        "))

/-- `proxyTemplate` after the list of arguments. -/
def proxyTemplateTail : String :=
  "\n" ++ unlines
    ["        securityContext:",
     "          privileged: true",
     "        volumeMounts:",
     "        - mountPath: /var/lib/kube-proxy",
     "          name: kube-proxy",
     "        - mountPath: /run/xtables.lock",
     "          name: xtables-lock",
     "          readOnly: false",
     "        - mountPath: /lib/modules",
     "          name: lib-modules",
     "          readOnly: true",
     "        env:",
     "          - name: NODE_NAME",
     "            valueFrom:",
     "              fieldRef:",
     "                fieldPath: spec.nodeName",
     "      hostNetwork: true",
     "      serviceAccountName: kube-proxy",
     "      volumes:",
     "      - name: kube-proxy",
     "        configMap:",
     "          name: kube-proxy",
     "      - name: xtables-lock",
     "        hostPath:",
     "          path: /run/xtables.lock",
     "          type: FileOrCreate",
     "      - name: lib-modules",
     "        hostPath:",
     "          path: /lib/modules",
     "      tolerations:",
     "      - operator: Exists",
     "        effect: NoExecute",
     "      - operator: Exists",
     "        effect: NoSchedule",
     "      nodeSelector:",
     "        kubernetes.io/os: linux"]

def renderProxyTemplate (cfg : ProxyConfig) : String :=
  proxyTemplateHead cfg ++ renderArgs cfg.args ++ proxyTemplateTail

/-- `CreateKubeProxyManifest`: no text at all when kube-proxy is disabled. -/
def createKubeProxyManifest (extraOrder argsOrder : GoMap.RangeOrder String)
    (runtime : Runtime) : String :=
  match getConfig extraOrder argsOrder runtime with
  | none => ""
  | some cfg => renderProxyTemplate cfg

/-! ## What depends on the iteration order -/

theorem proxyArgs_getElem?_isSome (o : GoMap.RangeOrder String) (extraArgs : GoMap String)
    {k v : String} (h : proxyDefaultArgs[k]? = some v) :
    ∃ w, (proxyArgs o extraArgs)[k]? = some w := by
  rw [proxyArgs, GoMap.getElem?_setAll_visit, h]
  cases extraArgs[k]? with
  | none => exact ⟨v, rfl⟩
  | some w => exact ⟨w, rfl⟩

theorem createKubeProxyManifest_disabled {runtime : Runtime}
    (h : runtime.spec.cluster.network.kubeProxy.disabled = true)
    (oe oa : GoMap.RangeOrder String) : createKubeProxyManifest oe oa runtime = "" := by
  simp [createKubeProxyManifest, getConfig, h]

/-- Texts that begin with different arguments are different. -/
theorem renderArgs_ne {k k' v v' : String} {rest rest' : List (String × String)}
    (hk : ∀ s s', k.toList ++ s ≠ k'.toList ++ s') :
    (renderArgs (((k, v) :: rest).map dashedArg)).toList ≠
      (renderArgs (((k', v') :: rest').map dashedArg)).toList := by
  intro h
  simp only [renderArgs, List.map_cons, String.join_cons, dashedArg, String.toList_append,
    List.append_assoc] at h
  exact hk _ _ (List.append_cancel_left (List.append_cancel_left h))

/-- **An enabled kube-proxy has a manifest that depends on the iteration order.** Both default
arguments are always present, so one order can start with the first and another with the
second. -/
theorem createKubeProxyManifest_order {runtime : Runtime}
    (h : runtime.spec.cluster.network.kubeProxy.disabled = false)
    (oe : GoMap.RangeOrder String) :
    createKubeProxyManifest oe (.startingWith "config") runtime ≠
      createKubeProxyManifest oe (.startingWith "hostname-override") runtime := by
  intro heq
  obtain ⟨v, hv⟩ := proxyArgs_getElem?_isSome oe runtime.spec.cluster.network.kubeProxy.extraArgs
    (k := "config") (v := "/var/lib/kube-proxy/config.conf") (by decide)
  obtain ⟨v', hv'⟩ := proxyArgs_getElem?_isSome oe runtime.spec.cluster.network.kubeProxy.extraArgs
    (k := "hostname-override") (v := "$(NODE_NAME)") (by decide)
  obtain ⟨w, rest, hvisit⟩ := GoMap.RangeOrder.visit_startingWith hv
  obtain ⟨w', rest', hvisit'⟩ := GoMap.RangeOrder.visit_startingWith hv'
  have htext := congrArg String.toList heq
  simp only [createKubeProxyManifest, getConfig, h, Bool.false_eq_true, if_false,
    renderProxyTemplate, toDashedArg, hvisit, hvisit', String.toList_append] at htext
  -- the text around the arguments is the same on both sides
  have hargs := List.append_cancel_left (List.append_cancel_right htext)
  exact renderArgs_ne (fun s s' => by simp) hargs

end Heir.Runtime
