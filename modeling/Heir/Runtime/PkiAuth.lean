import Heir.Lib.GoString
import Heir.Runtime.Effects

set_option autoImplicit false

/-! # Certificates, kubeconfigs and their Secrets

The generators of the two Secrets with key material, the rotation of the leaf certificates whose
names follow the specification, and the checks of a stored kubeconfig. Signing is a call, so the
generators are programs.
-/

namespace Heir.Runtime

open Heir.ControlPlane Heir.Core Interact

variable (libs : Libs)

/-! ## Subject alternative names -/

def pkiAPIServerHashAnnotation : String := "controlplane.tardigrade.runtime.io/pki-apiserver-hash"

def pkiPlaneTunnelHashAnnotation : String :=
  "controlplane.tardigrade.runtime.io/pki-planetunnel-hash"

def planeTunnelAltNames (host : String) : List String := if host = "" then [] else [host]

def sansHash (cluster : List String) : String :=
  libs.sha256 (bytes (String.intercalate "," cluster))

/-- `slices.Compact`: drop an element that equals the one before it. -/
def compact : List String → List String
  | [] => []
  | [s] => [s]
  | s :: t :: rest => if s = t then compact (t :: rest) else s :: compact (t :: rest)

def apiServerAltNames (runtime : Runtime) : List String :=
  let host := runtime.spec.cluster.controlPlaneExternalEndpoint.apiServer.host
  let sans := runtime.spec.cluster.apiServer.sans ++
    ["127.0.0.1", "10.96.0.1", "0.0.0.0", "kubernetes", "kubernetes.default",
     "kubernetes.default.svc", "kubernetes.default.cluster", "server.kubernetes.local",
     "api-server.kubernetes.local", runtime.name ++ "." ++ runtime.ns ++ ".svc.cluster.local"] ++
    (if host = "" then [] else [host])
  compact (GoMap.sortStrings (sans.filter (fun s => s ≠ "")))

theorem mem_compact (s : String) (l : List String) : s ∈ compact l ↔ s ∈ l := by
  fun_induction compact l with
  | case1 => rfl
  | case2 t => rfl
  | case3 t rest ih =>
      rw [ih]
      simp
  | case4 t u rest hne ih => rw [List.mem_cons, List.mem_cons, ih]

/-- The names of the API server: the user's, the fixed ones and the external host, without the
empty name. -/
theorem mem_apiServerAltNames (runtime : Runtime) (s : String) :
    s ∈ apiServerAltNames runtime ↔ s ≠ "" ∧
      (s ∈ runtime.spec.cluster.apiServer.sans ∨
        s ∈ ["127.0.0.1", "10.96.0.1", "0.0.0.0", "kubernetes", "kubernetes.default",
          "kubernetes.default.svc", "kubernetes.default.cluster", "server.kubernetes.local",
          "api-server.kubernetes.local",
          runtime.name ++ "." ++ runtime.ns ++ ".svc.cluster.local"] ∨
        s = runtime.spec.cluster.controlPlaneExternalEndpoint.apiServer.host) := by
  have hhost : ∀ h : String, s ≠ "" → (s ∈ (if h = "" then [] else [h]) ↔ s = h) := by
    intro h hs
    split
    · next h0 => simp [h0, hs]
    · simp
  rw [apiServerAltNames, mem_compact, (GoMap.sortStrings_perm _).mem_iff, List.mem_filter,
    decide_eq_true_eq, and_comm, List.mem_append, List.mem_append, or_assoc]
  exact and_congr_right fun hs => or_congr_right (or_congr_right (hhost _ hs))

/-- The request for the API server's certificate. -/
def apiServerCSR (hostnames : List String) : CSR :=
  { name := "kubernetes", o := "kubernetes", cn := "kube-apiserver", hostnames := hostnames }

/-- The request for the plane tunnel's certificate. -/
def planeTunnelCSR (hostnames : List String) : CSR :=
  { name := "plane-tunnel", o := "system:plane-tunnel", hostnames := hostnames }

/-! ## Rotation -/

/-- `secret.Data[key]`: nil when the key is missing. -/
def secretEntry (secret : Secret) (key : String) : Bytes := secret.data.getD key []

/-- The certificate authority stored in the PKI Secret. -/
def storedCA (secret : Secret) (layout : ControlPlaneLayout) : Certificate :=
  ⟨secretEntry secret layout.pki.caCert.secretKey, secretEntry secret layout.pki.caKey.secretKey⟩

/-- Store a re-signed certificate with its key and the hash of its names. The data of the Secret
was decoded, so the assignments panic when it has none; the annotations were made before. -/
def storeCertificate (secret : Secret) (certKey keyKey annotationKey wantHash : String)
    (cert : Certificate) : GoResult Secret := do
  let data ← assignDecoded secret.data certKey cert.cert
  let data := data.insert keyKey cert.key
  return { secret with
    data := data
    metadata.annotations := secret.metadata.annotations.insert annotationKey wantHash }

/-- Re-sign one leaf certificate when the hash of its names has changed. -/
def regenerateLeaf (ca : Certificate) (secret : Secret) (annotationKey : String) (csr : CSR)
    (certKey keyKey what : String) : Go (Secret × Bool) := do
  let wantHash := sansHash libs csr.hostnames
  if secret.metadata.annotations.getD annotationKey "" = wantHash then return (secret, false)
  else
    match ← Go.attempt (Go.signCSR ca csr) with
    | .error (.error e) => Go.fail (e.wrap ("failed to re-sign " ++ what ++ " cert"))
    | .error (.panic t) => Go.ofResult (.error (.panic t))
    | .ok cert =>
        return (← Go.ofResult (storeCertificate secret certKey keyKey annotationKey wantHash cert), true)

/-- `RegeneratePKILeafCerts`: the Secret with the re-signed certificates, and whether there are
any. -/
def regeneratePKILeafCerts (secret : Secret) (runtime : Runtime)
    (layout : ControlPlaneLayout) : Go (Secret × Bool) := do
  let ca := storedCA secret layout
  let (secret, updated₁) ← regenerateLeaf libs ca secret pkiAPIServerHashAnnotation
    (apiServerCSR (apiServerAltNames runtime)) layout.pki.apiServerCert.secretKey
    layout.pki.apiServerKey.secretKey "API server"
  let (secret, updated₂) ← regenerateLeaf libs ca secret pkiPlaneTunnelHashAnnotation
    (planeTunnelCSR (planeTunnelAltNames
      runtime.spec.cluster.controlPlaneExternalEndpoint.planeTunnel.host))
    layout.pki.planeTunnelCert.secretKey layout.pki.planeTunnelKey.secretKey "plane tunnel"
  return (secret, updated₁ || updated₂)

/-! ## Kubeconfigs -/

def generateKubeconfig (username : String) (caCert : Bytes) (cert : Certificate)
    (serverUrl : String := "https://127.0.0.1:6443") : Except GoError Bytes :=
  let contextName := username ++ "@heir"
  libs.writeKubeconfig
    { clusters := (∅ : GoMap KubeCluster).insert username ⟨serverUrl, caCert⟩
      authInfos := (∅ : GoMap AuthInfo).insert username
        { clientCertificateData := cert.cert, clientKeyData := cert.key }
      contexts := (∅ : GoMap KubeContext).insert contextName ⟨username, username⟩
      currentContext := contextName }

/-- `fmt.Sprintf("https://%s:%d", host, port)` of the API server's external endpoint. -/
def apiServerURL (runtime : Runtime) : String :=
  let e := runtime.spec.cluster.controlPlaneExternalEndpoint.apiServer
  "https://" ++ e.host ++ ":" ++ toString e.port.toInt

/-- `Kubeconfig` of the util package: a kubeconfig resolved at its current context. -/
structure ResolvedKubeconfig where
  cluster : KubeCluster
  authInfo : AuthInfo

/-- `ParseAndVerifyKubeconfig` up to its options. -/
def resolveKubeconfig (raw : Bytes) : Except GoError ResolvedKubeconfig :=
  match libs.loadKubeconfig raw with
  | .error e => .error (e.wrap "kubeconfig is not valid")
  | .ok config =>
      match config.contexts[config.currentContext]? with
      | none => .error (errorf ("kubeconfig is missing its current context: " ++
          GoString.quote libs.isPrint config.currentContext))
      | some kctx =>
          match config.clusters[kctx.cluster]? with
          | none => .error (errorf ("kubeconfig is missing the referenced cluster: " ++
              GoString.quote libs.isPrint kctx.cluster))
          | some cluster =>
              match config.authInfos[kctx.authInfo]? with
              | none => .error (errorf ("kubeconfig is missing the referenced auth info: " ++
                  GoString.quote libs.isPrint kctx.authInfo))
              | some authInfo =>
                  if authInfo.clientCertificateData = [] then
                    .error (errorf ("kubeconfig auth info has no client certificate data: auth info " ++
                      GoString.quote libs.isPrint kctx.authInfo))
                  else .ok ⟨cluster, authInfo⟩

/-- `validateClientKubeconfigSecret`: the text of the error, if there is one. -/
def validateClientKubeconfigSecret (secret : Secret) (ca : Certificate)
    (runtime : Runtime) (layout : ControlPlaneLayout) : Go (Except GoError Unit) := do
  let raw := secretEntry secret layout.auth.clientKubeconfig.secretKey
  if raw = [] then
    return .error (errorf ("kubeconfig key " ++ GoString.quote libs.isPrint layout.auth.clientKubeconfig.secretKey ++
      " missing from secret"))
  else
    match resolveKubeconfig libs raw with
    | .error e => return .error (e.wrap "client kubeconfig is invalid")
    | .ok kc =>
        let wantServer := apiServerURL runtime
        if kc.cluster.server ≠ wantServer then
          return .error ((errorf ("kubeconfig server does not match expectation: got " ++
            GoString.quote libs.isPrint kc.cluster.server ++ ", want " ++ GoString.quote libs.isPrint wantServer)).wrap
              "client kubeconfig is invalid")
        else
          match ← Go.call (.verifyCertificate kc.authInfo.clientCertificateData ca
              kc.authInfo.clientKeyData) with
          | .error e => return .error ((e.wrap "kubeconfig client certificate is invalid").wrap
              "client kubeconfig is invalid")
          | .ok _ => return .ok ()

/-! ## Secrets -/

def generatePKIAuthSecret (runtime : Runtime) (layout : ControlPlaneLayout) :
    Go Secret := do
  let ca ← Go.ofExcept (← Go.call .generateSelfSignedCert)
  let tunnelHosts := planeTunnelAltNames
    runtime.spec.cluster.controlPlaneExternalEndpoint.planeTunnel.host
  let planeTunnelServer ← Go.signCSR ca (planeTunnelCSR tunnelHosts)
  let apiServerPlaneTunnelServer ← Go.signCSR ca
    { name := "plane-tunnel", o := "system:apiserver:plane-tunnel"
      hostnames := [planeTunnelEgressName runtime.name] }
  let apiServerCert ← Go.signCSR ca (apiServerCSR (apiServerAltNames runtime))
  let serviceAccountCert ← Go.signCSR ca { cn := "service-accounts", hostnames := [] }
  let adminCert ← Go.signCSR ca
    { cn := "kubernetes-admin", o := "system:masters", hostnames := [] }
  let controllerManagerCert ← Go.signCSR ca
    { cn := "system:kube-controller-manager", o := "system:kube-controller-manager"
      hostnames := [] }
  let schedulerCert ← Go.signCSR ca
    { cn := "system:kube-scheduler", o := "system:kube-scheduler", hostnames := [] }
  let adminConf ← Go.ofExcept (generateKubeconfig libs runtime.name ca.cert adminCert)
  let controllerManagerConf ← Go.ofExcept
    (generateKubeconfig libs "system:kube-controller-manager" ca.cert controllerManagerCert)
  let schedulerConf ← Go.ofExcept
    (generateKubeconfig libs "system:kube-scheduler" ca.cert schedulerCert)
  return {
      metadata :=
        { name := runtime.name
          ns := runtime.ns
          labels := heirLabels runtime.name
          annotations := mapOf
            [( deletionProtectionAnnotation, "false"),
             ( pkiAPIServerHashAnnotation, sansHash libs (apiServerAltNames runtime)),
             ( pkiPlaneTunnelHashAnnotation, sansHash libs tunnelHosts)] }
      data := GoMap.setAll ∅
        [(layout.pki.caCert.secretKey, ca.cert),
         (layout.pki.caKey.secretKey, ca.key),
         (layout.pki.apiServerCert.secretKey, apiServerCert.cert),
         (layout.pki.apiServerKey.secretKey, apiServerCert.key),
         (layout.pki.serviceAccountCert.secretKey, serviceAccountCert.cert),
         (layout.pki.serviceAccountKey.secretKey, serviceAccountCert.key),
         (layout.pki.planeTunnelKey.secretKey, planeTunnelServer.key),
         (layout.pki.planeTunnelCert.secretKey, planeTunnelServer.cert),
         (layout.pki.apiServerPlaneTunnelKey.secretKey, apiServerPlaneTunnelServer.key),
         (layout.pki.apiServerPlaneTunnelCert.secretKey, apiServerPlaneTunnelServer.cert),
         (layout.auth.adminConf.secretKey, adminConf),
         (layout.auth.controllerManagerConf.secretKey, controllerManagerConf),
         (layout.auth.schedulerConf.secretKey, schedulerConf)] }

/-- `GenerateClientKubeconfigAuthSecret`. The error of writing the kubeconfig is not returned:
the Secret then holds a nil entry. -/
def generateClientKubeconfigAuthSecret (ca : Certificate) (runtime : Runtime)
    (layout : ControlPlaneLayout) : Go Secret := do
  let adminCert ← Go.signCSR ca
    { cn := "kubernetes-client-admin", o := "system:masters", hostnames := [] }
  let adminConf :=
    (generateKubeconfig libs runtime.name ca.cert adminCert (apiServerURL runtime)).toOption.getD []
  return {
      metadata :=
        { name := clientKubeconfigName runtime.name
          ns := runtime.ns
          labels := heirLabels runtime.name }
      data := (∅ : GoMap Bytes).insert layout.auth.clientKubeconfig.secretKey adminConf }

end Heir.Runtime
