import Heir.Lib.Base64
import Heir.Lib.Url
import Heir.Token.Create
import Heir.Worker.NodeProfile

set_option autoImplicit false

/-! # The token command

`CreateBootstrapToken` reads the address of the API server from the worker profile, issues a bootstrap
token and prints its kubeconfig in base64: the join token that is handed to a worker.

What the local kubeconfig gives, and the ConfigMap that the API server answers with, are parameters.
-/

namespace Heir.Bootstrap

open Heir.ControlPlane Heir.Core Heir.Runtime Interact

/-! ## The command -/

/-- `fmt.Sprintf("https://%s:%d", host, port)`. -/
def endpointURL (e : ComponentEndpoint) : String :=
  "https://" ++ e.host ++ ":" ++ toString e.port.toInt

/-- `ReadAPIServerAddressFromNodeProfileConfigMap`, given the answer of the API server. -/
def readAPIServerAddressFromNodeProfileConfigMap (answer : Except GoError ConfigMap) :
    Except GoError String :=
  let wrkDefaults := newWorkerContextWithDefaults
  match answer with
  | .error e =>
      .error (e.wrap ("failed to get node profile configmap \"" ++
        wrkDefaults.workerProfileConfigMapName ++ "\""))
  | .ok cm =>
      match cm.data[wrkDefaults.controlPlaneEndpointNodeProfileConfigmapKey]? with
      | none => .error (errorf "node profile configmap does not contain api server external address")
      | some raw =>
          match Worker.unmarshalEndpoint raw with
          | .error e => .error (e.wrap "failed to unmarshal external address")
          | .ok nodeProfile => .ok (endpointURL nodeProfile.apiServer)

/-- `extractClusterInfo`: the server and the CA data of a context. -/
def extractClusterInfo (isPrint : Char → Bool) (raw : Except GoError KubeConfig)
    (contextName : String) : Except GoError (String × Bytes) :=
  let quoted := GoString.quote isPrint
  match raw with
  | .error e => .error (e.wrap "error to read kubeconfig")
  | .ok rawConfig =>
      let activeContext := if contextName ≠ "" then contextName else rawConfig.currentContext
      match rawConfig.contexts[activeContext]? with
      | none => .error (errorf ("context " ++ quoted activeContext ++ " not found in kubeconfig"))
      | some ctxEntry =>
          match rawConfig.clusters[ctxEntry.cluster]? with
          | none =>
              .error (errorf ("cluster " ++ quoted ctxEntry.cluster ++ " not found in kubeconfig"))
          | some cluster =>
              if cluster.server = "" then
                .error (errorf ("cluster " ++ quoted ctxEntry.cluster ++ " has no server URL"))
              else if cluster.certificateAuthorityData = [] then
                .error (errorf ("cluster " ++ quoted ctxEntry.cluster ++ " has no embedded CA data"))
              else .ok (cluster.server, cluster.certificateAuthorityData)

/-- The second half of `CreateBootstrapToken`: the join token for a given CA. -/
def joinToken (libs : Libs) (caData : Bytes) (nodeProfile : Except GoError ConfigMap)
    (expiry : Duration) : Go String := do
  match readAPIServerAddressFromNodeProfileConfigMap nodeProfile with
  | .error e => Go.fail (e.wrap "failed to read external address from node profile configmap")
  | .ok apiServerAddress =>
      let (_, bootstrapKubeconfig) ← issueBootstrapToken libs caData apiServerAddress expiry ∅
      return Base64.encode bootstrapKubeconfig

/-- What the local kubeconfig gives: its content, and a client for it. -/
structure ClientConfig where
  rawConfig : Except GoError KubeConfig
  restConfig : Except GoError Unit
  client : Except GoError Unit

def createBootstrapToken (libs : Libs) (isPrint : Char → Bool) (clientConfig : ClientConfig)
    (contextName : String) (nodeProfile : Except GoError ConfigMap) (expiry : Duration) :
    Go String := do
  let (_, caData) ← Go.ofExcept (extractClusterInfo isPrint clientConfig.rawConfig contextName)
  match clientConfig.restConfig with
  | .error e => Go.fail (e.wrap "failed to build rest config")
  | .ok _ =>
      match clientConfig.client with
      | .error e => Go.fail (e.wrap "failed to create kubernetes client")
      | .ok _ => joinToken libs caData nodeProfile expiry

theorem extractClusterInfo_caData {isPrint : Char → Bool} {raw : Except GoError KubeConfig}
    {contextName server : String} {caData : Bytes}
    (h : extractClusterInfo isPrint raw contextName = .ok (server, caData)) : caData ≠ [] := by
  unfold extractClusterInfo at h
  split at h
  · cases h
  · dsimp only at h
    split at h
    · cases h
    · split at h
      · cases h
      · split at h
        · cases h
        · split at h
          · cases h
          · next hca =>
              cases h
              exact hca

/-- With a usable kubeconfig, the command makes a join token for a CA that is not empty. -/
theorem createBootstrapToken_eq (libs : Libs) {isPrint : Char → Bool} {clientConfig : ClientConfig}
    {contextName server : String} {caData : Bytes}
    (hinfo : extractClusterInfo isPrint clientConfig.rawConfig contextName = .ok (server, caData))
    (hrest : clientConfig.restConfig = .ok ()) (hclient : clientConfig.client = .ok ())
    (nodeProfile : Except GoError ConfigMap) (expiry : Duration) :
    caData ≠ [] ∧ createBootstrapToken libs isPrint clientConfig contextName nodeProfile expiry =
      joinToken libs caData nodeProfile expiry := by
  refine ⟨extractClusterInfo_caData hinfo, ?_⟩
  rw [createBootstrapToken, hinfo, Go.ofExcept_ok_bind]
  simp only [hrest, hclient]

/-! ## Addresses of admitted hosts -/

/-- A character of a text is in one of its parts, or the separator. -/
theorem mem_splitOn (sep : Char) {c : Char} {l : List Char} (h : c ∈ l) :
    c = sep ∨ ∃ part ∈ l.splitOn sep, c ∈ part := by
  have hparts : ∀ parts : List (List Char), c ∈ [sep].intercalate parts →
      c = sep ∨ ∃ part ∈ parts, c ∈ part := by
    intro parts
    induction parts with
    | nil => intro hc; cases hc
    | cons part parts ih =>
        intro hc
        cases parts with
        | nil =>
            have hpart : c ∈ part := by simpa [List.intercalate] using hc
            exact Or.inr ⟨part, List.mem_cons_self, hpart⟩
        | cons part' parts =>
            have hc' : c ∈ part ∨ c = sep ∨ c ∈ [sep].intercalate (part' :: parts) := by
              simpa [List.intercalate] using hc
            rcases hc' with hc | hc | hc
            · exact Or.inr ⟨part, List.mem_cons_self, hc⟩
            · exact Or.inl hc
            · rcases ih hc with hsep | ⟨p, hp, hcp⟩
              · exact Or.inl hsep
              · exact Or.inr ⟨p, List.mem_cons_of_mem _ hp, hcp⟩
  have hl : [sep].intercalate (l.splitOn sep) = l := List.intercalate_splitOn sep
  exact hparts _ (hl.symm ▸ h)

theorem unreserved_of_hostPattern {host : String} (h : hostPattern host = true) :
    host.toList.all Url.unreserved = true := by
  refine List.all_eq_true.mpr fun c hc => ?_
  rcases mem_splitOn '.' hc with rfl | ⟨label, hlabel, hmem⟩
  · decide
  · have hl : hostLabel label = true := List.all_eq_true.mp h label hlabel
    simp only [hostLabel, Bool.and_eq_true] at hl
    have hchar := List.all_eq_true.mp hl.1.2 c hmem
    rw [Bool.or_eq_true] at hchar
    rcases hchar with halnum | hdash
    · simp [Url.unreserved, halnum]
    · simp [Url.unreserved, hdash]

theorem ne_empty_of_hostPattern {host : String} (h : hostPattern host = true) : host ≠ "" := by
  rintro rfl
  exact absurd h (by decide)

/-- The port of an admitted endpoint, as a number that is printed without a sign. -/
theorem exists_port {e : ComponentEndpoint} (h : e.admitted = true) :
    ∃ n : Nat, e.port.toInt = n ∧ n < 2 ^ 63 ∧
      endpointURL e = "https://" ++ e.host ++ ":" ++ toString n := by
  simp only [ComponentEndpoint.admitted, Bool.and_eq_true, decide_eq_true_eq] at h
  obtain ⟨⟨-, hlow⟩, hhigh⟩ := h
  refine ⟨e.port.toInt.toNat, ?_, ?_, ?_⟩
  · omega
  · omega
  · have hport : e.port.toInt = (e.port.toInt.toNat : Int) := by omega
    rw [endpointURL, hport]
    rfl

/-! ## Issuing -/

/-- The kubeconfig of a bootstrap token, given as text. -/
def bootstrapConfig (token : String) (caData : Bytes) (apiServerAddress : String) : KubeConfig where
  clusters := (∅ : GoMap KubeCluster).insert "bootstrap" ⟨apiServerAddress, caData⟩
  authInfos := (∅ : GoMap AuthInfo).insert "tls-bootstrap-token-user" { token := token }
  contexts := (∅ : GoMap KubeContext).insert "bootstrap" ⟨"bootstrap", "tls-bootstrap-token-user"⟩
  currentContext := "bootstrap"

/-- The call was not answered with an error. -/
def Served : (c : Call) → c.Answer → Prop
  | .rand _, x => ∃ b, x = .ok b
  | .createToken _, x => ∃ s, x = .ok s
  | _, _ => True

/-- The Secret of the token was created in the run. -/
def CreatedIn (token : Token) (calls : List (Called sig)) : Prop :=
  ∃ secret stored : Secret, ⟨.createToken secret, .ok stored⟩ ∈ calls ∧
    secret.metadata.name = bootstrapTokenName token.id ∧
    secret.data["token-id"]? = some (bytes token.id) ∧
    secret.data["token-secret"]? = some (bytes token.secret)

theorem newSecret_data (libs : Libs) (now : Instant) (t : Token) (expiry : Duration) :
    (newSecret libs now t expiry).data["token-id"]? = some (bytes t.id) ∧
      (newSecret libs now t expiry).data["token-secret"]? = some (bytes t.secret) := by
  have hnodup : ["token-id", "token-secret", "expiration", "usage-bootstrap-authentication",
    "usage-bootstrap-signing", "auth-extra-groups"].Nodup := by decide
  exact ⟨GoMap.getElem?_setAll_of_mem ∅ _ hnodup (by simp),
    GoMap.getElem?_setAll_of_mem ∅ _ hnodup (by simp)⟩

/-- A run in which no call fails ends with the kubeconfig of a token whose Secret was created. -/
theorem joinToken_issues {libs : Libs} {caData : Bytes} {nodeProfile : Except GoError ConfigMap}
    {expiry : Duration} {address : String}
    (haddress : readAPIServerAddressFromNodeProfileConfigMap nodeProfile = .ok address)
    (hwrite : ∀ t, ∃ raw, buildBootstrapKubeconfig libs t caData address = .ok raw)
    {W : Type} {srv : Server sig W} {w w' : W} {calls : List (Called sig)} {x : Except Fault String}
    (he : Exec srv (joinToken libs caData nodeProfile expiry).run w calls x w')
    (hserved : ∀ c ∈ calls, Served c.1 c.2) :
    ∃ token raw, buildBootstrapKubeconfig libs token caData address = .ok raw ∧
      x = .ok (Base64.encode raw) ∧ CreatedIn token calls := by
  rw [joinToken, haddress] at he
  obtain ⟨b₁, w₁, t₁, -, rfl, he₁⟩ := he.call_inv
  obtain ⟨b₁, rfl⟩ := hserved _ List.mem_cons_self
  obtain ⟨b₂, w₂, t₂, -, rfl, he₂⟩ := he₁.call_inv
  obtain ⟨b₂, rfl⟩ := hserved ⟨.rand 8, b₂⟩ (by simp)
  obtain ⟨now, w₃, t₃, -, rfl, he₃⟩ := he₂.call_inv
  obtain ⟨stored, w₄, t₄, -, rfl, he₄⟩ := he₃.call_inv
  obtain ⟨stored, rfl⟩ := hserved ⟨.createToken _, stored⟩ (by simp)
  obtain ⟨raw, hraw⟩ := hwrite ⟨hexEncode b₁, hexEncode b₂⟩
  simp only [hraw] at he₄
  obtain ⟨-, rfl, -⟩ := he₄.ret_inv
  have hdata := newSecret_data libs now ⟨hexEncode b₁, hexEncode b₂⟩ expiry
  exact ⟨_, raw, hraw, rfl, _, stored, .tail _ (.tail _ (.tail _ (.head _))), rfl, hdata.1, hdata.2⟩

end Heir.Bootstrap
