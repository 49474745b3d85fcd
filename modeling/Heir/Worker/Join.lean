import Heir.Token.Command
import Heir.Worker.Proxy.Manager

set_option autoImplicit false

/-! # Joining a worker

`SaveBootstrapKubeconfig` decodes a join token and stores its kubeconfig and the CA of its cluster;
`parseEndpointsFromBootstrapKubeconfig` reads the kubeconfig back and takes the endpoints of the API
server from it, with which the worker's proxy starts.

The main result goes across two machines: what the token command has put into a join token is what the
worker gets out of it (`join_token_round_trip`).
-/

namespace Heir.Worker.Join

open Heir.ControlPlane Heir.Core Heir.Runtime Heir.Bootstrap Interact
open Heir.Worker.Proxy (Endpoint)

/-! ## Calls and libraries -/

/-- Deterministic functions of other libraries. -/
structure Libs where
  /-- `clientcmd.Load`. -/
  loadKubeconfig : Bytes → Except GoError KubeConfig
  /-- `url.Parse`. -/
  parseURL : String → Except GoError Url.URL
  /-- `filepath.Dir`. -/
  dir : String → String
  /-- `strconv.IsPrint` outside ASCII. -/
  isPrint : Char → Bool

/-- The calls of the worker: its disk, and the iteration orders of Go maps. -/
inductive Call where
  | mkdirAll (path : String) (perm : Nat)
  | writeFile (path : String) (data : Bytes) (perm : Nat)
  | readFile (path : String)
  | ranges

abbrev Call.Answer : Call → Type
  | .mkdirAll _ _ => Except GoError Unit
  | .writeFile _ _ _ => Except GoError Unit
  | .readFile _ => Except GoError Bytes
  | .ranges => GoMap.RangeOrder KubeCluster

abbrev sig : Sig := ⟨Call, Call.Answer⟩

/-- A function of the worker. -/
abbrev Cmd (α : Type) : Type := GoProg sig α

/-- Make a call. -/
def perform (c : Call) : Cmd c.Answer := ExceptT.lift (Prog.perform (S := sig) c)

/-- Make a call whose error is wrapped. -/
def performOr {α : Type} (context : String) (p : Cmd (Except GoError α)) : Cmd α := do
  match ← p with
  | .error e => Go.fail (e.wrap context)
  | .ok a => return a

/-! ## The join token -/

/-- `CorruptInputError.Error`. -/
def corruptInput (place : Nat) : GoError :=
  errorf ("illegal base64 data at input byte " ++ toString place)

section Functions

variable (libs : Libs)

def saveBootstrapKubeconfig (b64Kubeconfig dst kubernetesPKICaCrt : String) : Cmd Unit := do
  match Base64.decode b64Kubeconfig with
  | .error place => Go.fail ((corruptInput place).wrap "failed to decode bootstrap kubeconfig")
  | .ok raw =>
      match libs.loadKubeconfig raw with
      | .error e => Go.fail (e.wrap "invalid bootstrap kubeconfig")
      | .ok cfg =>
          performOr "failed to create kubeconfig directory" (perform (.mkdirAll (libs.dir dst) 0o755))
          performOr "failed to write bootstrap kubeconfig" (perform (.writeFile dst raw 0o600))
          match cfg.contexts[cfg.currentContext]? with
          | none => Go.fail (errorf "bootstrap kubeconfig has no current context")
          | some ctx =>
              let caData := (cfg.clusters[ctx.cluster]?).elim [] KubeCluster.certificateAuthorityData
              if caData = [] then
                Go.fail (errorf ("bootstrap kubeconfig cluster " ++
                  GoString.quote libs.isPrint ctx.cluster ++ " has no CA data"))
              else
                performOr "failed to write CA certificate"
                  (perform (.writeFile kubernetesPKICaCrt caData 0o644))

/-- The port of a URL, 443 if there is none that can be read. -/
def portOf (u : Url.URL) : Int :=
  if u.port = "" then 443 else (GoString.atoi u.port).getD 443

/-- The loop of `parseEndpointsFromBootstrapKubeconfig`, with the hosts seen so far. -/
def endpointsOf : List String → List KubeCluster → List Endpoint
  | _, [] => []
  | seen, cluster :: clusters =>
      if cluster.server = "" then endpointsOf seen clusters
      else
        match libs.parseURL cluster.server with
        | .error _ => endpointsOf seen clusters
        | .ok u =>
            let host := u.hostname
            if host = "" ∨ host ∈ seen then endpointsOf seen clusters
            else ⟨host, portOf u⟩ :: endpointsOf (host :: seen) clusters

def loadFromFile (path : String) : Cmd (Except GoError KubeConfig) := do
  match ← perform (.readFile path) with
  | .error e => return .error e
  | .ok raw => return libs.loadKubeconfig raw

def parseEndpointsFromBootstrapKubeconfig (kubeconfigPath : String) : Cmd (List Endpoint) := do
  let cfg ← performOr "failed to load bootstrap kubeconfig" (loadFromFile libs kubeconfigPath)
  let order ← perform .ranges
  return endpointsOf libs [] ((order.visit cfg.clusters).map Prod.snd)

/-- The two functions one after the other, on the same kubeconfig file. -/
def useJoinToken (token dst kubernetesPKICaCrt : String) : Cmd (List Endpoint) := do
  saveBootstrapKubeconfig libs token dst kubernetesPKICaCrt
  parseEndpointsFromBootstrapKubeconfig libs dst

end Functions

/-! ## Endpoints -/

/-- The hosts of the endpoints are distinct, not empty, and none of them was seen before. -/
theorem endpointsOf_hosts (libs : Libs) (seen : List String) (clusters : List KubeCluster) :
    ((endpointsOf libs seen clusters).map Endpoint.host).Nodup ∧
      ∀ e ∈ endpointsOf libs seen clusters, e.host ≠ "" ∧ e.host ∉ seen := by
  -- induction over the clusters still to be visited; what was seen grows
  induction clusters generalizing seen with
  | nil => simp [endpointsOf]
  | cons cluster clusters ih =>
      rw [endpointsOf]
      split
      · exact ih seen
      · split
        · exact ih seen
        · next u _ =>
            dsimp only
            split
            · exact ih seen
            · next hnew =>
                obtain ⟨hnodup, hrest⟩ := ih (u.hostname :: seen)
                refine ⟨?_, ?_⟩
                · rw [List.map_cons, List.nodup_cons]
                  refine ⟨?_, hnodup⟩
                  intro hmem
                  obtain ⟨e, he, heq⟩ := List.mem_map.mp hmem
                  exact (hrest e he).2 (heq ▸ List.mem_cons_self)
                · intro e he
                  rcases List.mem_cons.mp he with rfl | he
                  · exact ⟨fun h => hnew (Or.inl h), fun h => hnew (Or.inr h)⟩
                  · exact ⟨(hrest e he).1, fun h => (hrest e he).2 (List.mem_cons_of_mem _ h)⟩

theorem endpointsOf_endpointURL {libs : Libs} (hurl : Url.Documented libs.parseURL)
    {e : ComponentEndpoint} (he : e.admitted = true) (caData : Bytes) :
    endpointsOf libs [] [⟨endpointURL e, caData⟩] = [⟨e.host, e.port.toInt⟩] := by
  obtain ⟨n, hn, hlt, haddress⟩ := exists_port he
  have hpattern : hostPattern e.host = true := by
    simp only [ComponentEndpoint.admitted, Bool.and_eq_true] at he
    exact he.1.1
  have hhost := unreserved_of_hostPattern hpattern
  have hempty := ne_empty_of_hostPattern hpattern
  have hdigits : (toString n).toList.all Char.isDigit = true := by
    rw [GoString.toList_toString]
    exact GoString.all_isDigit_toDigits n
  have hparse := hurl e.host (toString n) hempty hhost hdigits
  have hname := Url.hostname_join hhost hdigits
  have hport := Url.port_join hhost hdigits
  have hportne : toString n ≠ "" := by
    intro h
    have hnil := congrArg String.toList h
    rw [GoString.toList_toString] at hnil
    exact Nat.toDigits_ne_nil hnil
  have hserver : "https://" ++ e.host ++ ":" ++ toString n ≠ "" := by
    intro h
    have hlen := congrArg String.length h
    simp [String.length_append] at hlen
  rw [endpointsOf, haddress, if_neg hserver, hparse]
  dsimp only
  rw [hname, if_neg (by simp [hempty]), portOf, hport, if_neg hportne, GoString.atoi_toString hlt,
    Option.getD_some, ← hn, endpointsOf]

/-! ## A disk -/

abbrev Files : Type := String → Option Bytes

def writeTo (path : String) (data : Bytes) (files : Files) : Files :=
  fun p => if p = path then some data else files p

/-- A disk that does what it is asked for. Directories and permissions are not kept. -/
def disk (order : GoMap.RangeOrder KubeCluster) : (c : Call) → Files → c.Answer × Files
  | .mkdirAll _ _, files => (.ok (), files)
  | .writeFile path data _, files => (.ok (), writeTo path data files)
  | .readFile path, files =>
      match files path with
      | some data => (.ok data, files)
      | none => (.error (errorf ("open " ++ path ++ ": no such file or directory")), files)
  | .ranges, files => (order, files)

/-- The result of a function and the files it leaves. -/
def runOn {α : Type} (order : GoMap.RangeOrder KubeCluster) (p : Cmd α) (files : Files) :
    Except Fault α × Files :=
  (p.run.eval (S := sig) (disk order) files).2

section Disk

variable {libs : Libs} (order : GoMap.RangeOrder KubeCluster)

theorem runOn_bind {α β : Type} {p : Cmd α} {a : α} {files files' : Files}
    (h : runOn order p files = (.ok a, files')) (f : α → Cmd β) :
    runOn order (p >>= f) files = runOn order (f a) files' := by
  rw [runOn, ExceptT.run_bind, Prog.eval_bind]
  rw [runOn] at h
  simp only [h]
  rfl

theorem runOn_perform (c : Call) (files : Files) :
    runOn order (perform c) files = (.ok (disk order c files).1, (disk order c files).2) := rfl

theorem runOn_performOr {α : Type} {context : String} {p : Cmd (Except GoError α)} {a : α}
    {files files' : Files} (h : runOn order p files = (.ok (.ok a), files')) :
    runOn order (performOr context p) files = (.ok a, files') := by
  rw [performOr, runOn_bind order h]
  rfl

theorem saveBootstrapKubeconfig_saves {raw caData : Bytes} {cfg : KubeConfig} {ctx : KubeContext}
    {cluster : KubeCluster} (hload : libs.loadKubeconfig raw = .ok cfg)
    (hctx : cfg.contexts[cfg.currentContext]? = some ctx)
    (hcluster : cfg.clusters[ctx.cluster]? = some cluster)
    (hca : cluster.certificateAuthorityData = caData) (hne : caData ≠ [])
    (dst kubernetesPKICaCrt : String) (files : Files) :
    runOn order (saveBootstrapKubeconfig libs (Base64.encode raw) dst kubernetesPKICaCrt) files =
      (.ok (), writeTo kubernetesPKICaCrt caData (writeTo dst raw files)) := by
  have hdata : (cfg.clusters[ctx.cluster]?).elim [] KubeCluster.certificateAuthorityData = caData := by
    rw [hcluster]
    exact hca
  simp only [saveBootstrapKubeconfig, Base64.decode_encode, hload, hctx]
  rw [hdata, if_neg hne]
  rfl

theorem parseEndpointsFromBootstrapKubeconfig_reads {raw : Bytes} {cfg : KubeConfig}
    (hload : libs.loadKubeconfig raw = .ok cfg) {path : String} {files : Files}
    (hfile : files path = some raw) :
    runOn order (parseEndpointsFromBootstrapKubeconfig libs path) files =
      (.ok (endpointsOf libs [] ((order.visit cfg.clusters).map Prod.snd)), files) := by
  have hread : disk order (.readFile path) files = (.ok raw, files) := by
    simp only [disk, hfile]
  have hfromfile : runOn order (loadFromFile libs path) files = (.ok (.ok cfg), files) := by
    have hperform : runOn order (perform (.readFile path)) files = (.ok (.ok raw), files) := by
      rw [runOn_perform, hread]
    rw [loadFromFile, runOn_bind order hperform, ← hload]
    rfl
  rw [parseEndpointsFromBootstrapKubeconfig, runOn_bind order (runOn_performOr order hfromfile)]
  rfl

end Disk

/-! ## The round trip -/

/-- `clientcmd.Load` reads what `clientcmd.Write` has written. -/
def RoundTrips (write : KubeConfig → Except GoError Bytes)
    (load : Bytes → Except GoError KubeConfig) (cfg : KubeConfig) : Prop :=
  ∃ raw, write cfg = .ok raw ∧ load raw = .ok cfg

/-- The user of the current context has this bearer token. -/
def Authenticates (cfg : KubeConfig) (token : String) : Prop :=
  ∃ ctx user, cfg.contexts[cfg.currentContext]? = some ctx ∧
    cfg.authInfos[ctx.authInfo]? = some user ∧ user.token = token

/-- What the worker has after it has used the join token: the CA in its file, the endpoint of the API
server, and a kubeconfig with the token. -/
structure Joined (libs : Libs) (caData : Bytes) (e : ComponentEndpoint) (token : Token)
    (dst kubernetesPKICaCrt : String) (r : Except Fault (List Endpoint) × Files) : Prop where
  endpoints : r.1 = .ok [⟨e.host, e.port.toInt⟩]
  ca : r.2 kubernetesPKICaCrt = some caData
  kubeconfig : ∃ raw cfg, r.2 dst = some raw ∧ libs.loadKubeconfig raw = .ok cfg ∧
    Authenticates cfg token.text

section RoundTrip

variable {tokenLibs : Bootstrap.Libs} {libs : Libs}

theorem useJoinToken_joined (hurl : Url.Documented libs.parseURL) {e : ComponentEndpoint}
    (he : e.admitted = true) {caData : Bytes} (hca : caData ≠ []) {token : Token} {raw : Bytes}
    (hload : libs.loadKubeconfig raw = .ok (bootstrapConfig token.text caData (endpointURL e)))
    {dst kubernetesPKICaCrt : String} (hne : dst ≠ kubernetesPKICaCrt)
    (order : GoMap.RangeOrder KubeCluster) (files : Files) :
    Joined libs caData e token dst kubernetesPKICaCrt
      (runOn order (useJoinToken libs (Base64.encode raw) dst kubernetesPKICaCrt) files) := by
  have hctx : (bootstrapConfig token.text caData (endpointURL e)).contexts["bootstrap"]? =
      some ⟨"bootstrap", "tls-bootstrap-token-user"⟩ := Std.ExtTreeMap.getElem?_insert_self
  have hcluster : (bootstrapConfig token.text caData (endpointURL e)).clusters["bootstrap"]? =
      some ⟨endpointURL e, caData⟩ := Std.ExtTreeMap.getElem?_insert_self
  have hsave := saveBootstrapKubeconfig_saves order hload hctx hcluster rfl hca dst
    kubernetesPKICaCrt files
  have hfile : writeTo kubernetesPKICaCrt caData (writeTo dst raw files) dst = some raw := by
    rw [writeTo, if_neg hne, writeTo, if_pos rfl]
  have hparse := parseEndpointsFromBootstrapKubeconfig_reads order hload hfile
  rw [useJoinToken, runOn_bind order hsave, hparse, bootstrapConfig, order.visit_singleton]
  constructor
  · exact congrArg Except.ok (endpointsOf_endpointURL hurl he caData)
  · exact if_pos rfl
  · exact ⟨raw, _, hfile, hload, _, _, hctx, Std.ExtTreeMap.getElem?_insert_self, rfl⟩

/-- **The join token round trip.** Let the worker profile hold an admitted endpoint of the API server,
and let a join token be made from it for a CA that is not empty, with no call answered by an error.
Then the token is there, its Secret was created, and a worker that uses the join token gets exactly the
CA and the endpoint out of it, and a kubeconfig that authenticates with the token of the Secret. -/
theorem join_token_round_trip {e : ControlPlaneExternalEndpointSpec} {caData : Bytes}
    (hkube : ∀ token : Token, RoundTrips tokenLibs.writeKubeconfig libs.loadKubeconfig
      (bootstrapConfig token.text caData (endpointURL e.apiServer)))
    (hurl : Url.Documented libs.parseURL) {nodeProfile : ConfigMap} {text : String}
    (hprofile : nodeProfile.data[
      newWorkerContextWithDefaults.controlPlaneEndpointNodeProfileConfigmapKey]? = some text)
    (htext : unmarshalEndpoint text = .ok e) (he : e.apiServer.admitted = true) (hca : caData ≠ [])
    {expiry : Duration} {W : Type} {srv : Server Bootstrap.sig W} {w w' : W}
    {calls : List (Called Bootstrap.sig)} {x : Except Fault String}
    (hissue : Exec srv (joinToken tokenLibs caData (.ok nodeProfile) expiry).run w calls x w')
    (hserved : ∀ c ∈ calls, Served c.1 c.2) :
    ∃ token joined, x = .ok joined ∧ CreatedIn token calls ∧
      ∀ dst kubernetesPKICaCrt order files, dst ≠ kubernetesPKICaCrt →
        Joined libs caData e.apiServer token dst kubernetesPKICaCrt
          (runOn order (useJoinToken libs joined dst kubernetesPKICaCrt) files) := by
  have haddress : readAPIServerAddressFromNodeProfileConfigMap (.ok nodeProfile) =
      .ok (endpointURL e.apiServer) := by
    simp only [readAPIServerAddressFromNodeProfileConfigMap, hprofile, htext]
  have hwrite : ∀ t, ∃ raw,
      buildBootstrapKubeconfig tokenLibs t caData (endpointURL e.apiServer) = .ok raw :=
    fun t => (hkube t).imp fun _ h => h.1
  obtain ⟨token, raw, hraw, hx, hcreated⟩ := joinToken_issues haddress hwrite hissue hserved
  obtain ⟨raw', hraw', hload⟩ := hkube token
  obtain rfl : raw' = raw := Except.ok.inj (hraw'.symm.trans hraw)
  refine ⟨token, _, hx, hcreated, fun dst kubernetesPKICaCrt order files hne => ?_⟩
  exact useJoinToken_joined hurl he hca hload hne order files

end RoundTrip

/-! ## A worker joins -/

def sampleEndpoint : ControlPlaneExternalEndpointSpec :=
  ⟨⟨"cp.example.com", 6443⟩, ⟨"tunnel.example.com", 9445⟩⟩

/-- Libraries of the token command that write only the token. -/
def sampleTokenLibs : Bootstrap.Libs where
  isPrint := fun _ => true
  sha256 := fun _ => ""
  writeKubeconfig := fun c => .ok (bytes (c.authInfos.getD "tls-bootstrap-token-user" {}).token)
  rfc3339 := fun t => toString t
  rfc3339Micro := fun t => toString t

/-- Libraries of the worker that know the rest of the kubeconfig. -/
def sampleLibs : Libs where
  loadKubeconfig := fun raw =>
    match String.fromUTF8? ⟨raw.toArray⟩ with
    | some token => .ok (bootstrapConfig token [1] (endpointURL sampleEndpoint.apiServer))
    | none => .error (errorf "invalid configuration")
  parseURL := fun s =>
    if GoString.startsWith s "https://" then .ok ⟨GoString.trimStart s "https://"⟩
    else .error (errorf "unsupported scheme")
  dir := fun _ => "/etc/heir/kubelet"
  isPrint := fun _ => true

theorem sampleLibs_roundTrips (token : Token) :
    RoundTrips sampleTokenLibs.writeKubeconfig sampleLibs.loadKubeconfig
      (bootstrapConfig token.text [1] (endpointURL sampleEndpoint.apiServer)) := by
  have hread : String.fromUTF8? ⟨(bytes token.text).toArray⟩ = some token.text :=
    dif_pos token.text.isValidUTF8
  refine ⟨bytes token.text, ?_, ?_⟩
  · simp [sampleTokenLibs, bootstrapConfig]
  · simp only [sampleLibs, hread]

theorem sampleLibs_documented : Url.Documented sampleLibs.parseURL := by
  intro host port _ _ _
  have happend : "https://" ++ host ++ ":" ++ port = "https://" ++ (host ++ ":" ++ port) := by
    simp only [String.append_assoc]
  have hstart := (GoString.startsWith_iff ("https://" ++ (host ++ ":" ++ port)) "https://").mpr
    ⟨_, rfl⟩
  rw [happend]
  refine (if_pos hstart).trans ?_
  rw [GoString.trimStart_append]

/-- The worker profile of the sample endpoint. -/
def sampleProfile : ConfigMap where
  metadata := { name := "worker-profile", ns := namespaceSystem }
  data := (∅ : GoMap String).insert "control.plane.endpoint"
    (literalBlock (Json.marshal (endpointJson sampleEndpoint)))

/-- A server with a fixed source of random bytes that creates every Secret. -/
def sampleAnswer : (c : Bootstrap.Call) → c.Answer
  | .rand n => .ok (List.replicate n 7)
  | .now => 0
  | .createToken s => .ok s
  | .deleteToken _ => .ok ()
  | .getJoinToken key => .error (errorf key.name)
  | .updateJoinToken obj => .ok obj
  | .updateJoinTokenStatus obj => .ok obj
  | .getSecret name => .error (errorf name)
  | .createSecret s => .ok s
  | .updateSecret s => .ok s
  | .expired => ()

def sampleServer : Server Bootstrap.sig Unit := fun op w x w' => x = sampleAnswer op ∧ w' = w

/-- A join token for the sample endpoint is used on a worker without files. -/
theorem sample_token_joined :
    ∃ calls joined token,
      Exec sampleServer (joinToken sampleTokenLibs [1] (.ok sampleProfile) ⟨0⟩).run () calls
        (.ok joined) () ∧
      CreatedIn token calls ∧
      Joined sampleLibs [1] sampleEndpoint.apiServer token "bootstrap-kubeconfig.conf" "ca.crt"
        (runOn default (useJoinToken sampleLibs joined "bootstrap-kubeconfig.conf" "ca.crt")
          (fun _ => none)) := by
  have hprofile : sampleProfile.data["control.plane.endpoint"]? =
      some (literalBlock (Json.marshal (endpointJson sampleEndpoint))) :=
    Std.ExtTreeMap.getElem?_insert_self
  have htext := unmarshalEndpoint_literalBlock sampleEndpoint
  have haddress : readAPIServerAddressFromNodeProfileConfigMap (.ok sampleProfile) =
      .ok (endpointURL sampleEndpoint.apiServer) := by
    simp only [readAPIServerAddressFromNodeProfileConfigMap, newWorkerContextWithDefaults, hprofile,
      htext]
  have hissue : ∃ calls x, Exec sampleServer
      (joinToken sampleTokenLibs [1] (.ok sampleProfile) ⟨0⟩).run () calls x () ∧
        ∀ c ∈ calls, Served c.1 c.2 := by
    rw [joinToken, haddress]
    refine ⟨_, _, .call ⟨rfl, rfl⟩ (.call ⟨rfl, rfl⟩ (.call ⟨rfl, rfl⟩ (.call ⟨rfl, rfl⟩ (.ret _ _)))), ?_⟩
    simp [Served, sampleAnswer]
  obtain ⟨calls, x, hexec, hserved⟩ := hissue
  obtain ⟨token, joined, rfl, hcreated, hjoined⟩ := join_token_round_trip sampleLibs_roundTrips
    sampleLibs_documented hprofile htext (by decide) (by decide) hexec hserved
  exact ⟨calls, joined, token, hexec, hcreated, hjoined _ _ _ _ (by decide)⟩

end Heir.Worker.Join
