import Heir.Runtime.Component.NodeProfile

set_option autoImplicit false

/-! # Reading the worker profile

`ReadWorkerNodeProfile` fetches the ConfigMap that `CreateNodeProfileManifest` rendered and
decodes it: two of its four entries are taken as text, the kubelet arguments and the endpoint of
the control plane are decoded with `encoding/json`.

The renderer wrote the kubelet arguments as YAML. The only map whose YAML text is also JSON is the
empty one, so a worker reads its profile back exactly when no kubelet argument is set
(`round_trips_iff`).
-/

namespace Heir.Worker

open Heir.ControlPlane Heir.Runtime

structure NodeProfile where
  kubeletConfiguration : String
  kubeletExtraArgs : GoMap String
  controlPlaneExternalEndpoint : ControlPlaneExternalEndpointSpec
  cniProvider : String

/-! ## Decoding with `encoding/json` -/

def typeError : GoError := errorf "json: cannot unmarshal value into Go value"

/-- `json.Unmarshal` of a text that is not a JSON document. -/
def syntaxError : GoError := errorf "invalid character in JSON text"

/-- The case folding of member names: besides the ASCII letters, U+017F and U+212A fold. -/
def foldChar (c : Char) : Char :=
  if c.toNat = 0x17F then 's' else if c.toNat = 0x212A then 'k' else c.toLower

/-- A member is decoded into the field of that name, letter case ignored. -/
def fieldMatches (field key : String) : Bool :=
  field.toList.map foldChar == key.toList.map foldChar

/-- One member of an object, decoded into a `map[string]string`. -/
def decodeEntry (m : GoMap String) : String × Json → Except GoError (GoMap String)
  | (k, .str s) => .ok (m.insert k s)
  | (k, .null) => .ok (m.insert k "")
  | _ => .error typeError

/-- `json.Unmarshal` into a `map[string]string` that is empty. -/
def unmarshalStringMap (text : String) : Except GoError (GoMap String) :=
  match Json.unmarshal text with
  | none => .error syntaxError
  | some (.obj ms) => ms.foldlM decodeEntry ∅
  | some .null => .ok ∅
  | some _ => .error typeError

/-- A number decoded into an `int32`. -/
def decodeInt32 (i : Int) : Except GoError Int32 :=
  if -2147483648 ≤ i ∧ i ≤ 2147483647 then .ok (Int32.ofInt i) else .error typeError

def decodeHost (e : ComponentEndpoint) : Json → Except GoError ComponentEndpoint
  | .str s => .ok { e with host := s }
  | .null => .ok e
  | _ => .error typeError

def decodePort (e : ComponentEndpoint) : Json → Except GoError ComponentEndpoint
  | .int i => (decodeInt32 i).map (fun p => { e with port := p })
  | .null => .ok e
  | _ => .error typeError

/-- A value decoded into a `ComponentEndpoint`: its members one after the other. -/
def decodeComponent (e : ComponentEndpoint) : Json → Except GoError ComponentEndpoint
  | .obj ms =>
      ms.foldlM (fun e m =>
        if fieldMatches "host" m.1 then decodeHost e m.2
        else if fieldMatches "port" m.1 then decodePort e m.2
        else .ok e) e
  | .null => .ok e
  | _ => .error typeError

/-- A value decoded into a `ControlPlaneExternalEndpointSpec`. -/
def decodeEndpoint (e : ControlPlaneExternalEndpointSpec) :
    Json → Except GoError ControlPlaneExternalEndpointSpec
  | .obj ms =>
      ms.foldlM (fun e m =>
        if fieldMatches "apiServer" m.1 then
          (decodeComponent e.apiServer m.2).map (fun c => { e with apiServer := c })
        else if fieldMatches "planeTunnel" m.1 then
          (decodeComponent e.planeTunnel m.2).map (fun c => { e with planeTunnel := c })
        else .ok e) e
  | .null => .ok e
  | _ => .error typeError

/-- The zero value of the endpoint. -/
def zeroEndpoint : ControlPlaneExternalEndpointSpec := ⟨⟨"", 0⟩, ⟨"", 0⟩⟩

/-- `json.Unmarshal` into a zero `ControlPlaneExternalEndpointSpec`. -/
def unmarshalEndpoint (text : String) : Except GoError ControlPlaneExternalEndpointSpec :=
  match Json.unmarshal text with
  | none => .error syntaxError
  | some v => decodeEndpoint zeroEndpoint v

/-! ## Reading the ConfigMap -/

def missingKey (wrkCtx : WorkerContext) (key : String) : GoError :=
  errorf ("worker profile configmap \"" ++ wrkCtx.workerProfileConfigMapName ++ "\" has no \"" ++
    key ++ "\" key")

/-- `cm.Data[key]`, an error when the key is missing. -/
def lookupKey (wrkCtx : WorkerContext) (data : String → Option String) (key : String) :
    Except GoError String :=
  match data key with
  | some s => .ok s
  | none => .error (missingKey wrkCtx key)

/-- The part of `ReadWorkerNodeProfile` that decodes the fetched ConfigMap. -/
def decodeNodeProfile (wrkCtx : WorkerContext) (data : String → Option String) :
    Except GoError NodeProfile := do
  let kubeletConfig ← lookupKey wrkCtx data wrkCtx.kubeletConfigurationNodeProfileConfigmapKey
  let kubeletExtraArgs ← lookupKey wrkCtx data wrkCtx.kubeletExtraArgsNodeProfileConfigmapKey
  let endpointInfo ← lookupKey wrkCtx data wrkCtx.controlPlaneEndpointNodeProfileConfigmapKey
  let cniProvider ← lookupKey wrkCtx data wrkCtx.cniEnableProviderNodeProfileConfigmapKey
  match unmarshalStringMap kubeletExtraArgs with
  | .error e => .error (e.quote "failed to unmarshal kubelet extra args content")
  | .ok extraArgs =>
      match unmarshalEndpoint endpointInfo with
      | .error e => .error (e.quote "failed to unmarshal API server external address content")
      | .ok endpoint => .ok ⟨kubeletConfig, extraArgs, endpoint, cniProvider⟩

/-- The data of a ConfigMap manifest: its members that are strings. -/
def stringData (data : List (String × Json)) (key : String) : Option String :=
  match Json.member key data with
  | some (.str s) => some s
  | _ => none

/-- The worker reads a manifest that was applied to its cluster. -/
def readManifest (yaml : Yaml) (wrkCtx : WorkerContext) (manifest : String) :
    GoResult NodeProfile := do
  let cm ← liftError (yaml.unmarshal manifest)
  let data ← documentData cm
  liftError (decodeNodeProfile wrkCtx (stringData data))

/-! ## The endpoint is read back -/

@[simp] theorem decodeInt32_toInt (p : Int32) : decodeInt32 p.toInt = .ok p := by
  have h₁ := p.le_toInt
  have h₂ := p.toInt_lt
  rw [decodeInt32, if_pos (by omega), Int32.ofInt_toInt]

theorem decodeComponent_json (e z : ComponentEndpoint) :
    decodeComponent z (componentEndpointJson e) = .ok e := by
  have h₁ : fieldMatches "host" "host" = true := by decide
  have h₂ : fieldMatches "host" "port" = false := by decide
  have h₃ : fieldMatches "port" "port" = true := by decide
  simp only [componentEndpointJson, decodeComponent, List.foldlM_cons, List.foldlM_nil, h₁, h₂, h₃,
    if_true, Bool.false_eq_true, if_false, jsonInt32, decodeHost, decodePort, decodeInt32_toInt]
  rfl

theorem unmarshalEndpoint_marshal (e : ControlPlaneExternalEndpointSpec) (ws : String)
    (hws : ∀ c ∈ ws.toList, Json.isWs c = true) :
    unmarshalEndpoint (Json.marshal (endpointJson e) ++ ws) = .ok e := by
  have hplain : (endpointJson e).Plain := by
    simp [endpointJson, componentEndpointJson, jsonInt32, Json.Plain, Json.PlainMembers]
  have h₁ : fieldMatches "apiServer" "apiServer" = true := by decide
  have h₂ : fieldMatches "apiServer" "planeTunnel" = false := by decide
  have h₃ : fieldMatches "planeTunnel" "planeTunnel" = true := by decide
  rw [unmarshalEndpoint, Json.unmarshal_marshal _ hplain ws hws]
  simp only [endpointJson, decodeEndpoint, List.foldlM_cons, List.foldlM_nil, h₁, h₂, h₃, if_true,
    Bool.false_eq_true, if_false, decodeComponent_json]
  rfl

/-! ## What the YAML library is assumed to do -/

/-- A text without the newlines at its end. -/
def trimNewlines : List Char → List Char
  | [] => []
  | c :: s =>
      match trimNewlines s with
      | [] => if c = '\n' then [] else [c]
      | d :: s' => c :: d :: s'

/-- The value of a literal block scalar with the given text: one newline at its end. -/
def literalBlock (text : String) : String := String.ofList (trimNewlines text.toList ++ ['\n'])

theorem trimNewlines_append (s : List Char) {c : Char} (h : c ≠ '\n') :
    trimNewlines (s ++ [c]) = s ++ [c] := by
  induction s with
  | nil => simp [trimNewlines, h]
  | cons d s ih =>
      rw [List.cons_append, trimNewlines, ih]
      cases s <;> rfl

theorem trimNewlines_cons {c : Char} (h : c ≠ '\n') (s : List Char) :
    ∃ t, trimNewlines (c :: s) = c :: t := by
  rw [trimNewlines]
  cases trimNewlines s with
  | nil => exact ⟨[], by simp [h]⟩
  | cons d t => exact ⟨d :: t, rfl⟩

/-- Written and parsed again, the document `cm` has the data `data`. -/
def ReadsBack (yaml : Yaml) (cm : GoMap Json) (data : List (String × Json)) : Prop :=
  ∃ text cm' data', yaml.marshal cm = .ok text ∧ yaml.unmarshal text = .ok cm' ∧
    cm'["data"]? = some (.obj data') ∧ ∀ k, Json.member k data' = Json.member k data

/-- The context of the control plane and of the worker. -/
def wrkCtx : WorkerContext := newWorkerContextWithDefaults

/-- **Faithful YAML**, as far as the profile of one Runtime needs it. The empty map is written as
an empty flow mapping, every other map as a block mapping, whose text starts with its first key (a
plain key starts with no brace and no blank, a quoted one with its quote); the template is parsed
to the texts it was filled with, block scalars ending with one newline; and a document that is
written is read back. -/
structure FaithfulOn (yaml : Yaml) (runtime : Runtime) : Prop where
  marshalMap_empty : yaml.marshalMap ∅ = .ok "\x7b\x7d\n"
  marshalMap_block : runtime.spec.cluster.kubelet.extraArgs ≠ ∅ →
    ∃ c t, yaml.marshalMap runtime.spec.cluster.kubelet.extraArgs = .ok (String.ofList (c :: t)) ∧
      c ≠ '{' ∧ Json.isWs c = false
  template : ∀ cfg, getNodeProfileConfig yaml wrkCtx runtime = .ok cfg →
    ∃ cm data, yaml.unmarshal (renderNodeProfile cfg) = .ok cm ∧
      cm["data"]? = some (.obj data) ∧
      Json.member "cni.provider" data = some (.str cfg.cniProvider) ∧
      Json.member "control.plane.endpoint" data =
        some (.str (literalBlock cfg.controlPlaneEndpoint)) ∧
      Json.member "kubelet.configuration" data =
        some (.str (unlines (kubeletConfiguration cfg))) ∧
      Json.member "kubelet.extraArgs" data = some (.str (literalBlock cfg.kubeletExtraArgs)) ∧
      ReadsBack yaml cm data ∧
      ∀ s, ReadsBack yaml
        (cm.insert "data" (.obj (Json.setMember "kubelet.configuration" (.str s) data)))
        (Json.setMember "kubelet.configuration" (.str s) data)

/-! ## The round trip -/

/-- The worker reads from every rendered manifest what the Runtime specifies. -/
def RoundTrips (yaml : Yaml) (runtime : Runtime) : Prop :=
  ∀ manifest, createNodeProfileManifest yaml wrkCtx runtime = .ok manifest →
    ∃ profile, readManifest yaml wrkCtx manifest = .ok profile ∧
      profile.kubeletExtraArgs = runtime.spec.cluster.kubelet.extraArgs ∧
      profile.controlPlaneExternalEndpoint = runtime.spec.cluster.controlPlaneExternalEndpoint ∧
      profile.cniProvider = cniProvider runtime

/-- The Runtime has a kubelet patch that cannot be applied, so no manifest is rendered. -/
def PatchRejected (yaml : Yaml) (runtime : Runtime) : Prop :=
  runtime.spec.cluster.kubelet.configPatches ≠ "" ∧
    ∃ cfg e, getNodeProfileConfig yaml wrkCtx runtime = .ok cfg ∧
      configPatch yaml (unlines (kubeletConfiguration cfg))
        runtime.spec.cluster.kubelet.configPatches = .error e

section RoundTrip

variable {yaml : Yaml} {runtime : Runtime}

/-- What the profile configuration holds, once the kubelet arguments have been written. -/
theorem getNodeProfileConfig_ok {text : String}
    (h : yaml.marshalMap runtime.spec.cluster.kubelet.extraArgs = .ok text) :
    ∃ cfg, getNodeProfileConfig yaml wrkCtx runtime = .ok cfg ∧ cfg.kubeletExtraArgs = text ∧
      cfg.controlPlaneEndpoint =
        Json.marshal (endpointJson runtime.spec.cluster.controlPlaneExternalEndpoint) ∧
      cfg.cniProvider = cniProvider runtime := by
  simp only [getNodeProfileConfig, h]
  exact ⟨_, rfl, rfl, rfl, rfl⟩

/-- The data a worker finds in a rendered manifest. -/
structure Rendered (yaml : Yaml) (cfg : NodeProfileConfig) (manifest : String) : Prop where
  read : ∃ cm data, yaml.unmarshal manifest = .ok cm ∧ cm["data"]? = some (.obj data) ∧
    Json.member "cni.provider" data = some (.str cfg.cniProvider) ∧
    Json.member "control.plane.endpoint" data =
      some (.str (literalBlock cfg.controlPlaneEndpoint)) ∧
    (∃ s, Json.member "kubelet.configuration" data = some (.str s)) ∧
    Json.member "kubelet.extraArgs" data = some (.str (literalBlock cfg.kubeletExtraArgs))

/-- Faithful YAML either rejects the patch or renders a manifest with the configured data. -/
theorem FaithfulOn.manifest (hf : FaithfulOn yaml runtime) {cfg : NodeProfileConfig}
    (hcfg : getNodeProfileConfig yaml wrkCtx runtime = .ok cfg) :
    (PatchRejected yaml runtime ∧ ∃ f, createNodeProfileManifest yaml wrkCtx runtime = .error f) ∨
      ∃ manifest, createNodeProfileManifest yaml wrkCtx runtime = .ok manifest ∧
        Rendered yaml cfg manifest := by
  obtain ⟨cm, data, hcm, hdata, hcni, hend, hkub, hargs, hback, hpatched⟩ := hf.template cfg hcfg
  have heq := createNodeProfileManifest_eq hcfg hcm hdata hkub
  by_cases hp : runtime.spec.cluster.kubelet.configPatches = ""
  · obtain ⟨text, cm', data', hm, hu, hd, hmem⟩ := hback
    refine Or.inr ⟨text, by rw [heq, if_pos hp, hm, liftError_ok], ⟨cm', data', hu, hd, ?_⟩⟩
    simp only [hmem]
    exact ⟨hcni, hend, ⟨_, hkub⟩, hargs⟩
  · cases hc : configPatch yaml (unlines (kubeletConfiguration cfg))
        runtime.spec.cluster.kubelet.configPatches with
    | error e =>
        exact Or.inl ⟨⟨hp, cfg, e, hcfg, hc⟩, _, by rw [heq, if_neg hp, hc]⟩
    | ok patched =>
        obtain ⟨text, cm', data', hm, hu, hd, hmem⟩ := hpatched patched
        refine Or.inr ⟨text, ?_, ⟨cm', data', hu, hd, ?_⟩⟩
        · rw [heq, if_neg hp, hc]
          exact congrArg liftError hm
        -- the patch only touches the kubelet configuration
        · simp only [hmem, Json.member_setMember]
          exact ⟨hcni, hend, ⟨patched, rfl⟩, hargs⟩

theorem isWs_newline : ∀ c ∈ "\n".toList, Json.isWs c = true :=
  List.all_eq_true.mp (by decide)

theorem unmarshalEndpoint_literalBlock (e : ControlPlaneExternalEndpointSpec) :
    unmarshalEndpoint (literalBlock (Json.marshal (endpointJson e))) = .ok e := by
  have hend : literalBlock (Json.marshal (endpointJson e)) =
      Json.marshal (endpointJson e) ++ "\n" := by
    apply String.toList_injective
    simp only [literalBlock, Json.marshal, endpointJson, Json.encode, String.toList_ofList,
      String.toList_append, ← List.cons_append]
    rw [trimNewlines_append _ (by decide)]
    rfl
  rw [hend, unmarshalEndpoint_marshal e "\n" isWs_newline]

/-- Decoding a rendered manifest comes down to decoding the kubelet arguments. -/
theorem Rendered.readManifest {cfg : NodeProfileConfig} {manifest : String}
    (h : Rendered yaml cfg manifest) {e : ControlPlaneExternalEndpointSpec}
    (he : cfg.controlPlaneEndpoint = Json.marshal (endpointJson e)) :
    (∀ f, unmarshalStringMap (literalBlock cfg.kubeletExtraArgs) = .error f →
      ∃ g, readManifest yaml wrkCtx manifest = .error g) ∧
    ∀ args, unmarshalStringMap (literalBlock cfg.kubeletExtraArgs) = .ok args →
      ∃ kubelet, readManifest yaml wrkCtx manifest = .ok ⟨kubelet, args, e, cfg.cniProvider⟩ := by
  obtain ⟨cm, data, hu, hd, hcni, hend, ⟨kub, hkub⟩, hargs⟩ := h.read
  have hkeys : wrkCtx.kubeletConfigurationNodeProfileConfigmapKey = "kubelet.configuration" ∧
      wrkCtx.kubeletExtraArgsNodeProfileConfigmapKey = "kubelet.extraArgs" ∧
      wrkCtx.controlPlaneEndpointNodeProfileConfigmapKey = "control.plane.endpoint" ∧
      wrkCtx.cniEnableProviderNodeProfileConfigmapKey = "cni.provider" := ⟨rfl, rfl, rfl, rfl⟩
  have hread : Worker.readManifest yaml wrkCtx manifest =
      liftError (decodeNodeProfile wrkCtx (stringData data)) := by
    have hdoc : documentData cm = .ok data := by rw [documentData, hd]
    simp only [Worker.readManifest, hu, hdoc, liftError_ok, ok_bind]
  have hdecode : decodeNodeProfile wrkCtx (stringData data) =
      match unmarshalStringMap (literalBlock cfg.kubeletExtraArgs) with
      | .error e => .error (e.quote "failed to unmarshal kubelet extra args content")
      | .ok args => .ok ⟨kub, args, e, cfg.cniProvider⟩ := by
    have hend' : unmarshalEndpoint (literalBlock cfg.controlPlaneEndpoint) = .ok e := by
      rw [he, unmarshalEndpoint_literalBlock]
    simp only [decodeNodeProfile, lookupKey, hkeys, stringData, hkub, hargs, hend, hcni, ok_bind,
      hend']
  rw [hread, hdecode]
  refine ⟨fun f hf => ?_, fun args hok => ?_⟩
  · rw [hf]
    exact ⟨_, rfl⟩
  · rw [hok]
    exact ⟨kub, rfl⟩

/-- A text that starts neither with a brace nor with a blank is no JSON object. -/
theorem unmarshalStringMap_block {c : Char} {t : List Char} (hc : c ≠ '{')
    (hws : Json.isWs c = false) {args : GoMap String}
    (h : unmarshalStringMap (literalBlock (String.ofList (c :: t))) = .ok args) : args = ∅ := by
  have hnl : c ≠ '\n' := by
    rintro rfl
    exact absurd hws (by decide)
  obtain ⟨t', ht'⟩ := trimNewlines_cons hnl t
  have hskip : Json.skipWs (literalBlock (String.ofList (c :: t))).toList = c :: (t' ++ ['\n']) := by
    simp only [literalBlock, String.toList_ofList, ht', List.cons_append, Json.skipWs_cons hws]
  simp only [unmarshalStringMap] at h
  split at h
  · cases h
  · rename_i ms hms
    obtain ⟨s, hs⟩ := Json.unmarshal_obj_inv hms
    rw [hskip] at hs
    exact absurd (List.cons.inj hs).1 hc
  · cases h
    rfl
  · cases h

theorem roundTrips_of_empty (hf : FaithfulOn yaml runtime)
    (hempty : runtime.spec.cluster.kubelet.extraArgs = ∅) : RoundTrips yaml runtime := by
  intro manifest hm
  obtain ⟨cfg, hcfg, hargs, hend, hcni⟩ :=
    getNodeProfileConfig_ok (hempty ▸ hf.marshalMap_empty)
  rcases hf.manifest hcfg with ⟨_, f, herr⟩ | ⟨m, hok, hr⟩
  · rw [hm] at herr
    cases herr
  · cases hm.symm.trans hok
    obtain ⟨kub, hread⟩ := (hr.readManifest hend).2 ∅ (by rw [hargs]; decide)
    exact ⟨_, hread, hempty.symm, rfl, hcni⟩

theorem not_roundTrips (hf : FaithfulOn yaml runtime) (hp : ¬ PatchRejected yaml runtime)
    (hne : runtime.spec.cluster.kubelet.extraArgs ≠ ∅) : ¬ RoundTrips yaml runtime := by
  intro hrt
  obtain ⟨c, t, hmarshal, hc, hws⟩ := hf.marshalMap_block hne
  obtain ⟨cfg, hcfg, hargs, hend, -⟩ := getNodeProfileConfig_ok hmarshal
  rcases hf.manifest hcfg with ⟨h, -⟩ | ⟨m, hok, hr⟩
  · exact hp h
  · obtain ⟨p, hread, hpargs, -, -⟩ := hrt m hok
    cases hu : unmarshalStringMap (literalBlock cfg.kubeletExtraArgs) with
    | error f =>
        obtain ⟨g, hg⟩ := (hr.readManifest hend).1 f hu
        rw [hread] at hg
        cases hg
    | ok args =>
        obtain ⟨kub, hk⟩ := (hr.readManifest hend).2 args hu
        rw [hread] at hk
        cases hk
        rw [hargs] at hu
        exact hne (hpargs.symm.trans (unmarshalStringMap_block hc hws hu))

/-- **The worker profile round trip.** With faithful YAML, what the worker reads is what the
Runtime specifies exactly when no kubelet argument is set, or when the kubelet patch is rejected
and there is nothing to read. -/
theorem round_trips_iff (hf : FaithfulOn yaml runtime) :
    RoundTrips yaml runtime ↔
      runtime.spec.cluster.kubelet.extraArgs = ∅ ∨ PatchRejected yaml runtime := by
  constructor
  · intro hrt
    by_contra h
    rw [not_or] at h
    exact not_roundTrips hf h.2 h.1 hrt
  · rintro (hempty | ⟨hp, cfg, e, hcfg, hc⟩)
    · exact roundTrips_of_empty hf hempty
    · intro manifest hm
      obtain ⟨cm, data, hcm, hdata, -, -, hkub, -⟩ := hf.template cfg hcfg
      have heq := createNodeProfileManifest_eq hcfg hcm hdata hkub
      rw [if_neg hp, hc, hm] at heq
      cases heq

end RoundTrip

/-! ## A library that is faithful -/

/-- A map as a block mapping with all scalars quoted. -/
def quotedMapping (m : GoMap String) : String :=
  if m.isEmpty then "\x7b\x7d\n"
  else unlines (m.toList.map (fun e => Json.marshal (.str e.1) ++ ": " ++ Json.marshal (.str e.2)))

/-- The data of the parsed template. -/
def templateData (cfg : NodeProfileConfig) : List (String × Json) :=
  [("cni.provider", .str cfg.cniProvider),
   ("control.plane.endpoint", .str (literalBlock cfg.controlPlaneEndpoint)),
   ("kubelet.configuration", .str (unlines (kubeletConfiguration cfg))),
   ("kubelet.extraArgs", .str (literalBlock cfg.kubeletExtraArgs))]

def templateDocument (data : List (String × Json)) : GoMap Json :=
  (∅ : GoMap Json).insert "data" (.obj data)

/-- A YAML library that writes documents as JSON, which is YAML, quotes the scalars of a map, and
knows the template text of one configuration. Patches are refused. -/
def quotingYaml (known : NodeProfileConfig) : Yaml where
  marshalMap := fun m => .ok (quotedMapping m)
  marshal := fun cm => .ok (Json.marshal (.obj cm.toList))
  unmarshal := fun text =>
    if text = renderNodeProfile known then .ok (templateDocument (templateData known))
    else
      match Json.unmarshal text with
      | some (.obj ms) => .ok (GoMap.setAll ∅ ms)
      | _ => .error syntaxError
  yamlToJSON := fun _ => .error (errorf "yaml: line 1: did not find expected node content")
  jsonToYAML := .ok
  mergePatch := fun _ patch => .ok patch

/-- The configuration of a Runtime with the quoted kubelet arguments. -/
def quotedConfig (runtime : Runtime) : NodeProfileConfig where
  nodeProfileConfigMapName := wrkCtx.workerProfileConfigMapName
  clientCAFile := wrkCtx.kubeletPKICaCertPath
  clusterDNS := clusterDNSIP
  containerRuntimeEndpoint := wrkCtx.containerdAddress
  kubeletStaticPodPath := wrkCtx.kubeletStaticPodPath
  kubeletConfigurationKey := "kubelet.configuration"
  kubeletExtraArgsKey := "kubelet.extraArgs"
  kubeletExtraArgs := quotedMapping runtime.spec.cluster.kubelet.extraArgs
  controlPlaneEndpointKey := "control.plane.endpoint"
  controlPlaneEndpoint :=
    Json.marshal (endpointJson runtime.spec.cluster.controlPlaneExternalEndpoint)
  cniProviderKey := "cni.provider"
  cniProvider := cniProvider runtime

theorem quotedMapping_block {m : GoMap String} (h : m ≠ ∅) :
    ∃ t, quotedMapping m = String.ofList ('"' :: t) := by
  have hempty : m.isEmpty = false := by
    rw [Bool.eq_false_iff]
    exact fun he => h (Std.ExtTreeMap.isEmpty_iff.mp he)
  cases hl : m.toList with
  | nil =>
      rw [← Std.ExtTreeMap.isEmpty_toList, hl] at hempty
      cases hempty
  | cons e l =>
      simp only [quotedMapping, hempty, Bool.false_eq_true, if_false, hl, unlines, List.map_cons,
        String.join_cons]
      exact ⟨_, String.toList_injective (by
        simp only [Json.marshal, Json.encode, Json.encodeStr, String.toList_append,
          String.toList_ofList, List.cons_append]
        rfl)⟩

theorem templateDocument_insert (data data' : List (String × Json)) :
    (templateDocument data).insert "data" (.obj data') = templateDocument data' := by
  apply Std.ExtTreeMap.ext_getElem?
  intro k
  simp only [templateDocument, GoMap.getElem?_insert]
  by_cases h : "data" = k <;> simp [h]

theorem templateDocument_data (data : List (String × Json)) :
    (templateDocument data)["data"]? = some (.obj data) := by
  rw [templateDocument, GoMap.getElem?_insert, if_pos rfl]

theorem quotingYaml_readsBack (known : NodeProfileConfig) {data : List (String × Json)}
    (hdata : Json.PlainMembers data) :
    ReadsBack (quotingYaml known) (templateDocument data) data := by
  have hlist : (templateDocument data).toList = [("data", .obj data)] := rfl
  have hplain : (Json.obj [("data", Json.obj data)]).Plain := by
    simp [Json.Plain, Json.PlainMembers, hdata]
  have hread := Json.unmarshal_marshal _ hplain "" (by simp)
  rw [String.append_empty] at hread
  -- a JSON text is not the template: it starts with a brace
  have hne : Json.marshal (.obj [("data", Json.obj data)]) ≠ renderNodeProfile known := by
    intro h
    have := congrArg (fun s => s.toList.head?) h
    simp [Json.marshal, Json.encode, renderNodeProfile, unlines] at this
  refine ⟨_, templateDocument data, data, rfl, ?_, templateDocument_data data, fun _ => rfl⟩
  simp only [quotingYaml, hlist, if_neg hne, hread]
  rfl

theorem quotingYaml_unmarshal_template (known : NodeProfileConfig) :
    (quotingYaml known).unmarshal (renderNodeProfile known) =
      .ok (templateDocument (templateData known)) := by
  simp only [quotingYaml, if_true]

theorem quotingYaml_faithful (runtime : Runtime) :
    FaithfulOn (quotingYaml (quotedConfig runtime)) runtime where
  marshalMap_empty := rfl
  marshalMap_block := by
    intro h
    obtain ⟨t, ht⟩ := quotedMapping_block h
    exact ⟨'"', t, congrArg Except.ok ht, by decide, by decide⟩
  template := by
    rintro cfg hcfg
    obtain rfl : quotedConfig runtime = cfg := Except.ok.inj hcfg
    refine ⟨_, _, quotingYaml_unmarshal_template _, templateDocument_data _, rfl, rfl, rfl, rfl,
      quotingYaml_readsBack _ ?_, fun s => ?_⟩
    · simp [templateData, Json.PlainMembers, Json.Plain]
    · rw [templateDocument_insert]
      apply quotingYaml_readsBack
      simp [templateData, Json.setMember, Json.PlainMembers, Json.Plain]

/-- A minimal Runtime with the given kubelet arguments. -/
def runtimeWithArgs (args : GoMap String) : Runtime :=
  let r := ControlPlane.Runtime.minimal "tenant" "default"
  { r with spec.cluster.kubelet.extraArgs := args }

theorem round_trips_without_args :
    FaithfulOn (quotingYaml (quotedConfig (runtimeWithArgs ∅))) (runtimeWithArgs ∅) ∧
      RoundTrips (quotingYaml (quotedConfig (runtimeWithArgs ∅))) (runtimeWithArgs ∅) :=
  ⟨quotingYaml_faithful _, (round_trips_iff (quotingYaml_faithful _)).mpr (Or.inl rfl)⟩

/-- The kubelet arguments of `--v=4`. -/
def verbosity : GoMap String := (∅ : GoMap String).insert "v" "4"

/-- One kubelet argument is enough: the worker cannot read the profile. -/
theorem kubelet_argument_breaks_round_trip :
    FaithfulOn (quotingYaml (quotedConfig (runtimeWithArgs verbosity)))
        (runtimeWithArgs verbosity) ∧
      ¬ RoundTrips (quotingYaml (quotedConfig (runtimeWithArgs verbosity)))
        (runtimeWithArgs verbosity) := by
  refine ⟨quotingYaml_faithful _, not_roundTrips (quotingYaml_faithful _) ?_ ?_⟩
  · exact fun h => h.1 rfl
  · exact (by decide : verbosity ≠ ∅)

end Heir.Worker
