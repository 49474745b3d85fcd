import Heir.Controller.Runtime.Protection
import Heir.Lib.Json

set_option autoImplicit false

/-! # Status writes and the cluster agent

The cluster agent mounts a Secret with the manifest of its Runtime. The hash of that Secret is an
annotation of the agent's pods, so that a new manifest rolls them out again. The status is cleared
from the manifest, but the resource version and the managed fields, which change with every status
write as well, are not.

Two stored versions of a Runtime with only status writes in between give the agent the same Secret,
hash and pod template exactly when they agree in those two fields (`agent_unaffected_iff`). The
controller's own status writes therefore roll the agent out again.
-/

namespace Heir.Controller.Runtime

open Heir.ControlPlane Heir.Core Heir.Runtime Interact

/-- Two stored versions of one Runtime between which only its status was written. -/
structure StatusApart (r r' : Runtime) : Prop where
  spec : r'.spec = r.spec
  metadata : r'.metadata = { r.metadata with
    resourceVersion := r'.metadata.resourceVersion
    managedFields := r'.metadata.managedFields }

/-- The YAML of a Runtime shows its resource version and its managed fields. -/
structure Legible (libs : Libs) : Prop where
  total : ∀ r, ∃ data, libs.marshalRuntime r = .ok data
  resourceVersion : ∀ r r' data, libs.marshalRuntime r = .ok data →
    libs.marshalRuntime r' = .ok data → r.metadata.resourceVersion = r'.metadata.resourceVersion
  managedFields : ∀ r r' data, libs.marshalRuntime r = .ok data →
    libs.marshalRuntime r' = .ok data → r.metadata.managedFields = r'.metadata.managedFields

/-- The pod template of the cluster agent for the Secret `secret`. -/
def agentTemplate (libs : Libs) (ranges : Ranges) (r : Runtime) (secret : Secret) :
    PodTemplateSpec :=
  (generateClusterAgentDeployment ranges.strings r layout
    [( clusterAgentRuntimeHashAnnotation, hashSecretData libs ranges.bytes secret.data)]).spec.template

/-- The cluster agent does not notice the difference between two versions of its Runtime. -/
structure Unaffected (libs : Libs) (d : Defaulting) (r r' : Runtime) : Prop where
  data : ∀ secret secret', generateClusterAgentRuntimeSecret libs r layout = .ok secret →
    generateClusterAgentRuntimeSecret libs r' layout = .ok secret' → secret'.data = secret.data
  hash : ∀ secret secret', generateClusterAgentRuntimeSecret libs r layout = .ok secret →
    generateClusterAgentRuntimeSecret libs r' layout = .ok secret' →
    ∀ o o', hashSecretData libs o' secret'.data = hashSecretData libs o secret.data
  template : ∀ secret secret', generateClusterAgentRuntimeSecret libs r layout = .ok secret →
    generateClusterAgentRuntimeSecret libs r' layout = .ok secret' →
    ∀ ranges ranges', agentTemplate libs ranges' r' secret' = agentTemplate libs ranges r secret
  /-- After a successful setup with one version, a setup with the other writes nothing. -/
  idle : ∀ c t hash c₁,
    Exec (server d) (setupClusterAgentRuntimeSecret libs r).run c t (.ok hash) c₁ →
    ∀ t' x c₂, Exec (server d) (setupClusterAgentRuntimeSecret libs r').run c₁ t' x c₂ →
      (∀ call ∈ t', IsRead call.1) ∧ ∀ hash', x = .ok hash' → hash' = hash

/-! ## What the manifest shows -/

section Manifest

variable {libs : Libs} {r r' : Runtime}

theorem generateClusterAgentRuntimeSecret_ok {data : Bytes}
    (h : libs.marshalRuntime { r with status := {} } = .ok data) :
    generateClusterAgentRuntimeSecret libs r layout = .ok
      { metadata :=
          { name := clusterAgentRuntimeSecretName r.name
            ns := r.ns
            labels := heirLabels (clusterAgentName r.name) }
        data := (∅ : GoMap Bytes).insert layout.runtimeManifest.secretKey data } := by
  rw [generateClusterAgentRuntimeSecret, h]

theorem fields_eq_of_data_eq (hlibs : Legible libs)
    (h : ∀ secret secret', generateClusterAgentRuntimeSecret libs r layout = .ok secret →
      generateClusterAgentRuntimeSecret libs r' layout = .ok secret' → secret'.data = secret.data) :
    r'.metadata.resourceVersion = r.metadata.resourceVersion ∧
      r'.metadata.managedFields = r.metadata.managedFields := by
  obtain ⟨data, hdata⟩ := hlibs.total { r with status := {} }
  obtain ⟨data', hdata'⟩ := hlibs.total { r' with status := {} }
  have hmaps := h _ _ (generateClusterAgentRuntimeSecret_ok hdata)
    (generateClusterAgentRuntimeSecret_ok hdata')
  have hentry := congrArg (fun m : GoMap Bytes => m[layout.runtimeManifest.secretKey]?) hmaps
  simp only [GoMap.getElem?_insert, if_true, Option.some.injEq] at hentry
  rw [hentry] at hdata'
  have hversion := hlibs.resourceVersion { r' with status := {} } { r with status := {} } data
  have hfields := hlibs.managedFields { r' with status := {} } { r with status := {} } data
  exact ⟨hversion hdata' hdata, hfields hdata' hdata⟩

/-- Versions that agree in the two fields differ in their status only. -/
theorem StatusApart.metadata_eq (h : StatusApart r r')
    (hv : r'.metadata.resourceVersion = r.metadata.resourceVersion)
    (hm : r'.metadata.managedFields = r.metadata.managedFields) : r'.metadata = r.metadata := by
  rw [h.metadata, hv, hm]

theorem generateClusterAgentRuntimeSecret_congr (hmeta : r'.metadata = r.metadata)
    (hspec : r'.spec = r.spec) :
    generateClusterAgentRuntimeSecret libs r' layout =
      generateClusterAgentRuntimeSecret libs r layout := by
  simp only [generateClusterAgentRuntimeSecret, ControlPlane.Runtime.name, ControlPlane.Runtime.ns,
    hmeta, hspec]

theorem setupClusterAgentRuntimeSecret_congr (hmeta : r'.metadata = r.metadata)
    (hspec : r'.spec = r.spec) :
    setupClusterAgentRuntimeSecret libs r' = setupClusterAgentRuntimeSecret libs r := by
  simp only [setupClusterAgentRuntimeSecret, generateClusterAgentRuntimeSecret_congr hmeta hspec,
    setControllerRef, hmeta]

theorem hashSecretData_congr (libs : Libs) (o o' : GoMap.RangeOrder Bytes) (data : GoMap Bytes) :
    hashSecretData libs o' data = hashSecretData libs o data := by
  rw [hashSecretData, GoMap.sortedKeys_eq o' o, hashSecretData]

/-- The template depends on the name, the specification and the hash. -/
theorem agentTemplate_congr (hmeta : r'.metadata = r.metadata) (hspec : r'.spec = r.spec)
    (ranges ranges' : Ranges) (secret : Secret) :
    agentTemplate libs ranges' r' secret = agentTemplate libs ranges r secret := by
  simp only [agentTemplate, generateClusterAgentDeployment, deploymentOf, mergeMaps,
    ControlPlane.Runtime.name, hmeta, hspec, hashSecretData_congr libs ranges.bytes ranges'.bytes]
  rw [mergeArgs_congr (ranges'.strings .labelsBase) (ranges'.strings .labelsExtra)
      (ranges.strings .labelsBase) (ranges.strings .labelsExtra),
    mergeArgs_congr (ranges'.strings .annotationsBase) (ranges'.strings .annotationsExtra)
      (ranges.strings .annotationsBase) (ranges.strings .annotationsExtra)]

end Manifest

/-! ## A second setup -/

section Setup

variable {libs : Libs} {d : Defaulting} {r : Runtime} {secret : Secret}

/-- The stored Secret is the Runtime's and has the content of the generated one. -/
def Mounted (r : Runtime) (secret : Secret) (c : Cluster) : Prop :=
  ∃ o, c.lookup .secret ⟨r.ns, clusterAgentRuntimeSecretName r.name⟩ = some o ∧
    isControlledBy o.metadata r.metadata = true ∧ o.data = secret.data ∧
    o.metadata.labels = secret.metadata.labels

/-- The part of `setupClusterAgentRuntimeSecret` after the Secret has been generated. -/
def storeAgentSecret (libs : Libs) (r : Runtime) (secret : Secret) (ranges : Ranges) :
    Go String :=
  let hash := hashSecretData libs ranges.bytes secret.data
  let desired : Secret := withRef r .secret secret
  getOrElse .secret ⟨r.ns, clusterAgentRuntimeSecretName r.name⟩
    (do
      match ← Go.create .secret desired with
      | .ok _ => return hash
      | .error e => if e.reason = .alreadyExists then return hash else Go.fail e)
    (fun existing => do
      if isControlledBy existing.metadata r.metadata then
        updateIfNeeded .secret (syncSecret desired existing)
        return hash
      else refuseToAdopt "secret" existing.metadata)

theorem run_setupClusterAgentRuntimeSecret
    (hgen : generateClusterAgentRuntimeSecret libs r layout = .ok secret) :
    (setupClusterAgentRuntimeSecret libs r).run =
      Prog.call (S := sig) .ranges (fun ranges => (storeAgentSecret libs r secret ranges).run) := by
  have hkey : (withRef r .secret secret).metadata.key =
      ⟨r.ns, clusterAgentRuntimeSecretName r.name⟩ :=
    (withRef_key r .secret secret).trans (generateClusterAgentRuntimeSecret_shape hgen).1
  rw [setupClusterAgentRuntimeSecret, hgen, Go.ofExcept_ok_bind, Go.run_call_bind]
  congr 1
  funext ranges
  rw [setControllerRef_fresh (k := .secret) (generateClusterAgentRuntimeSecret_shape hgen).2, pure_bind,
    hkey]
  rfl

theorem mounted_put {c : Cluster} {o : Secret}
    (hkey : o.metadata.key = ⟨r.ns, clusterAgentRuntimeSecretName r.name⟩)
    (hctl : isControlledBy o.metadata r.metadata = true) (hdata : o.data = secret.data)
    (hlabels : o.metadata.labels = secret.metadata.labels) :
    Mounted r secret (c.put .secret (d.stored (c.version + 1) .secret o)) := by
  exact ⟨d.stored (c.version + 1) .secret o,
    c.lookup_put_stored d (c.version + 1) (k := .secret) hkey, hctl, hdata, hlabels⟩

theorem setupClusterAgentRuntimeSecret_mounts
    (hgen : generateClusterAgentRuntimeSecret libs r layout = .ok secret) (c : Cluster) :
    (setupClusterAgentRuntimeSecret libs r).run.wp (server d) (fun x c' => ∀ hash, x = .ok hash →
      (∃ o, hash = hashSecretData libs o secret.data) ∧ Mounted r secret c') c := by
  have hkey := (generateClusterAgentRuntimeSecret_shape hgen).1
  rw [run_setupClusterAgentRuntimeSecret hgen]
  intro ranges c' hx
  rw [server_read (by trivial) hx]
  unfold storeAgentSecret
  apply wp_getOrElse
  · intro hnone x c₁ hcreate
    have hl : c.lookup .secret (Obj.getMeta .secret (withRef r .secret secret)).key = none := by
      rw [withRef_key, show (Obj.getMeta .secret secret).key = _ from hkey]
      exact hnone
    rcases server_create_absent hcreate hl with ⟨rfl, rfl⟩ | ⟨t, rfl⟩
    · rintro hash ⟨⟩
      exact ⟨⟨_, rfl⟩, mounted_put ((withRef_key r .secret secret).trans hkey)
        (isControlledBy_withRef r .secret secret) rfl rfl⟩
    · rintro hash ⟨⟩
  · intro existing hl
    split
    · next hctl =>
        rw [Prog.wp_run_bind]
        cases hsync : syncSecret (withRef r .secret secret) existing with
        | none =>
            simp only [syncSecret, ite_eq_left_iff, reduceCtorEq, imp_false, not_not] at hsync
            rintro hash ⟨⟩
            exact ⟨⟨_, rfl⟩, existing, hl, hctl, hsync⟩
        | some o =>
            simp only [syncSecret, Option.ite_none_left_eq_some, Option.some.injEq] at hsync
            obtain ⟨-, rfl⟩ := hsync
            apply wp_updateObj
            · rintro hash ⟨⟩
              exact ⟨⟨_, rfl⟩, mounted_put (Cluster.lookup_key hl) hctl rfl rfl⟩
            · rintro e hash ⟨⟩
    · rintro hash ⟨⟩
  · rintro e hash ⟨⟩

theorem setupClusterAgentRuntimeSecret_idle
    (hgen : generateClusterAgentRuntimeSecret libs r layout = .ok secret) {c c' : Cluster}
    (hm : Mounted r secret c) {t : List (Called sig)} {x : Except Fault String}
    (he : Exec (server d) (setupClusterAgentRuntimeSecret libs r).run c t x c') :
    (∀ call ∈ t, IsRead call.1) ∧
      ∀ hash, x = .ok hash → ∃ o, hash = hashSecretData libs o secret.data := by
  obtain ⟨o, hl, hctl, hdata, hlabels⟩ := hm
  have hsync : syncSecret (withRef r .secret secret) o = none := by
    rw [syncSecret, if_pos ⟨hdata, hlabels⟩]
  rw [run_setupClusterAgentRuntimeSecret hgen] at he
  obtain ⟨ranges, c₁, t₁, hx₁, rfl, he₁⟩ := he.call_inv
  rw [server_read (by trivial) hx₁, storeAgentSecret, run_getOrElse] at he₁
  obtain ⟨y, c₂, t₂, hx₂, rfl, he₂⟩ := he₁.call_inv
  obtain ⟨-, rfl | ⟨text, rfl⟩⟩ := server_get hx₂
  · simp only [serveGet, hl, hctl, if_true, hsync, updateIfNeeded] at he₂
    obtain ⟨rfl, rfl, -⟩ := he₂.ret_inv
    refine ⟨by simp [IsRead], ?_⟩
    rintro hash ⟨⟩
    exact ⟨ranges.bytes, rfl⟩
  · obtain ⟨rfl, rfl, -⟩ := he₂.ret_inv
    simp [IsRead]

end Setup

/-! ## The main result -/

/-- **Status writes and the cluster agent.** Two versions of a Runtime with only status writes in
between give the same Secret data, hash and pod template, and leave a second setup with nothing to
write, exactly when they have the same resource version and the same managed fields. -/
theorem agent_unaffected_iff {libs : Libs} (hlibs : Legible libs) (d : Defaulting)
    {r r' : Runtime} (h : StatusApart r r') :
    Unaffected libs d r r' ↔
      r'.metadata.resourceVersion = r.metadata.resourceVersion ∧
        r'.metadata.managedFields = r.metadata.managedFields := by
  refine ⟨fun hu => fields_eq_of_data_eq hlibs hu.data, fun ⟨hv, hm⟩ => ?_⟩
  have hmeta := h.metadata_eq hv hm
  have hsame : generateClusterAgentRuntimeSecret libs r' layout =
      generateClusterAgentRuntimeSecret libs r layout :=
    generateClusterAgentRuntimeSecret_congr hmeta h.spec
  -- both versions generate one Secret
  have hone : ∀ {secret secret' : Secret},
      generateClusterAgentRuntimeSecret libs r layout = .ok secret →
      generateClusterAgentRuntimeSecret libs r' layout = .ok secret' → secret' = secret := by
    intro secret secret' hs hs'
    exact Except.ok.inj (hs'.symm.trans (hsame.trans hs))
  refine
    { data := fun secret secret' hs hs' => by rw [hone hs hs']
      hash := fun secret secret' hs hs' o o' => by rw [hone hs hs', hashSecretData_congr]
      template := fun secret secret' hs hs' ranges ranges' => by
        rw [hone hs hs', agentTemplate_congr hmeta h.spec]
      idle := ?_ }
  intro c t hash c₁ he t' x c₂ he'
  rw [setupClusterAgentRuntimeSecret_congr hmeta h.spec] at he'
  cases hgen : generateClusterAgentRuntimeSecret libs r layout with
  | error e =>
      rw [setupClusterAgentRuntimeSecret, hgen, Go.run_ofExcept_error_bind] at he
      cases he.ret_inv.2.1
  | ok secret =>
      obtain ⟨⟨o, rfl⟩, hmounted⟩ :=
        he.wp (setupClusterAgentRuntimeSecret_mounts hgen c) hash rfl
      obtain ⟨hread, hhash⟩ := setupClusterAgentRuntimeSecret_idle hgen hmounted he'
      refine ⟨hread, fun hash' hx => ?_⟩
      obtain ⟨o', rfl⟩ := hhash hash' hx
      exact hashSecretData_congr libs o o' secret.data

/-! ## The controller's own status writes -/

def fieldsJson (e : ManagedFieldsEntry) : Json :=
  .arr [.str e.manager, .str e.operation, .str e.apiVersion,
    match e.time with
    | none => .null
    | some t => .int t,
    .str e.fieldsType, .str e.fieldsV1, .str e.subresource]

/-- The two fields of a manifest, written as JSON. -/
def manifestJson (r : Runtime) : Json :=
  .arr [.int r.metadata.resourceVersion, .arr (r.metadata.managedFields.map fieldsJson)]

theorem fieldsJson_injective : Function.Injective fieldsJson := by
  rintro ⟨m, o, a, t, ft, f, s⟩ ⟨m', o', a', t', ft', f', s'⟩ h
  cases t <;> cases t' <;> simp_all [fieldsJson]

theorem fieldsJson_plain (l : List ManagedFieldsEntry) : Json.PlainElems (l.map fieldsJson) := by
  induction l with
  | nil => trivial
  | cons e l ih =>
      refine ⟨?_, ih⟩
      cases ht : e.time <;> simp [fieldsJson, ht, Json.Plain, Json.PlainElems]

/-- Libraries that write a manifest as these two fields, and whose digest keeps the first bytes. -/
def agentLibs : Libs :=
  { tenantLibs with
    marshalRuntime := fun r => .ok (bytes (Json.marshal (manifestJson r)))
    sha256 := fun b => String.ofList ((b.take 64).map (fun u => Char.ofNat u.toNat)) }

theorem agentLibs_legible : Legible agentLibs := by
  have hread : ∀ r r' data, agentLibs.marshalRuntime r = .ok data →
      agentLibs.marshalRuntime r' = .ok data → manifestJson r = manifestJson r' := by
    intro r r' data h h'
    have hplain : ∀ r, (manifestJson r).Plain := fun r => ⟨trivial, fieldsJson_plain _, trivial⟩
    have htext : Json.marshal (manifestJson r) = Json.marshal (manifestJson r') :=
      bytes_injective (Except.ok.inj (h.trans h'.symm))
    have hparse : ∀ r, Json.unmarshal (Json.marshal (manifestJson r)) = some (manifestJson r) := by
      intro r
      have hr := Json.unmarshal_marshal (manifestJson r) (hplain r) "" (by simp)
      rwa [String.append_empty] at hr
    exact Option.some.inj ((hparse r).symm.trans (htext ▸ hparse r'))
  refine ⟨fun r => ⟨_, rfl⟩, fun r r' data h h' => ?_, fun r r' data h h' => ?_⟩
  · have hj := hread r r' data h h'
    simp only [manifestJson, Json.arr.injEq, List.cons.injEq, Json.int.injEq, Nat.cast_inj] at hj
    exact hj.1
  · have hj := hread r r' data h h'
    simp only [manifestJson, Json.arr.injEq, List.cons.injEq] at hj
    exact (fieldsJson_injective.list_map) hj.2.1

/-- The Runtime after its status was written once. -/
def reported (r : Runtime) : Runtime :=
  { r with
    metadata.resourceVersion := r.metadata.resourceVersion + 1
    status.observedGeneration := r.metadata.generation }

theorem status_write_affects :
    StatusApart (tenant ∅) (reported (tenant ∅)) ∧
      ¬ Unaffected agentLibs noDefaulting (tenant ∅) (reported (tenant ∅)) := by
  have happart : StatusApart (tenant ∅) (reported (tenant ∅)) := ⟨rfl, rfl⟩
  refine ⟨happart, fun h => ?_⟩
  have heq := (agent_unaffected_iff agentLibs_legible noDefaulting happart).mp h
  exact absurd heq.1 (by decide)

/-- Nobody but the controller does anything. -/
def Alone (_ : Cluster) : Label sig (Except Fault Unit) Cluster → Prop
  | .env _ => False
  | _ => True

instance (c : Cluster) (l : Label sig (Except Fault Unit) Cluster) : Decidable (Alone c l) :=
  match l with
  | .env _ => inferInstanceAs (Decidable False)
  | .enter | .call _ _ | .leave _ => inferInstanceAs (Decidable True)

/-- The controller for the Runtime `tenant`, with legible manifests. -/
def agentUpkeep : Machine sig (Except Fault Unit) Cluster Choice (Cluster → Cluster) :=
  upkeep agentLibs newWorkerContextWithDefaults noDefaulting tenantKey

/-- The second pass up to the update of the agent's Deployment. -/
def agentPass : List (Machine.Act Choice (Cluster → Cluster)) :=
  let ranges : Choice := .ranges ⟨fun _ => default, default⟩
  let calls : List Choice :=
    [.serve, .serve, .serve, .certificate (.ok ⟨[], []⟩), .serve, .serve] ++
    [ranges, .serve, .serve, ranges, .serve, .serve]
  .enter :: calls.map .call

/-- The hash in the pod template of the stored agent. -/
def rolledOut (c : Cluster) : Option String :=
  (c.deployments ⟨"default", "tenant-cluster-agent"⟩).bind
    (fun dep => dep.spec.template.annotations[ clusterAgentRuntimeHashAnnotation]?)

/-- After a first pass in which nobody else did anything, the second pass rolls out the cluster
agent again. -/
theorem agent_rolled_out_again :
    ∃ s₁ s₂ hash₁ hash₂,
      agentUpkeep.toSystem.Run Alone ⟨.withRuntime (tenant ∅), none⟩ s₁ ∧
      s₁.running = none ∧ rolledOut s₁.world = some hash₁ ∧
      agentUpkeep.toSystem.Run Alone s₁ s₂ ∧ rolledOut s₂.world = some hash₂ ∧ hash₁ ≠ hash₂ := by
  obtain ⟨s₁, s₂, hrun₁, hrun₂, hQ⟩ := Machine.exists_run_run agentUpkeep Alone
    ⟨.withRuntime (tenant ∅), none⟩ creatingPass agentPass
    (fun s₁ s₂ => s₁.running.isNone && (rolledOut s₁.world).isSome && (rolledOut s₂.world).isSome &&
      rolledOut s₁.world != rolledOut s₂.world)
    (by decide +kernel)
  simp only [Bool.and_eq_true, Option.isNone_iff_eq_none, Option.isSome_iff_exists, bne_iff_ne,
    ne_eq] at hQ
  obtain ⟨⟨⟨hnone, hash₁, h₁⟩, hash₂, h₂⟩, hne⟩ := hQ
  refine ⟨s₁, s₂, hash₁, hash₂, hrun₁, hnone, h₁, hrun₂, h₂, fun heq => hne ?_⟩
  rw [h₁, h₂, heq]

end Heir.Controller.Runtime
