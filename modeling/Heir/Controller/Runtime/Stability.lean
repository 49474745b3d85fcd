import Heir.Controller.Runtime.Cluster
import Heir.Worker.NodeProfile

set_option autoImplicit false

/-! # Stability of the control-plane configuration

A Runtime whose specification does not change should not see its configuration change: the
ConfigMap generated twice is the same, so the second `setupControlPlaneConfiguration` writes
nothing and returns the hash of the first. This holds exactly when the iteration orders of maps do
not show in the configuration (`config_stable_iff`).
-/

namespace Heir.Controller.Runtime

open Heir.ControlPlane Heir.Core Heir.Runtime Interact

/-! ## Owner references of generated objects -/

/-- The reference by which a Runtime controls an object. -/
def controllerRef (runtime : Runtime) : OwnerReference :=
  ⟨ControlPlane.Runtime.apiVersion, ControlPlane.Runtime.kind, runtime.metadata.name,
    runtime.metadata.uid, true⟩

/-- A generated object: in the namespace of the Runtime, without an owner yet. -/
def Fresh (runtime : Runtime) (m : ObjectMeta) : Prop :=
  m.ns = runtime.metadata.ns ∧ m.ownerReferences = []

/-- The generated object with its controller reference. -/
def withRef (runtime : Runtime) (k : Kind) (obj : Obj k) : Obj k :=
  Obj.setMeta k obj { Obj.getMeta k obj with ownerReferences := [controllerRef runtime] }

theorem setControllerRef_fresh {runtime : Runtime} {k : Kind} {obj : Obj k}
    (h : Fresh runtime (Obj.getMeta k obj)) :
    setControllerRef runtime k obj = pure (withRef runtime k obj) := by
  rw [setControllerRef, setControllerReference_fresh h.1 h.2]
  rfl

@[simp] theorem withRef_key (runtime : Runtime) (k : Kind) (obj : Obj k) :
    (Obj.getMeta k (withRef runtime k obj)).key = (Obj.getMeta k obj).key := by
  simp [withRef, ObjectMeta.key]

theorem isControlledBy_withRef (runtime : Runtime) (k : Kind) (obj : Obj k) :
    isControlledBy (Obj.getMeta k (withRef runtime k obj)) runtime.metadata = true := by
  simp [withRef, isControlledBy, getControllerOf, controllerRef]

theorem isControlledBy_stored (d : Defaulting) (version : Nat) (k : Kind) (obj : Obj k)
    (owner : ObjectMeta) :
    isControlledBy (Obj.getMeta k (d.stored version k obj)) owner =
      isControlledBy (Obj.getMeta k obj) owner := by
  rw [Defaulting.stored_meta]
  rfl

/-! ## The stored configuration -/

section Stability

variable (libs : Libs) (d : Defaulting) (runtime : Runtime)

/-- After a success the stored ConfigMap is the Runtime's and has the returned hash. -/
def Configured (hash : String) (c : Cluster) : Prop :=
  ∃ cm, c.lookup .configMap runtime.metadata.key = some cm ∧
    isControlledBy cm.metadata runtime.metadata = true ∧ hashConfigData libs.sha256 cm.data = hash

/-- All iteration orders give the same configuration. -/
def GeneratesAs (cm : ConfigMap) (hash : String) : Prop :=
  ∀ o : Orders, generateControlPlaneConfig libs.toYaml libs.sha256 o runtime layout = .ok (cm, hash)

theorem generateControlPlaneConfig_shape {o : Orders} {cm : ConfigMap} {hash : String}
    (h : generateControlPlaneConfig libs.toYaml libs.sha256 o runtime layout = .ok (cm, hash)) :
    cm.metadata.key = runtime.metadata.key ∧ Fresh runtime cm.metadata ∧
      hashConfigData libs.sha256 cm.data = hash := by
  rw [generateControlPlaneConfig_eq] at h
  cases hnp : createNodeProfileManifest libs.toYaml newWorkerContextWithDefaults runtime with
  | error f =>
      rw [hnp] at h
      cases h
  | ok np =>
      rw [hnp] at h
      cases h
      exact ⟨rfl, ⟨rfl, rfl⟩, rfl⟩

variable {libs d runtime} {cm : ConfigMap} {hash : String}

theorem run_setupControlPlaneConfiguration (hgen : GeneratesAs libs runtime cm hash) :
    (setupControlPlaneConfiguration libs runtime).run =
      Prog.call (S := sig) .ranges (fun _ => (getOrElse .configMap cm.metadata.key
        (do
          let desired ← setControllerRef runtime .configMap cm
          createObj .configMap desired
          return hash)
        (fun existing => do
          if isControlledBy existing.metadata runtime.metadata then
            let existingHash := hashConfigData libs.sha256 existing.data
            if existingHash = hash then return existingHash
            else
              updateConfigMap existing cm hash
              return hash
          else refuseToAdopt "secret" existing.metadata)).run) := by
  rw [setupControlPlaneConfiguration, Go.run_call_bind]
  congr 1
  funext ranges
  simp only [hgen ranges.strings, Go.ofResult_ok_bind]

/-- Storing a ConfigMap with the right data and owner configures the Runtime. -/
theorem configured_put {c : Cluster} {o : ConfigMap} (hkey : o.metadata.key = runtime.metadata.key)
    (hctl : isControlledBy o.metadata runtime.metadata = true)
    (hhash : hashConfigData libs.sha256 o.data = hash) :
    Configured libs runtime hash (c.put .configMap (d.stored (c.version + 1) .configMap o)) := by
  exact ⟨d.stored (c.version + 1) .configMap o,
    c.lookup_put_stored d (c.version + 1) (k := .configMap) hkey, hctl, hhash⟩

theorem setupControlPlaneConfiguration_configures (hgen : GeneratesAs libs runtime cm hash)
    (c : Cluster) :
    (setupControlPlaneConfiguration libs runtime).run.wp (server d)
      (fun r c' => ∀ h, r = .ok h → h = hash ∧ Configured libs runtime hash c') c := by
  obtain ⟨hkey, hfresh, hhash⟩ := generateControlPlaneConfig_shape libs runtime
    (hgen fun _ => default)
  rw [run_setupControlPlaneConfiguration hgen]
  intro ranges c' hx
  rw [server_read (by trivial) hx]
  apply wp_getOrElse
  · -- absent: the created ConfigMap is the generated one, controlled by the Runtime
    intro _
    rw [setControllerRef_fresh (k := .configMap) hfresh, pure_bind, Prog.wp_run_bind]
    apply wp_createObj
    · rintro - h ⟨⟩
      exact ⟨rfl, configured_put (o := withRef runtime .configMap cm)
        ((withRef_key runtime .configMap cm).trans hkey) (isControlledBy_withRef _ .configMap cm) hhash⟩
    · rintro e h ⟨⟩
  · intro existing hl
    by_cases hctl : isControlledBy existing.metadata runtime.metadata = true
    · rw [if_pos hctl]
      by_cases heq : hashConfigData libs.sha256 existing.data = hash
      · simp only [heq, if_true]
        rintro h ⟨⟩
        exact ⟨rfl, existing, hkey ▸ hl, hctl, heq⟩
      · simp only [heq, if_false]
        rw [updateConfigMap]
        cases ha : assignDecoded existing.metadata.annotations controlPlaneConfigHashAnnotation
            hash with
        | error f =>
            rintro h ⟨⟩
        | ok annotations =>
            rw [Go.ofResult_ok_bind, Prog.wp_run_bind]
            apply wp_updateObj
            · rintro h ⟨⟩
              refine ⟨rfl, configured_put (o := _) ?_ hctl hhash⟩
              exact (Cluster.lookup_key hl).trans hkey
            · rintro e h ⟨⟩
    · rw [if_neg hctl]
      rintro h ⟨⟩
  · rintro e h ⟨⟩

theorem setupControlPlaneConfiguration_idle (hgen : GeneratesAs libs runtime cm hash)
    {c c' : Cluster} (hconf : Configured libs runtime hash c) {t : List (Called sig)}
    {r : Except Fault String}
    (he : Exec (server d) (setupControlPlaneConfiguration libs runtime).run c t r c') :
    (∀ call ∈ t, IsRead call.1) ∧ ∀ h, r = .ok h → h = hash := by
  obtain ⟨hkey, -, -⟩ := generateControlPlaneConfig_shape libs runtime (hgen fun _ => default)
  obtain ⟨existing, hl, hctl, hhash⟩ := hconf
  rw [run_setupControlPlaneConfiguration hgen] at he
  obtain ⟨ranges, c₁, t₁, hx₁, rfl, he₁⟩ := he.call_inv
  rw [server_read (by trivial) hx₁, run_getOrElse] at he₁
  obtain ⟨x, c₂, t₂, hx₂, rfl, he₂⟩ := he₁.call_inv
  obtain ⟨-, rfl | ⟨text, rfl⟩⟩ := server_get hx₂
  · simp only [serveGet, hkey, hl, hctl, if_true, hhash, Go.run_return] at he₂
    obtain ⟨rfl, rfl, -⟩ := he₂.ret_inv
    simp [IsRead]
  · obtain ⟨rfl, rfl, -⟩ := he₂.ret_inv
    simp [IsRead]

/-! ## The main result -/

variable (libs d runtime)

/-- **Stability**: all iteration orders give the same configuration, and a second setup after a
successful one writes nothing and returns the same hash. -/
def ConfigStable : Prop :=
  (∀ o o' : Orders, generateControlPlaneConfig libs.toYaml libs.sha256 o runtime layout =
      generateControlPlaneConfig libs.toYaml libs.sha256 o' runtime layout) ∧
  ∀ c t hash c₁,
    Exec (server d) (setupControlPlaneConfiguration libs runtime).run c t (.ok hash) c₁ →
    ∀ t' r c₂, Exec (server d) (setupControlPlaneConfiguration libs runtime).run c₁ t' r c₂ →
      (∀ call ∈ t', IsRead call.1) ∧ ∀ hash', r = .ok hash' → hash' = hash

/-- The configuration of a Runtime is stable exactly when kube-proxy is disabled, or when the
worker profile cannot be rendered and there is no configuration. -/
theorem config_stable_iff :
    ConfigStable libs d runtime ↔
      runtime.spec.cluster.network.kubeProxy.disabled = true ∨
        ∃ f, createNodeProfileManifest libs.toYaml newWorkerContextWithDefaults runtime =
          .error f := by
  rw [← generateControlPlaneConfig_stable_iff libs.toYaml libs.sha256 runtime]
  refine ⟨fun h => h.1, fun h => ⟨h, ?_⟩⟩
  intro c t hash c₁ he t' r c₂ he'
  cases hgen : generateControlPlaneConfig libs.toYaml libs.sha256 (fun _ => default) runtime
      layout with
  | error f =>
      -- nothing is generated, so the first setup cannot have succeeded
      rw [setupControlPlaneConfiguration, Go.run_call_bind] at he
      obtain ⟨ranges, c', t₁, -, rfl, he₁⟩ := he.call_inv
      rw [h _ (fun _ => default), hgen, Go.run_ofResult_error_bind] at he₁
      cases he₁.ret_inv.2.1
  | ok p =>
      have hall : GeneratesAs libs runtime p.1 p.2 := fun o => (h o _).trans hgen
      obtain ⟨rfl, hconf⟩ :=
        he.wp (setupControlPlaneConfiguration_configures (d := d) hall c) hash rfl
      exact setupControlPlaneConfiguration_idle hall hconf he'

end Stability

/-! ## A Runtime with kube-proxy -/

/-- Libraries to run the controller with: faithful YAML for one Runtime, and a digest that keeps
its input. -/
def sampleLibs (runtime : Runtime) : Libs where
  toYaml := Worker.quotingYaml (Worker.quotedConfig runtime)
  isPrint := fun _ => true
  sha256 := fun b => String.ofList (b.map (fun u => Char.ofNat u.toNat))
  marshalRuntime := fun _ => .ok []
  writeKubeconfig := fun _ => .ok []
  loadKubeconfig := fun _ => .error (errorf "invalid configuration")
  parseCertificateExpiry := fun _ => .error (errorf "no certificate")

/-- A server that fills in nothing. -/
def noDefaulting : Defaulting := ⟨id, id⟩

theorem sampleLibs_nodeProfile {runtime : Runtime}
    (h : runtime.spec.cluster.kubelet.configPatches = "") :
    ∃ manifest, createNodeProfileManifest (sampleLibs runtime).toYaml newWorkerContextWithDefaults
      runtime = .ok manifest := by
  have hf := Worker.quotingYaml_faithful runtime
  have hcfg : getNodeProfileConfig (Worker.quotingYaml (Worker.quotedConfig runtime))
      Worker.wrkCtx runtime = .ok (Worker.quotedConfig runtime) := rfl
  rcases hf.manifest hcfg with ⟨hp, -⟩ | ⟨m, hm, -⟩
  · exact absurd h hp.1
  · exact ⟨m, hm⟩

/-- With kube-proxy enabled, as it is by default, two reconciliations of an unchanged Runtime may
produce different configurations. -/
theorem minimal_config_not_stable :
    ¬ ConfigStable (sampleLibs (.minimal "tenant" "default")) noDefaulting
      (.minimal "tenant" "default") := by
  intro h
  rcases (generateControlPlaneConfig_stable_iff _ _ _).mp h.1 with hd | ⟨f, hf⟩
  · cases hd
  · have hp : (Runtime.minimal "tenant" "default").spec.cluster.kubelet.configPatches = "" := rfl
    obtain ⟨m, hm⟩ := sampleLibs_nodeProfile hp
    rw [hm] at hf
    cases hf

end Heir.Controller.Runtime
