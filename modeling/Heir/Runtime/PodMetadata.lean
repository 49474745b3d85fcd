import Heir.Runtime.Workloads

set_option autoImplicit false

/-! # Whose labels and annotations the pods carry

A Deployment of a control plane selects its pods by two labels, and its pod template carries the
controller's annotations, so that a new configuration gives a new template. The user's additional
labels and annotations are merged over both, and the merge lets the user's value win. So the
template carries what the controller gave it exactly if the user does not give one of those keys
another value (`pod_metadata_iff`).
-/

namespace Heir.Runtime

open Heir.ControlPlane Heir.Core

/-! ## Merged maps -/

/-- Every entry of `m` is an entry of `pod`. -/
def Carries (pod m : GoMap String) : Prop := ∀ (k v : String), m[k]? = some v → pod[k]? = some v

/-- No entry of `extra` gives a key of `base` another value. -/
def Undisputed (base extra : GoMap String) : Prop :=
  ∀ (k v w : String), base[k]? = some v → extra[k]? = some w → w = v

theorem getElem?_mergeMaps (ob oe : GoMap.RangeOrder String) (base extra : GoMap String)
    (k : String) : (mergeMaps ob oe base extra)[k]? = (extra[k]?).or base[k]? := by
  rw [mergeMaps, mergeArgs, GoMap.setAll_empty_visit, GoMap.getElem?_setAll_visit]

theorem carries_mergeMaps_iff (ob oe : GoMap.RangeOrder String) (base extra : GoMap String) :
    Carries (mergeMaps ob oe base extra) base ↔ Undisputed base extra := by
  constructor
  · intro h k v w hv hw
    have hmerged := h k v hv
    rw [getElem?_mergeMaps, hw, Option.some_or, Option.some.injEq] at hmerged
    exact hmerged
  · intro h k v hv
    rw [getElem?_mergeMaps]
    cases hw : extra[k]? with
    | none => rw [Option.none_or, hv]
    | some w => rw [Option.some_or, h k v w hv hw]

/-! ## The three Deployments -/

/-- The pods have the labels that the Deployment selects and the controller's annotations. -/
structure OwnMetadata (annotations : GoMap String) (d : Deployment) : Prop where
  labels : Carries d.spec.template.labels d.spec.selector
  annotations : Carries d.spec.template.annotations annotations

/-- The user's metadata leave the labels of the application and the given annotations alone. -/
structure LeavesAlone (extra : AdditionalMetadata) (app : String) (opts : DeployOpts) : Prop where
  labels : Undisputed (heirLabels app) extra.labels
  annotations : Undisputed (mapOf opts) extra.annotations

theorem deploymentOf_ownMetadata_iff (o : Orders) (runtime : Runtime) (app : String)
    (annotations : GoMap String) (replicas : Option Int32)
    (deploySpec : ControlPlane.DeploymentSpec) (opts : DeployOpts) (volumes : List Volume)
    (container : Container) :
    OwnMetadata (mapOf opts)
        (deploymentOf o runtime app annotations replicas deploySpec opts volumes container) ↔
      LeavesAlone deploySpec.additionalMetadata app opts := by
  constructor
  · intro h
    exact ⟨(carries_mergeMaps_iff _ _ _ _).mp h.labels,
      (carries_mergeMaps_iff _ _ _ _).mp h.annotations⟩
  · intro h
    exact ⟨(carries_mergeMaps_iff _ _ _ _).mpr h.labels,
      (carries_mergeMaps_iff _ _ _ _).mpr h.annotations⟩

/-- **When the controller's pod metadata stand.** For each of the three generators: exactly if the
user's additional metadata leave them alone. -/
theorem pod_metadata_iff (o : Orders) (wrkCtx : WorkerContext) (runtime : Runtime)
    (layout : ControlPlaneLayout) (opts : DeployOpts) :
    (∀ d, generateDeployment o runtime layout opts = .ok d →
      (OwnMetadata (mapOf opts) d ↔
        LeavesAlone runtime.spec.controlPlane.deployment.additionalMetadata runtime.name opts)) ∧
    (OwnMetadata (mapOf opts) (generateClusterAgentDeployment o runtime layout opts) ↔
      LeavesAlone runtime.spec.controlPlane.deployment.additionalMetadata
        (clusterAgentName runtime.name) opts) ∧
    (OwnMetadata (mapOf opts) (generatePlaneTunnelDeployment o wrkCtx runtime layout opts) ↔
      LeavesAlone runtime.spec.controlPlane.planeTunnel.server.deployment.additionalMetadata
        (planeTunnelName runtime.name) opts) := by
  refine ⟨?_, deploymentOf_ownMetadata_iff .., deploymentOf_ownMetadata_iff ..⟩
  intro d hd
  unfold generateDeployment at hd
  cases henv : storageEnv runtime.spec.cluster.storage with
  | error f =>
      rw [henv] at hd
      cases hd
  | ok env =>
      rw [henv] at hd
      cases hd
      exact deploymentOf_ownMetadata_iff ..

theorem undisputed_singleton {base : GoMap String} {k : String} (v : String) (h : base[k]? = none) :
    Undisputed base ((∅ : GoMap String).insert k v) := by
  intro k' v' w hbase hextra
  rw [GoMap.getElem?_insert, Std.ExtTreeMap.getElem?_empty] at hextra
  split at hextra
  · rename_i hk
    rw [← hk, h] at hbase
    cases hbase
  · cases hextra

/-- A Runtime whose user tags the pods. -/
def taggingRuntime : Runtime :=
  { ControlPlane.Runtime.minimal "tenant" "default" with
    spec.controlPlane.deployment.additionalMetadata :=
      { labels := (∅ : GoMap String).insert "team" "core"
        annotations := (∅ : GoMap String).insert "contact" "ops" } }

/-- The pods have the tags, and the hash of the configuration reaches them. -/
theorem tagged_pod_metadata_stand :
    ∃ d, generateDeployment (fun _ => .byKey) taggingRuntime layout
        [( configHashAnnotation, "5feceb66")] = .ok d ∧
      d.spec.template.labels["team"]? = some "core" ∧
      d.spec.template.annotations["contact"]? = some "ops" ∧
      OwnMetadata (mapOf [( configHashAnnotation, "5feceb66")]) d := by
  refine ⟨_, rfl, by decide +kernel, by decide +kernel, ?_⟩
  exact ((pod_metadata_iff (fun _ => .byKey) newWorkerContextWithDefaults taggingRuntime layout
    [( configHashAnnotation, "5feceb66")]).1 _ rfl).mpr
      ⟨undisputed_singleton _ (by decide +kernel), undisputed_singleton _ (by decide +kernel)⟩

/-- A Runtime whose user names the pods and pins the hash. -/
def renamingRuntime : Runtime :=
  let minimal := ControlPlane.Runtime.minimal "tenant" "default"
  { minimal with
    spec.controlPlane.deployment.additionalMetadata :=
      { labels := (∅ : GoMap String).insert "app.kubernetes.io/name" "mine"
        annotations := (∅ : GoMap String).insert configHashAnnotation "pinned" } }

/-- The pods are labelled `mine`, which the Deployment does not select, and keep the pinned hash
whatever the configuration is. -/
theorem pod_metadata_overridden :
    ∃ d, generateDeployment (fun _ => .byKey) renamingRuntime layout
        [( configHashAnnotation, "5feceb66")] = .ok d ∧
      d.spec.selector["app.kubernetes.io/name"]? = some "tenant" ∧
      d.spec.template.labels["app.kubernetes.io/name"]? = some "mine" ∧
      d.spec.template.annotations[ configHashAnnotation]? = some "pinned" := by
  refine ⟨_, rfl, ?_, ?_, ?_⟩ <;> decide +kernel

end Heir.Runtime
