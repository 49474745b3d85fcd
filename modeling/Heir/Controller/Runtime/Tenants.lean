import Heir.Controller.Runtime.Ownership

set_option autoImplicit false

/-! # Tenants of one namespace

The names of all objects of a Runtime are its own name followed by one of seven suffixes (the
empty one among them), and the pods of its workloads are selected by three of these names. Two
Runtimes of one namespace keep apart exactly when neither name is the other with a suffix
(`isolated_iff`); no suffix ends in another one, so this is the only way for two names to meet.
-/

namespace Heir.Controller.Runtime

open Heir.ControlPlane Heir.Core Heir.Runtime Interact

/-! ## Names -/

/-- The suffixes that are not empty. -/
def nameSuffixes : List String :=
  ["-kubeconfig", "-cluster-agent-runtime", "-cluster-agent", "-tunnel", "-tunnel-headless",
   "-tunnel-egress"]

/-- The suffixes in the names of the objects of one kind. -/
def suffixesOf : Kind → List String
  | .secret => ["", "-kubeconfig", "-cluster-agent-runtime"]
  | .configMap => [""]
  | .service => ["", "-tunnel-headless", "-tunnel", "-tunnel-egress"]
  | .deployment => ["", "-cluster-agent", "-tunnel"]

theorem mem_objectKeys {k : Kind} {x name : String} :
    (k, x) ∈ objectKeys name ↔ ∃ s ∈ suffixesOf k, x = name ++ s := by
  cases k <;> simp [objectKeys, unguardedKeys, suffixesOf, clusterAgentName, planeTunnelName,
    planeTunnelHeadlessName, planeTunnelEgressName, clientKubeconfigName,
    clusterAgentRuntimeSecretName]

/-- The name `y` is the name `x` with a suffix. -/
def Extends (x y : String) : Prop := ∃ s ∈ nameSuffixes, y = x ++ s

theorem suffixesOf_cases {k : Kind} {s : String} (h : s ∈ suffixesOf k) :
    s = "" ∨ s ∈ nameSuffixes := by
  cases k <;> revert s <;> decide

theorem exists_suffixesOf {s : String} (h : s ∈ nameSuffixes) : ∃ k, s ∈ suffixesOf k := by
  have hall : ∀ s ∈ nameSuffixes, s ∈ suffixesOf .secret ∨ s ∈ suffixesOf .service ∨
      s ∈ suffixesOf .deployment := by decide
  rcases hall s h with h | h | h <;> exact ⟨_, h⟩

theorem empty_mem_suffixesOf (k : Kind) : "" ∈ suffixesOf k := by
  cases k <;> exact List.mem_cons_self

theorem nameSuffixes_independent :
    ∀ s ∈ nameSuffixes, ∀ t ∈ nameSuffixes, s.toList <:+ t.toList → s = t := by
  decide

/-- Two names that meet come from one name, or one of them is not extended. -/
theorem append_suffix_cases {m n s t : String} (hs : s = "" ∨ s ∈ nameSuffixes)
    (ht : t = "" ∨ t ∈ nameSuffixes) (h : m ++ s = n ++ t) :
    m = n ∨ Extends m n ∨ Extends n m := by
  rcases hs with rfl | hs
  · rw [String.append_empty] at h
    rcases ht with rfl | ht
    · exact Or.inl (h.trans String.append_empty)
    · exact Or.inr (Or.inr ⟨t, ht, h⟩)
  · rcases ht with rfl | ht
    · rw [String.append_empty] at h
      exact Or.inr (Or.inl ⟨s, hs, h.symm⟩)
    · -- both suffixes end the same text, so one of them ends in the other
      have hl : m.toList ++ s.toList = n.toList ++ t.toList := by
        rw [← String.toList_append, ← String.toList_append, h]
      have hsuf : s.toList <:+ m.toList ++ s.toList := List.suffix_append _ _
      have htuf : t.toList <:+ m.toList ++ s.toList := hl ▸ List.suffix_append _ _
      have hst : s = t := by
        rcases List.suffix_or_suffix_of_suffix hsuf htuf with h' | h'
        · exact nameSuffixes_independent s hs t ht h'
        · exact (nameSuffixes_independent t ht s hs h').symm
      rw [hst] at hl
      exact Or.inl (String.toList_injective (List.append_cancel_right hl))

/-! ## Pods -/

/-- A label selector selects the pods that have all of its labels. -/
def Selects (selector labels : GoMap String) : Prop :=
  ∀ (key v : String), selector[key]? = some v → labels[key]? = some v

/-- The pod selectors in the Services and the Deployments that are generated for a Runtime. -/
def podSelectors (o : Orders) (wrkCtx : WorkerContext) (opts : DeployOpts)
    (r : Runtime) : List (GoMap String) :=
  (generateService o r :: generatePlaneTunnelService wrkCtx r).map (fun svc => svc.spec.selector) ++
  ((generateDeployment o r layout opts).toOption.toList ++
    [generateClusterAgentDeployment o r layout opts,
     generatePlaneTunnelDeployment o wrkCtx r layout opts]).map (fun dep => dep.spec.selector)

theorem generateDeployment_selector {o : Orders} {opts : DeployOpts} {r : Runtime}
    {dep : Deployment} (h : generateDeployment o r layout opts = .ok dep) :
    dep.spec.selector = heirLabels r.name := by
  rw [generateDeployment] at h
  cases he : storageEnv r.spec.cluster.storage with
  | error f =>
      rw [he] at h
      cases h
  | ok env =>
      rw [he] at h
      cases h
      rfl

theorem mem_podSelectors {o : Orders} {wrkCtx : WorkerContext} {opts : DeployOpts}
    {r : Runtime} {s : GoMap String} (h : s ∈ podSelectors o wrkCtx opts r) :
    ∃ app, (Kind.deployment, app) ∈ objectKeys r.name ∧ s = heirLabels app := by
  have hname : (Kind.deployment, r.name) ∈ objectKeys r.name := by simp [objectKeys, unguardedKeys]
  have htunnel : (Kind.deployment, planeTunnelName r.name) ∈ objectKeys r.name := by
    simp [objectKeys, unguardedKeys]
  have hagent : (Kind.deployment, clusterAgentName r.name) ∈ objectKeys r.name := by
    simp [objectKeys, unguardedKeys]
  simp only [podSelectors, generatePlaneTunnelService, List.map_cons, List.map_nil,
    List.map_append, List.mem_append, List.mem_cons, List.not_mem_nil, or_false] at h
  rcases h with (rfl | rfl | rfl | rfl) | (hdep | rfl | rfl)
  · exact ⟨_, hname, rfl⟩
  · exact ⟨_, htunnel, rfl⟩
  · exact ⟨_, htunnel, rfl⟩
  · exact ⟨_, htunnel, rfl⟩
  · obtain ⟨dep, hmem, rfl⟩ := List.mem_map.mp hdep
    suffices hdep : generateDeployment o r layout opts = .ok dep from
      ⟨_, hname, generateDeployment_selector hdep⟩
    cases hgen : generateDeployment o r layout opts with
    | error f => simp [hgen, Except.toOption] at hmem
    | ok dep' =>
        simp only [hgen, Except.toOption, Option.toList_some, List.mem_singleton] at hmem
        rw [hmem]
  · exact ⟨_, hagent, rfl⟩
  · exact ⟨_, htunnel, rfl⟩

theorem heirLabels_name (app : String) :
    (heirLabels app)["app.kubernetes.io/name"]? = some app := by
  rw [heirLabels, GoMap.getElem?_insert, if_neg (by decide), GoMap.getElem?_insert, if_pos rfl]

theorem heirLabels_disjoint {a b : String} (hab : a ≠ b) (labels : GoMap String) :
    ¬ (Selects (heirLabels a) labels ∧ Selects (heirLabels b) labels) := by
  rintro ⟨ha, hb⟩
  have h₁ := ha _ _ (heirLabels_name a)
  have h₂ := hb _ _ (heirLabels_name b)
  exact hab (Option.some.inj (h₁.symm.trans h₂))

/-! ## The main result -/

/-- All that `Reconcile` of a Runtime changes in any cluster has one of the given names. -/
def WritesWithin (r : Runtime) (keys : List (Kind × String)) : Prop :=
  ∀ libs wrkCtx d c t x c', c.runtime = some r →
    Exec (server d) (reconcile libs wrkCtx r.metadata.key).run c t x c' →
      ∀ k key, c'.lookup k key ≠ c.lookup k key → key.ns = r.ns ∧ (k, key.name) ∈ keys

theorem writesWithin_objectKeys (r : Runtime) :
    WritesWithin r (objectKeys r.name) := by
  intro libs wrkCtx d c t x c' hr he k key hne
  have hframe : Framed r c c' := reconcile_framed libs wrkCtx _ (Framed.refl hr) he
  rcases hframe.kept k key with heq | hw
  · exact absurd heq hne
  · exact ⟨hw.1, hw.2.1⟩

/-- Two Runtimes of one namespace keep apart: no object has a name of both, and no pod is
selected by workloads of both. -/
def Isolated (o : Orders) (wrkCtx : WorkerContext) (opts : DeployOpts)
    (r₁ r₂ : Runtime) : Prop :=
  (∀ p ∈ objectKeys r₁.name, p ∉ objectKeys r₂.name) ∧
  ∀ s₁ ∈ podSelectors o wrkCtx opts r₁, ∀ s₂ ∈ podSelectors o wrkCtx opts r₂, ∀ labels,
    ¬ (Selects s₁ labels ∧ Selects s₂ labels)

theorem not_isolated_of_extends {m n : String} (h : Extends m n) :
    ∃ p ∈ objectKeys m, p ∈ objectKeys n := by
  obtain ⟨s, hs, hn⟩ := h
  obtain ⟨k, hk⟩ := exists_suffixesOf hs
  refine ⟨(k, n), mem_objectKeys.mpr ⟨s, hk, hn⟩, mem_objectKeys.mpr ⟨"", empty_mem_suffixesOf k, ?_⟩⟩
  exact String.append_empty.symm

/-- **Isolation by name.** A reconciliation writes under the names of `objectKeys` only, and two
Runtimes are isolated exactly when their names differ and neither is the other with a suffix. -/
theorem isolated_iff (o : Orders) (wrkCtx : WorkerContext) (opts : DeployOpts)
    (r₁ r₂ : Runtime) :
    (WritesWithin r₁ (objectKeys r₁.name) ∧ WritesWithin r₂ (objectKeys r₂.name)) ∧
    (Isolated o wrkCtx opts r₁ r₂ ↔
      r₁.name ≠ r₂.name ∧ ¬ Extends r₁.name r₂.name ∧ ¬ Extends r₂.name r₁.name) := by
  refine ⟨⟨writesWithin_objectKeys r₁, writesWithin_objectKeys r₂⟩, fun h => ⟨?_, ?_, ?_⟩, ?_⟩
  · intro heq
    have hmem : (Kind.configMap, r₁.name) ∈ objectKeys r₁.name := by simp [objectKeys]
    exact h.1 _ hmem (heq ▸ hmem)
  · intro hext
    obtain ⟨p, h₁, h₂⟩ := not_isolated_of_extends hext
    exact h.1 p h₁ h₂
  · intro hext
    obtain ⟨p, h₂, h₁⟩ := not_isolated_of_extends hext
    exact h.1 p h₁ h₂
  · rintro ⟨hne, h₁₂, h₂₁⟩
    have hdisj : ∀ p ∈ objectKeys r₁.name, p ∉ objectKeys r₂.name := by
      rintro ⟨k, x⟩ hx₁ hx₂
      obtain ⟨s, hs, rfl⟩ := mem_objectKeys.mp hx₁
      obtain ⟨t, ht, heq⟩ := mem_objectKeys.mp hx₂
      rcases append_suffix_cases (suffixesOf_cases hs) (suffixesOf_cases ht) heq with h | h | h
      · exact hne h
      · exact h₁₂ h
      · exact h₂₁ h
    refine ⟨hdisj, fun s₁ hs₁ s₂ hs₂ labels => ?_⟩
    obtain ⟨a, ha, rfl⟩ := mem_podSelectors hs₁
    obtain ⟨b, hb, rfl⟩ := mem_podSelectors hs₂
    refine heirLabels_disjoint (fun hab => ?_) labels
    exact hdisj _ ha (hab ▸ hb)

/-- The Deployment of the Runtime `a-tunnel` is the plane tunnel of the Runtime `a`. -/
theorem tunnel_name_not_isolated :
    ¬ Isolated (fun _ => default) newWorkerContextWithDefaults [] (.minimal "a" "default")
      (.minimal "a-tunnel" "default") := by
  intro h
  have hmem : (Kind.deployment, "a-tunnel") ∈ objectKeys "a" ∧
      (Kind.deployment, "a-tunnel") ∈ objectKeys "a-tunnel" := by decide
  exact h.1 _ hmem.1 hmem.2

end Heir.Controller.Runtime
