import Heir.Controller.Runtime.Success

set_option autoImplicit false

/-! # Nil pointers and nil maps in a reconciliation

Two expressions of the Runtime controller take for granted that something is there. `GenerateDeployment`
reads the name of the kine data source through a pointer that may be nil, and
`setupControlPlaneConfiguration` assigns to the annotations of a stored ConfigMap, which are a nil
map when it has none. A third one, the assignment to the data of the PKI Secret, is protected by the
signer: it fails without a certificate authority, and an empty Secret has none.

`Safely` carries the absence of such panics through `Reconcile`: where the first two expressions
find what they need (`NilGuarded`), there is none (`NilGuarded.reconcile`).
-/

namespace Heir.Controller.Runtime

open Heir.ControlPlane Heir.Core Heir.Runtime Interact

/-! ## Panics -/

/-- The texts of the panics about nil pointers and nil maps. -/
def nilPanics : List String :=
  ["invalid memory address or nil pointer dereference", "assignment to entry in nil map"]

/-- The function did not end with such a panic. -/
def NilSafe {α : Type} (r : Except Fault α) : Prop := ∀ t ∈ nilPanics, r ≠ .error (.panic t)

theorem NilSafe.ok {α : Type} (a : α) : NilSafe (.ok a : Except Fault α) :=
  fun _ _ h => by cases h

theorem NilSafe.error {α : Type} (e : GoError) : NilSafe (.error (.error e) : Except Fault α) :=
  fun _ _ h => by cases h

theorem NilSafe.pass {α β : Type} {f : Fault} (h : NilSafe (.error f : Except Fault α)) :
    NilSafe (.error f : Except Fault β) := by
  intro t ht heq
  cases heq
  exact h t ht rfl

/-! ## The server -/

/-- The signer fails without the certificate of an authority. -/
def SignsWithAuthority : (op : Call) → op.Answer → Prop
  | .signCSR ca _ _, .ok _ => ca.cert ≠ []
  | _, _ => True

/-- The server of the management cluster, with such a signer. -/
def signingServer (d : Defaulting) : Server sig Cluster :=
  fun op c x c' => server d op c x c' ∧ SignsWithAuthority op x

/-- An assertion about the cluster: writes of objects of such kinds keep it, and so does an update of
the Runtime's status. -/
structure Undisturbed (kind : Kind → Prop) (I : Cluster → Prop) : Prop where
  put : ∀ k : Kind, kind k → ∀ (o : Obj k) (c : Cluster), I c → I (c.put k o)
  status : ∀ (c : Cluster) (s : Runtime) (status : RuntimeStatus) (version : Nat),
    c.runtime = some s → I c → I { c with
      runtime := some { s with
        status := status
        metadata.resourceVersion := version }
      version := version }

theorem undisturbed_true : Undisturbed (fun _ => True) (fun _ => True) :=
  ⟨fun _ _ _ _ _ => trivial, fun _ _ _ _ _ _ => trivial⟩

/-- The answers, where the Runtimes that are fetched satisfy `T`. -/
def Signs (T : Runtime → Prop) : (op : Call) → op.Answer → Prop
  | .signCSR ca _ _, .ok _ => ca.cert ≠ []
  | .getRuntime _, .ok r => T r
  | _, _ => True

/-- Objects of such kinds are written, and nothing ends with a nil panic. -/
def nilSetting (kind : Kind → Prop) (T : Runtime → Prop) : Setting where
  ans := Signs T
  kind := kind
  fault := fun f => NilSafe (.error f : Except Fault Unit)
  error := .error
  signed := Or.inr fun _ _ _ _ h => h

/-- What is written is of such a kind. -/
def WritesKind (kind : Kind → Prop) : Call → Prop
  | .create k _ => kind k
  | .update k _ => kind k
  | _ => True

theorem IsSetup.writesKind {s : Setting} {r : Runtime} {op : Call} (h : IsSetup s r op) :
    WritesKind s.kind op := by
  cases op with
  | create k o | update k o => exact h.1
  | _ => trivial

theorem signs_of_server {T : Runtime → Prop} {d : Defaulting} {op : Call} {x : op.Answer}
    {c c' : Cluster} (hT : ∀ r, c.runtime = some r → T r) (h : signingServer d op c x c') :
    Signs T op x := by
  cases op with
  | signCSR ca csr expiry =>
      cases x with
      | ok cert => exact h.2
      | error e => trivial
  | getRuntime key =>
      cases x with
      | ok r => exact hT r (server_getRuntime_ok h.1).1
      | error e => trivial
  | _ => trivial

theorem Undisturbed.call {kind : Kind → Prop} {I : Cluster → Prop} (hI : Undisturbed kind I)
    {d : Defaulting} {op : Call} {x : op.Answer} {c c' : Cluster} (hop : WritesKind kind op)
    (hc : I c) (h : server d op c x c') : I c' := by
  cases op with
  | create k o =>
      rcases server_create_cases h with ⟨-, -, rfl⟩ | ⟨-, rfl⟩
      · exact hI.put k hop _ _ hc
      · exact hc
  | update k o =>
      rcases server_update_cases h with ⟨s, -, -, -, rfl⟩ | ⟨-, rfl⟩
      · exact hI.put k hop _ _ hc
      · exact hc
  | updateRuntimeStatus r =>
      rcases server_status_cases h with rfl | ⟨s, hs, rfl⟩
      · exact hc
      · exact hI.status _ _ _ _ hs hc
  | _ =>
      rw [server_read (by trivial) h]
      exact hc

/-! ## Safe programs -/

section Safely

variable (d : Defaulting) (I : Cluster → Prop)

/-- The program keeps the assertion, ends without a nil panic, and its results satisfy `R`. -/
def Safely {α : Type} (p : Go α) (R : α → Prop) : Prop :=
  ∀ c, I c → p.run.wp (signingServer d)
    (fun r c' => I c' ∧ NilSafe r ∧ ∀ a, r = .ok a → R a) c

variable {d I}

namespace Safely

variable {α β : Type} {R : α → Prop} {R' : β → Prop}

theorem of_asks {kind : Kind → Prop} {T : Runtime → Prop} {P : Call → Prop} {p : Go α}
    (hI : Undisturbed kind I) (hT : ∀ c r, I c → c.runtime = some r → T r)
    (hP : ∀ op, P op → WritesKind kind op) (hp : Asks (nilSetting kind T) P p R) :
    Safely d I p R := by
  intro c hc
  refine Prog.wp.mono (hp.wp (fun op c x c' hop hc h =>
    ⟨signs_of_server (fun r hr => hT c r hc hr) h, hI.call (hP op hop) hc h.1⟩) hc)
    fun x c' ⟨hc', hx⟩ => ⟨hc', ?_⟩
  cases x with
  | ok a =>
      refine ⟨.ok a, fun b hb => ?_⟩
      cases hb
      exact hx
  | error f => exact ⟨hx.pass, fun b hb => by cases hb⟩

theorem of_asks_any {p : Go α}
    (hp : Asks (nilSetting (fun _ => True) (fun _ => True)) (WritesKind fun _ => True) p R) :
    Safely d (fun _ => True) p R :=
  of_asks undisturbed_true (fun _ _ _ _ => trivial) (fun _ h => h) hp

end Safely

end Safely

/-! ## The two unguarded expressions -/

section Guards

variable (libs : Libs) (r : Runtime) (cm : Option ConfigMap)

/-- The generated configuration, for some iteration orders. -/
def Generates (hash : String) : Prop :=
  ∃ o desired, generateControlPlaneConfig libs.toYaml libs.sha256 o r layout = .ok (desired, hash)

/-- Where the two expressions are evaluated, they find what they need: a stored ConfigMap without
annotations has the hash of every configuration that may be generated, and kine comes with a
reference to its data source. -/
structure NilGuarded : Prop where
  annotations : ∀ existing hash, cm = some existing → existing.metadata.annotations.isEmpty = true →
    Generates libs r hash → hashConfigData libs.sha256 existing.data = hash
  dataSource : (∃ hash, Generates libs r hash) → ∀ kine, r.spec.cluster.storage.type = .kine →
    r.spec.cluster.storage.kine = some kine → kine.dataSourceRef ≠ none

/-- A copy of the Runtime, perhaps with another status. -/
def CopyOf (s : Runtime) : Prop :=
  ∃ status version, s = { r with
    status := status
    metadata.resourceVersion := version }

/-- The stored Runtime is a copy of `r`, and its ConfigMap is `cm`. -/
def Holds (c : Cluster) : Prop :=
  (∀ s, c.runtime = some s → CopyOf r s) ∧ c.lookup .configMap r.metadata.key = cm

variable {libs r cm}

theorem CopyOf.refl (r : Runtime) : CopyOf r r := ⟨r.status, _, rfl⟩

theorem CopyOf.key {s : Runtime} (h : CopyOf r s) : s.metadata.key = r.metadata.key := by
  obtain ⟨status, version, rfl⟩ := h
  rfl

theorem CopyOf.generate {s : Runtime} (h : CopyOf r s) (o : Orders) :
    generateControlPlaneConfig libs.toYaml libs.sha256 o s layout =
      generateControlPlaneConfig libs.toYaml libs.sha256 o r layout := by
  obtain ⟨status, version, rfl⟩ := h
  rfl

theorem undisturbed_holds : Undisturbed (· ≠ .configMap) (Holds r cm) where
  put := by
    rintro k hk o c ⟨hr, hcm⟩
    refine ⟨fun s hs => hr s ((c.put_runtime k o).symm.trans hs), ?_⟩
    rw [c.lookup_put_of_ne o fun h => hk h.1.symm]
    exact hcm
  status := by
    rintro c s status version hs ⟨hr, hcm⟩
    refine ⟨fun s' hs' => ?_, hcm⟩
    cases hs'
    obtain ⟨_, _, rfl⟩ := hr s hs
    exact ⟨status, version, rfl⟩

theorem liftError_nilSafe {α : Type} (x : Except GoError α) : NilSafe (liftError x) := by
  cases x with
  | ok a => exact .ok a
  | error e => exact .error e

theorem NilSafe.bind {α β : Type} {x : GoResult α} {f : α → GoResult β} (hx : NilSafe x)
    (hf : ∀ a, NilSafe (f a)) : NilSafe (x >>= f) := by
  cases x with
  | ok a => exact hf a
  | error e => exact hx.pass

/-- A failed type assertion is another kind of panic. -/
theorem createNodeProfileManifest_nilSafe (yaml : Yaml) (wrkCtx : WorkerContext) :
    NilSafe (createNodeProfileManifest yaml wrkCtx r) := by
  have hother : ∀ {α : Type} {t : String}, t ∉ nilPanics →
      NilSafe (.error (.panic t) : GoResult α) := by
    intro α t ht t' ht' h
    cases h
    exact ht ht'
  unfold createNodeProfileManifest
  refine (liftError_nilSafe _).bind fun cfg => (liftError_nilSafe _).bind fun doc => ?_
  refine NilSafe.bind ?_ fun data => ?_
  · unfold documentData
    split
    · exact .ok _
    · exact hother (by decide)
  · split
    · exact liftError_nilSafe _
    · split
      · split
        · exact .error _
        · exact liftError_nilSafe _
      · exact hother (by decide)

theorem generateControlPlaneConfig_nilSafe (o : Orders) :
    NilSafe (generateControlPlaneConfig libs.toYaml libs.sha256 o r layout) := by
  unfold generateControlPlaneConfig
  exact (createNodeProfileManifest_nilSafe _ _).bind fun _ => .ok _

theorem storageEnv_nilSafe_iff (storage : StorageSpec) : NilSafe (storageEnv storage) ↔
    ∀ kine, storage.type = .kine → storage.kine = some kine → kine.dataSourceRef ≠ none := by
  rcases storage with ⟨_ | _, _ | ⟨_ | ref⟩⟩
  · exact iff_of_true (.ok _) fun _ h => by cases h
  · exact iff_of_true (.ok _) fun _ h => by cases h
  · exact iff_of_true (.ok _) fun _ h => by cases h
  · exact iff_of_true (.ok _) fun _ _ h => by cases h
  · refine iff_of_false (fun h => ?_) fun h => h _ rfl rfl rfl
    exact h "invalid memory address or nil pointer dereference" (by decide) rfl
  · refine iff_of_true ?_ ?_
    · show NilSafe (if ref.name = "" then _ else _)
      split
      · exact .ok _
      · exact .ok _
    · rintro _ - ⟨⟩
      exact Option.some_ne_none ref

/-! ## The whole reconciliation -/

variable {d : Defaulting}

/-- As `Safely`, from one cluster and with nothing kept. -/
def SafelyAt {α : Type} (d : Defaulting) (c : Cluster) (p : Go α) (R : α → Prop) : Prop :=
  p.run.wp (signingServer d) (fun x _ => NilSafe x ∧ ∀ a, x = .ok a → R a) c

namespace SafelyAt

variable {α β : Type} {R : α → Prop} {R' : β → Prop} {c : Cluster}

theorem bind {p : Go α} {f : α → Go β} (hp : SafelyAt d c p R)
    (hf : ∀ a, R a → Safely d (fun _ => True) (f a) R') : SafelyAt d c (p >>= f) R' := by
  rw [SafelyAt, Prog.wp_run_bind]
  refine Prog.wp.mono hp fun x c' hx => ?_
  cases x with
  | ok a => exact Prog.wp.mono (hf a (hx.2 a rfl) c' trivial) fun y _ hy => hy.2
  | error f => exact ⟨hx.1.pass, fun b hb => by cases hb⟩

theorem orDegraded (reason : String) {p : Go α} (hp : SafelyAt d c p R) :
    SafelyAt d c (Runtime.orDegraded r reason p) R := by
  have hattempt : SafelyAt d c (Go.attempt p) (fun x => NilSafe x ∧ ∀ a, x = .ok a → R a) := by
    have hrun : (Go.attempt p).run = p.run >>= fun x => Prog.ret (.ok x) := rfl
    rw [SafelyAt, hrun, Prog.wp_bind]
    refine Prog.wp.mono hp fun x c' hx => ⟨.ok x, fun y hy => ?_⟩
    cases hy
    exact hx
  refine hattempt.bind fun x hx => .of_asks_any ?_
  rcases x with (e | t) | a
  · exact (Asks.call trivial).bind fun _ _ => .fail _
  · exact .ofResult hx.1.pass
  · exact .ret (hx.2 a rfl)

end SafelyAt

theorem Safely.safelyAt {α : Type} {R : α → Prop} {p : Go α} (h : Safely d (fun _ => True) p R)
    (c : Cluster) : SafelyAt d c p R :=
  Prog.wp.mono (h c trivial) fun _ _ hx => hx.2

/-- After a safe program the rest starts where the assertion holds. -/
theorem Safely.andThen {α β : Type} {I : Cluster → Prop} {R : α → Prop} {R' : β → Prop} {c : Cluster}
    {p : Go α} {f : α → Go β} (hp : Safely d I p R) (hc : I c)
    (hf : ∀ a c', R a → I c' → SafelyAt d c' (f a) R') : SafelyAt d c (p >>= f) R' := by
  rw [SafelyAt, Prog.wp_run_bind]
  refine Prog.wp.mono (hp c hc) fun x c' hx => ?_
  obtain ⟨hc', hsafe, hR⟩ := hx
  cases x with
  | ok a => exact hf a c' (hR a rfl) hc'
  | error f => exact ⟨hsafe.pass, fun b hb => by cases hb⟩

/-- A function that leaves ConfigMaps alone keeps what `Holds` says. -/
theorem holds_safely {α : Type} {R : α → Prop} {p : Go α}
    (hp : Asks (nilSetting (· ≠ .configMap) (CopyOf r)) (WritesKind (· ≠ .configMap)) p R) :
    Safely d (Holds r cm) p R :=
  .of_asks undisturbed_holds (fun _ s hc hs => hc.1 s hs) (fun _ h => h) hp

theorem setup_safely {α : Type} {R : α → Prop} {s : Runtime} {p : Go α}
    (hp : Setup (nilSetting (· ≠ .configMap) (CopyOf r)) s p R) : Safely d (Holds r cm) p R :=
  holds_safely (hp.mono (fun _ => IsSetup.writesKind) fun _ h => h)

variable {s : Runtime} {c : Cluster}

theorem setupControlPlaneConfiguration_safelyAt (h : NilGuarded libs r cm) (hs : CopyOf r s)
    (hc : Holds r cm c) :
    SafelyAt d c (setupControlPlaneConfiguration libs s) (fun _ => ∃ hash, Generates libs r hash) := by
  unfold setupControlPlaneConfiguration
  refine (holds_safely (p := Go.call .ranges) (.call trivial)).andThen hc fun ranges c' _ hc' => ?_
  have hsafe : NilSafe (generateControlPlaneConfig libs.toYaml libs.sha256 ranges.strings r layout) :=
    generateControlPlaneConfig_nilSafe ranges.strings
  rw [hs.generate]
  cases hgen : generateControlPlaneConfig libs.toYaml libs.sha256 ranges.strings r layout with
  | error f =>
      rw [hgen] at hsafe
      exact ⟨hsafe.pass, fun a ha => by cases ha⟩
  | ok p =>
      obtain ⟨desired, hash⟩ := p
      have hgenerates : Generates libs r hash := ⟨_, desired, hgen⟩
      have hkey := (generateControlPlaneConfig_shape libs r hgen).1
      show SafelyAt d c' (getOrElse .configMap desired.metadata.key _ _) _
      rw [hkey]
      refine wp_getOrElse_view cm (fun _ _ hget => ?_) (fun hnone => ?_) (fun existing hl => ?_)
        (fun e => ⟨.error e, fun a ha => by cases ha⟩)
      · have hget' := server_get_view hget.1
        rw [hc'.2] at hget'
        exact hget'
      · -- the new ConfigMap has annotations of its own
        refine Safely.safelyAt (.of_asks_any ?_) c'
        refine (Asks.setControllerRef s .configMap desired).bind fun desired' _ => ?_
        exact (Asks.createObj trivial).bind fun _ _ => .ret ⟨hash, hgenerates⟩
      · refine Safely.safelyAt (.of_asks_any ?_) c'
        split
        · dsimp only
          split
          · exact .ret ⟨hash, hgenerates⟩
          next hdiff =>
            -- the data differs, so the ConfigMap must have annotations
            have hannotated : existing.metadata.annotations.isEmpty ≠ true := fun hempty =>
              hdiff (h.annotations existing hash hl hempty hgenerates)
            unfold updateConfigMap assignDecoded
            rw [if_neg hannotated, Go.ofResult_ok_bind]
            exact (Asks.updateObj trivial).bind fun _ _ => .ret ⟨hash, hgenerates⟩
        · exact .fail _

theorem generateDeployment_nilSafe (o : Orders) (opts : DeployOpts)
    (h : NilSafe (storageEnv s.spec.cluster.storage)) :
    NilSafe (generateDeployment o s layout opts) := by
  unfold generateDeployment
  dsimp only
  refine NilSafe.bind h ?_
  intro env
  exact NilSafe.ok _

/-- A Deployment is generated once the configuration was, so the reference is there. -/
theorem generateDeployment_fault (h : NilGuarded libs r cm) (hs : CopyOf r s)
    (hgen : ∃ hash, Generates libs r hash) {o : Orders} {opts : DeployOpts} {f : Fault}
    (hf : generateDeployment o s layout opts = .error f) :
    NilSafe (.error f : Except Fault Unit) := by
  have hstorage : NilSafe (storageEnv s.spec.cluster.storage) := by
    obtain ⟨_, _, rfl⟩ := hs
    exact (storageEnv_nilSafe_iff _).mpr (h.dataSource hgen)
  have hsafe := generateDeployment_nilSafe o opts hstorage
  rw [hf] at hsafe
  exact hsafe.pass

theorem setupAll_safelyAt (wrkCtx : WorkerContext) (h : NilGuarded libs r cm) (hs : CopyOf r s)
    (hc : Holds r cm c) : SafelyAt d c (setupAll libs wrkCtx s) (fun _ => True) := by
  have hsecret : Kind.secret ≠ .configMap := by decide
  have hdeployment : Kind.deployment ≠ .configMap := by decide
  unfold setupAll
  -- four functions that leave the ConfigMap alone
  refine (setup_safely (setupPKIAuthConfiguration_setup libs hsecret).orDegraded).andThen hc
    fun pkiSecret c₁ _ hc₁ => ?_
  refine (setup_safely (setupClientKubeconfig_setup libs hsecret).orDegraded).andThen hc₁
    fun _ c₂ _ hc₂ => ?_
  refine (setup_safely (setupClusterAgentRuntimeSecret_setup libs hsecret).orDegraded).andThen hc₂
    fun agentHash c₃ _ hc₃ => ?_
  refine (setup_safely (setupClusterAgentDeployment_setup hdeployment _).orDegraded).andThen hc₃
    fun _ c₄ _ hc₄ => ?_
  refine (SafelyAt.orDegraded _ (setupControlPlaneConfiguration_safelyAt h hs hc₄)).bind
    fun configHash hgen => .of_asks_any ?_
  -- from here on nothing is read that could be missing, but for the data source
  refine Asks.mono (?_ : Setup (nilSetting (fun _ => True) (fun _ => True)) s _ _)
    (fun _ => IsSetup.writesKind) fun _ h => h
  refine (setupDeployment_setup trivial _ fun _ _ hf => generateDeployment_fault h hs hgen hf).orDegraded.bind
    fun _ _ => ?_
  refine (setupService_setup trivial).orDegraded.bind fun _ _ => ?_
  refine (setupPlaneTunnelService_setup wrkCtx trivial).orDegraded.bind fun _ _ => ?_
  exact (setupPlaneTunnelDeployment_setup wrkCtx trivial _).orDegraded.bind fun _ _ => .ret trivial

theorem NilGuarded.reconcile (wrkCtx : WorkerContext) (req : NamespacedName)
    (h : NilGuarded libs r cm) (hc : Holds r cm c) :
    SafelyAt d c (reconcile libs wrkCtx req) (fun _ => True) := by
  unfold Runtime.reconcile
  have hfetch : Safely d (Holds r cm) (Go.call (.getRuntime req)) (fun x => ∀ s, x = .ok s →
      CopyOf r s) := by
    refine holds_safely ((Asks.call trivial).mono (fun _ h => h) fun x hx s hs => ?_)
    rw [hs] at hx
    exact hx
  refine hfetch.andThen hc fun x c₁ hx hc₁ => ?_
  cases x with
  | error e =>
      dsimp only
      split
      · exact ⟨.ok (), fun _ _ => trivial⟩
      · exact ⟨.error e, fun _ _ => trivial⟩
  | ok s =>
      have hprepare : Safely d (Holds r cm) (prepare req s) (CopyOf r) :=
        holds_safely (prepare_asks (fun _ h => h) trivial (fun _ => trivial) (hx s rfl))
      refine hprepare.andThen hc₁ fun s' c₂ hs' hc₂ => ?_
      refine (setupAll_safelyAt wrkCtx h hs' hc₂).bind fun pkiSecret _ => .of_asks_any ?_
      exact (Asks.call trivial).bind fun _ _ =>
        finish_asks (T := fun _ => True) (fun _ _ => trivial) trivial (fun _ => trivial) libs pkiSecret

end Guards

end Heir.Controller.Runtime
