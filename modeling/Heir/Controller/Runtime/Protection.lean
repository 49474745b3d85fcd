import Heir.Controller.Runtime.Writes
import Heir.Provision.Delete

set_option autoImplicit false

/-! # Deletion protection under reconciliation

A user protects one of the four objects that `Delete` handles by setting its deletion-protection
annotation to `true`. The setup functions treat the annotations of an existing object in three ways:
those of a Deployment, and of the Secrets and Services with other names, are not those of the
watched object or are kept; those of the ConfigMap and of the PKI Secret get further entries; and
those of the control plane's Service are replaced by the generated ones, which say `false` unless
the specification says otherwise.

So the protection of the Service lasts as long as the specification asks for it, and the protection
of the other three lasts (`protection_survives`).
-/

namespace Heir.Controller.Runtime

open Heir.ControlPlane Heir.Core Heir.Runtime Interact
open Heir.Provision (isProtected annotationDeletionProtection Protected Guarded Undisturbed deletion
  deletion_keeps protected_iff isManaged)

/-- The specification asks for the protection of the Service. -/
def declaresProtection (runtime : Runtime) : Bool :=
  isProtected runtime.spec.controlPlane.service.additionalMetadata.annotations

/-! ## Annotations -/

theorem isProtected_iff (annotations : GoMap String) :
    isProtected annotations = true ↔ annotations[annotationDeletionProtection]? = some "true" := by
  rw [isProtected, beq_iff_eq, Std.ExtTreeMap.getD_eq_getD_getElem?]
  cases annotations[annotationDeletionProtection]? with
  | none => decide
  | some v => simp

/-- The protection is not one of the annotations the controller uses itself. -/
theorem KeepsAnnotations.isProtected {before after : GoMap String}
    (h : KeepsAnnotations before after) (hb : isProtected before = true) :
    isProtected after = true := by
  rw [isProtected_iff] at hb ⊢
  exact h _ _ (by decide) hb

section Watch

variable (k₀ : Kind) (key₀ : NamespacedName)

/-! ## Calls that keep the protection -/

/-- Answers from a cluster in which the watched object is protected and, if it is the Service, the
specification asks for it. -/
def Reads : (op : Call) → op.Answer → Prop
  | .get k key, x => ∀ o, x = .ok o →
      (Obj.getMeta k o).key = key ∧ Guarded k₀ key₀ k (Obj.getMeta k o)
  | .getRuntime key, x => ∀ r, x = .ok r →
      r.metadata.key = key ∧ (k₀ = .service → declaresProtection r = true)
  | _, _ => True

/-- The call does not take the protection away. -/
def Keeps : Call → Prop
  | .update k o => Guarded k₀ key₀ k (Obj.getMeta k o)
  | _ => True

def watchSetting : Setting := { Setting.any with ans := Reads k₀ key₀ }

variable {k₀ key₀}

theorem IsSetup.keeps {r : Runtime} (hkey : r.metadata.key = key₀)
    (hr : k₀ = .service → declaresProtection r = true) {op : Call}
    (h : IsSetup (watchSetting k₀ key₀) r op) : Keeps k₀ key₀ op := by
  cases op with
  | update k o =>
      obtain ⟨-, key, existing, hread, hu⟩ := h
      obtain ⟨hfound, hguard⟩ := hread existing rfl
      intro hk ho
      have hexisting : (Obj.getMeta k existing).key = key₀ := hu.relabelled.key.symm.trans ho
      rcases hu.annotates with hkept | ⟨hservice, hdeclared⟩
      · exact hkept.isProtected (hguard hk hexisting)
      · refine (hdeclared ?_).isProtected (hr (hk.symm.trans hservice))
        exact hfound.symm.trans (hexisting.trans hkey.symm)
  | _ => trivial

variable (k₀ key₀) in
theorem reconcile_keeps (libs : Libs) (wrkCtx : WorkerContext) :
    Asks (watchSetting k₀ key₀) (Keeps k₀ key₀) (reconcile libs wrkCtx key₀) (fun _ => True) := by
  refine reconcile_asks (s := watchSetting k₀ key₀)
    (T := fun r => r.metadata.key = key₀ ∧ (k₀ = .service → declaresProtection r = true))
    (fun r h => h r rfl) trivial (fun _ => trivial) libs wrkCtx (fun _ => trivial) fun r hr => ?_
  exact (setupAll_setup libs wrkCtx (fun _ => trivial) fun _ => trivial).mono
    (fun _ => IsSetup.keeps hr.1 hr.2) fun _ h => h

/-! ## Every run -/

/-- The controller reconciles one Runtime again and again. Between any two of its calls others may
do anything to the cluster. -/
def upkeep (libs : Libs) (wrkCtx : WorkerContext) (d : Defaulting) (req : NamespacedName) :
    Machine sig (Except Fault Unit) Cluster Choice (Cluster → Cluster) where
  prog := (reconcile libs wrkCtx req).run
  respond := respond d
  act := fun change c => some (change c)
  enter := id
  leave := fun _ c => c

variable (k₀) in
/-- Whenever the Runtime is fetched and the Service is watched, the specification asks for the
protection of the Service. -/
def Declared (c : Cluster) : Label sig (Except Fault Unit) Cluster → Prop
  | .call (.getRuntime _) _ => k₀ = .service → c.runtime.all declaresProtection = true
  | _ => True

instance (c : Cluster) (l : Label sig (Except Fault Unit) Cluster) : Decidable (Declared k₀ c l) :=
  match l with
  | .call (.getRuntime _) _ => inferInstanceAs (Decidable (_ → _))
  | .call (.get _ _) _ | .call (.create _ _) _ | .call (.update _ _) _
  | .call (.updateRuntimeStatus _) _ | .call .generateSelfSignedCert _ | .call (.signCSR _ _ _) _
  | .call (.verifyCertificate _ _ _) _ | .call .ranges _ | .call (.built _) _
  | .enter | .leave _ | .env _ => .isTrue trivial

variable {libs : Libs} {wrkCtx : WorkerContext} {d : Defaulting}

theorem protected_put {c : Cluster} {k : Kind} {o : Obj k} (hc : Protected k₀ key₀ c)
    (ho : Guarded k₀ key₀ k (Obj.getMeta k o)) : Protected k₀ key₀ (c.put k o) := by
  by_cases hk : k₀ = k ∧ key₀ = (Obj.getMeta k o).key
  · obtain ⟨rfl, hkey⟩ := hk
    refine protected_iff.mpr ⟨o, ?_, ho rfl hkey.symm⟩
    rw [hkey]
    exact c.lookup_put_self k₀ o
  · exact hc.congr (c.lookup_put_of_ne o hk)

theorem reads_of_server {op : Call} {c c' : Cluster} {x : op.Answer} (hc : Protected k₀ key₀ c)
    (hs : server d op c x c') (hdecl : Declared k₀ c (.call op x)) : Reads k₀ key₀ op x := by
  cases op with
  | get k key =>
      rintro o rfl
      have hl : c.lookup k key = some o := server_get_ok hs
      exact ⟨Cluster.lookup_key hl, hc.guarded hl⟩
  | getRuntime key =>
      rintro r rfl
      obtain ⟨hr, hkey⟩ := server_getRuntime_ok hs
      refine ⟨hkey, fun hk => ?_⟩
      have hall : c.runtime.all declaresProtection = true := hdecl hk
      rw [hr] at hall
      exact hall
  | _ => trivial

/-- One call keeps the protection: a creation finds the name taken, and an update sends a protected
object. -/
theorem protected_of_server {op : Call} {c c' : Cluster} {x : op.Answer} (hop : Keeps k₀ key₀ op)
    (hc : Protected k₀ key₀ c) (hs : server d op c x c') : Protected k₀ key₀ c' := by
  cases op with
  | create k o =>
      rcases server_create_cases hs with ⟨hnone, -, rfl⟩ | ⟨-, rfl⟩
      · refine protected_put hc fun hk hkey => ?_
        rw [d.stored_meta] at hkey
        obtain ⟨o', ho', -⟩ := protected_iff.mp hc
        subst hk
        rw [← hkey] at ho'
        exact absurd (hnone.symm.trans ho') (by simp)
      · exact hc
  | update k o =>
      rcases server_update_cases hs with ⟨s, -, -, -, rfl⟩ | ⟨-, rfl⟩
      · refine protected_put hc ?_
        rw [d.stored_meta]
        exact hop
      · exact hc
  | updateRuntimeStatus r =>
      rcases server_status_cases hs with rfl | ⟨s, -, rfl⟩
      · exact hc
      · refine hc.congr ?_
        cases k₀ <;> rfl
  | _ =>
      rw [server_read (by trivial) hs]
      exact hc

/-- **Deletion protection lasts.** Let an object that `Delete` handles be protected, and let the
controller reconcile the Runtime again and again while others change the cluster, the specification
included, but leave the protection in place. If the specification asks for the protection of the
Service whenever the Service is the watched object and the Runtime is fetched, then the object is
protected in every state reached, and no run of `Delete` from there removes it. -/
theorem protection_survives {req : NamespacedName} {c₀ : Cluster} (hc₀ : Protected k₀ req c₀)
    {s : State sig (Except Fault Unit) Cluster}
    (hrun : (upkeep libs wrkCtx d req).toSystem.Run
      (fun c l => Undisturbed k₀ req c l ∧ Declared k₀ c l) ⟨c₀, none⟩ s) :
    Protected k₀ req s.world ∧
      ∀ s', (deletion req.name req.ns).toSystem.Run (Undisturbed k₀ req) ⟨s.world, none⟩ s' →
        Protected k₀ req s'.world := by
  have hs : Protected k₀ req s.world := by
    refine System.run_of_all (M := (upkeep libs wrkCtx d req).toSystem) (A := Protected k₀ req)
      (reconcile_keeps k₀ req libs wrkCtx).all ?_ (fun _ _ _ hok h => hok.1 h) ?_
      (fun _ h => h) (fun _ _ h => h) rfl hc₀ hrun
    · exact fun op c x c' hc hserve hok => reads_of_server hc hserve hok.2
    · exact fun op c x c' hop hc hserve _ => protected_of_server hop hc hserve
  exact ⟨hs, fun s' hdel => deletion_keeps hs hdel⟩

end Watch

/-! ## A protected Service -/

/-- A user sets the annotation of an object. -/
def protect (k : Kind) (key : NamespacedName) (c : Cluster) : Cluster :=
  match c.lookup k key with
  | none => c
  | some o =>
      let m := Obj.getMeta k o
      c.put k (Obj.setMeta k o { m with
        annotations := m.annotations.insert annotationDeletionProtection "true"
        resourceVersion := c.version + 1 })

/-- A Runtime with these annotations for its Service. -/
def tenant (annotations : GoMap String) : Runtime :=
  { Runtime.minimal "tenant" "default" with
    spec.controlPlane.service.additionalMetadata.annotations := annotations }

def tenantKey : NamespacedName := ⟨"default", "tenant"⟩

/-- Libraries for short runs: the template of the worker profile, the one document the controller
parses, is known, and the digest tells nothing apart. -/
def tenantLibs : Libs :=
  let libs := sampleLibs (tenant ∅)
  { libs with
    toYaml.unmarshal := fun _ =>
      .ok (Worker.templateDocument (Worker.templateData (Worker.quotedConfig (tenant ∅))))
    sha256 := fun _ => "" }

/-- The controller for the Runtime `tenant`. -/
def tenantUpkeep : Machine sig (Except Fault Unit) Cluster Choice (Cluster → Cluster) :=
  upkeep tenantLibs newWorkerContextWithDefaults noDefaulting tenantKey

/-- A pass in which the calls are answered as given. -/
def passOf (calls : List Choice) : List (Machine.Act Choice (Cluster → Cluster)) :=
  [.enter] ++ calls.map .call ++ [.leave]

/-- The first pass, which creates all objects. -/
def creatingPass : List (Machine.Act Choice (Cluster → Cluster)) :=
  let sign : Choice := .certificate (.ok ⟨[], []⟩)
  let synced : List Choice := [.ranges ⟨fun _ => default, default⟩, .serve, .serve]
  passOf (
    [.serve, .serve, .serve] ++
    [.serve, sign, sign, sign, sign, sign, sign, sign, sign, .serve] ++
    [.serve, sign, .serve, .serve] ++
    synced ++ synced ++ synced ++ synced ++ synced ++
    [.serve, .serve, .serve, .serve, .serve, .serve] ++
    synced ++ [.serve, .serve, .serve])

/-- A later pass, which updates the client kubeconfig, since the libraries cannot load it, and the
Service. -/
def updatingPass : List (Machine.Act Choice (Cluster → Cluster)) :=
  let sign : Choice := .certificate (.ok ⟨[], []⟩)
  let found : List Choice := [.ranges ⟨fun _ => default, default⟩, .serve]
  passOf (
    [.serve, .serve, .serve, sign, .serve, .serve] ++
    found ++ found ++ found ++ found ++ found ++
    [.serve, .serve, .serve, .serve] ++
    found ++ [.serve, .serve, .serve])

/-- `Delete` of four unprotected objects. -/
def deletingPass : List (Machine.Act (Option String) (Cluster → Cluster)) :=
  .enter :: List.replicate 8 (.call none)

/-- The specification asks for the protection, and it is in place after the Service was set up. -/
theorem declared_service_protected :
    ∃ s, tenantUpkeep.toSystem.Run
        (fun c l => Undisturbed .service tenantKey c l ∧ Declared .service c l)
        ⟨protect .service tenantKey
          ((Cluster.withRuntime (tenant (mapOf [( annotationDeletionProtection, "true")]))).put .service
            (generateService (fun _ => default) (tenant ∅))), none⟩ s ∧
      s.running.isSome = true ∧ Protected .service tenantKey s.world ∧
      ∀ s', (deletion tenantKey.name tenantKey.ns).toSystem.Run (Undisturbed .service tenantKey)
        ⟨s.world, none⟩ s' → Protected .service tenantKey s'.world := by
  obtain ⟨s, hrun, hs⟩ := Machine.exists_run tenantUpkeep
    (fun c l => Undisturbed .service tenantKey c l ∧ Declared .service c l)
    ⟨protect .service tenantKey
      ((Cluster.withRuntime (tenant (mapOf [( annotationDeletionProtection, "true")]))).put .service
        (generateService (fun _ => default) (tenant ∅))), none⟩
    (creatingPass.take 32) (fun s => s.running.isSome) (by decide +kernel)
  exact ⟨s, hrun, hs, protection_survives (by decide +kernel) hrun⟩

/-- The protection of the Service is lost in the pass after it was set, and `Delete` removes the
Service. -/
theorem protected_service_deleted :
    ∃ s₁ s₂ s₃,
      tenantUpkeep.toSystem.Run (Undisturbed .service tenantKey)
        ⟨.withRuntime (tenant ∅), none⟩ s₁ ∧
      s₁.running = none ∧ Protected .service tenantKey s₁.world ∧
      tenantUpkeep.toSystem.Run (Undisturbed .service tenantKey) s₁ s₂ ∧
      ¬ Protected .service tenantKey s₂.world ∧
      (deletion tenantKey.name tenantKey.ns).toSystem.Run (Undisturbed .service tenantKey)
        ⟨s₂.world, none⟩ s₃ ∧
      s₃.world.lookup .service tenantKey = none := by
  obtain ⟨s₁, s₂, hrun₁, hrun₂, hQ⟩ := Machine.exists_run_run tenantUpkeep
    (Undisturbed .service tenantKey) ⟨.withRuntime (tenant ∅), none⟩
    (creatingPass ++ [.env (protect .service tenantKey)]) updatingPass
    (fun s₁ s₂ => s₁.running.isNone && decide (Protected .service tenantKey s₁.world) &&
      ! decide (Protected .service tenantKey s₂.world) &&
      ((deletion tenantKey.name tenantKey.ns).replay (Undisturbed .service tenantKey)
        ⟨s₂.world, none⟩ deletingPass).any
          (fun s₃ => (s₃.world.lookup .service tenantKey).isNone))
    (by decide +kernel)
  simp only [Bool.and_eq_true, Bool.not_eq_true', decide_eq_true_eq, decide_eq_false_iff_not,
    Option.isNone_iff_eq_none] at hQ
  obtain ⟨⟨⟨hnone, hprot⟩, hlost⟩, hdel⟩ := hQ
  obtain ⟨s₃, hrun₃, hs₃⟩ := Machine.exists_run (deletion tenantKey.name tenantKey.ns)
    (Undisturbed .service tenantKey) ⟨s₂.world, none⟩ deletingPass _ hdel
  exact ⟨s₁, s₂, s₃, hrun₁, hnone, hprot, hrun₂, hlost, hrun₃, Option.isNone_iff_eq_none.mp hs₃⟩

end Heir.Controller.Runtime
