import Heir.Controller.Runtime.Cluster

set_option autoImplicit false

/-! # Deleting a control plane

`Delete` removes the four objects that carry the name of a control plane: its Deployment, its
Service, its ConfigMap and its Secret. An object that is not labelled as managed by heir is left
alone, and so is one whose deletion-protection annotation is `true`.

A watched object that is protected, and that nobody else unprotects, is still there and protected
in every state of a run of `Delete` (`deletion_keeps`).
-/

namespace Heir.Provision

open Heir.ControlPlane Heir.Core Heir.Runtime Heir.Controller.Runtime Interact

def labelManagedBy : String := "app.kubernetes.io/managed-by"

def annotationDeletionProtection : String :=
  "controlplane.tardigrade.runtime.io/deletion-protection"

def isManaged (labels : GoMap String) : Bool := labels.getD labelManagedBy "" == "heir"

def isProtected (annotations : GoMap String) : Bool :=
  annotations.getD annotationDeletionProtection "" == "true"

/-! ## The command -/

/-- The calls of the Kubernetes client. -/
inductive Call where
  | get (k : Kind) (key : NamespacedName)
  | delete (k : Kind) (key : NamespacedName)

abbrev Call.Answer : Call → Type
  | .get k _ => Except GoError (Obj k)
  | .delete _ _ => Except GoError Unit

abbrev sig : Sig := ⟨Call, Call.Answer⟩

/-- A function of the command. -/
abbrev Cmd (α : Type) : Type := ExceptT GoError (Prog sig) α

def perform (op : Call) : Cmd op.Answer := ExceptT.lift (Prog.perform (S := sig) op)

def fail {α : Type} (e : GoError) : Cmd α := ExceptT.mk (Prog.ret (.error e))

/-- Delete one object, if it is there, managed and not protected. The two texts name the object in
the errors of the two calls. -/
def deleteObject (k : Kind) (what stored : String) (name ns : String) : Cmd Unit := do
  match ← perform (.get k ⟨ns, name⟩) with
  | .error e =>
      if e.reason = .notFound then return ()
      else fail (e.wrap ("failed to get " ++ what ++ " " ++ name))
  | .ok obj =>
      if ! isManaged (Obj.getMeta k obj).labels then return ()
      else if isProtected (Obj.getMeta k obj).annotations then return ()
      else
        match ← perform (.delete k ⟨ns, name⟩) with
        | .error e => fail (e.wrap ("failed to delete " ++ stored ++ " " ++ name))
        | .ok _ => return ()

def deleteDeployment : String → String → Cmd Unit :=
  deleteObject .deployment "deployment" "deployment"

def deleteService : String → String → Cmd Unit := deleteObject .service "service" "service"

def deleteConfigMap : String → String → Cmd Unit :=
  deleteObject .configMap "configmap" "cluster configuration storage"

def deleteSecret : String → String → Cmd Unit :=
  deleteObject .secret "secret" "PKI secret storage"

/-- `Delete`, once there is a client. -/
def delete (name ns : String) : Cmd Unit := do
  deleteDeployment name ns
  deleteService name ns
  deleteConfigMap name ns
  deleteSecret name ns

/-! ## What the API server does -/

/-- A function without a value at one place. -/
def erase {α : Type} (f : NamespacedName → Option α) (key : NamespacedName) :
    NamespacedName → Option α :=
  fun key' => if key' = key then none else f key'

theorem keyed_erase {α : Type} {getMeta : α → ObjectMeta} {f : NamespacedName → Option α}
    (h : Keyed getMeta f) (key : NamespacedName) : Keyed getMeta (erase f key) := by
  intro key' a ha
  rw [erase, Option.ite_none_left_eq_some] at ha
  exact h key' a ha.2

/-- The cluster without one object. -/
def remove (c : Cluster) (key : NamespacedName) : Kind → Cluster
  | .secret =>
      { c with secrets := erase c.secrets key, secrets_keyed := keyed_erase c.secrets_keyed key }
  | .configMap =>
      { c with
        configMaps := erase c.configMaps key
        configMaps_keyed := keyed_erase c.configMaps_keyed key }
  | .service =>
      { c with
        services := erase c.services key
        services_keyed := keyed_erase c.services_keyed key }
  | .deployment =>
      { c with
        deployments := erase c.deployments key
        deployments_keyed := keyed_erase c.deployments_keyed key }

theorem lookup_remove_of_ne (c : Cluster) {k k' : Kind} {key key' : NamespacedName}
    (h : ¬ (k' = k ∧ key' = key)) : (remove c key k).lookup k' key' = c.lookup k' key' := by
  cases k <;> cases k' <;> first
    | rfl
    | exact if_neg (fun he => h ⟨rfl, he⟩)

/-- The answer to a call, which is served or fails with a text. -/
def respond : (op : Call) → Option String → Cluster → Option (op.Answer × Cluster)
  | .get k key, none, c => some (serveGet k key c)
  | .get _ _, some text, c => some (.error (errorf text), c)
  | .delete k key, none, c =>
      match c.lookup k key with
      | some _ => some (.ok (), remove c key k)
      | none => some (.error (notFound key), c)
  | .delete _ _, some text, c => some (.error (errorf text), c)

/-- Runs of the command, between whose calls others may do anything to the cluster. -/
def deletion (name ns : String) :
    Machine sig (Except GoError Unit) Cluster (Option String) (Cluster → Cluster) where
  prog := (delete name ns).run
  respond := respond
  act := fun change c => some (change c)
  enter := id
  leave := fun _ c => c

theorem respond_get {k : Kind} {key : NamespacedName} {text : Option String} {c c' : Cluster}
    {x : Except GoError (Obj k)} (h : respond (.get k key) text c = some (x, c')) :
    c' = c ∧ ∀ o, x = .ok o → c.lookup k key = some o := by
  cases text with
  | some t =>
      cases h
      exact ⟨rfl, fun o ho => by cases ho⟩
  | none =>
      have hserve : serveGet k key c = (x, c') := Option.some.inj h
      rw [serveGet] at hserve
      split at hserve
      · next o hl =>
          cases hserve
          exact ⟨rfl, fun o' ho => by cases ho; exact hl⟩
      · cases hserve
        exact ⟨rfl, fun o ho => by cases ho⟩

theorem respond_delete {k : Kind} {key : NamespacedName} {text : Option String} {c c' : Cluster}
    {x : Except GoError Unit} (h : respond (.delete k key) text c = some (x, c')) :
    c' = c ∨ c' = remove c key k := by
  cases text with
  | some t =>
      cases h
      exact Or.inl rfl
  | none =>
      rw [respond] at h
      split at h
      · cases h
        exact Or.inr rfl
      · cases h
        exact Or.inl rfl

/-! ## Protected objects -/

section Watch

variable (k₀ : Kind) (key₀ : NamespacedName)

/-- The object is there and protected. -/
def Protected (c : Cluster) : Prop :=
  (c.lookup k₀ key₀).any (fun o => isProtected (Obj.getMeta k₀ o).annotations) = true

instance (c : Cluster) : Decidable (Protected k₀ key₀ c) :=
  inferInstanceAs (Decidable (_ = true))

/-- If this is the metadata of the watched object, it is protected. -/
def Guarded (k : Kind) (m : ObjectMeta) : Prop :=
  k = k₀ → m.key = key₀ → isProtected m.annotations = true

/-- Others leave the protection of the object in place. -/
def Undisturbed {S : Sig} {α : Type} (c : Cluster) : Label S α Cluster → Prop
  | .env c' => Protected k₀ key₀ c → Protected k₀ key₀ c'
  | _ => True

instance {S : Sig} {α : Type} (c : Cluster) (l : Label S α Cluster) :
    Decidable (Undisturbed k₀ key₀ c l) := by
  cases l <;> (unfold Undisturbed; infer_instance)

variable {k₀ key₀}

theorem protected_iff {c : Cluster} : Protected k₀ key₀ c ↔
    ∃ o, c.lookup k₀ key₀ = some o ∧ isProtected (Obj.getMeta k₀ o).annotations = true := by
  rw [Protected, Option.any_eq_true]

theorem Protected.congr {c c' : Cluster} (h : Protected k₀ key₀ c)
    (heq : c'.lookup k₀ key₀ = c.lookup k₀ key₀) : Protected k₀ key₀ c' := by
  rw [Protected, heq]
  exact h

/-- What is read from a cluster in which the watched object is protected. -/
theorem Protected.guarded {c : Cluster} {k : Kind} {key : NamespacedName} {o : Obj k}
    (h : Protected k₀ key₀ c) (hl : c.lookup k key = some o) :
    Guarded k₀ key₀ k (Obj.getMeta k o) := by
  rintro rfl hkey
  obtain ⟨o', hl', ho'⟩ := protected_iff.mp h
  rw [← hkey, Cluster.lookup_key hl, hl] at hl'
  cases hl'
  exact ho'

/-! ## The command spares them -/

/-- Answers from a cluster in which the watched object is protected. -/
def Reads (k₀ : Kind) (key₀ : NamespacedName) : (op : Call) → op.Answer → Prop
  | .get k key, x => ∀ o, x = .ok o →
      (Obj.getMeta k o).key = key ∧ Guarded k₀ key₀ k (Obj.getMeta k o)
  | .delete _ _, _ => True

/-- The call is not the deletion of the watched object. -/
def Spares (k₀ : Kind) (key₀ : NamespacedName) : Call → Prop
  | .get _ _ => True
  | .delete k key => ¬ (k = k₀ ∧ key = key₀)

section Spare

variable (k₀ : Kind) (key₀ : NamespacedName)

theorem perform_spares {op : Call} (h : Spares k₀ key₀ op) :
    Calls (S := sig) (Reads k₀ key₀) (Spares k₀ key₀) (fun _ => True) (perform op) (Reads k₀ key₀ op) :=
  .call h

theorem deleteObject_spares (k : Kind) (what stored name ns : String) :
    Calls (S := sig) (Reads k₀ key₀) (Spares k₀ key₀) (fun _ => True) (deleteObject k what stored name ns)
      (fun _ => True) := by
  refine .bind (perform_spares k₀ key₀ (by trivial)) fun x hx => ?_
  cases x with
  | error e =>
      dsimp only
      split
      · exact .ret trivial
      · exact .ofExcept trivial
  | ok o =>
      obtain ⟨hkey, hguard⟩ := hx o rfl
      dsimp only
      split
      · exact .ret trivial
      · split
        · exact .ret trivial
        · next hprot =>
            have hspare : Spares k₀ key₀ (.delete k ⟨ns, name⟩) := fun ⟨hk, hk₀⟩ =>
              hprot (hguard hk (hkey.trans hk₀))
            refine .bind (perform_spares k₀ key₀ hspare) fun y _ => ?_
            cases y with
            | error e => exact .ofExcept trivial
            | ok u => exact .ret trivial

theorem delete_spares (name ns : String) :
    Calls (S := sig) (Reads k₀ key₀) (Spares k₀ key₀) (fun _ => True) (delete name ns) (fun _ => True) :=
  (deleteObject_spares k₀ key₀ ..).bind fun _ _ => (deleteObject_spares k₀ key₀ ..).bind fun _ _ =>
    (deleteObject_spares k₀ key₀ ..).bind fun _ _ => deleteObject_spares k₀ key₀ ..

end Spare

/-- A protected object that others leave protected is there, and protected, in every state of a run
of `Delete`. -/
theorem deletion_keeps {name ns : String} {c : Cluster} (hc : Protected k₀ key₀ c)
    {s : State sig (Except GoError Unit) Cluster}
    (hrun : (deletion name ns).toSystem.Run (Undisturbed k₀ key₀) ⟨c, none⟩ s) :
    Protected k₀ key₀ s.world := by
  refine System.run_of_all (M := (deletion name ns).toSystem) (A := Protected k₀ key₀)
    (delete_spares k₀ key₀ name ns).all ?_ (fun _ _ _ hok h => hok h) ?_ (fun _ h => h) (fun _ _ h => h)
    rfl hc hrun
  · rintro op w x w' hw ⟨text, hs⟩ -
    cases op with
    | get k key =>
        intro o ho
        have hl := (respond_get hs).2 o ho
        exact ⟨Cluster.lookup_key hl, hw.guarded hl⟩
    | delete k key => trivial
  · rintro op w x w' hop hw ⟨text, hs⟩ -
    cases op with
    | get k key => rwa [(respond_get hs).1]
    | delete k key =>
        rcases respond_delete hs with rfl | rfl
        · exact hw
        · refine hw.congr (lookup_remove_of_ne w fun h => hop ⟨h.1.symm, h.2.symm⟩)

end Watch

end Heir.Provision
