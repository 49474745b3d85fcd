import Heir.Controller.Runtime.Reconcile

set_option autoImplicit false

/-! # The management cluster

The API server as the Runtime controller sees it: the objects of the four kinds, the Runtime, and
the versions the server gives out. A write that names an outdated version is refused as a
conflict; a call may fail at any time, and then nothing is stored. The server fills in defaults
when it stores a Service or a Deployment.
-/

namespace Heir.Controller.Runtime

open Heir.ControlPlane Heir.Core Heir.Runtime Interact

/-! ## Objects in store -/

/-- A function changed at one place. -/
def store {α : Type} (f : NamespacedName → Option α) (key : NamespacedName) (a : α) :
    NamespacedName → Option α :=
  fun key' => if key' = key then some a else f key'

/-- Every object is stored under its own name. -/
def Keyed {α : Type} (getMeta : α → ObjectMeta) (f : NamespacedName → Option α) : Prop :=
  ∀ key a, f key = some a → (getMeta a).key = key

theorem Keyed.store {α : Type} {getMeta : α → ObjectMeta} {f : NamespacedName → Option α}
    (h : Keyed getMeta f) (a : α) : Keyed getMeta (store f (getMeta a).key a) := by
  intro key b hb
  by_cases hk : key = (getMeta a).key
  · simp only [Runtime.store, hk, if_true, Option.some.injEq] at hb
    rw [← hb, hk]
  · simp only [Runtime.store, if_neg hk] at hb
    exact h key b hb

structure Cluster where
  secrets : NamespacedName → Option Secret
  configMaps : NamespacedName → Option ConfigMap
  services : NamespacedName → Option Service
  deployments : NamespacedName → Option Deployment
  runtime : Option Runtime
  /-- The last resource version that was given out. -/
  version : Nat
  secrets_keyed : Keyed Secret.metadata secrets
  configMaps_keyed : Keyed ConfigMap.metadata configMaps
  services_keyed : Keyed Service.metadata services
  deployments_keyed : Keyed Deployment.metadata deployments

namespace Cluster

/-- A cluster with one Runtime and no managed object. -/
def withRuntime (r : Runtime) : Cluster where
  secrets := fun _ => none
  configMaps := fun _ => none
  services := fun _ => none
  deployments := fun _ => none
  runtime := some r
  version := r.metadata.resourceVersion
  secrets_keyed := fun _ _ h => by cases h
  configMaps_keyed := fun _ _ h => by cases h
  services_keyed := fun _ _ h => by cases h
  deployments_keyed := fun _ _ h => by cases h

variable (c : Cluster)

def lookup : (k : Kind) → NamespacedName → Option (Obj k)
  | .secret => c.secrets
  | .configMap => c.configMaps
  | .service => c.services
  | .deployment => c.deployments

theorem lookup_key {c : Cluster} {k : Kind} {key : NamespacedName} {o : Obj k}
    (h : c.lookup k key = some o) : (Obj.getMeta k o).key = key := by
  cases k with
  | secret => exact c.secrets_keyed key o h
  | configMap => exact c.configMaps_keyed key o h
  | service => exact c.services_keyed key o h
  | deployment => exact c.deployments_keyed key o h

/-- Store an object under its name, with a new version. -/
def put : (k : Kind) → Obj k → Cluster
  | .secret, o =>
      { c with
        secrets := store c.secrets o.metadata.key o
        version := c.version + 1
        secrets_keyed := c.secrets_keyed.store o }
  | .configMap, o =>
      { c with
        configMaps := store c.configMaps o.metadata.key o
        version := c.version + 1
        configMaps_keyed := c.configMaps_keyed.store o }
  | .service, o =>
      { c with
        services := store c.services o.metadata.key o
        version := c.version + 1
        services_keyed := c.services_keyed.store o }
  | .deployment, o =>
      { c with
        deployments := store c.deployments o.metadata.key o
        version := c.version + 1
        deployments_keyed := c.deployments_keyed.store o }

theorem lookup_put_self (k : Kind) (o : Obj k) :
    (c.put k o).lookup k (Obj.getMeta k o).key = some o := by
  cases k <;> exact if_pos rfl

theorem lookup_put_of_ne {k k' : Kind} (o : Obj k) {key : NamespacedName}
    (h : ¬ (k' = k ∧ key = (Obj.getMeta k o).key)) :
    (c.put k o).lookup k' key = c.lookup k' key := by
  cases k <;> cases k' <;> first
    | rfl
    | exact if_neg (fun he => h ⟨rfl, he⟩)

@[simp] theorem put_runtime (k : Kind) (o : Obj k) : (c.put k o).runtime = c.runtime := by
  cases k <;> rfl

end Cluster

/-! ## Answers -/

/-- The defaults the server fills in. -/
structure Defaulting where
  service : Core.ServiceSpec → Core.ServiceSpec
  deployment : Core.DeploymentSpec → Core.DeploymentSpec

/-- What is stored for an object that was sent: defaults are filled in, the version is new. -/
def Defaulting.stored (d : Defaulting) (version : Nat) : (k : Kind) → Obj k → Obj k
  | .secret, o => { o with metadata.resourceVersion := version }
  | .configMap, o => { o with metadata.resourceVersion := version }
  | .service, o => { metadata := { o.metadata with resourceVersion := version }, spec := d.service o.spec }
  | .deployment, o =>
      { metadata := { o.metadata with resourceVersion := version }, spec := d.deployment o.spec }

@[simp] theorem Defaulting.stored_meta (d : Defaulting) (version : Nat) (k : Kind) (o : Obj k) :
    Obj.getMeta k (d.stored version k o) =
      { Obj.getMeta k o with resourceVersion := version } := by
  cases k <;> rfl

theorem Cluster.lookup_put_stored (c : Cluster) (d : Defaulting) (version : Nat) {k : Kind} {o : Obj k}
    {key : NamespacedName} (h : (Obj.getMeta k o).key = key) :
    (c.put k (d.stored version k o)).lookup k key = some (d.stored version k o) := by
  have hself := c.lookup_put_self k (d.stored version k o)
  rw [d.stored_meta] at hself
  rw [← h]
  exact hself

/-- The resolution of what an answer leaves open. -/
inductive Choice where
  /-- The server does what it is asked for. -/
  | serve
  /-- The call fails for a reason outside the store. -/
  | fail (text : String)
  | certificate (r : Except GoError Certificate)
  | verification (r : Except GoError Unit)
  | ranges (r : Ranges)

def notFound (key : NamespacedName) : GoError := ⟨.notFound, key.name ++ " not found"⟩

def alreadyExists (key : NamespacedName) : GoError := ⟨.alreadyExists, key.name ++ " already exists"⟩

def conflict (key : NamespacedName) : GoError :=
  ⟨.conflict, "the object " ++ key.name ++ " has been modified"⟩

section Respond

variable (d : Defaulting)

def serveGet (k : Kind) (key : NamespacedName) (c : Cluster) : Except GoError (Obj k) × Cluster :=
  match c.lookup k key with
  | some o => (.ok o, c)
  | none => (.error (notFound key), c)

def serveCreate (k : Kind) (o : Obj k) (c : Cluster) : Except GoError (Obj k) × Cluster :=
  let key := (Obj.getMeta k o).key
  match c.lookup k key with
  | some _ => (.error (alreadyExists key), c)
  | none =>
      let o' := d.stored (c.version + 1) k o
      (.ok o', c.put k o')

def serveUpdate (k : Kind) (o : Obj k) (c : Cluster) : Except GoError (Obj k) × Cluster :=
  let key := (Obj.getMeta k o).key
  match c.lookup k key with
  | none => (.error (notFound key), c)
  | some s =>
      if (Obj.getMeta k s).resourceVersion = (Obj.getMeta k o).resourceVersion then
        let o' := d.stored (c.version + 1) k o
        (.ok o', c.put k o')
      else (.error (conflict key), c)

def serveGetRuntime (key : NamespacedName) (c : Cluster) :
    Except GoError Runtime × Cluster :=
  match c.runtime with
  | some r => if r.metadata.key = key then (.ok r, c) else (.error (notFound key), c)
  | none => (.error (notFound key), c)

/-- The status subresource: only the status of the sent Runtime is stored. -/
def serveStatus (r : Runtime) (c : Cluster) :
    Except GoError Runtime × Cluster :=
  let key := r.metadata.key
  match c.runtime with
  | some s =>
      if s.metadata.key ≠ key then (.error (notFound key), c)
      else if s.metadata.resourceVersion = r.metadata.resourceVersion then
        let s' := { s with
          status := r.status
          metadata.resourceVersion := c.version + 1 }
        (.ok s', { c with runtime := some s', version := c.version + 1 })
      else (.error (conflict key), c)
  | none => (.error (notFound key), c)

/-- The answer to a call, and the cluster after it. -/
@[simp] def respond : (op : Call) → Choice → Cluster → Option (op.Answer × Cluster)
  | .get k key, .serve, c => some (serveGet k key c)
  | .get _ _, .fail t, c => some (.error (errorf t), c)
  | .create k o, .serve, c => some (serveCreate d k o c)
  | .create _ _, .fail t, c => some (.error (errorf t), c)
  | .update k o, .serve, c => some (serveUpdate d k o c)
  | .update _ _, .fail t, c => some (.error (errorf t), c)
  | .getRuntime key, .serve, c => some (serveGetRuntime key c)
  | .getRuntime _, .fail t, c => some (.error (errorf t), c)
  | .updateRuntimeStatus r, .serve, c => some (serveStatus r c)
  | .updateRuntimeStatus _, .fail t, c => some (.error (errorf t), c)
  | .generateSelfSignedCert, .certificate r, c => some (r, c)
  | .signCSR _ _ _, .certificate r, c => some (r, c)
  | .verifyCertificate _ _ _, .verification r, c => some (r, c)
  | .ranges, .ranges r, c => some (r, c)
  | .built _, .serve, c => some ((), c)
  | _, _, _ => none

/-- The server of the management cluster. -/
def server : Server sig Cluster := Machine.serve (S := sig) (respond d)

end Respond

/-! ## What a call can do -/

section Server

variable {d : Defaulting} {c c' : Cluster}

theorem serveGet_snd (k : Kind) (key : NamespacedName) (c : Cluster) :
    (serveGet k key c).2 = c := by
  rw [serveGet]
  split <;> rfl

theorem serveGetRuntime_snd (key : NamespacedName) (c : Cluster) :
    (serveGetRuntime key c).2 = c := by
  rw [serveGetRuntime]
  split
  · split <;> rfl
  · rfl

variable {k : Kind} {key : NamespacedName}

variable {o : Obj k} {x : Except GoError (Obj k)}

theorem server_get (h : server d (.get k key) c x c') :
    c' = c ∧ (x = (serveGet k key c).1 ∨ ∃ t, x = .error (errorf t)) := by
  obtain ⟨ch, h⟩ := h
  cases ch <;> simp only [respond, reduceCtorEq] at h
  · have h₂ := congrArg Prod.snd (Option.some.inj h)
    have h₁ := congrArg Prod.fst (Option.some.inj h)
    exact ⟨h₂.symm.trans (serveGet_snd k key c), Or.inl h₁.symm⟩
  · cases h
    exact ⟨rfl, Or.inr ⟨_, rfl⟩⟩

theorem server_get_ok (h : server d (.get k key) c (.ok o) c') : c.lookup k key = some o := by
  obtain ⟨-, h | ⟨t, h⟩⟩ := server_get h
  · rw [serveGet] at h
    split at h
    next o' hl =>
      cases h
      exact hl
    · cases h
  · cases h

theorem server_create (h : server d (.create k o) c x c') :
    (x, c') = serveCreate d k o c ∨ ((∃ t, x = .error (errorf t)) ∧ c' = c) := by
  obtain ⟨ch, h⟩ := h
  cases ch <;> simp only [respond, reduceCtorEq] at h
  · exact Or.inl (Option.some.inj h).symm
  · cases h
    exact Or.inr ⟨⟨_, rfl⟩, rfl⟩

theorem server_update (h : server d (.update k o) c x c') :
    (x, c') = serveUpdate d k o c ∨ ((∃ t, x = .error (errorf t)) ∧ c' = c) := by
  obtain ⟨ch, h⟩ := h
  cases ch <;> simp only [respond, reduceCtorEq] at h
  · exact Or.inl (Option.some.inj h).symm
  · cases h
    exact Or.inr ⟨⟨_, rfl⟩, rfl⟩

theorem server_getRuntime {x : Except GoError Runtime} (h : server d (.getRuntime key) c x c') :
    c' = c ∧ (x = (serveGetRuntime key c).1 ∨ ∃ t, x = .error (errorf t)) := by
  obtain ⟨ch, h⟩ := h
  cases ch <;> simp only [respond, reduceCtorEq] at h
  · have h₂ := congrArg Prod.snd (Option.some.inj h)
    have h₁ := congrArg Prod.fst (Option.some.inj h)
    exact ⟨h₂.symm.trans (serveGetRuntime_snd key c), Or.inl h₁.symm⟩
  · cases h
    exact ⟨rfl, Or.inr ⟨_, rfl⟩⟩

theorem server_status {r : Runtime} {x : Except GoError Runtime}
    (h : server d (.updateRuntimeStatus r) c x c') :
    (x, c') = serveStatus r c ∨ ((∃ t, x = .error (errorf t)) ∧ c' = c) := by
  obtain ⟨ch, h⟩ := h
  cases ch <;> simp only [respond, reduceCtorEq] at h
  · exact Or.inl (Option.some.inj h).symm
  · cases h
    exact Or.inr ⟨⟨_, rfl⟩, rfl⟩

/-- A fetched Runtime is the stored one, and has the name that was asked for. -/
theorem server_getRuntime_ok {req : NamespacedName} {r : Runtime}
    (h : server d (.getRuntime req) c (.ok r) c') : c.runtime = some r ∧ r.metadata.key = req := by
  obtain ⟨-, h | ⟨t, h⟩⟩ := server_getRuntime h
  · rw [serveGetRuntime] at h
    split at h
    · split at h
      · rename_i hr hkey
        cases h
        exact ⟨hr, hkey⟩
      · cases h
    · cases h
  · cases h

theorem server_status_cases {r : Runtime} {x : Except GoError Runtime}
    (h : server d (.updateRuntimeStatus r) c x c') :
    c' = c ∨ ∃ s, c.runtime = some s ∧ c' = { c with
      runtime := some { s with
        status := r.status
        metadata.resourceVersion := c.version + 1 }
      version := c.version + 1 } := by
  rcases server_status h with h | ⟨-, rfl⟩
  · rw [serveStatus] at h
    split at h
    · rename_i s hs
      split at h
      · exact Or.inl (Prod.mk.inj h).2
      · split at h
        · exact Or.inr ⟨s, hs, (Prod.mk.inj h).2⟩
        · exact Or.inl (Prod.mk.inj h).2
    · exact Or.inl (Prod.mk.inj h).2
  · exact Or.inl rfl

/-- The calls that store nothing. -/
def IsRead : Call → Prop
  | .create _ _ => False
  | .update _ _ => False
  | .updateRuntimeStatus _ => False
  | _ => True

theorem server_read {op : Call} {x : op.Answer} (hop : IsRead op) (h : server d op c x c') :
    c' = c := by
  cases op with
  | get k key => exact (server_get h).1
  | getRuntime key => exact (server_getRuntime h).1
  | create k o | update k o | updateRuntimeStatus r => exact hop.elim
  | _ =>
      obtain ⟨ch, h⟩ := h
      cases ch <;> simp only [respond, reduceCtorEq] at h
      cases h
      rfl

/-! ## The shared steps of the setup functions -/

theorem run_getOrElse {α : Type} (k : Kind) (key : NamespacedName) (onAbsent : Go α)
    (onExisting : Obj k → Go α) :
    (getOrElse k key onAbsent onExisting).run = Prog.call (S := sig) (.get k key) (fun x =>
      match x with
      | .ok existing => (onExisting existing).run
      | .error e => if e.reason = .notFound then onAbsent.run else .ret (.error (.error e))) := by
  rw [getOrElse, Go.get, Go.run_call_bind]
  congr 1
  funext x
  cases x with
  | ok o => rfl
  | error e => by_cases h : e.reason = .notFound <;> simp [h]

theorem run_createObj (k : Kind) (o : Obj k) :
    (createObj k o).run = Prog.call (S := sig) (.create k o) (fun x =>
      match x with
      | .ok _ => .ret (.ok ())
      | .error e => .ret (.error (.error e))) := by
  rw [createObj, Go.create, Go.run_call_bind]
  congr 1
  funext x
  cases x <;> rfl

theorem run_updateObj (k : Kind) (o : Obj k) :
    (updateObj k o).run = Prog.call (S := sig) (.update k o) (fun x =>
      match x with
      | .ok _ => .ret (.ok ())
      | .error e => .ret (.error (.error e))) := by
  rw [updateObj, Go.update, Go.run_call_bind]
  congr 1
  funext x
  cases x <;> rfl

/-- The answer to a read of somebody who is shown `view`. -/
def viewed {α : Type} (key : NamespacedName) (view : Option α) : Except GoError α :=
  match view with
  | some o => .ok o
  | none => .error (notFound key)

theorem serveGet_fst (k : Kind) (key : NamespacedName) (c : Cluster) :
    (serveGet k key c).1 = viewed key (c.lookup k key) := by
  unfold serveGet
  cases c.lookup k key with
  | none => rfl
  | some o => rfl

theorem wp_getOrElse_view {α : Type} {srv : Server sig Cluster} {onAbsent : Go α}
    {onExisting : Obj k → Go α} {post : Except Fault α → Cluster → Prop} (view : Option (Obj k))
    (hget : ∀ x c', srv (.get k key) c x c' →
      c' = c ∧ (x = viewed key view ∨ ∃ t, x = .error (errorf t)))
    (habsent : view = none → onAbsent.run.wp srv post c)
    (hexisting : ∀ o, view = some o → (onExisting o).run.wp srv post c)
    (hfail : ∀ e, post (.error (.error e)) c) :
    (getOrElse k key onAbsent onExisting).run.wp srv post c := by
  rw [run_getOrElse]
  intro x c' hx
  obtain ⟨hc, hx⟩ := hget x c' hx
  rw [hc]
  rcases hx with rfl | ⟨t, rfl⟩
  · cases view with
    | none => exact habsent rfl
    | some o => exact hexisting o rfl
  · exact hfail (errorf t)

theorem server_get_view (h : server d (.get k key) c x c') :
    c' = c ∧ (x = viewed key (c.lookup k key) ∨ ∃ t, x = .error (errorf t)) := by
  rw [← serveGet_fst]
  exact server_get h

theorem wp_getOrElse {α : Type} {onAbsent : Go α} {onExisting : Obj k → Go α}
    {post : Except Fault α → Cluster → Prop}
    (habsent : c.lookup k key = none → onAbsent.run.wp (server d) post c)
    (hexisting : ∀ o, c.lookup k key = some o → (onExisting o).run.wp (server d) post c)
    (hfail : ∀ e, post (.error (.error e)) c) :
    (getOrElse k key onAbsent onExisting).run.wp (server d) post c :=
  wp_getOrElse_view (c.lookup k key) (fun _ _ => server_get_view) habsent hexisting hfail

theorem server_create_cases (h : server d (.create k o) c x c') :
    (c.lookup k (Obj.getMeta k o).key = none ∧ x = .ok (d.stored (c.version + 1) k o) ∧
      c' = c.put k (d.stored (c.version + 1) k o)) ∨ ((∃ e, x = .error e) ∧ c' = c) := by
  rcases server_create h with h | ⟨⟨t, rfl⟩, rfl⟩
  · cases hl : c.lookup k (Obj.getMeta k o).key with
    | none =>
        simp only [serveCreate, hl] at h
        exact Or.inl ⟨rfl, Prod.mk.inj h⟩
    | some s =>
        simp only [serveCreate, hl] at h
        exact Or.inr ⟨⟨_, (Prod.mk.inj h).1⟩, (Prod.mk.inj h).2⟩
  · exact Or.inr ⟨⟨_, rfl⟩, rfl⟩

/-- A creation under a free name is not answered with `alreadyExists`. -/
theorem server_create_absent (h : server d (.create k o) c x c')
    (hl : c.lookup k (Obj.getMeta k o).key = none) :
    (x = .ok (d.stored (c.version + 1) k o) ∧ c' = c.put k (d.stored (c.version + 1) k o)) ∨
      ∃ t, x = .error (errorf t) := by
  rcases server_create h with h | ⟨ht, -⟩
  · simp only [serveCreate, hl] at h
    exact Or.inl (Prod.mk.inj h)
  · exact Or.inr ht

theorem server_update_cases (h : server d (.update k o) c x c') :
    (∃ s, c.lookup k (Obj.getMeta k o).key = some s ∧
      (Obj.getMeta k s).resourceVersion = (Obj.getMeta k o).resourceVersion ∧
      x = .ok (d.stored (c.version + 1) k o) ∧ c' = c.put k (d.stored (c.version + 1) k o)) ∨
    ((∃ e, x = .error e) ∧ c' = c) := by
  rcases server_update h with h | ⟨⟨t, rfl⟩, rfl⟩
  · cases hl : c.lookup k (Obj.getMeta k o).key with
    | none =>
        simp only [serveUpdate, hl] at h
        exact Or.inr ⟨⟨_, (Prod.mk.inj h).1⟩, (Prod.mk.inj h).2⟩
    | some s =>
        simp only [serveUpdate, hl] at h
        split at h
        · rename_i hv
          exact Or.inl ⟨s, rfl, hv, Prod.mk.inj h⟩
        · exact Or.inr ⟨⟨_, (Prod.mk.inj h).1⟩, (Prod.mk.inj h).2⟩
  · exact Or.inr ⟨⟨_, rfl⟩, rfl⟩

theorem wp_createObj {post : Except Fault Unit → Cluster → Prop}
    (hok : c.lookup k (Obj.getMeta k o).key = none →
      post (.ok ()) (c.put k (d.stored (c.version + 1) k o)))
    (hfail : ∀ e, post (.error (.error e)) c) : (createObj k o).run.wp (server d) post c := by
  rw [run_createObj]
  intro x c' hx
  rcases server_create_cases hx with ⟨hl, rfl, rfl⟩ | ⟨⟨e, rfl⟩, hc⟩
  · exact hok hl
  · rw [hc]
    exact hfail e

theorem wp_updateObj {post : Except Fault Unit → Cluster → Prop}
    (hok : post (.ok ()) (c.put k (d.stored (c.version + 1) k o)))
    (hfail : ∀ e, post (.error (.error e)) c) : (updateObj k o).run.wp (server d) post c := by
  rw [run_updateObj]
  intro x c' hx
  rcases server_update_cases hx with ⟨s, _, _, rfl, rfl⟩ | ⟨⟨e, rfl⟩, hc⟩
  · exact hok
  · rw [hc]
    exact hfail e

end Server

end Heir.Controller.Runtime
