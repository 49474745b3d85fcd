import Heir.Controller.Runtime.Writes

set_option autoImplicit false

/-! # Which objects a reconciliation writes

`Framed` says what a reconciliation does to the whole cluster: a slot that is not what it was
belongs to one of the eleven objects, and it was free, or the Runtime's own, or one of the four whose
setup does not look at the owner.
-/

namespace Heir.Controller.Runtime

open Heir.ControlPlane Heir.Core Heir.Runtime Interact

/-- The object under that name, if there is one, is controlled by the Runtime. -/
def Owned (runtime : Runtime) (c : Cluster) (k : Kind) (key : NamespacedName) : Prop :=
  ∀ o, c.lookup k key = some o → isControlledBy (Obj.getMeta k o) runtime.metadata = true

/-- The Runtime's setup functions write that object when they find the cluster as it is. -/
def MayWrite (runtime : Runtime) (c : Cluster) (k : Kind) (key : NamespacedName) :
    Prop :=
  key.ns = runtime.ns ∧ (k, key.name) ∈ objectKeys runtime.name ∧
    ((k, key.name) ∈ unguardedKeys runtime.name ∨ Owned runtime c k key)

/-- Two copies of one Runtime. -/
def SameRuntime (r runtime : Runtime) : Prop :=
  r.metadata.key = runtime.metadata.key ∧ r.metadata.uid = runtime.metadata.uid

/-- What `Reconcile` has made of the cluster `c₀` so far: the Runtime is still the same, and
everything it may not write is still there. -/
structure Framed (runtime : Runtime) (c₀ c : Cluster) : Prop where
  same : ∀ r, c.runtime = some r → SameRuntime r runtime
  kept : ∀ k key, c.lookup k key = c₀.lookup k key ∨ MayWrite runtime c₀ k key

theorem Framed.refl {runtime : Runtime} {c : Cluster} (h : c.runtime = some runtime) :
    Framed runtime c c where
  same := fun r hr => by
    rw [h] at hr
    cases hr
    exact ⟨rfl, rfl⟩
  kept := fun _ _ => Or.inl rfl

/-- What may be written now could be written at the start. -/
theorem Framed.mayWrite {runtime : Runtime} {c₀ c : Cluster} {k : Kind}
    {key : NamespacedName} (h : Framed runtime c₀ c) (hw : MayWrite runtime c k key) :
    MayWrite runtime c₀ k key := by
  rcases h.kept k key with heq | h₀
  · obtain ⟨hns, hmem, hu | ho⟩ := hw
    · exact ⟨hns, hmem, Or.inl hu⟩
    · exact ⟨hns, hmem, Or.inr fun o hl => ho o (heq.trans hl)⟩
  · exact h₀

theorem Framed.put {runtime : Runtime} {c₀ c : Cluster} {k : Kind} {o : Obj k}
    (h : Framed runtime c₀ c) (hw : MayWrite runtime c₀ k (Obj.getMeta k o).key) :
    Framed runtime c₀ (c.put k o) where
  same := by
    rw [Cluster.put_runtime]
    exact h.same
  kept := by
    intro k' key
    by_cases hk : k' = k ∧ key = (Obj.getMeta k o).key
    · obtain ⟨rfl, rfl⟩ := hk
      exact Or.inr hw
    · rw [c.lookup_put_of_ne o hk]
      exact h.kept k' key

/-! ## Calls that keep the frame -/

section Calls

variable (runtime : Runtime) (c₀ : Cluster)

/-- Answers from a cluster with the frame. -/
def Views : (op : Call) → op.Answer → Prop
  | .get k key, .ok o => (Obj.getMeta k o).key = key ∧
      (isControlledBy (Obj.getMeta k o) runtime.metadata = true → Managed runtime k key →
        MayWrite runtime c₀ k key)
  | .getRuntime _, .ok r => SameRuntime r runtime
  | _, _ => True

/-- What is created is one of the Runtime's objects, and what is updated may be written. -/
def KeepsFrame : Call → Prop
  | .create k o => Managed runtime k (Obj.getMeta k o).key
  | .update k o => MayWrite runtime c₀ k (Obj.getMeta k o).key
  | _ => True

def frameSetting : Setting := { Setting.any with ans := Views runtime c₀ }

variable {runtime c₀} {d : Defaulting} {c c' : Cluster} {r : Runtime}

theorem SameRuntime.managed (hr : SameRuntime r runtime) {k : Kind} {key : NamespacedName}
    (h : Managed r k key) : Managed runtime k key := by
  have hns : r.ns = runtime.ns := congrArg NamespacedName.ns hr.1
  have hname : r.name = runtime.name := congrArg NamespacedName.name hr.1
  rw [Managed, ← hns, ← hname]
  exact h

theorem SameRuntime.unguarded (hr : SameRuntime r runtime) {k : Kind} {name : String}
    (h : (k, name) ∈ unguardedKeys r.name) : (k, name) ∈ unguardedKeys runtime.name := by
  have hname : r.name = runtime.name := congrArg NamespacedName.name hr.1
  rw [← hname]
  exact h

theorem IsSetup.keepsFrame (hr : SameRuntime r runtime) {op : Call}
    (h : IsSetup (frameSetting runtime c₀) r op) : KeepsFrame runtime c₀ op := by
  cases op with
  | create k o => exact hr.managed h.2
  | update k o =>
      obtain ⟨-, key, existing, ⟨hkey, hctl⟩, hu⟩ := h
      have hmanaged := hr.managed hu.managed
      rw [KeepsFrame, hu.relabelled.key, hkey]
      rcases hu.owner with hmem | howned
      · exact ⟨hmanaged.1, hmanaged.2, Or.inl (hr.unguarded hmem)⟩
      · refine hctl ?_ hmanaged
        rw [isControlledBy, ← hr.2]
        exact howned
  | _ => trivial

theorem Framed.views (hc : Framed runtime c₀ c) {op : Call} {x : op.Answer}
    (h : server d op c x c') : Views runtime c₀ op x := by
  cases op with
  | get k key =>
      cases x with
      | error e => trivial
      | ok o =>
          have hl : c.lookup k key = some o := server_get_ok h
          refine ⟨Cluster.lookup_key hl, fun hctl hmanaged => hc.mayWrite ?_⟩
          refine ⟨hmanaged.1, hmanaged.2, Or.inr fun o' ho' => ?_⟩
          rw [hl] at ho'
          cases ho'
          exact hctl
  | getRuntime key =>
      cases x with
      | error e => trivial
      | ok r => exact hc.same r (server_getRuntime_ok h).1
  | _ => trivial

/-- What is created was not there, and so could be created at the start. -/
theorem Framed.call (hc : Framed runtime c₀ c) {op : Call} {x : op.Answer}
    (hop : KeepsFrame runtime c₀ op) (h : server d op c x c') : Framed runtime c₀ c' := by
  cases op with
  | create k o =>
      rcases server_create_cases h with ⟨hnone, -, rfl⟩ | ⟨-, rfl⟩
      · refine hc.put (hc.mayWrite ?_)
        rw [d.stored_meta]
        refine ⟨hop.1, hop.2, Or.inr fun o' ho' => ?_⟩
        have heq := hnone.symm.trans ho'
        cases heq
      · exact hc
  | update k o =>
      rcases server_update_cases h with ⟨s, -, -, -, rfl⟩ | ⟨-, rfl⟩
      · refine hc.put ?_
        rw [d.stored_meta]
        exact hop
      · exact hc
  | updateRuntimeStatus r' =>
      rcases server_status_cases h with rfl | ⟨s, hs, rfl⟩
      · exact hc
      · refine ⟨?_, hc.kept⟩
        rintro _ ⟨⟩
        exact hc.same s hs
  | _ =>
      rw [server_read (by trivial) h]
      exact hc

/-- **The frame of a reconciliation.** -/
theorem reconcile_framed (libs : Libs) (wrkCtx : WorkerContext) (req : NamespacedName)
    (hc : Framed runtime c₀ c) {t : List (Called sig)} {x : Except Fault Unit}
    (he : Exec (server d) (reconcile libs wrkCtx req).run c t x c') : Framed runtime c₀ c' := by
  have hasks : Asks (frameSetting runtime c₀) (KeepsFrame runtime c₀) (reconcile libs wrkCtx req)
      (fun _ => True) := by
    refine reconcile_asks (T := fun r => SameRuntime r runtime) (fun _ h => h) trivial
      (fun _ => trivial) libs wrkCtx (fun _ => trivial) fun r hr => ?_
    exact (setupAll_setup libs wrkCtx (fun _ => trivial) fun _ => trivial).mono
      (fun _ => IsSetup.keepsFrame hr) fun _ h => h
  exact (he.wp (hasks.wp (fun _ _ _ _ hop hc h => ⟨hc.views h, hc.call hop h⟩) hc)).1

end Calls

end Heir.Controller.Runtime
