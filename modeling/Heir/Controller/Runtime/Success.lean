import Heir.Controller.Runtime.Frame
import Heir.Lib.May

set_option autoImplicit false

/-! # Runs of the Runtime controller that succeed

The rules of this module build a run in which the API server does what it is asked for: it answers
a read with what is stored, and it stores what is sent. They are used where a function has to be
shown to reach a certain point.
-/

namespace Heir.Controller.Runtime

open Heir.ControlPlane Heir.Core Heir.Runtime Interact

/-! ## Calls that are served -/

section Served

variable {d : Defaulting} {c : Cluster} {k : Kind}

theorem server_get_found {key : NamespacedName} {o : Obj k} (hl : c.lookup k key = some o) :
    server d (.get k key) c (.ok o) c :=
  ⟨.serve, by simp only [respond, serveGet, hl]⟩

theorem server_get_absent {key : NamespacedName} (hl : c.lookup k key = none) :
    server d (.get k key) c (.error (notFound key)) c :=
  ⟨.serve, by simp only [respond, serveGet, hl]⟩

theorem server_create_stored {o : Obj k} (hl : c.lookup k (Obj.getMeta k o).key = none) :
    server d (.create k o) c (.ok (d.stored (c.version + 1) k o))
      (c.put k (d.stored (c.version + 1) k o)) :=
  ⟨.serve, by simp only [respond, serveCreate, hl]⟩

theorem server_update_stored {o s : Obj k} (hl : c.lookup k (Obj.getMeta k o).key = some s)
    (hversion : (Obj.getMeta k s).resourceVersion = (Obj.getMeta k o).resourceVersion) :
    server d (.update k o) c (.ok (d.stored (c.version + 1) k o))
      (c.put k (d.stored (c.version + 1) k o)) :=
  ⟨.serve, by simp only [respond, serveUpdate, hl, if_pos hversion]⟩

theorem server_getRuntime_found {r : Runtime} (hr : c.runtime = some r) :
    server d (.getRuntime r.metadata.key) c (.ok r) c :=
  ⟨.serve, by simp only [respond, serveGetRuntime, hr, if_true]⟩

theorem server_status_stored {r s : Runtime} (hs : c.runtime = some s)
    (hkey : s.metadata.key = r.metadata.key)
    (hversion : s.metadata.resourceVersion = r.metadata.resourceVersion) :
    ∃ s' c', (∃ version, s' = { s with
        status := r.status
        metadata.resourceVersion := version }) ∧
      c'.runtime = some s' ∧ (∀ k key, c'.lookup k key = c.lookup k key) ∧
      server d (.updateRuntimeStatus r) c (.ok s') c' := by
  let s' : Runtime := { s with
    status := r.status
    metadata.resourceVersion := c.version + 1 }
  refine ⟨s', { c with runtime := some s', version := c.version + 1 }, ⟨c.version + 1, rfl⟩, rfl, ?_,
    .serve, ?_⟩
  · intro k key
    cases k <;> rfl
  · simp only [respond, serveStatus, hs, hkey, ne_eq, not_true_eq_false, if_false, if_pos hversion]
    rfl

end Served

/-! ## The shared steps -/

section Steps

variable {d : Defaulting} {c : Cluster} {k : Kind} {α : Type} {post : α → Cluster → Prop}

variable {key : NamespacedName} {o : Obj k} {onAbsent : Go α} {onExisting : Obj k → Go α}

theorem succeeds_getOrElse_ok {srv : Server sig Cluster} (hget : srv (.get k key) c (.ok o) c)
    (h : Succeeds srv (onExisting o) post c) :
    Succeeds srv (getOrElse k key onAbsent onExisting) post c := by
  rw [Succeeds, run_getOrElse]
  exact Prog.may_call (.ok o) c hget h

theorem succeeds_getOrElse_notFound {srv : Server sig Cluster}
    (hget : srv (.get k key) c (.error (notFound key)) c) (h : Succeeds srv onAbsent post c) :
    Succeeds srv (getOrElse k key onAbsent onExisting) post c := by
  rw [Succeeds, run_getOrElse]
  exact Prog.may_call (.error (notFound key)) c hget h

theorem succeeds_getOrElse_found (hl : c.lookup k key = some o)
    (h : Succeeds (server d) (onExisting o) post c) :
    Succeeds (server d) (getOrElse k key onAbsent onExisting) post c :=
  succeeds_getOrElse_ok (server_get_found hl) h

theorem succeeds_getOrElse_absent (hl : c.lookup k key = none)
    (h : Succeeds (server d) onAbsent post c) :
    Succeeds (server d) (getOrElse k key onAbsent onExisting) post c :=
  succeeds_getOrElse_notFound (server_get_absent hl) h

theorem succeeds_createObj {post : Unit → Cluster → Prop}
    (hl : c.lookup k (Obj.getMeta k o).key = none)
    (h : post () (c.put k (d.stored (c.version + 1) k o))) :
    Succeeds (server d) (createObj k o) post c := by
  rw [Succeeds, run_createObj]
  exact Prog.may_call _ _ (server_create_stored hl) ⟨(), rfl, h⟩

theorem succeeds_updateObj {s : Obj k} {post : Unit → Cluster → Prop}
    (hl : c.lookup k (Obj.getMeta k o).key = some s)
    (hversion : (Obj.getMeta k s).resourceVersion = (Obj.getMeta k o).resourceVersion)
    (h : post () (c.put k (d.stored (c.version + 1) k o))) :
    Succeeds (server d) (updateObj k o) post c := by
  rw [Succeeds, run_updateObj]
  exact Prog.may_call _ _ (server_update_stored hl hversion) ⟨(), rfl, h⟩

/-- A new version that carries the name and the version of the one it was made from is stored. -/
theorem succeeds_updateIfNeeded {existing : Obj k} {next : Option (Obj k)}
    (hl : c.lookup k key = some existing)
    (hnext : ∀ o, next = some o → Relabelled (Obj.getMeta k existing) (Obj.getMeta k o)) :
    Succeeds (server d) (updateIfNeeded k next) (fun _ _ => True) c := by
  cases next with
  | none => exact .ret trivial
  | some o =>
      have hmeta := hnext o rfl
      have hkey : (Obj.getMeta k o).key = key := hmeta.key.trans (Cluster.lookup_key hl)
      rw [← hkey] at hl
      exact succeeds_updateObj hl hmeta.resourceVersion.symm trivial

end Steps

/-! ## A rotation that has nothing to do -/

section Rotation

variable (libs : Libs) (runtime : Runtime)

/-- A rotation of a Secret that records the right names does nothing. -/
theorem regenerateLeaf_current {ca : Certificate} {secret : Secret} {annotationKey : String}
    {csr : CSR} {certKey keyKey what : String} (h : Records libs secret annotationKey csr.hostnames) :
    regenerateLeaf libs ca secret annotationKey csr certKey keyKey what = pure (secret, false) := by
  unfold regenerateLeaf
  exact if_pos h

theorem regeneratePKILeafCerts_current {secret : Secret} (h : LeavesCurrent libs runtime secret) :
    regeneratePKILeafCerts libs secret runtime layout = pure (secret, false) := by
  unfold regeneratePKILeafCerts
  dsimp only
  rw [regenerateLeaf_current libs h.1, pure_bind]
  dsimp only
  rw [regenerateLeaf_current libs h.2, pure_bind]
  rfl

end Rotation

end Heir.Controller.Runtime
