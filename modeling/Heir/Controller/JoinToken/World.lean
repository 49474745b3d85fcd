import Heir.Controller.JoinToken.Flow

set_option autoImplicit false

/-! # The tenant cluster around a WorkerJoinToken

The API server as the WorkerJoinToken controller sees it: one WorkerJoinToken, the Secrets of the
namespace `kube-system`, and the clock. Any call may fail, and then nothing is stored, or what a
write has stored stays although its answer gets lost. Between any two calls time passes and others
act: they ask for the deletion of the object, change its labels, and edit, delete or create Secrets.

The world also keeps marks of the history that the properties of the controller speak about.
-/

namespace Heir.Controller.JoinToken

open Heir.Core Heir.ClusterAgent Heir.Bootstrap Interact

/-- The Secrets of `kube-system`, by name. -/
abbrev Secrets : Type := String → Option Secret

structure World where
  obj : Option WorkerJoinToken
  secrets : Secrets
  clock : Instant := 0
  /-- The last resource version that was given out. -/
  version : Nat := 0
  /-- The Secret of a token that the running pass has created and not recorded yet. -/
  minted : Option String := none
  /-- The token Secrets that were created without the controller being told. -/
  lostTokens : List String := []
  /-- The token Secrets whose deletion was attempted and failed. -/
  failedDeletes : List String := []
  /-- The object as the running pass has fetched it. -/
  fetched : Option WorkerJoinToken := none
  /-- The Secrets right after the running pass last accessed the published one. -/
  lastSeen : Option Secrets := none
  /-- A pass has seen the token expired. -/
  expirySeen : Bool := false
  /-- A token has been issued after that. -/
  reissued : Bool := false

/-- A function changed at one place. -/
def setSecret (f : Secrets) (name : String) (s : Option Secret) : Secrets :=
  fun n => if n = name then s else f n

@[simp] theorem setSecret_self (f : Secrets) (name : String) (s : Option Secret) :
    setSecret f name s name = s := if_pos rfl

variable {name : String} {w w' : World}

theorem setSecret_of_ne (f : Secrets) {n : String} (s : Option Secret) (h : n ≠ name) :
    setSecret f name s n = f n := if_neg h

/-- The published Secret is not the Secret of a token. -/
theorem joinSecretName_ne (name : String) {id : String} (hid : IsTokenID id) :
    joinSecretName name ≠ bootstrapTokenName id := by
  intro h
  obtain ⟨d, hd, hlast⟩ := hid.getLast
  have hne : id.toList ≠ [] := by
    intro hnil
    rw [hnil] at hlast
    cases hlast
  have hleft : (joinSecretName name).toList.getLast? = some 'n' :=
    (getLast?_toList_append name (by decide)).trans (by decide)
  have hright : (bootstrapTokenName id).toList.getLast? = some (Nat.digitChar d) :=
    (getLast?_toList_append _ hne).trans hlast
  have hdigit : ∀ d < 16, Nat.digitChar d ≠ 'n' := by decide
  rw [h, hright] at hleft
  exact hdigit d hd (Option.some.inj hleft)

/-! ## Answers -/

/-- The resolution of what an answer leaves open. -/
inductive Choice where
  | serve
  | fail (text : String)
  /-- The write is carried out, and its answer gets lost. -/
  | lost (text : String)
  | random (b : Bytes)

def notFound (name : String) : GoError := ⟨.notFound, name ++ " not found"⟩

def alreadyExists (name : String) : GoError := ⟨.alreadyExists, name ++ " already exists"⟩

def conflict (name : String) : GoError :=
  ⟨.conflict, "the object " ++ name ++ " has been modified"⟩

/-- The answer to a call that was carried out gets lost. A call that fails has no such answer. -/
def lose {α : Type} (text : String) (r : Except GoError α × World) : Except GoError α × World :=
  match r.1 with
  | .ok _ => (.error (errorf text), r.2)
  | .error _ => r

section Respond

variable (w : World)

/-- The Secret of a token is stored. -/
def World.storeToken (s : Secret) : World :=
  { w with
    secrets := setSecret w.secrets s.metadata.name
      (some { s with metadata.resourceVersion := w.version + 1 })
    version := w.version + 1
    reissued := w.reissued || w.expirySeen }

/-- The running pass knows of the token only when the answer reaches it. -/
def serveCreateToken (s : Secret) (lost : Option String) : Except GoError Secret × World :=
  let name := s.metadata.name
  match w.secrets name, lost with
  | some _, _ => (.error (alreadyExists name), w)
  | none, none => (.ok { s with metadata.resourceVersion := w.version + 1 },
      { w.storeToken s with minted := some name })
  | none, some text => (.error (errorf text),
      { w.storeToken s with lostTokens := name :: w.lostTokens })

def serveDeleteToken (name : String) : Except GoError Unit × World :=
  match w.secrets name with
  | none => (.error (notFound name), w)
  | some _ => (.ok (), { w with
      secrets := setSecret w.secrets name none
      version := w.version + 1 })

def serveGetJoinToken (key : NamespacedName) : Except GoError WorkerJoinToken × World :=
  match w.obj with
  | some o =>
      if o.metadata.key = key then (.ok o, { w with fetched := some o })
      else (.error (notFound key.name), w)
  | none => (.error (notFound key.name), w)

/-- An update stores the specification and the metadata that clients may change. An object to be
deleted goes away with its last finalizer. -/
def serveUpdateJoinToken (o : WorkerJoinToken) : Except GoError WorkerJoinToken × World :=
  match w.obj with
  | none => (.error (notFound o.metadata.name), w)
  | some s =>
      if s.metadata.resourceVersion = o.metadata.resourceVersion then
        let s' := { s with
          spec := o.spec
          metadata := { s.metadata with
            resourceVersion := w.version + 1
            finalizers := o.metadata.finalizers
            labels := o.metadata.labels
            annotations := o.metadata.annotations
            ownerReferences := o.metadata.ownerReferences } }
        let gone := s.metadata.deletionTimestamp.isSome && o.metadata.finalizers.isEmpty
        (.ok s', { w with
          obj := if gone then none else some s'
          version := w.version + 1 })
      else (.error (conflict o.metadata.name), w)

/-- The status subresource: only the status is stored. -/
def serveStatus (o : WorkerJoinToken) : Except GoError WorkerJoinToken × World :=
  match w.obj with
  | none => (.error (notFound o.metadata.name), w)
  | some s =>
      if s.metadata.resourceVersion = o.metadata.resourceVersion then
        let s' := { s with
          status := o.status
          metadata.resourceVersion := w.version + 1 }
        (.ok s', { w with
          obj := some s'
          version := w.version + 1
          minted := if w.minted = some (bootstrapTokenName o.status.tokenID) then none else w.minted })
      else (.error (conflict o.metadata.name), w)

def serveGetSecret (name : String) : Except GoError Secret × World :=
  let w := { w with lastSeen := some w.secrets }
  match w.secrets name with
  | some s => (.ok s, w)
  | none => (.error (notFound name), w)

def serveCreateSecret (s : Secret) : Except GoError Secret × World :=
  let name := s.metadata.name
  match w.secrets name with
  | some _ => (.error (alreadyExists name), w)
  | none =>
      let s' := { s with metadata.resourceVersion := w.version + 1 }
      let secrets := setSecret w.secrets name (some s')
      (.ok s', { w with
        secrets := secrets
        version := w.version + 1
        lastSeen := some secrets })

def serveUpdateSecret (s : Secret) : Except GoError Secret × World :=
  let name := s.metadata.name
  match w.secrets name with
  | none => (.error (notFound name), w)
  | some e =>
      if e.metadata.resourceVersion = s.metadata.resourceVersion then
        let s' := { s with metadata.resourceVersion := w.version + 1 }
        let secrets := setSecret w.secrets name (some s')
        (.ok s', { w with
          secrets := secrets
          version := w.version + 1
          lastSeen := some secrets })
      else (.error (conflict name), w)

end Respond

/-- The answer to a call, and the world after it. -/
@[simp] def respond : (op : Call) → Choice → World → Option (op.Answer × World)
  | .rand n, .random b, w => if b.length = n then some (.ok b, w) else none
  | .rand _, .fail t, w => some (.error (errorf t), w)
  | .now, .serve, w => some (w.clock, w)
  | .createToken s, .serve, w => some (serveCreateToken w s none)
  | .createToken s, .lost t, w => some (serveCreateToken w s (some t))
  | .createToken _, .fail t, w => some (.error (errorf t), w)
  | .deleteToken name, .serve, w => some (serveDeleteToken w name)
  | .deleteToken name, .lost t, w => some (lose t (serveDeleteToken w name))
  | .deleteToken name, .fail t, w =>
      some (.error (errorf t), { w with failedDeletes := name :: w.failedDeletes })
  | .getJoinToken key, .serve, w => some (serveGetJoinToken w key)
  | .getJoinToken _, .fail t, w => some (.error (errorf t), w)
  | .updateJoinToken o, .serve, w => some (serveUpdateJoinToken w o)
  | .updateJoinToken o, .lost t, w => some (lose t (serveUpdateJoinToken w o))
  | .updateJoinToken _, .fail t, w => some (.error (errorf t), w)
  | .updateJoinTokenStatus o, .serve, w => some (serveStatus w o)
  | .updateJoinTokenStatus o, .lost t, w => some (lose t (serveStatus w o))
  | .updateJoinTokenStatus _, .fail t, w => some (.error (errorf t), w)
  | .getSecret name, .serve, w => some (serveGetSecret w name)
  | .getSecret _, .fail t, w => some (.error (errorf t), w)
  | .createSecret s, .serve, w => some (serveCreateSecret w s)
  | .createSecret s, .lost t, w => some (lose t (serveCreateSecret w s))
  | .createSecret _, .fail t, w => some (.error (errorf t), w)
  | .updateSecret s, .serve, w => some (serveUpdateSecret w s)
  | .updateSecret s, .lost t, w => some (lose t (serveUpdateSecret w s))
  | .updateSecret _, .fail t, w => some (.error (errorf t), w)
  | .expired, .serve, w => some ((), { w with expirySeen := true })
  | _, _, _ => none

/-- The server of the tenant cluster. -/
abbrev server : Server sig World := Machine.serve (S := sig) respond

/-! ## What a call can do -/

section Server

variable {w w' : World}

theorem server_rand {n : Nat} {x : Except GoError Bytes} (h : server (.rand n) w x w') :
    w' = w ∧ ∀ b, x = .ok b → b.length = n := by
  obtain ⟨ch, h⟩ := h
  cases ch <;> simp only [respond, reduceCtorEq] at h
  · cases h
    exact ⟨rfl, fun b hb => by cases hb⟩
  · split at h
    · rename_i hb
      cases h
      refine ⟨rfl, fun b' hb' => ?_⟩
      cases hb'
      exact hb
    · cases h

theorem server_now {x : Instant} (h : server .now w x w') : x = w.clock ∧ w' = w := by
  obtain ⟨ch, h⟩ := h
  cases ch <;> simp only [respond, reduceCtorEq] at h
  cases h
  exact ⟨rfl, rfl⟩

theorem server_expired {x : Unit} (h : server .expired w x w') :
    w' = { w with expirySeen := true } := by
  obtain ⟨ch, h⟩ := h
  cases ch <;> simp only [respond, reduceCtorEq] at h
  cases h
  rfl

/-- What a write leaves: it was carried out, whether or not its answer arrives, or it has failed. -/
def Wrote {α : Type} (w : World) (r : Except GoError α × World) (x : Except GoError α)
    (w' : World) : Prop :=
  (w' = r.2 ∧ (x = r.1 ∨ ∃ e, x = .error e)) ∨ ((∃ e, x = .error e) ∧ w' = w)

theorem wrote_of {α : Type} {r : Except GoError α × World} {x : Except GoError α}
    {f : Choice → Option (Except GoError α × World)} (hserve : f .serve = some r)
    (hfail : ∀ t, f (.fail t) = some (.error (errorf t), w))
    (hlost : ∀ t, f (.lost t) = some (lose t r)) (hrandom : ∀ b, f (.random b) = none)
    (h : ∃ ch, f ch = some (x, w')) : Wrote w r x w' := by
  obtain ⟨ch, h⟩ := h
  cases ch with
  | serve =>
      rw [hserve] at h
      cases h
      exact Or.inl ⟨rfl, Or.inl rfl⟩
  | fail t =>
      rw [hfail] at h
      cases h
      exact Or.inr ⟨⟨_, rfl⟩, rfl⟩
  | lost t =>
      rw [hlost, lose] at h
      split at h <;> cases h
      · exact Or.inl ⟨rfl, Or.inr ⟨_, rfl⟩⟩
      · exact Or.inl ⟨rfl, Or.inl rfl⟩
  | random b =>
      rw [hrandom] at h
      cases h

variable {o : WorkerJoinToken} {s : Secret} {x : Except GoError Secret}

theorem server_createToken (h : server (.createToken s) w x w') :
    ((∃ s', x = .ok s') ∧ w' = { w.storeToken s with minted := some s.metadata.name }) ∨
    (∃ e, x = .error e) ∧
      (w' = { w.storeToken s with lostTokens := s.metadata.name :: w.lostTokens } ∨ w' = w) := by
  have hcases : (∃ lost, serveCreateToken w s lost = (x, w')) ∨ ((∃ e, x = .error e) ∧ w' = w) := by
    obtain ⟨ch, h⟩ := h
    cases ch with
    | serve => exact Or.inl ⟨none, Option.some.inj h⟩
    | lost t => exact Or.inl ⟨some t, Option.some.inj h⟩
    | fail t =>
        cases h
        exact Or.inr ⟨⟨_, rfl⟩, rfl⟩
    | random b => cases h
  rcases hcases with ⟨lost, h⟩ | ⟨he, rfl⟩
  · unfold serveCreateToken at h
    dsimp only at h
    split at h <;> cases h
    · exact Or.inr ⟨⟨_, rfl⟩, Or.inr rfl⟩
    · exact Or.inl ⟨⟨_, rfl⟩, rfl⟩
    · exact Or.inr ⟨⟨_, rfl⟩, Or.inl rfl⟩
  · exact Or.inr ⟨he, Or.inr rfl⟩

/-- A token is gone after its deletion, or the deletion has failed. -/
theorem server_deleteToken {name : String} {x : Except GoError Unit}
    (h : server (.deleteToken name) w x w') :
    (∃ version, w' = { w with
      secrets := setSecret w.secrets name none
      version := version }) ∨
    w' = { w with failedDeletes := name :: w.failedDeletes } := by
  have hserve : ∃ version, (serveDeleteToken w name).2 = { w with
      secrets := setSecret w.secrets name none
      version := version } := by
    rw [serveDeleteToken]
    split
    · rename_i hs
      have hsame : setSecret w.secrets name none = w.secrets := by
        funext n
        by_cases hn : n = name
        · rw [hn, setSecret_self, hs]
        · rw [setSecret_of_ne _ _ hn]
      exact ⟨w.version, by rw [hsame]⟩
    · exact ⟨_, rfl⟩
  have hlose : ∀ t, (lose t (serveDeleteToken w name)).2 = (serveDeleteToken w name).2 := by
    intro t
    rw [lose]
    split <;> rfl
  obtain ⟨version, hserve⟩ := hserve
  obtain ⟨ch, h⟩ := h
  cases ch with
  | serve => exact Or.inl ⟨version, (congrArg Prod.snd (Option.some.inj h)).symm.trans hserve⟩
  | fail t =>
      cases h
      exact Or.inr rfl
  | lost t =>
      have hw : (lose t (serveDeleteToken w name)).2 = w' := congrArg Prod.snd (Option.some.inj h)
      exact Or.inl ⟨version, hw.symm.trans ((hlose t).trans hserve)⟩
  | random b => cases h

theorem server_getJoinToken {key : NamespacedName} {x : Except GoError WorkerJoinToken}
    (h : server (.getJoinToken key) w x w') :
    (∃ o, x = .ok o ∧ w.obj = some o ∧ o.metadata.key = key ∧
      w' = { w with fetched := some o }) ∨
    ((∃ e, x = .error e) ∧ w' = w) := by
  obtain ⟨ch, h⟩ := h
  cases ch <;> simp only [respond, reduceCtorEq] at h
  · rw [serveGetJoinToken] at h
    split at h
    · rename_i o ho
      split at h
      · rename_i hkey
        cases h
        exact Or.inl ⟨o, rfl, ho, hkey, rfl⟩
      · cases h
        exact Or.inr ⟨⟨_, rfl⟩, rfl⟩
    · cases h
      exact Or.inr ⟨⟨_, rfl⟩, rfl⟩
  · cases h
    exact Or.inr ⟨⟨_, rfl⟩, rfl⟩

/-- An update of the object: only its metadata and specification change, or it goes away. -/
theorem server_updateJoinToken {x : Except GoError WorkerJoinToken}
    (h : server (.updateJoinToken o) w x w') :
    (∃ s s', w.obj = some s ∧ s'.status = s.status ∧
      s'.metadata.deletionTimestamp = s.metadata.deletionTimestamp ∧
      w' = { w with
        obj := if s.metadata.deletionTimestamp.isSome && o.metadata.finalizers.isEmpty then none
          else some s'
        version := w.version + 1 }) ∨ w' = w := by
  have hw : Wrote w (serveUpdateJoinToken w o) x w' :=
    wrote_of rfl (fun _ => rfl) (fun _ => rfl) (fun _ => rfl) h
  rcases hw with ⟨rfl, -⟩ | ⟨-, rfl⟩
  · rw [serveUpdateJoinToken]
    split
    · exact Or.inr rfl
    · rename_i s hs
      split
      · refine Or.inl ⟨s, _, hs, ?_, ?_, rfl⟩ <;> rfl
      · exact Or.inr rfl
  · exact Or.inr rfl

theorem server_status {x : Except GoError WorkerJoinToken}
    (h : server (.updateJoinTokenStatus o) w x w') :
    (∃ s, w.obj = some s ∧ w' = { w with
      obj := some { s with status := o.status, metadata.resourceVersion := w.version + 1 }
      version := w.version + 1
      minted := if w.minted = some (bootstrapTokenName o.status.tokenID) then none
        else w.minted }) ∨
    ((∃ e, x = .error e) ∧ w' = w) := by
  have hw : Wrote w (serveStatus w o) x w' :=
    wrote_of rfl (fun _ => rfl) (fun _ => rfl) (fun _ => rfl) h
  rcases hw with ⟨rfl, hx⟩ | hfail
  · cases hs : w.obj with
    | none =>
        simp only [serveStatus, hs] at hx ⊢
        exact Or.inr ⟨hx.elim (fun h => ⟨_, h⟩) id, trivial⟩
    | some s =>
        by_cases hv : s.metadata.resourceVersion = o.metadata.resourceVersion
        · exact Or.inl ⟨s, rfl, by simp only [serveStatus, hs, hv, if_true]⟩
        · simp only [serveStatus, hs, hv, if_false] at hx ⊢
          exact Or.inr ⟨hx.elim (fun h => ⟨_, h⟩) id, trivial⟩
  · exact Or.inr hfail

theorem server_getSecret {name : String} (h : server (.getSecret name) w x w') :
    (w' = { w with lastSeen := some w.secrets } ∧
      ((∃ s, x = .ok s ∧ w.secrets name = some s) ∨
        ∃ e, x = .error e ∧ e.reason = .notFound ∧ w.secrets name = none)) ∨
    ((∃ e, x = .error e ∧ e.reason = .other) ∧ w' = w) := by
  obtain ⟨ch, h⟩ := h
  cases ch <;> simp only [respond, reduceCtorEq] at h
  · rw [serveGetSecret] at h
    cases hs : w.secrets name <;> simp only [hs] at h <;> cases h
    · exact Or.inl ⟨rfl, Or.inr ⟨_, rfl, rfl, rfl⟩⟩
    · exact Or.inl ⟨rfl, Or.inl ⟨_, rfl, rfl⟩⟩
  · cases h
    exact Or.inr ⟨⟨_, rfl, rfl⟩, rfl⟩

/-- The Secret is stored, with the next version. -/
def World.storeSecret (w : World) (s : Secret) : World :=
  let secrets := setSecret w.secrets s.metadata.name
    (some { s with metadata.resourceVersion := w.version + 1 })
  { w with secrets := secrets, version := w.version + 1, lastSeen := some secrets }

theorem server_createSecret (h : server (.createSecret s) w x w') :
    ((∀ s', x = .ok s' → s' = { s with metadata.resourceVersion := w.version + 1 }) ∧
      w' = w.storeSecret s) ∨ ((∃ e, x = .error e) ∧ w' = w) := by
  have hw : Wrote w (serveCreateSecret w s) x w' :=
    wrote_of rfl (fun _ => rfl) (fun _ => rfl) (fun _ => rfl) h
  rcases hw with ⟨rfl, hx⟩ | hfail
  · cases hs : w.secrets s.metadata.name with
    | some e =>
        simp only [serveCreateSecret, hs] at hx ⊢
        exact Or.inr ⟨hx.elim (fun h => ⟨_, h⟩) id, trivial⟩
    | none =>
        simp only [serveCreateSecret, hs] at hx ⊢
        refine Or.inl ⟨fun s' hs' => ?_, rfl⟩
        rcases hx with hx | ⟨e, hx⟩ <;> rw [hx] at hs' <;> cases hs'
        rfl
  · exact Or.inr hfail

theorem server_updateSecret (h : server (.updateSecret s) w x w') :
    ((∀ s', x = .ok s' → s' = { s with metadata.resourceVersion := w.version + 1 }) ∧
      w' = w.storeSecret s) ∨ ((∃ e, x = .error e) ∧ w' = w) := by
  have hw : Wrote w (serveUpdateSecret w s) x w' :=
    wrote_of rfl (fun _ => rfl) (fun _ => rfl) (fun _ => rfl) h
  rcases hw with ⟨rfl, hx⟩ | hfail
  · cases hs : w.secrets s.metadata.name with
    | none =>
        simp only [serveUpdateSecret, hs] at hx ⊢
        exact Or.inr ⟨hx.elim (fun h => ⟨_, h⟩) id, trivial⟩
    | some e =>
        by_cases hv : e.metadata.resourceVersion = s.metadata.resourceVersion
        · simp only [serveUpdateSecret, hs, hv, if_true] at hx ⊢
          refine Or.inl ⟨fun s' hs' => ?_, rfl⟩
          rcases hx with hx | ⟨e, hx⟩ <;> rw [hx] at hs' <;> cases hs'
          rfl
        · simp only [serveUpdateSecret, hs, hv, if_false] at hx ⊢
          exact Or.inr ⟨hx.elim (fun h => ⟨_, h⟩) id, trivial⟩
  · exact Or.inr hfail

/-! ### Calls that are served -/

theorem getJoinToken_ok {key : NamespacedName} (hs : server (.getJoinToken key) w (.ok o) w') :
    w.obj = some o ∧ o.metadata.key = key ∧ w' = { w with fetched := some o } := by
  rcases server_getJoinToken hs with ⟨_, hx, ho, hkey, rfl⟩ | ⟨⟨_, hx⟩, -⟩
  · cases hx
    exact ⟨ho, hkey, rfl⟩
  · cases hx

theorem createToken_ok {s' : Secret} (hs : server (.createToken s) w (.ok s') w') :
    w' = { w.storeToken s with minted := some s.metadata.name } := by
  rcases server_createToken hs with ⟨-, rfl⟩ | ⟨⟨_, hx⟩, -⟩
  · rfl
  · cases hx

theorem status_ok {o' : WorkerJoinToken} (hs : server (.updateJoinTokenStatus o) w (.ok o') w') :
    ∃ s, w.obj = some s ∧ w' = { w with
      obj := some { s with status := o.status, metadata.resourceVersion := w.version + 1 }
      version := w.version + 1
      minted := if w.minted = some (bootstrapTokenName o.status.tokenID) then none
        else w.minted } := by
  rcases server_status hs with hstored | ⟨⟨_, hx⟩, -⟩
  · exact hstored
  · cases hx

theorem getJoinToken_error {key : NamespacedName} {e : GoError}
    (hs : server (.getJoinToken key) w (.error e) w') : w' = w := by
  rcases server_getJoinToken hs with ⟨_, hx, _⟩ | ⟨-, rfl⟩
  · cases hx
  · rfl

end Server

/-! ## Others -/

/-- What others do. They may write the published Secret, edit and delete any Secret, but they issue
no tokens themselves. -/
inductive Event where
  | tick (ns : Nat)
  | requestDeletion
  | relabel (labels : GoMap String)
  | writeJoinSecret (data : GoMap Bytes) (owners : List OwnerReference)
  | editSecret (name : String) (data : GoMap Bytes)
  | deleteSecret (name : String)

/-- A request to delete an object: it goes away at once when it has no finalizer. -/
def markDeleted (w : World) (o : WorkerJoinToken) : World :=
  if o.metadata.finalizers = [] then { w with obj := none, version := w.version + 1 }
  else
    { w with
      obj := some { o with metadata := { o.metadata with
        deletionTimestamp := o.metadata.deletionTimestamp.or (some (w.clock / 1000000000))
        resourceVersion := w.version + 1 } }
      version := w.version + 1 }

/-- The effect of an event on the cluster of the WorkerJoinToken `name`. -/
def act (name : String) : Event → World → Option World
  | .tick ns, w => some { w with clock := w.clock + ns }
  | .requestDeletion, w => w.obj.map (markDeleted w)
  | .relabel labels, w => w.obj.map fun o =>
      { w with
        obj := some { o with metadata := { o.metadata with
          labels := labels
          resourceVersion := w.version + 1 } }
        version := w.version + 1 }
  | .writeJoinSecret data owners, w => some { w with
      secrets := setSecret w.secrets (joinSecretName name) (some
        { metadata :=
            { name := joinSecretName name
              ns := namespaceSystem
              resourceVersion := w.version + 1
              ownerReferences := owners }
          data := data })
      version := w.version + 1 }
  | .editSecret n data, w => (w.secrets n).map fun s =>
      { w with
        secrets := setSecret w.secrets n (some { s with
          metadata.resourceVersion := w.version + 1
          data := data })
        version := w.version + 1 }
  | .deleteSecret n, w => (w.secrets n).map fun _ =>
      { w with
        secrets := setSecret w.secrets n none
        version := w.version + 1 }

/-- Two versions of the object, the newer one first, between which only others have acted. -/
structure SameObject (o j : WorkerJoinToken) : Prop where
  status : o.status = j.status
  spec : o.spec = j.spec
  finalizers : o.metadata.finalizers = j.metadata.finalizers
  name : o.metadata.name = j.metadata.name
  ns : o.metadata.ns = j.metadata.ns
  uid : o.metadata.uid = j.metadata.uid
  deletion : j.metadata.deletionTimestamp.isSome = true → o.metadata.deletionTimestamp.isSome = true

theorem SameObject.refl (j : WorkerJoinToken) : SameObject j j :=
  ⟨rfl, rfl, rfl, rfl, rfl, rfl, id⟩

theorem SameObject.trans {a b c : WorkerJoinToken} (h : SameObject a b) (h' : SameObject b c) :
    SameObject a c :=
  ⟨h.status.trans h'.status, h.spec.trans h'.spec, h.finalizers.trans h'.finalizers,
    h.name.trans h'.name, h.ns.trans h'.ns, h.uid.trans h'.uid, h.deletion ∘ h'.deletion⟩

theorem SameObject.live {o j : WorkerJoinToken} (h : SameObject o j)
    (hdel : o.metadata.deletionTimestamp = none) : j.metadata.deletionTimestamp = none := by
  by_contra hne
  have hsome := h.deletion (Option.isSome_iff_ne_none.mpr hne)
  rw [hdel] at hsome
  cases hsome

/-- What others can do to the object: it goes away only when it has no finalizer. -/
inductive OutsideObj : Option WorkerJoinToken → Option WorkerJoinToken → Prop where
  | kept (o : Option WorkerJoinToken) : OutsideObj o o
  | changed {o o' : WorkerJoinToken} : SameObject o' o → OutsideObj (some o) (some o')
  | gone {o : WorkerJoinToken} : o.metadata.finalizers = [] → OutsideObj (some o) none

/-- What others can do to the Secret `n`, for the WorkerJoinToken `name`. -/
inductive OutsideSecret (name n : String) : Option Secret → Option Secret → Prop where
  | kept (s : Option Secret) : OutsideSecret name n s s
  | edited (s : Secret) (version : Nat) (data : GoMap Bytes) :
      OutsideSecret name n (some s)
        (some { s with metadata.resourceVersion := version, data := data })
  | deleted (s : Secret) : OutsideSecret name n (some s) none
  | written (s : Option Secret) (s' : Secret) : n = joinSecretName name → s'.type = "" →
      s'.metadata.name = n →
      OutsideSecret name n s (some s')

/-- What others can do. -/
structure Outside (name : String) (w w' : World) : Prop where
  obj : OutsideObj w.obj w'.obj
  secrets : ∀ n, OutsideSecret name n (w.secrets n) (w'.secrets n)
  clock : w.clock ≤ w'.clock
  minted : w'.minted = w.minted
  lostTokens : w'.lostTokens = w.lostTokens
  failedDeletes : w'.failedDeletes = w.failedDeletes
  fetched : w'.fetched = w.fetched
  lastSeen : w'.lastSeen = w.lastSeen
  expirySeen : w'.expirySeen = w.expirySeen
  reissued : w'.reissued = w.reissued

theorem Outside.before {o' : WorkerJoinToken} (h : Outside name w w') (ho' : w'.obj = some o') :
    ∃ o, w.obj = some o ∧ SameObject o' o := by
  have hobj := h.obj
  rw [ho'] at hobj
  generalize hw : w.obj = a at hobj
  cases hobj with
  | kept => exact ⟨o', rfl, .refl _⟩
  | changed hs => exact ⟨_, rfl, hs⟩

theorem outsideSecret_set {n₀ : String} {f : Secrets} {s' : Option Secret}
    (h : OutsideSecret name n₀ (f n₀) s') (n : String) :
    OutsideSecret name n (f n) (setSecret f n₀ s' n) := by
  by_cases hn : n = n₀
  · rw [hn, setSecret_self]
    exact h
  · rw [setSecret_of_ne _ _ hn]
    exact .kept _

theorem outside_of_act {e : Event} (h : act name e w = some w') : Outside name w w' := by
  cases e with
  | tick ns =>
      cases h
      exact ⟨.kept _, fun _ => .kept _, Nat.le_add_right _ _, rfl, rfl, rfl, rfl, rfl, rfl, rfl⟩
  | requestDeletion =>
      obtain ⟨o, ho, rfl⟩ := Option.map_eq_some_iff.mp h
      rw [markDeleted]
      split
      · rename_i hfin
        exact ⟨ho ▸ .gone hfin, fun _ => .kept _, le_rfl, rfl, rfl, rfl, rfl, rfl, rfl, rfl⟩
      · refine ⟨?_, fun _ => .kept _, le_rfl, rfl, rfl, rfl, rfl, rfl, rfl, rfl⟩
        rw [ho]
        exact .changed ⟨rfl, rfl, rfl, rfl, rfl, rfl, fun _ => by simp⟩
  | relabel labels =>
      obtain ⟨o, ho, rfl⟩ := Option.map_eq_some_iff.mp h
      refine ⟨?_, fun _ => .kept _, le_rfl, rfl, rfl, rfl, rfl, rfl, rfl, rfl⟩
      rw [ho]
      exact .changed ⟨rfl, rfl, rfl, rfl, rfl, rfl, id⟩
  | writeJoinSecret data owners =>
      cases h
      exact ⟨.kept _, outsideSecret_set (.written _ _ rfl rfl rfl), le_rfl, rfl, rfl, rfl, rfl, rfl, rfl, rfl⟩
  | editSecret n data =>
      obtain ⟨s, hs, rfl⟩ := Option.map_eq_some_iff.mp h
      refine ⟨.kept _, outsideSecret_set ?_, le_rfl, rfl, rfl, rfl, rfl, rfl, rfl, rfl⟩
      rw [hs]
      exact .edited s _ data
  | deleteSecret n =>
      obtain ⟨s, hs, rfl⟩ := Option.map_eq_some_iff.mp h
      refine ⟨.kept _, outsideSecret_set ?_, le_rfl, rfl, rfl, rfl, rfl, rfl, rfl, rfl⟩
      rw [hs]
      exact .deleted s

/-! ## Copies -/

/-- The stored object is the one that was fetched as `j`, as far as the controller is concerned;
it cannot go away while it has the controller's finalizer. -/
structure Copy (j : WorkerJoinToken) (w : World) : Prop where
  same : ∀ o, w.obj = some o → SameObject o j
  stays : containsFinalizer j.metadata workerJoinTokenFinalizer = true → ∃ o, w.obj = some o

theorem Copy.outside {j : WorkerJoinToken} (h : Copy j w) (hout : Outside name w w') :
    Copy j w' := by
  have hobj := hout.obj
  generalize hw : w.obj = a at hobj
  generalize hw' : w'.obj = b at hobj
  constructor
  · intro o ho
    rw [hw'] at ho
    cases hobj with
    | kept => exact h.same o (hw.trans ho)
    | changed hs =>
        cases ho
        exact hs.trans (h.same _ hw)
    | gone hf => cases ho
  · intro hfin
    cases hobj with
    | kept =>
        obtain ⟨o, ho⟩ := h.stays hfin
        exact ⟨o, by rw [hw', ← hw, ho]⟩
    | changed hs => exact ⟨_, hw'⟩
    | gone hf =>
        -- the object would have lost the controller's finalizer
        rw [containsFinalizer, ← (h.same _ hw).finalizers, hf] at hfin
        cases hfin

theorem Copy.of_obj_eq {j : WorkerJoinToken} (h : Copy j w) (hobj : w'.obj = w.obj) :
    Copy j w' where
  same := fun o ho => h.same o (hobj ▸ ho)
  stays := fun hfin => by
    rw [hobj]
    exact h.stays hfin

/-- The controller at work on the WorkerJoinToken `name`, which is cluster-scoped. -/
def controller (r : Reconciler) (name : String) :
    Machine sig (Except Fault Result) World Choice Event where
  prog := (reconcile r ⟨"", name⟩).run
  respond := respond
  act := act name
  enter := fun w => { w with minted := none, fetched := none, lastSeen := none }
  leave := fun _ w => w

/-- The last phase of a pass. -/
def Ends : Except Fault Result → Phase → Prop
  | .ok _, q => q = .done
  | .error _, q => q = .failed

theorem controller_follows (r : Reconciler) (name : String) :
    (controller r name).toSystem.prog.Follows (flow r ⟨"", name⟩) Ends .begun :=
  reconcile_follows.mono fun a q h => by cases a <;> exact h

/-- A WorkerJoinToken as a user creates it. -/
def newJoinToken (name : String) (ttl : Duration) : WorkerJoinToken where
  metadata := { name := name, ns := "", uid := name ++ "-uid", resourceVersion := 1, generation := 1 }
  spec := ⟨ttl⟩

/-! ## A sample cluster -/

/-- A reconciler with libraries that can be evaluated: the digest of some bytes spells them out,
and a kubeconfig consists of its token. -/
def sampleReconciler : Reconciler where
  libs :=
    { isPrint := fun _ => true
      sha256 := fun b => String.ofList (b.map fun u => Char.ofNat u.toNat)
      writeKubeconfig := fun c => .ok (bytes (c.authInfos.getD "tls-bootstrap-token-user" {}).token)
      rfc3339 := fun t => toString t
      rfc3339Micro := fun t => toString t }
  ca := []
  runtime := ControlPlane.Runtime.minimal "tenant" "default"

/-- The WorkerJoinToken `workers` has just been created. -/
def sampleStart : State sig (Except Fault Result) World :=
  ⟨{ obj := some (newJoinToken "workers" ⟨3600000000000⟩), secrets := fun _ => none, version := 1 },
    none⟩

/-- A whole pass whose calls are resolved as given. -/
def pass (answers : List Choice) : List (Machine.Act Choice Event) :=
  [.enter] ++ answers.map .call ++ [.leave]

/-- The random bytes of a token. -/
def randomToken (b : UInt8) : List Choice := [.random [b, b, b], .random (List.replicate 8 b)]

/-- The pass that adds the finalizer. -/
def adoptPass : List (Machine.Act Choice Event) := pass [.serve, .serve]

/-- The pass that issues a first token, up to its record. -/
def issuePass (b : UInt8) (record : Choice) : List (Machine.Act Choice Event) :=
  pass ([.serve] ++ randomToken b ++ [.serve, .serve, .serve, .serve, .serve, record])

end Heir.Controller.JoinToken
