import Heir.Controller.JoinToken.World

set_option autoImplicit false

/-! # What a ready WorkerJoinToken says about the cluster

A WorkerJoinToken that is Ready and not expired should stand for a token that works: the published
kubeconfig holds the token named in the status, and the Secret of that token exists.

`secretDrifted` compares the published Secret with a checksum and never looks at the Secret of the
token. So the statement holds as long as others leave that Secret alone, do not put back what was
published before, and `Generate` does not draw the same identifier again (`ready_sound`).
-/

namespace Heir.Controller.JoinToken

open Heir.Core Heir.ClusterAgent Heir.Bootstrap Interact

/-! ## The property -/

/-- Among these Secrets, the published one holds a kubeconfig of the token `t`, and the Secret of the
token is there. -/
def Holds (r : Reconciler) (name : String) (t : Token) (f : Secrets) : Prop :=
  (∃ s, f (joinSecretName name) = some s ∧ kubeconfigOf r t = .ok (joinTokenData s)) ∧
    (f (bootstrapTokenName t.id)).isSome = true

/-- The stored object is Ready, and the expiry is ahead. -/
def Current (w : World) (o : WorkerJoinToken) : Prop :=
  w.obj = some o ∧ isStatusConditionTrue o.status.conditions typeReadyWorkerJoinToken = true ∧
    ∃ t, o.status.expiresAt = some t ∧ w.clock < t * 1000000000

/-- The object was not being deleted when the pass fetched it. -/
def OnLive (w : World) : Prop := ∃ j, w.fetched = some j ∧ j.metadata.deletionTimestamp = none

/-- What the pass saw last is what the status says. -/
def SeenSound (r : Reconciler) (name : String) (w : World) : Prop :=
  OnLive w → ∀ o, Current w o →
    ∃ f t, w.lastSeen = some f ∧ t.id = o.status.tokenID ∧ Holds r name t f

/-! ## The condition -/

/-- The published Secret is missing, or it has another checksum. -/
def Off (r : Reconciler) (name checksum : String) (f : Secrets) : Prop :=
  ∀ s, f (joinSecretName name) = some s → secretChecksum r (joinTokenData s) ≠ checksum

/-- The published Secret is not what the status records. -/
def Drifted (r : Reconciler) (name : String) (w : World) : Prop :=
  ∀ o, w.obj = some o → Off r name o.status.secretChecksum w.secrets

/-- A Secret that is there stays. -/
def Stays (w w' : World) (n : String) : Prop :=
  (w.secrets n).isSome = true → (w'.secrets n).isSome = true

/-- Others do not delete the Secret of the recorded token or of one that is about to be recorded, and
do not put back the recorded content of the published Secret. A new token gets another identifier
than the recorded one. -/
def Undisturbed (r : Reconciler) (name : String) (w : World) :
    Label sig (Except Fault Result) World → Prop
  | .env w' =>
      (∀ o, w.obj = some o → Stays w w' (bootstrapTokenName o.status.tokenID)) ∧
      (∀ n, w.minted = some n → Stays w w' n) ∧
      (Drifted r name w → Drifted r name w')
  | .call (.rand _) (.ok b) => ∀ o, w.obj = some o → hexEncode b ≠ o.status.tokenID
  | _ => True

/-- What is assumed of the libraries: sha256 has no collisions, and a kubeconfig determines its
token. -/
structure Lossless (r : Reconciler) : Prop where
  sha256 : Function.Injective r.libs.sha256
  kubeconfig : ∀ t t' b, kubeconfigOf r t = .ok b → kubeconfigOf r t' = .ok b → t.text = t'.text

/-! ## Invariants -/

/-- The status comes from the issue of a token. -/
def Issue (r : Reconciler) (name : String) (st : WorkerJoinTokenStatus) : Prop :=
  st.secretRef = some (joinSecretName name) ∧
    ∃ t b, IsTokenID t.id ∧ t.id = st.tokenID ∧ kubeconfigOf r t = .ok b ∧
      st.secretChecksum = secretChecksum r b

/-- The recorded token exists, or the published Secret gives away that it may not. -/
def Covered (r : Reconciler) (name : String) (st : WorkerJoinTokenStatus) (f : Secrets) : Prop :=
  (f (bootstrapTokenName st.tokenID)).isSome = true ∨ Off r name st.secretChecksum f

/-- A status with an expiry is that of an issued token. -/
def Backed (r : Reconciler) (name : String) (st : WorkerJoinTokenStatus) (f : Secrets) : Prop :=
  st.expiresAt ≠ none → Issue r name st ∧ Covered r name st f

/-- A token is issued only after the finalizer is there. -/
def Guarded (o : WorkerJoinToken) : Prop :=
  containsFinalizer o.metadata workerJoinTokenFinalizer = false → o.status.expiresAt = none

/-- The published Secret has its own name. -/
def Keyed (name : String) (f : Secrets) : Prop :=
  ∀ s, f (joinSecretName name) = some s → s.metadata.name = joinSecretName name

/-- What holds between passes. -/
structure Standing (r : Reconciler) (name : String) (w : World) : Prop where
  keyed : Keyed name w.secrets
  live : ∀ o, w.obj = some o → o.metadata.deletionTimestamp = none →
    Backed r name o.status w.secrets ∧ Guarded o

/-- The pass works on the copy `j`. -/
structure Working (name : String) (j : WorkerJoinToken) (w : World) : Prop where
  keyed : Keyed name w.secrets
  copy : Copy j w
  named : j.metadata.key = ⟨"", name⟩
  fetched : w.fetched = some j

/-- The pass works on a copy that is not being deleted and has the finalizer. -/
structure Live (r : Reconciler) (name : String) (j : WorkerJoinToken) (w : World) : Prop extends
    Working name j w where
  active : Active j
  backed : Backed r name j.status w.secrets

/-- The token `t` has been created for `j`. -/
structure Minted (r : Reconciler) (name : String) (j : WorkerJoinToken) (t : Token) (w : World) :
    Prop extends Live r name j w where
  id : IsTokenID t.id
  other : t.id ≠ j.status.tokenID
  minted : w.minted = some (bootstrapTokenName t.id)
  present : (w.secrets (bootstrapTokenName t.id)).isSome = true

/-- The kubeconfig of the token `t` has been published as `s`, in place of the recorded one. -/
structure Published (r : Reconciler) (name : String) (j : WorkerJoinToken) (t : Token) (s : Secret)
    (w : World) : Prop extends Minted r name j t w where
  kubeconfig : kubeconfigOf r t = .ok (joinTokenData s)
  seen : ∃ f, w.lastSeen = some f ∧ Holds r name t f
  off : j.status.expiresAt ≠ none → Off r name j.status.secretChecksum w.secrets

/-- What holds in each phase of a pass. -/
def Backing (r : Reconciler) (name : String) : Phase → World → Prop
  | .begun => fun w => Standing r name w ∧ w.fetched = none
  | .fetched j => fun w => Working name j w ∧
      (j.metadata.deletionTimestamp = none → Backed r name j.status w.secrets ∧ Guarded j)
  | .deleting j => fun w => Working name j w ∧ j.metadata.deletionTimestamp.isSome = true
  | .undrifted j => fun w => Live r name j w ∧
      ∃ f t, w.lastSeen = some f ∧ t.id = j.status.tokenID ∧ Holds r name t f
  | .due j => fun w => Live r name j w ∧
      ∃ t, j.status.expiresAt = some t ∧ t * 1000000000 ≤ w.clock
  | .expired j => fun w => Live r name j w ∧
      ∃ t, j.status.expiresAt = some t ∧ t * 1000000000 ≤ w.clock
  | .minting j => Live r name j
  | .numbered j b => fun w => Live r name j w ∧ b.length = 3 ∧ hexEncode b ≠ j.status.tokenID
  | .drawn j t => fun w => Live r name j w ∧ IsTokenID t.id ∧ t.id ≠ j.status.tokenID
  | .created j t => Minted r name j t
  | .read j t kubeconfig existing => fun w => Minted r name j t w ∧
      kubeconfigOf r t = .ok kubeconfig ∧
      ∀ s, existing = some s → s.metadata.name = joinSecretName name ∧
        (∃ f, w.lastSeen = some f ∧ f (joinSecretName name) = some s ∧
          (f (bootstrapTokenName t.id)).isSome = true) ∧
        (secretChecksum r (joinTokenData s) ≠ j.status.secretChecksum →
          Off r name j.status.secretChecksum w.secrets)
  | .published j t s => Published r name j t s
  | .revoked j t s => Published r name j t s
  | .degrading j => Live r name j
  | .done => fun w => Standing r name w ∧ SeenSound r name w
  | .failed => Standing r name

/-! ## Acts of others -/

section Outside

variable {r : Reconciler} {name : String} {j : WorkerJoinToken} {t : Token} {w w' : World}

theorem Keyed.outside (h : Keyed name w.secrets) (hout : Outside name w w') :
    Keyed name w'.secrets := by
  intro s hs
  have hsec := hout.secrets (joinSecretName name)
  rw [hs] at hsec
  generalize hw : w.secrets (joinSecretName name) = a at hsec
  cases hsec with
  | kept => exact h s hw
  | edited s₀ version data => exact h s₀ hw
  | written _ _ _ _ hname => exact hname

/-- Others keep the recorded token, or they leave the published Secret drifted. -/
theorem Covered.outside {o o' : WorkerJoinToken} (h : Covered r name o.status w.secrets)
    (hok : Undisturbed r name w (.env w')) (ho : w.obj = some o) (ho' : w'.obj = some o')
    (hst : o'.status = o.status) : Covered r name o.status w'.secrets := by
  rcases h with htoken | hoff
  · exact Or.inl (hok.1 o ho htoken)
  · have hdrift : Drifted r name w := by
      intro o₁ ho₁
      rw [ho] at ho₁
      cases ho₁
      exact hoff
    exact Or.inr (hst ▸ hok.2.2 hdrift o' ho')

/-- The object of a copy with the finalizer, before and after an act of others. -/
theorem Working.objects (h : Working name j w) (hout : Outside name w w')
    (hfin : containsFinalizer j.metadata workerJoinTokenFinalizer = true) :
    ∃ o o', w.obj = some o ∧ w'.obj = some o' ∧ o.status = j.status ∧ o'.status = j.status := by
  obtain ⟨o, ho⟩ := h.copy.stays hfin
  obtain ⟨o', ho'⟩ := (h.copy.outside hout).stays hfin
  exact ⟨o, o', ho, ho', (h.copy.same o ho).status, ((h.copy.outside hout).same o' ho').status⟩

theorem Working.outside (h : Working name j w) (hout : Outside name w w') : Working name j w' where
  keyed := h.keyed.outside hout
  copy := h.copy.outside hout
  named := h.named
  fetched := hout.fetched.trans h.fetched

theorem Off.outside (h : Off r name j.status.secretChecksum w.secrets) (hl : Live r name j w)
    (hout : Outside name w w') (hok : Undisturbed r name w (.env w')) :
    Off r name j.status.secretChecksum w'.secrets := by
  obtain ⟨o, o', ho, ho', hst, hst'⟩ := hl.objects hout hl.active.2
  have hdrift : Drifted r name w := by
    intro o₁ ho₁
    rw [ho] at ho₁
    cases ho₁
    rwa [hst]
  have := hok.2.2 hdrift o' ho'
  rwa [hst'] at this

theorem Working.backed_outside (h : Working name j w)
    (hfin : containsFinalizer j.metadata workerJoinTokenFinalizer = true)
    (hb : Backed r name j.status w.secrets) (hout : Outside name w w')
    (hok : Undisturbed r name w (.env w')) : Backed r name j.status w'.secrets := by
  obtain ⟨o, o', ho, ho', hst, hst'⟩ := h.objects hout hfin
  intro hexp
  obtain ⟨hissue, hcov⟩ := hb hexp
  refine ⟨hissue, ?_⟩
  rw [← hst] at hcov ⊢
  exact hcov.outside hok ho ho' (hst'.trans hst.symm)

theorem Live.outside (h : Live r name j w) (hout : Outside name w w')
    (hok : Undisturbed r name w (.env w')) : Live r name j w' where
  toWorking := h.toWorking.outside hout
  active := h.active
  backed := h.toWorking.backed_outside h.active.2 h.backed hout hok

theorem Minted.outside (h : Minted r name j t w) (hout : Outside name w w')
    (hok : Undisturbed r name w (.env w')) : Minted r name j t w' where
  toLive := h.toLive.outside hout hok
  id := h.id
  other := h.other
  minted := hout.minted.trans h.minted
  present := hok.2.1 _ h.minted h.present

theorem Published.outside {s : Secret} (h : Published r name j t s w) (hout : Outside name w w')
    (hok : Undisturbed r name w (.env w')) : Published r name j t s w' where
  toMinted := h.toMinted.outside hout hok
  kubeconfig := h.kubeconfig
  seen := by
    rw [hout.lastSeen]
    exact h.seen
  off := fun hexp => (h.off hexp).outside h.toLive hout hok

theorem Standing.outside (h : Standing r name w) (hout : Outside name w w')
    (hok : Undisturbed r name w (.env w')) : Standing r name w' := by
  refine ⟨h.keyed.outside hout, fun o' ho' hdel => ?_⟩
  obtain ⟨o, ho, hsame⟩ := hout.before ho'
  obtain ⟨hb, hg⟩ := h.live o ho (hsame.live hdel)
  constructor
  · intro hexp
    rw [hsame.status] at hexp ⊢
    exact ⟨(hb hexp).1, (hb hexp).2.outside hok ho ho' hsame.status⟩
  · intro hfin
    rw [containsFinalizer, hsame.finalizers] at hfin
    rw [hsame.status]
    exact hg hfin

/-- The status and the expiry are the same after an act of others, and the clock is later. -/
theorem SeenSound.outside (h : SeenSound r name w) (hout : Outside name w w') :
    SeenSound r name w' := by
  rintro ⟨j, hj, hdel⟩ o' ⟨ho', hready, t, ht, hclock⟩
  rw [hout.fetched] at hj
  rw [hout.lastSeen]
  obtain ⟨o, ho, hsame⟩ := hout.before ho'
  rw [hsame.status] at hready ht ⊢
  exact h ⟨j, hj, hdel⟩ o ⟨ho, hready, t, ht, lt_of_le_of_lt hout.clock hclock⟩

theorem Backed.of_unissued {f : Secrets} (h : j.status.expiresAt = none) :
    Backed r name j.status f :=
  fun hexp => absurd h hexp

theorem backing_outside {ph : Phase} (h : Backing r name ph w) (hout : Outside name w w')
    (hok : Undisturbed r name w (.env w')) : Backing r name ph w' := by
  cases ph with
  | begun => exact ⟨h.1.outside hout hok, hout.fetched.trans h.2⟩
  | fetched j =>
      refine ⟨h.1.outside hout, fun hdel => ⟨?_, (h.2 hdel).2⟩⟩
      cases hfin : containsFinalizer j.metadata workerJoinTokenFinalizer with
      | true => exact h.1.backed_outside hfin (h.2 hdel).1 hout hok
      | false => exact .of_unissued ((h.2 hdel).2 hfin)
  | deleting j => exact ⟨h.1.outside hout, h.2⟩
  | undrifted j => exact ⟨h.1.outside hout hok, hout.lastSeen ▸ h.2⟩
  | due j | expired j =>
      obtain ⟨hl, t, ht, hclock⟩ := h
      exact ⟨hl.outside hout hok, t, ht, hclock.trans hout.clock⟩
  | minting j => exact Live.outside h hout hok
  | numbered j b | drawn j t => exact ⟨h.1.outside hout hok, h.2⟩
  | created j t => exact Minted.outside h hout hok
  | read j t kubeconfig existing =>
      obtain ⟨hm, hk, hex⟩ := h
      refine ⟨hm.outside hout hok, hk, fun s hs => ?_⟩
      obtain ⟨hname, hseen, hoff⟩ := hex s hs
      exact ⟨hname, hout.lastSeen ▸ hseen, fun hne => (hoff hne).outside hm.toLive hout hok⟩
  | published j t s | revoked j t s => exact Published.outside h hout hok
  | degrading j => exact Live.outside h hout hok
  | done => exact ⟨h.1.outside hout hok, h.2.outside hout⟩
  | failed => exact Standing.outside h hout hok

end Outside

/-! ## Calls -/

section Calls

variable {r : Reconciler} {name : String} {j : WorkerJoinToken} {t : Token} {w w' : World}

theorem Working.name_eq (h : Working name j w) : j.metadata.name = name :=
  congrArg NamespacedName.name h.named

/-- What the invariants of a pass look at: the object, the Secrets and the copy. -/
theorem Working.congr (h : Working name j w) (hobj : w'.obj = w.obj)
    (hkeyed : Keyed name w'.secrets) (hfetched : w'.fetched = w.fetched) : Working name j w' :=
  ⟨hkeyed, h.copy.of_obj_eq hobj, h.named, hfetched.trans h.fetched⟩

/-- A pass that ends without a change of the object leaves a standing state behind. -/
theorem Working.standing (h : Working name j w)
    (hlive : j.metadata.deletionTimestamp = none → Backed r name j.status w.secrets ∧ Guarded j) :
    Standing r name w := by
  refine ⟨h.keyed, fun o ho hdel => ?_⟩
  have hsame := h.copy.same o ho
  obtain ⟨hb, hg⟩ := hlive (hsame.live hdel)
  refine ⟨hsame.status ▸ hb, fun hfin => ?_⟩
  rw [containsFinalizer, hsame.finalizers] at hfin
  rw [hsame.status]
  exact hg hfin

theorem Guarded.of_active (h : Active j) : Guarded j := by
  intro hfin
  rw [h.2] at hfin
  cases hfin

theorem Live.standing (h : Live r name j w) : Standing r name w :=
  h.toWorking.standing fun _ => ⟨h.backed, .of_active h.active⟩

/-- A change of the Secrets that keeps the published one and the recorded token. -/
theorem Live.congr (h : Live r name j w) (hobj : w'.obj = w.obj) (hfetched : w'.fetched = w.fetched)
    (hjoin : w'.secrets (joinSecretName name) = w.secrets (joinSecretName name))
    (htoken : Stays w w' (bootstrapTokenName j.status.tokenID)) : Live r name j w' where
  toWorking := h.toWorking.congr hobj (fun s hs => h.keyed s (hjoin ▸ hs)) hfetched
  active := h.active
  backed := fun hexp => ⟨(h.backed hexp).1, (h.backed hexp).2.imp htoken
    fun hoff s hs => hoff s (hjoin ▸ hs)⟩

theorem Live.mark (h : Live r name j w) (lastSeen : Option Secrets) (expirySeen : Bool) :
    Live r name j { w with lastSeen := lastSeen, expirySeen := expirySeen } :=
  h.congr rfl rfl rfl id

variable {kubeconfig : Bytes} {n : String} {now : Instant} {o : WorkerJoinToken} {s : Secret}
  {x : Except GoError WorkerJoinToken}

/-- A status that tells the same story, with another Ready condition. -/
theorem Live.report (h : Live r name j w) (hs : server (.updateJoinTokenStatus o) w x w')
    (ho : ∃ conditions, o.status = { j.status with conditions := conditions }) :
    Standing r name w' := by
  obtain ⟨conditions, ho⟩ := ho
  rcases server_status hs with ⟨s, hobj, rfl⟩ | ⟨-, rfl⟩
  · refine ⟨h.keyed, fun o' ho' _ => ?_⟩
    cases ho'
    refine ⟨fun hexp => ?_, ?_⟩
    · rw [ho] at hexp ⊢
      exact h.backed hexp
    · intro hfin
      have hfin' : containsFinalizer j.metadata workerJoinTokenFinalizer = false := by
        rw [containsFinalizer, ← (h.copy.same s hobj).finalizers]
        exact hfin
      rw [h.active.2] at hfin'
      cases hfin'
  · exact h.standing

theorem Live.of_fetched (h : Backing r name (.fetched j) w) (hact : Active j) : Live r name j w :=
  ⟨h.1, hact, (h.2 hact.1).1⟩

theorem Live.getSecret (h : Live r name j w) {x : Except GoError Secret}
    (hs : server (.getSecret n) w x w') : Live r name j w' := by
  rcases server_getSecret hs with ⟨rfl, -⟩ | ⟨-, rfl⟩
  · exact h.mark (some w.secrets) w.expirySeen
  · exact h

/-- A pass on an object that is being deleted has nothing to vouch for. -/
theorem seenSound_of_deleted (h : w.fetched = some j)
    (hdel : j.metadata.deletionTimestamp.isSome = true) : SeenSound r name w := by
  rintro ⟨j', hj', hnone⟩
  rw [h] at hj'
  cases hj'
  rw [hnone] at hdel
  cases hdel

theorem seenSound_of_past {t : Time} (ht : t * 1000000000 ≤ w.clock)
    (hobj : ∀ o, w.obj = some o → o.status.expiresAt = some t) : SeenSound r name w := by
  rintro - o ⟨ho, -, t', ht', hlt⟩
  rw [hobj o ho] at ht'
  cases ht'
  exact absurd hlt (Nat.not_lt.mpr ht)

theorem Working.fetch (h : Standing r name w) (hj : w.obj = some j)
    (hkey : j.metadata.key = ⟨"", name⟩) :
    Backing r name (.fetched j) { w with fetched := some j } := by
  have hcopy : Copy j { w with fetched := some j } := by
    refine ⟨fun o ho => ?_, fun _ => ⟨j, hj⟩⟩
    have ho' : some j = some o := hj.symm.trans ho
    cases ho'
    exact .refl _
  exact ⟨⟨h.keyed, hcopy, hkey, rfl⟩, fun hdel => h.live j hj hdel⟩

theorem Keyed.delete {f : Secrets} (h : Keyed name f) (n : String) :
    Keyed name (setSecret f n none) := by
  intro s hs
  by_cases hn : joinSecretName name = n
  · rw [hn, setSecret_self] at hs
    cases hs
  · rw [setSecret_of_ne _ _ hn] at hs
    exact h s hs

theorem Working.deleteToken (h : Working name j w) {x : Except GoError Unit}
    (hs : server (.deleteToken n) w x w') : Working name j w' := by
  rcases server_deleteToken hs with ⟨version, rfl⟩ | rfl
  · exact h.congr rfl (h.keyed.delete n) rfl
  · exact h.congr rfl h.keyed rfl

/-- After the finalizer was removed, the object is gone or still being deleted. -/
theorem Working.release (h : Working name j w) (hdel : j.metadata.deletionTimestamp.isSome = true)
    (hs : server (.updateJoinToken o) w x w') : Backing r name .done w' := by
  rcases server_updateJoinToken hs with ⟨s, s', hobj, -, hdts, rfl⟩ | rfl
  · refine ⟨⟨h.keyed, fun o' ho' hnone => ?_⟩, seenSound_of_deleted h.fetched hdel⟩
    dsimp only at ho'
    split at ho'
    · cases ho'
    · cases ho'
      have := (h.copy.same s hobj).deletion hdel
      rw [← hdts, hnone] at this
      cases this
  · exact ⟨h.standing fun hnone => absurd hdel (by simp [hnone]),
      seenSound_of_deleted h.fetched hdel⟩

theorem Working.adopt (h : Working name j w) (hexp : j.status.expiresAt = none)
    (hs : server (.updateJoinToken o) w x w') : Backing r name .done w' := by
  have hall : ∀ o', w'.obj = some o' → o'.status.expiresAt = none := by
    intro o' ho'
    rcases server_updateJoinToken hs with ⟨s, s', hobj, hst, -, rfl⟩ | rfl
    · dsimp only at ho'
      split at ho'
      · cases ho'
      · cases ho'
        rw [hst, (h.copy.same s hobj).status]
        exact hexp
    · rw [(h.copy.same o' ho').status]
      exact hexp
  have hkeyed : Keyed name w'.secrets := by
    rcases server_updateJoinToken hs with ⟨s, s', -, -, -, rfl⟩ | rfl <;> exact h.keyed
  refine ⟨⟨hkeyed, fun o' ho' _ => ⟨.of_unissued (hall o' ho'), fun _ => hall o' ho'⟩⟩, ?_⟩
  rintro - o' ⟨ho', -, t, ht, -⟩
  rw [hall o' ho'] at ht
  cases ht

/-- The published Secret has the recorded checksum, so it holds the recorded token. -/
theorem Live.undrifted (hr : Lossless r) (h : Live r name j w) {e : Time}
    (hexp : j.status.expiresAt = some e) (href : j.status.secretRef = some n)
    (hsum : secretChecksum r (joinTokenData s) = j.status.secretChecksum)
    (hs : server (.getSecret n) w (.ok s) w') : Backing r name (.undrifted j) w' := by
  obtain ⟨⟨href', t, b, -, ht, hb, hsum'⟩, hcov⟩ := h.backed (by rw [hexp]; exact Option.some_ne_none _)
  rw [href] at href'
  cases href'
  refine ⟨h.getSecret hs, ?_⟩
  rcases server_getSecret hs with ⟨rfl, ⟨s', hx, hsec⟩ | ⟨e, hx, -⟩⟩ | ⟨⟨e, hx, -⟩, -⟩
  · cases hx
    have hdata : joinTokenData s = b := hr.sha256 (hsum.trans hsum')
    have htoken : (w.secrets (bootstrapTokenName j.status.tokenID)).isSome = true :=
      hcov.resolve_right fun hoff => hoff s hsec hsum
    exact ⟨w.secrets, t, rfl, ht, ⟨s, hsec, hdata ▸ hb⟩, ht ▸ htoken⟩
  · cases hx
  · cases hx

/-- Creating the token changes neither the published Secret nor the recorded token. -/
theorem Live.storeToken (h : Live r name j w) (hid : IsTokenID t.id) :
    Live r name j (w.storeToken (tokenSecret r now j t)) := by
  refine h.congr rfl rfl (setSecret_of_ne _ _ (joinSecretName_ne name hid)) fun hsome => ?_
  dsimp only [World.storeToken]
  by_cases hn : bootstrapTokenName j.status.tokenID = (tokenSecret r now j t).metadata.name
  · rw [hn, setSecret_self]
    rfl
  · rwa [setSecret_of_ne _ _ hn]

theorem Live.create (h : Live r name j w) (hid : IsTokenID t.id) (hother : t.id ≠ j.status.tokenID)
    (hs : server (.createToken (tokenSecret r now j t)) w (.ok s) w') : Minted r name j t w' := by
  obtain rfl := createToken_ok hs
  exact ⟨(h.storeToken hid).congr rfl rfl rfl id, hid, hother, rfl,
    congrArg Option.isSome (setSecret_self w.secrets (bootstrapTokenName t.id) _)⟩

theorem Live.createFailed {e : GoError} (h : Live r name j w) (hid : IsTokenID t.id)
    (hs : server (.createToken (tokenSecret r now j t)) w (.error e) w') : Live r name j w' := by
  rcases server_createToken hs with ⟨⟨_, hx⟩, -⟩ | ⟨-, rfl | rfl⟩
  · cases hx
  · exact (h.storeToken hid).congr rfl rfl rfl id
  · exact h

theorem Minted.mark (h : Minted r name j t w) (lastSeen : Option Secrets) :
    Minted r name j t { w with lastSeen := lastSeen } :=
  ⟨h.toLive.mark lastSeen w.expirySeen, h.id, h.other, h.minted, h.present⟩

theorem Minted.found (h : Minted r name j t w) (hk : kubeconfigOf r t = .ok kubeconfig)
    (hs : server (.getSecret (joinSecretName j.metadata.name)) w (.ok s) w') :
    Backing r name (.read j t kubeconfig (some s)) w' := by
  rw [h.name_eq] at hs
  rcases server_getSecret hs with ⟨rfl, ⟨s', hx, hsec⟩ | ⟨e, hx, -⟩⟩ | ⟨⟨e, hx, -⟩, -⟩
  · cases hx
    refine ⟨h.mark _, hk, fun s' hs' => ?_⟩
    cases hs'
    refine ⟨h.keyed s hsec, ⟨w.secrets, rfl, hsec, h.present⟩, fun hne s' hs' => ?_⟩
    have heq : some s = some s' := hsec.symm.trans hs'
    cases heq
    exact hne
  · cases hx
  · cases hx

theorem Minted.absent (h : Minted r name j t w) {e : GoError}
    (hk : kubeconfigOf r t = .ok kubeconfig) (hs : server (.getSecret n) w (.error e) w') :
    Backing r name (.read j t kubeconfig none) w' := by
  have hm : Minted r name j t w' := by
    rcases server_getSecret hs with ⟨rfl, -⟩ | ⟨-, rfl⟩
    · exact h.mark _
    · exact h
  exact ⟨hm, hk, fun s hs => by cases hs⟩

/-- The kubeconfig of a new token has another checksum than the recorded one. -/
theorem Minted.checksum_ne (hr : Lossless r) (h : Minted r name j t w) {b : Bytes}
    (hb : kubeconfigOf r t = .ok b) (hexp : j.status.expiresAt ≠ none) : secretChecksum r b ≠ j.status.secretChecksum := by
  obtain ⟨⟨-, t₀, b₀, hid₀, ht₀, hb₀, hsum⟩, -⟩ := h.backed hexp
  intro heq
  have hbb : b = b₀ := hr.sha256 (heq.trans hsum)
  have htext := hr.kubeconfig t t₀ b₀ (hbb ▸ hb) hb₀
  exact h.other ((IsTokenID.id_eq_of_text h.id hid₀ htext).trans ht₀)

theorem bootstrapTokenName_injective {a b : String}
    (h : bootstrapTokenName a = bootstrapTokenName b) : a = b :=
  String.append_right_inj _ |>.mp h

/-- Publishing the new kubeconfig makes the published Secret differ from what is recorded. -/
theorem Minted.publish (hr : Lossless r) (h : Minted r name j t w)
    (hk : kubeconfigOf r t = .ok (joinTokenData s)) (hname : s.metadata.name = joinSecretName name)
    (version : Nat) :
    Published r name j t s { w with
      secrets := setSecret w.secrets (joinSecretName name) (some s)
      version := version
      lastSeen := some (setSecret w.secrets (joinSecretName name) (some s)) } := by
  have hself : ∀ s', setSecret w.secrets (joinSecretName name) (some s) (joinSecretName name) =
      some s' → s' = s := by
    intro s' hs'
    rw [setSecret_self] at hs'
    cases hs'
    rfl
  have htoken : (setSecret w.secrets (joinSecretName name) (some s)
      (bootstrapTokenName t.id)).isSome = true := by
    rw [setSecret_of_ne _ _ (joinSecretName_ne name h.id).symm]
    exact h.present
  have hoff : j.status.expiresAt ≠ none → Off r name j.status.secretChecksum
      (setSecret w.secrets (joinSecretName name) (some s)) := by
    intro hexp s' hs'
    rw [hself s' hs']
    exact h.checksum_ne hr hk hexp
  exact
    { keyed := fun s' hs' => hself s' hs' ▸ hname
      copy := h.copy.of_obj_eq rfl
      named := h.named
      fetched := h.fetched
      active := h.active
      backed := fun hexp => ⟨(h.backed hexp).1, Or.inr (hoff hexp)⟩
      id := h.id
      other := h.other
      minted := h.minted
      present := htoken
      kubeconfig := hk
      seen := ⟨_, rfl, ⟨s, setSecret_self _ _ _, hk⟩, htoken⟩
      off := hoff }

theorem Minted.write (hr : Lossless r) (h : Minted r name j t w) {obj : Secret}
    (hk : kubeconfigOf r t = .ok (joinTokenData obj))
    (hname : obj.metadata.name = joinSecretName name) :
    Published r name j t { obj with metadata.resourceVersion := w.version + 1 }
      (w.storeSecret obj) := by
  rw [World.storeSecret, hname]
  exact h.publish (s := { obj with metadata.resourceVersion := w.version + 1 }) hr hk hname _

theorem Minted.publication {existing : Option Secret} {obj : Secret}
    (h : Backing r name (.read j t kubeconfig existing) w)
    (hp : JoinToken.publish j kubeconfig (existing.getD (newJoinSecret j)) = .ok obj) :
    kubeconfigOf r t = .ok (joinTokenData obj) ∧ obj.metadata.name = joinSecretName name := by
  refine ⟨joinTokenData_publish hp ▸ h.2.1, ?_⟩
  obtain ⟨refs, rfl⟩ := publish_spec hp
  cases existing with
  | none => exact congrArg joinSecretName h.1.name_eq
  | some s => exact (h.2.2 s rfl).1

/-- Whether or not the answer to the write arrives, the Secret does not vouch for the old token. -/
theorem Minted.written (hr : Lossless r) (h : Minted r name j t w) {obj : Secret}
    {x : Except GoError Secret}
    (hobj : kubeconfigOf r t = .ok (joinTokenData obj) ∧ obj.metadata.name = joinSecretName name)
    (hs : ((∀ s, x = .ok s → s = { obj with metadata.resourceVersion := w.version + 1 }) ∧
      w' = w.storeSecret obj) ∨ ((∃ e, x = .error e) ∧ w' = w)) :
    Live r name j w' ∧ ∀ s, x = .ok s → Published r name j t s w' := by
  rcases hs with ⟨hx, rfl⟩ | ⟨⟨e, rfl⟩, rfl⟩
  · have hpub := h.write hr hobj.1 hobj.2
    exact ⟨hpub.toLive, fun s hs => hx s hs ▸ hpub⟩
  · exact ⟨h.toLive, fun s hs => by cases hs⟩

/-- Nothing had to be written: the Secret held the new kubeconfig already. -/
theorem Minted.upToDate (hr : Lossless r) {existing obj : Secret}
    (h : Backing r name (.read j t kubeconfig (some existing)) w)
    (hp : JoinToken.publish j kubeconfig existing = .ok obj)
    (hsame : sameSecret existing obj = true) : Published r name j t obj w := by
  obtain ⟨hm, hk, hex⟩ := h
  obtain ⟨hname, ⟨f, hf, hsec, htoken⟩, hoff⟩ := hex existing rfl
  have hobj : joinTokenData obj = kubeconfig := joinTokenData_publish hp
  have hdata : joinTokenData existing = joinTokenData obj := by
    simp only [sameSecret, decide_eq_true_eq] at hsame
    rw [joinTokenData, joinTokenData, hsame.1]
  have hk' : kubeconfigOf r t = .ok (joinTokenData existing) := by rw [hdata, hobj, hk]
  exact
    { toMinted := hm
      kubeconfig := hobj ▸ hk
      seen := ⟨f, hf, ⟨existing, hsec, hk'⟩, htoken⟩
      off := fun hexp => hoff (hm.checksum_ne hr hk' hexp) }

/-- The previous token is revoked when the published Secret does not hold it any more. -/
theorem Published.revoke (h : Published r name j t s w) {x : Except GoError Unit}
    (hs : server (.deleteToken (bootstrapTokenName j.status.tokenID)) w x w') :
    Published r name j t s w' := by
  have hw := h.toWorking.deleteToken hs
  have hne : bootstrapTokenName t.id ≠ bootstrapTokenName j.status.tokenID :=
    fun heq => h.other (bootstrapTokenName_injective heq)
  rcases server_deleteToken hs with ⟨version, rfl⟩ | rfl
  · have hoff : j.status.expiresAt ≠ none → Off r name j.status.secretChecksum
        (setSecret w.secrets (bootstrapTokenName j.status.tokenID) none) := by
      intro hexp s' hs'
      by_cases hn : joinSecretName name = bootstrapTokenName j.status.tokenID
      · rw [hn, setSecret_self] at hs'
        cases hs'
      · rw [setSecret_of_ne _ _ hn] at hs'
        exact h.off hexp s' hs'
    exact
      { toWorking := hw
        active := h.active
        backed := fun hexp => ⟨(h.backed hexp).1, Or.inr (hoff hexp)⟩
        id := h.id
        other := h.other
        minted := h.minted
        present := (congrArg Option.isSome (setSecret_of_ne _ _ hne)).trans h.present
        kubeconfig := h.kubeconfig
        seen := h.seen
        off := hoff }
  · exact ⟨⟨⟨hw, h.active, h.backed⟩, h.id, h.other, h.minted, h.present⟩, h.kubeconfig, h.seen,
      h.off⟩

theorem Published.record (h : Published r name j t s w)
    (hs : server (.updateJoinTokenStatus (issued r j now t s)) w x w') :
    Standing r name w' ∧ ∀ o, x = .ok o → SeenSound r name w' := by
  have hissue : Issue r name (issued r j now t s).status := by
    refine ⟨?_, t, joinTokenData s, h.id, rfl, h.kubeconfig, rfl⟩
    rw [← h.name_eq]
    rfl
  rcases server_status hs with ⟨s₀, hobj, rfl⟩ | ⟨⟨e, rfl⟩, rfl⟩
  · refine ⟨⟨h.keyed, fun o' ho' _ => ?_⟩, fun _ _ => ?_⟩
    · cases ho'
      refine ⟨fun _ => ⟨hissue, Or.inl h.present⟩, fun hfin => ?_⟩
      have hfin' : containsFinalizer j.metadata workerJoinTokenFinalizer = false := by
        rw [containsFinalizer, ← (h.copy.same s₀ hobj).finalizers]
        exact hfin
      rw [h.active.2] at hfin'
      cases hfin'
    · rintro - o' ⟨ho', -⟩
      cases ho'
      obtain ⟨f, hf, hholds⟩ := h.seen
      exact ⟨f, t, hf, rfl, hholds⟩
  · exact ⟨h.toMinted.toLive.standing, fun o hx => by cases hx⟩

theorem backing_skip (hr : Lossless r) {ph ph' : Phase} (hskip : Skip r ph ph')
    (h : Backing r name ph w) : Backing r name ph' w := by
  cases hskip with
  | released hdel =>
      exact ⟨h.1.standing h.2, seenSound_of_deleted h.1.fetched hdel⟩
  | nothingIssued hl _ => exact ⟨h.1, hl.1⟩
  | unissued hact _ | unpublished hact _ => exact .of_fetched h hact
  | recorded j =>
      obtain ⟨hl, t, ht, hclock⟩ := h
      refine ⟨hl.standing, seenSound_of_past hclock fun o ho => ?_⟩
      rw [(hl.copy.same o ho).status, ht]
  | unbuilt _ => exact Minted.toLive h
  | refused _ => exact h.1.toLive
  | upToDate hp hsame => exact Minted.upToDate hr h hp hsame
  | nothingToRevoke _ => exact h
  | unwound j => exact Live.standing h

/-- The record of the expiry leaves the expiry in the past. -/
theorem Live.recordExpiry (h : Live r name j w) {e : Time} (he : j.status.expiresAt = some e)
    (hclock : e * 1000000000 ≤ w.clock) {message : String}
    (hs : server (.updateJoinTokenStatus (withReady j .false "Expired" message)) w (.ok o) w') :
    Backing r name .done w' := by
  refine ⟨h.report hs ⟨_, rfl⟩, ?_⟩
  obtain ⟨s, hobj, rfl⟩ := status_ok hs
  refine seenSound_of_past hclock fun o' ho' => ?_
  cases ho'
  exact he

theorem backing_move (hr : Lossless r) {ph ph' : Phase} {c : Call} {x : c.Answer}
    (hmove : Move r ⟨"", name⟩ ph c x ph') (h : Backing r name ph w) (hs : server c w x w')
    (hok : Undisturbed r name w (.call c x)) : Backing r name ph' w' := by
  cases hmove with
  | fetch j =>
      obtain ⟨ho, hkey, rfl⟩ := getJoinToken_ok hs
      exact Working.fetch h.1 ho hkey
  | fetchGone _ =>
      rw [getJoinToken_error hs]
      refine ⟨h.1, fun ⟨j, hj, _⟩ => ?_⟩
      rw [h.2] at hj
      cases hj
  | fetchFailed e => exact getJoinToken_error hs ▸ h.1
  | revokeLast x hl _ => exact ⟨h.1.deleteToken hs, hl.1⟩
  | release j o hl => exact h.1.release hl.1 hs
  | releaseFailed j e => exact (h.1.release h.2 hs).1
  | adopt o hdel hfin => exact h.1.adopt ((h.2 hdel).2 hfin) hs
  | adoptFailed e hdel hfin => exact (h.1.adopt ((h.2 hdel).2 hfin) hs).1
  | secretGone hact _ _ => exact (Live.of_fetched h hact).getSecret hs
  | secretFailed j n e =>
      have hw : Standing r name w := h.1.standing h.2
      rcases server_getSecret hs with ⟨rfl, -⟩ | ⟨-, rfl⟩
      · exact ⟨hw.keyed, hw.live⟩
      · exact hw
  | secretChanged hact _ _ => exact (Live.of_fetched h hact).getSecret hs
  | secretKept hact hexp href hsum => exact (Live.of_fetched h hact).undrifted hr hexp href hsum hs
  | valid _ _ =>
      obtain ⟨hl, f, t, hf, ht, hholds⟩ := h
      rw [(server_now hs).2]
      refine ⟨hl.standing, fun _ o ⟨ho, _⟩ => ⟨f, t, hf, ?_, hholds⟩⟩
      rw [(hl.copy.same o ho).status, ht]
  | pass hexp hnow =>
      obtain ⟨rfl, rfl⟩ := server_now hs
      exact ⟨h.1, _, hexp, Nat.not_lt.mp hnow⟩
  | observe j =>
      rw [server_expired hs]
      exact ⟨h.1.mark w.lastSeen true, h.2⟩
  | recordExpiry j o message =>
      obtain ⟨hl, e, he, hclock⟩ := h
      exact hl.recordExpiry he hclock hs
  | recordExpiryFailed j message e => exact h.1.report hs ⟨_, rfl⟩
  | number j b =>
      obtain ⟨rfl, hb⟩ := server_rand hs
      obtain ⟨o, ho⟩ := h.copy.stays h.active.2
      exact ⟨h, hb b rfl, (h.copy.same o ho).status ▸ hok o ho⟩
  | numberFailed j e => exact (server_rand hs).1 ▸ h
  | draw j b b' => exact (server_rand hs).1 ▸ ⟨h.1, ⟨b, h.2.1, rfl⟩, h.2.2⟩
  | drawFailed j b e => exact (server_rand hs).1 ▸ h.1
  | stamp j t now => exact (server_now hs).2 ▸ h
  | create j t now s => exact h.1.create h.2.1 h.2.2 hs
  | createFailed j t now e => exact h.1.createFailed h.2.1 hs
  | found s hk => exact Minted.found h hk hs
  | absent hk _ => exact Minted.absent h hk hs
  | lookupFailed _ => exact h.toLive.getSecret hs
  | publishNew s hp =>
      exact (h.1.written hr (Minted.publication h hp) (server_createSecret hs)).2 s rfl
  | publishNewFailed e hp =>
      exact (h.1.written hr (Minted.publication h hp) (server_createSecret hs)).1
  | publishOver s hp =>
      exact (h.1.written hr (Minted.publication h hp) (server_updateSecret hs)).2 s rfl
  | publishOverFailed e hp =>
      exact (h.1.written hr (Minted.publication h hp) (server_updateSecret hs)).1
  | revoke x hid => exact Published.revoke h hs
  | stampIssued j t s now => exact (server_now hs).2 ▸ h
  | record j t s now o => exact ⟨(Published.record h hs).1, (Published.record h hs).2 o rfl⟩
  | recordFailed j t s now e => exact (Published.record h hs).1
  | degrade j reason message x => exact Live.report h hs ⟨_, rfl⟩

end Calls

/-! ## Whole runs -/

/-- **A ready token works.** In every run in which others leave the Secret of the token alone and
do not put back an older kubeconfig, and no identifier is drawn twice in a row, a pass that is about
to return without an error has seen what the status says. -/
theorem ready_sound {r : Reconciler} (hr : Lossless r) (name : String) {w₀ : World}
    (hstatus : ∀ o, w₀.obj = some o → o.status = {})
    (hkeyed : ∀ n s, w₀.secrets n = some s → s.metadata.name = n)
    {s : State sig (Except Fault Result) World}
    (hrun : (controller r name).toSystem.Run (Undisturbed r name) ⟨w₀, none⟩ s) {res : Result}
    (hreturn : s.running = some (.ret (.ok res))) : SeenSound r name s.world := by
  have hstable : ∀ ph, (controller r name).toSystem.Stable (Undisturbed r name)
      (Backing r name ph) :=
    fun ph w w' ⟨e, he⟩ hok hw => backing_outside hw (outside_of_act he) hok
  have hstart : Standing r name w₀ := by
    refine ⟨fun s hs => hkeyed _ s hs, fun o ho _ => ?_⟩
    have hexp : o.status.expiresAt = none := by rw [hstatus o ho]
    exact ⟨.of_unissued hexp, fun _ => hexp⟩
  obtain ⟨q, hq, hw⟩ := (System.run_flow (I := Standing r name) (controller_follows r name)
    (fun w w' ⟨e, he⟩ hok hw => Standing.outside hw (outside_of_act he) hok) hstable
    (fun _ _ _ hskip h => backing_skip hr hskip h)
    (fun _ _ _ _ _ _ hmove h hs hok => backing_move hr hmove h hs hok)
    (fun w hw => ⟨⟨hw.keyed, hw.live⟩, rfl⟩)
    (fun a q w hq hw => by
      cases a with
      | ok res => cases hq; exact hw.1
      | error e => cases hq; exact hw)
    rfl hstart hrun).2.1 _ hreturn
  cases hq
  exact hw.2

instance (r : Reconciler) (name checksum : String) (f : Secrets) :
    Decidable (Off r name checksum f) :=
  decidable_of_iff (∀ s ∈ f (joinSecretName name),
    secretChecksum r (joinTokenData s) ≠ checksum) Iff.rfl

instance (r : Reconciler) (name : String) (w : World) : Decidable (Drifted r name w) :=
  decidable_of_iff (∀ o ∈ w.obj, Off r name o.status.secretChecksum w.secrets) Iff.rfl

instance (w w' : World) (n : String) : Decidable (Stays w w' n) :=
  inferInstanceAs (Decidable (_ → _))

instance (r : Reconciler) (name : String) (w : World)
    (l : Label sig (Except Fault Result) World) : Decidable (Undisturbed r name w l) :=
  match l with
  | .env w' =>
      decidable_of_iff
        ((∀ o ∈ w.obj, Stays w w' (bootstrapTokenName o.status.tokenID)) ∧
          (∀ n ∈ w.minted, Stays w w' n) ∧ (Drifted r name w → Drifted r name w')) Iff.rfl
  | .call (.rand _) (.ok b) =>
      decidable_of_iff (∀ o ∈ w.obj, hexEncode b ≠ o.status.tokenID) Iff.rfl
  | .call (.rand _) (.error _) | .call .now _ | .call (.createToken _) _
  | .call (.deleteToken _) _ | .call (.getJoinToken _) _ | .call (.updateJoinToken _) _
  | .call (.updateJoinTokenStatus _) _ | .call (.getSecret _) _ | .call (.createSecret _) _
  | .call (.updateSecret _) _ | .call .expired _ | .enter | .leave _ => .isTrue trivial

theorem sampleReconciler_lossless : Lossless sampleReconciler where
  sha256 := ofList_map_injective
  kubeconfig := by
    have hsample : ∀ t, kubeconfigOf sampleReconciler t = .ok (bytes t.text) := fun t => by
      simp [kubeconfigOf, sampleReconciler, buildBootstrapKubeconfig]
    intro t t' b h h'
    rw [hsample] at h h'
    exact bytes_injective (Except.ok.inj (h.trans h'.symm))

/-- A pass on a live object is about to return without an error, the object is Ready and its expiry
is ahead. -/
def reportsReady (s : State sig (Except Fault Result) World) : Bool :=
  (match s.running with
    | some (.ret (.ok _)) => true
    | _ => false) &&
  s.world.fetched.any (fun j => j.metadata.deletionTimestamp.isNone) &&
  s.world.obj.any (fun o =>
    isStatusConditionTrue o.status.conditions typeReadyWorkerJoinToken &&
      o.status.expiresAt.any (fun t => s.world.clock < t * 1000000000))

theorem reportsReady_spec {s : State sig (Except Fault Result) World} (h : reportsReady s = true) :
    (∃ res, s.running = some (.ret (.ok res))) ∧ OnLive s.world ∧ ∃ o, Current s.world o := by
  simp only [reportsReady, Bool.and_eq_true, Option.any_eq_true, Option.isNone_iff_eq_none,
    decide_eq_true_eq] at h
  obtain ⟨⟨hrun, hlive⟩, hcur⟩ := h
  refine ⟨?_, hlive, hcur⟩
  split at hrun
  · exact ⟨_, by assumption⟩
  · cases hrun

/-- The pass that finds everything in place, up to its return. -/
def checkPass : List (Machine.Act Choice Event) :=
  [.enter, .call .serve, .call .serve, .call .serve]

/-- The pass after the first token was issued sees it in place. -/
theorem first_token_seen :
    ∃ s, (controller sampleReconciler "workers").toSystem.Run
        (Undisturbed sampleReconciler "workers") sampleStart s ∧
      (∃ res, s.running = some (.ret (.ok res))) ∧ OnLive s.world ∧ (∃ o, Current s.world o) ∧
      SeenSound sampleReconciler "workers" s.world := by
  obtain ⟨s, hrun, hs⟩ := Machine.exists_run (controller sampleReconciler "workers")
    (Undisturbed sampleReconciler "workers") sampleStart
    (adoptPass ++ issuePass 1 .serve ++ checkPass) reportsReady (by decide +kernel)
  obtain ⟨⟨res, hret⟩, hlive, hcur⟩ := reportsReady_spec hs
  refine ⟨s, hrun, ⟨res, hret⟩, hlive, hcur, ?_⟩
  refine ready_sound sampleReconciler_lossless "workers" (fun o ho => ?_) (fun n s hs => ?_) hrun hret
  · cases ho
    rfl
  · cases hs

/-- Somebody deletes the Secret of the token; the next pass returns without an error and leaves the
object Ready. -/
theorem deleted_token_unnoticed :
    ∃ s, (controller sampleReconciler "workers").toSystem.Run (fun _ _ => True) sampleStart s ∧
      (∃ res, s.running = some (.ret (.ok res))) ∧
      ¬ SeenSound sampleReconciler "workers" s.world := by
  obtain ⟨s, hrun, hs⟩ := Machine.exists_run (controller sampleReconciler "workers")
    (fun _ _ => True) sampleStart
    (adoptPass ++ issuePass 1 .serve ++ [.env (.deleteSecret "bootstrap-token-010101")] ++ checkPass)
    (fun s => reportsReady s && s.world.obj.all (fun o => s.world.lastSeen.all (fun f =>
      (f (bootstrapTokenName o.status.tokenID)).isNone))) (by decide +kernel)
  rw [Bool.and_eq_true] at hs
  obtain ⟨hret, hlive, o, hcur⟩ := reportsReady_spec hs.1
  refine ⟨s, hrun, hret, fun hsound => ?_⟩
  obtain ⟨f, t, hf, ht, -, htoken⟩ := hsound hlive o hcur
  have hgone := hs.2
  rw [hcur.1, hf] at hgone
  simp only [Option.all_some, Option.isNone_iff_eq_none] at hgone
  rw [ht, hgone] at htoken
  cases htoken

end Heir.Controller.JoinToken
