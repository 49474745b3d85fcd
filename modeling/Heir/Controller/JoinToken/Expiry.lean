import Heir.Controller.JoinToken.World

set_option autoImplicit false

/-! # Expiry

A WorkerJoinToken is meant to be used once: after its token has expired, no other is issued for the
same object. `Reconcile` looks at the published Secret before it looks at the expiry, so this holds
as long as the published Secret stays as it was when the expiry was seen (`expiry_is_final`).
-/

namespace Heir.Controller.JoinToken

open Heir.Core Heir.ClusterAgent Heir.Bootstrap Interact

/-! ## The condition -/

/-- The published Secret is there, with the given checksum. -/
def Matches (r : Reconciler) (name checksum : String) (f : Secrets) : Prop :=
  ∃ s, f (joinSecretName name) = some s ∧ secretChecksum r (joinTokenData s) = checksum

/-- The published Secret is what the status records. -/
def Undrifted (r : Reconciler) (name : String) (w : World) : Prop :=
  ∀ o, w.obj = some o → Matches r name o.status.secretChecksum w.secrets

/-- When the expiry is seen the published Secret is what the status records, and others leave it so
from then on. -/
def LeftAlone (r : Reconciler) (name : String) (w : World) :
    Label sig (Except Fault Result) World → Prop
  | .call .expired _ => Undrifted r name w
  | .env w' => w.expirySeen = true → Undrifted r name w → Undrifted r name w'
  | _ => True

/-! ## Invariants -/

/-- A status with an expiry names the published Secret. -/
def Refers (name : String) (st : WorkerJoinTokenStatus) : Prop :=
  st.expiresAt ≠ none → st.secretRef = some (joinSecretName name)

/-- The status leaves no reason to issue a token. -/
def Frozen (r : Reconciler) (name : String) (st : WorkerJoinTokenStatus) (f : Secrets) : Prop :=
  st.expiresAt ≠ none ∧ Matches r name st.secretChecksum f

/-- What holds between passes. -/
structure Spent (r : Reconciler) (name : String) (w : World) : Prop where
  once : w.reissued = false
  refers : ∀ o, w.obj = some o → Refers name o.status
  frozen : w.expirySeen = true → ∀ o, w.obj = some o → o.metadata.deletionTimestamp = none →
    containsFinalizer o.metadata workerJoinTokenFinalizer = true ∧ Frozen r name o.status w.secrets

/-- What holds while a pass works on the copy `j`. -/
structure Held (r : Reconciler) (name : String) (j : WorkerJoinToken) (w : World) : Prop where
  once : w.reissued = false
  copy : Copy j w
  named : j.metadata.name = name
  refers : Refers name j.status
  frozen : w.expirySeen = true → j.metadata.deletionTimestamp = none →
    containsFinalizer j.metadata workerJoinTokenFinalizer = true ∧ Frozen r name j.status w.secrets

/-- What holds while a pass issues a token: the expiry has not been seen. -/
structure Issuing (r : Reconciler) (name : String) (j : WorkerJoinToken) (w : World) : Prop extends
    Held r name j w where
  unexpired : w.expirySeen = false

/-- What holds in each phase of a pass. -/
def Expiring (r : Reconciler) (name : String) : Phase → World → Prop
  | .begun => Spent r name
  | .fetched j => Held r name j
  | .deleting j => fun w => Held r name j w ∧ j.metadata.deletionTimestamp.isSome = true
  | .undrifted j => fun w => Held r name j w ∧ Active j ∧ j.status.expiresAt ≠ none
  | .due j => fun w => Held r name j w ∧ Active j ∧ j.status.expiresAt ≠ none
  | .expired j => Held r name j
  | .minting j | .numbered j _ | .drawn j _ | .created j _ | .read j _ _ _ | .published j _ _
  | .revoked j _ _ | .degrading j => Issuing r name j
  | .done | .failed => Spent r name

theorem Expiring.once {r : Reconciler} {name : String} {ph : Phase} {w : World}
    (h : Expiring r name ph w) : w.reissued = false := by
  cases ph with
  | begun | done | failed => exact Spent.once h
  | fetched j | expired j => exact Held.once h
  | deleting j | undrifted j | due j => exact h.1.once
  | _ =>
      exact (Issuing.toHeld h).once

/-! ## Acts of others -/

section Outside

variable {r : Reconciler} {name : String} {j : WorkerJoinToken} {w w' : World}

/-- Others leave the published Secret alone once the expiry has been seen. -/
theorem Matches.outside {o o' : WorkerJoinToken}
    (h : Matches r name o.status.secretChecksum w.secrets) (hok : LeftAlone r name w (.env w'))
    (hseen : w.expirySeen = true) (ho : w.obj = some o) (ho' : w'.obj = some o')
    (hst : o'.status = o.status) : Matches r name o.status.secretChecksum w'.secrets := by
  have hundrifted : Undrifted r name w := by
    intro o₁ ho₁
    rw [ho] at ho₁
    cases ho₁
    exact h
  exact hst ▸ hok hseen hundrifted o' ho'

theorem Held.outside (h : Held r name j w) (hout : Outside name w w')
    (hok : LeftAlone r name w (.env w')) : Held r name j w' where
  once := hout.reissued.trans h.once
  copy := h.copy.outside hout
  named := h.named
  refers := h.refers
  frozen := by
    intro hseen hdel
    rw [hout.expirySeen] at hseen
    obtain ⟨hfin, hexp, hmatch⟩ := h.frozen hseen hdel
    obtain ⟨o, ho⟩ := h.copy.stays hfin
    obtain ⟨o', ho'⟩ := (h.copy.outside hout).stays hfin
    have hst := (h.copy.same o ho).status
    have hst' := ((h.copy.outside hout).same o' ho').status
    rw [← hst] at hmatch
    exact ⟨hfin, hexp, hst ▸ hmatch.outside hok hseen ho ho' (hst'.trans hst.symm)⟩

theorem Issuing.outside (h : Issuing r name j w) (hout : Outside name w w')
    (hok : LeftAlone r name w (.env w')) : Issuing r name j w' :=
  ⟨h.toHeld.outside hout hok, hout.expirySeen.trans h.unexpired⟩

theorem Spent.outside (h : Spent r name w) (hout : Outside name w w')
    (hok : LeftAlone r name w (.env w')) : Spent r name w' := by
  have hbefore : ∀ o', w'.obj = some o' → ∃ o, w.obj = some o ∧ SameObject o' o :=
    fun o' ho' => hout.before ho'
  refine ⟨hout.reissued.trans h.once, fun o' ho' => ?_, fun hseen o' ho' hdel => ?_⟩
  · obtain ⟨o, ho, hsame⟩ := hbefore o' ho'
    rw [hsame.status]
    exact h.refers o ho
  · obtain ⟨o, ho, hsame⟩ := hbefore o' ho'
    rw [hout.expirySeen] at hseen
    obtain ⟨hfin, hexp, hmatch⟩ := h.frozen hseen o ho (hsame.live hdel)
    rw [containsFinalizer, hsame.finalizers, hsame.status]
    exact ⟨hfin, hexp, hmatch.outside hok hseen ho ho' hsame.status⟩

theorem expiring_outside {ph : Phase} (h : Expiring r name ph w) (hout : Outside name w w')
    (hok : LeftAlone r name w (.env w')) : Expiring r name ph w' := by
  cases ph with
  | begun | done | failed => exact Spent.outside h hout hok
  | fetched j | expired j => exact Held.outside h hout hok
  | deleting j | undrifted j | due j => exact ⟨h.1.outside hout hok, h.2⟩
  | _ =>
      exact Issuing.outside h hout hok

end Outside

/-! ## Calls -/

section Calls

variable {r : Reconciler} {name : String} {j : WorkerJoinToken} {w w' : World}

/-- What is kept when the object and the published Secret are, and the expiry is not seen now. -/
theorem Held.congr (h : Held r name j w) (hobj : w'.obj = w.obj)
    (hjoin : w'.secrets (joinSecretName name) = w.secrets (joinSecretName name))
    (honce : w'.reissued = w.reissued) (hseen : w'.expirySeen = w.expirySeen) :
    Held r name j w' where
  once := honce.trans h.once
  copy := h.copy.of_obj_eq hobj
  named := h.named
  refers := h.refers
  frozen := fun hs hdel => by
    rw [hseen] at hs
    obtain ⟨hfin, hexp, s, hsec, hsum⟩ := h.frozen hs hdel
    exact ⟨hfin, hexp, s, hjoin.trans hsec, hsum⟩

/-- While a token is issued the Secrets do not matter. -/
theorem Issuing.congr (h : Issuing r name j w) (hobj : w'.obj = w.obj)
    (honce : w'.reissued = false) (hseen : w'.expirySeen = w.expirySeen) : Issuing r name j w' where
  once := honce
  copy := h.copy.of_obj_eq hobj
  named := h.named
  refers := h.refers
  frozen := fun hs => by
    rw [hseen, h.unexpired] at hs
    cases hs
  unexpired := hseen.trans h.unexpired

theorem Held.spent (h : Held r name j w) : Spent r name w where
  once := h.once
  refers := fun o ho => by
    rw [(h.copy.same o ho).status]
    exact h.refers
  frozen := fun hseen o ho hdel => by
    have hsame := h.copy.same o ho
    rw [containsFinalizer, hsame.finalizers, hsame.status]
    exact h.frozen hseen (hsame.live hdel)

/-- A status that tells the same story, with another Ready condition. -/
theorem Held.report (h : Held r name j w) {o : WorkerJoinToken}
    {x : Except GoError WorkerJoinToken} (hs : server (.updateJoinTokenStatus o) w x w')
    (ho : ∃ conditions, o.status = { j.status with conditions := conditions }) :
    Spent r name w' := by
  obtain ⟨conditions, ho⟩ := ho
  rcases server_status hs with ⟨s, hobj, rfl⟩ | ⟨-, rfl⟩
  · have hsame := h.copy.same s hobj
    refine ⟨h.once, fun o' ho' => ?_, fun hseen o' ho' hdel => ?_⟩
    · cases ho'
      show Refers name o.status
      rw [ho]
      exact h.refers
    · cases ho'
      obtain ⟨hfin, hfrozen⟩ := h.frozen hseen (hsame.live hdel)
      refine ⟨?_, ?_⟩
      · rw [containsFinalizer, ← hsame.finalizers] at hfin
        exact hfin
      · show Frozen r name o.status w.secrets
        rw [ho]
        exact hfrozen
  · exact h.spent

theorem Held.fetch (h : Spent r name w) (hj : w.obj = some j)
    (hkey : j.metadata.key = ⟨"", name⟩) : Held r name j { w with fetched := some j } where
  once := h.once
  copy :=
    { same := fun o ho => by
        have ho' : some j = some o := hj.symm.trans ho
        cases ho'
        exact .refl _
      stays := fun _ => ⟨j, hj⟩ }
  named := congrArg NamespacedName.name hkey
  refers := h.refers j hj
  frozen := fun hseen hdel => h.frozen hseen j hj hdel

variable {n : String} {s : Secret} {x : Except GoError Secret}

theorem Held.getSecret (h : Held r name j w) (hs : server (.getSecret n) w x w') :
    Held r name j w' := by
  rcases server_getSecret hs with ⟨rfl, -⟩ | ⟨-, rfl⟩
  · exact h.congr rfl rfl rfl rfl
  · exact h

/-- A token is needed only as long as the expiry has not been seen. -/
theorem Held.issuing (h : Held r name j w) (hact : Active j)
    (hneed : ¬ Frozen r name j.status w.secrets) : Issuing r name j w where
  toHeld := h
  unexpired := by
    by_contra hseen
    exact hneed (h.frozen (by simpa using hseen) hact.1).2

/-- `secretDrifted` reports a drift only as long as the expiry has not been seen. -/
theorem Held.drifted (h : Held r name j w) (hact : Active j) (href : j.status.secretRef = some n)
    (hs : server (.getSecret n) w x w')
    (hx : ∀ s, x = .ok s → secretChecksum r (joinTokenData s) ≠ j.status.secretChecksum)
    (hfound : ∀ e, x = .error e → e.reason = .notFound) : Issuing r name j w' := by
  refine (h.getSecret hs).issuing hact ?_
  rintro ⟨hexp, s, hsec, hsum⟩
  have hname := h.refers hexp
  rw [href] at hname
  cases hname
  rcases server_getSecret hs with ⟨rfl, ⟨s', rfl, hs'⟩ | ⟨e, rfl, -, hs'⟩⟩ | ⟨⟨e, rfl, he⟩, rfl⟩
  · have heq : some s' = some s := hs'.symm.trans hsec
    cases heq
    exact hx s rfl hsum
  · have heq : none = some s := hs'.symm.trans hsec
    cases heq
  · rw [hfound e rfl] at he
    cases he

theorem Held.update (h : Held r name j w) {o : WorkerJoinToken}
    {x : Except GoError WorkerJoinToken} (hs : server (.updateJoinToken o) w x w')
    (hadopt : j.metadata.deletionTimestamp = none → w.expirySeen = false) : Spent r name w' := by
  rcases server_updateJoinToken hs with ⟨s, s', hobj, hst, hdts, rfl⟩ | rfl
  · have hsame := h.copy.same s hobj
    refine ⟨h.once, fun o' ho' => ?_, fun hseen o' ho' hdel => ?_⟩
    · dsimp only at ho'
      split at ho'
      · cases ho'
      · cases ho'
        rw [hst, hsame.status]
        exact h.refers
    · dsimp only at ho' hseen
      split at ho'
      · cases ho'
      · cases ho'
        rw [hadopt (hsame.live (hdts ▸ hdel))] at hseen
        cases hseen
  · exact h.spent

theorem Held.deleteToken (h : Held r name j w) (hdel : j.metadata.deletionTimestamp.isSome = true)
    {x : Except GoError Unit} (hs : server (.deleteToken n) w x w') : Held r name j w' := by
  have hlive : ∀ {P : Prop}, j.metadata.deletionTimestamp = none → P := by
    intro P hnone
    rw [hnone] at hdel
    cases hdel
  rcases server_deleteToken hs with ⟨version, rfl⟩ | rfl
  · exact ⟨h.once, h.copy.of_obj_eq rfl, h.named, h.refers, fun _ hnone => hlive hnone⟩
  · exact h.congr rfl rfl rfl rfl

theorem Issuing.deleteToken (h : Issuing r name j w) {x : Except GoError Unit}
    (hs : server (.deleteToken n) w x w') : Issuing r name j w' := by
  rcases server_deleteToken hs with ⟨version, rfl⟩ | rfl <;> exact h.congr rfl h.once rfl

theorem Issuing.createToken (h : Issuing r name j w) (hs : server (.createToken s) w x w') :
    Issuing r name j w' := by
  have honce : (w.storeToken s).reissued = false := by
    show (w.reissued || w.expirySeen) = false
    rw [h.once, h.unexpired]
    rfl
  rcases server_createToken hs with ⟨-, rfl⟩ | ⟨-, rfl | rfl⟩
  · exact h.congr rfl honce rfl
  · exact h.congr rfl honce rfl
  · exact h

theorem Issuing.getSecret (h : Issuing r name j w) (hs : server (.getSecret n) w x w') :
    Issuing r name j w' := by
  rcases server_getSecret hs with ⟨rfl, -⟩ | ⟨-, rfl⟩
  · exact h.congr rfl h.once rfl
  · exact h

theorem Issuing.createSecret (h : Issuing r name j w) (hs : server (.createSecret s) w x w') :
    Issuing r name j w' := by
  rcases server_createSecret hs with ⟨-, rfl⟩ | ⟨-, rfl⟩
  · exact h.congr rfl h.once rfl
  · exact h

theorem Issuing.updateSecret (h : Issuing r name j w) (hs : server (.updateSecret s) w x w') :
    Issuing r name j w' := by
  rcases server_updateSecret hs with ⟨-, rfl⟩ | ⟨-, rfl⟩
  · exact h.congr rfl h.once rfl
  · exact h

theorem Issuing.record (h : Issuing r name j w) {t : Token} {now : Instant}
    {x : Except GoError WorkerJoinToken}
    (hs : server (.updateJoinTokenStatus (issued r j now t s)) w x w') : Spent r name w' := by
  rcases server_status hs with ⟨s₀, hobj, rfl⟩ | ⟨-, rfl⟩
  · refine ⟨h.once, fun o' ho' _ => ?_, fun hseen => ?_⟩
    · cases ho'
      rw [← h.named]
      rfl
    · have hseen' : w.expirySeen = true := hseen
      rw [h.unexpired] at hseen'
      cases hseen'
  · exact h.spent

/-- When the expiry is seen, the status leaves no reason to issue a token. -/
theorem Held.observe (h : Held r name j w) (hact : Active j) (hexp : j.status.expiresAt ≠ none)
    (hok : Undrifted r name w) : Held r name j { w with expirySeen := true } where
  once := h.once
  copy := h.copy.of_obj_eq rfl
  named := h.named
  refers := h.refers
  frozen := fun _ _ => by
    obtain ⟨o, ho⟩ := h.copy.stays hact.2
    have hmatch := hok o ho
    rw [(h.copy.same o ho).status] at hmatch
    exact ⟨hact.2, hexp, hmatch⟩

theorem expiring_skip {ph ph' : Phase} (hskip : Skip r ph ph') (h : Expiring r name ph w) :
    Expiring r name ph' w := by
  cases hskip with
  | released _ => exact Held.spent h
  | nothingIssued hl _ => exact ⟨h, hl.1⟩
  | unissued hact hexp => exact Held.issuing h hact fun hf => hf.1 hexp
  | unpublished hact href =>
      refine Held.issuing h hact fun hf => ?_
      rw [Held.refers h hf.1] at href
      cases href
  | recorded j => exact Held.spent h
  | unbuilt _ => exact h
  | refused _ => exact h
  | upToDate _ _ => exact h
  | nothingToRevoke _ => exact h
  | unwound j => exact Held.spent (Issuing.toHeld h)

theorem expiring_move {ph ph' : Phase} {c : Call} {x : c.Answer}
    (hmove : Move r ⟨"", name⟩ ph c x ph') (h : Expiring r name ph w) (hs : server c w x w')
    (hok : LeftAlone r name w (.call c x)) : Expiring r name ph' w' := by
  cases hmove with
  | fetch j =>
      obtain ⟨ho, hkey, rfl⟩ := getJoinToken_ok hs
      exact Held.fetch h ho hkey
  | fetchGone _ | fetchFailed e => exact getJoinToken_error hs ▸ h
  | revokeLast x hl _ => exact ⟨Held.deleteToken h hl.1 hs, hl.1⟩
  | release | releaseFailed => exact h.1.update hs fun hnone => absurd h.2 (by simp [hnone])
  | adopt _ hdel hfin | adoptFailed _ hdel hfin =>
      refine Held.update h hs fun _ => ?_
      -- a seen expiry would mean that the finalizer is there
      by_contra hseen
      have hfin' := (Held.frozen h (by simpa using hseen) hdel).1
      rw [hfin] at hfin'
      cases hfin'
  | secretGone hact href he =>
      exact Held.drifted h hact href hs (fun s hx => by cases hx) (fun e' hx => by cases hx; exact he)
  | secretFailed j n e => exact (Held.getSecret h hs).spent
  | secretChanged hact href hsum =>
      exact Held.drifted h hact href hs (fun s hx => by cases hx; exact hsum) (fun e hx => by cases hx)
  | secretKept hact hexp _ _ =>
      exact ⟨Held.getSecret h hs, hact, by rw [hexp]; exact Option.some_ne_none _⟩
  | valid _ _ => exact (server_now hs).2 ▸ h.1.spent
  | pass _ _ => exact (server_now hs).2 ▸ h
  | observe j =>
      rw [server_expired hs]
      exact h.1.observe h.2.1 h.2.2 hok
  | recordExpiry j o message | recordExpiryFailed j message e => exact Held.report h hs ⟨_, rfl⟩
  | number j b | numberFailed j e | draw j b b' | drawFailed j b e => exact (server_rand hs).1 ▸ h
  | stamp j t now => exact (server_now hs).2 ▸ h
  | create j t now s | createFailed j t now e => exact Issuing.createToken h hs
  | found s _ | absent _ _ | lookupFailed _ => exact Issuing.getSecret h hs
  | publishNew s _ | publishNewFailed _ _ => exact Issuing.createSecret h hs
  | publishOver s _ | publishOverFailed _ _ => exact Issuing.updateSecret h hs
  | revoke x _ => exact Issuing.deleteToken h hs
  | stampIssued j t s now => exact (server_now hs).2 ▸ h
  | record j t s now o | recordFailed j t s now e => exact Issuing.record h hs
  | degrade j reason message x => exact (Issuing.toHeld h).report hs ⟨_, rfl⟩

end Calls

/-! ## Whole runs -/

/-- **Expiry is final.** In every run in which the published Secret is as recorded when the expiry is
seen, and others leave it so afterwards, no token is issued after that. -/
theorem expiry_is_final (r : Reconciler) (name : String) {w₀ : World}
    (hstatus : ∀ o, w₀.obj = some o → o.status = {}) (hseen : w₀.expirySeen = false)
    (honce : w₀.reissued = false) {s : State sig (Except Fault Result) World}
    (hrun : (controller r name).toSystem.Run (LeftAlone r name) ⟨w₀, none⟩ s) :
    s.world.reissued = false := by
  have hstable : ∀ ph, (controller r name).toSystem.Stable (LeftAlone r name)
      (Expiring r name ph) :=
    fun ph w w' ⟨e, he⟩ hok hw => expiring_outside hw (outside_of_act he) hok
  have hstart : Spent r name w₀ := by
    refine ⟨honce, fun o ho hexp => absurd ?_ hexp, fun h => by rw [hseen] at h; cases h⟩
    rw [hstatus o ho]
  have hends := System.run_flow_world (I := Spent r name) (controller_follows r name)
    (fun w w' ⟨e, he⟩ hok hw => Spent.outside hw (outside_of_act he) hok) hstable
    (fun _ _ _ hskip h => expiring_skip hskip h)
    (fun _ _ _ _ _ _ hmove h hs hok => expiring_move hmove h hs hok)
    (fun w hw => ⟨hw.once, hw.refers, hw.frozen⟩)
    (fun a q w hq hw => by
      cases a with
      | ok res => cases hq; exact hw
      | error e => cases hq; exact hw)
    rfl hstart hrun
  rcases hends with h | ⟨q, h⟩
  · exact h.once
  · exact h.once

instance (r : Reconciler) (name checksum : String) (f : Secrets) :
    Decidable (Matches r name checksum f) :=
  decidable_of_iff (∃ s ∈ f (joinSecretName name),
    secretChecksum r (joinTokenData s) = checksum) Iff.rfl

instance (r : Reconciler) (name : String) (w : World) : Decidable (Undrifted r name w) :=
  decidable_of_iff (∀ o ∈ w.obj, Matches r name o.status.secretChecksum w.secrets) Iff.rfl

instance (r : Reconciler) (name : String) (w : World)
    (l : Label sig (Except Fault Result) World) : Decidable (LeftAlone r name w l) :=
  match l with
  | .call .expired _ => decidable_of_iff (Undrifted r name w) Iff.rfl
  | .env w' => decidable_of_iff
      (w.expirySeen = true → Undrifted r name w → Undrifted r name w') Iff.rfl
  | .call (.rand _) _ | .call .now _ | .call (.createToken _) _ | .call (.deleteToken _) _
  | .call (.getJoinToken _) _ | .call (.updateJoinToken _) _ | .call (.updateJoinTokenStatus _) _
  | .call (.getSecret _) _ | .call (.createSecret _) _ | .call (.updateSecret _) _
  | .enter | .leave _ => .isTrue trivial

/-- A token is issued, time passes, and a pass sees and records the expiry. -/
def untilExpired : List (Machine.Act Choice Event) :=
  adoptPass ++ issuePass 1 .serve ++ [.env (.tick 3600000000000)] ++
    pass [.serve, .serve, .serve, .serve, .serve]

/-- Left alone, the object stays expired in the next pass. -/
theorem expired_stays_expired :
    ∃ s, (controller sampleReconciler "workers").toSystem.Run
        (LeftAlone sampleReconciler "workers") sampleStart s ∧
      s.running = none ∧ s.world.expirySeen = true ∧ s.world.reissued = false := by
  obtain ⟨s, hrun, hs⟩ := Machine.exists_run (controller sampleReconciler "workers")
    (LeftAlone sampleReconciler "workers") sampleStart
    (untilExpired ++ pass [.serve, .serve, .serve, .serve])
    (fun s => s.running.isNone && s.world.expirySeen) (by decide +kernel)
  rw [Bool.and_eq_true, Option.isNone_iff_eq_none] at hs
  refine ⟨s, hrun, hs.1, hs.2, expiry_is_final sampleReconciler "workers" (fun o ho => ?_) rfl rfl hrun⟩
  cases ho
  rfl

/-- Somebody deletes the published Secret after the expiry, and the next pass issues a new token. -/
theorem expired_token_reissued :
    ∃ s, (controller sampleReconciler "workers").toSystem.Run (fun _ _ => True) sampleStart s ∧
      s.running = none ∧ s.world.reissued = true := by
  obtain ⟨s, hrun, hs⟩ := Machine.exists_run (controller sampleReconciler "workers")
    (fun _ _ => True) sampleStart
    (untilExpired ++ [.env (.deleteSecret "workers-jointoken")] ++
      pass ([.serve, .serve] ++ randomToken 2 ++
        [.serve, .serve, .serve, .serve, .serve, .serve, .serve]))
    (fun s => s.running.isNone && s.world.reissued) (by decide +kernel)
  rw [Bool.and_eq_true, Option.isNone_iff_eq_none] at hs
  exact ⟨s, hrun, hs⟩

end Heir.Controller.JoinToken
