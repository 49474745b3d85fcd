import Heir.Controller.JoinToken.World

set_option autoImplicit false

/-! # Accounting for bootstrap tokens

A bootstrap token lets whoever holds it join the cluster, so every token that was issued for a
WorkerJoinToken must stay known to its controller until it is deleted: it is the one named in the
status, or its deletion was attempted and failed.

`mint` records a new token last, and a token whose creation is not answered is never recorded. If
neither goes wrong, all tokens are accounted for between any two reconciliations
(`tokens_accounted`).
-/

namespace Heir.Controller.JoinToken

open Heir.Core Heir.ClusterAgent Heir.Bootstrap Interact

/-! ## Tokens -/

/-- The Secret `n` is a bootstrap token that was issued for the WorkerJoinToken `name`. -/
def IsToken (name : String) (w : World) (n : String) : Prop :=
  ∃ s, w.secrets n = some s ∧ s.type = "bootstrap.kubernetes.io/token" ∧
    s.metadata.labels[workerJoinTokenClusterKey]? = some name

/-- The status of an object that still has its finalizer names the token `n`. -/
def Recorded (w : World) (n : String) : Prop :=
  ∃ o, w.obj = some o ∧ containsFinalizer o.metadata workerJoinTokenFinalizer = true ∧
    o.status.tokenID ≠ "" ∧ n = bootstrapTokenName o.status.tokenID

/-- While a new token is not recorded yet, no call fails that the record depends on, and the
published Secret is one the controller may own. -/
def Unbroken (w : World) : Label sig (Except Fault Result) World → Prop
  | .call (.getSecret _) x => w.minted ≠ none →
      match x with
      | .ok s => ∀ o, w.obj = some o →
          ∃ m, setControllerReference o.metadata apiVersion kind s.metadata = .ok m
      | .error e => e.reason = .notFound
  | .call (.createSecret _) x => w.minted ≠ none → ∃ s, x = .ok s
  | .call (.updateSecret _) x => w.minted ≠ none → ∃ s, x = .ok s
  | .call (.updateJoinTokenStatus _) x => w.minted ≠ none → ∃ o, x = .ok o
  | _ => True

/-- The deletion of the token has failed, or the controller was never told of its creation. -/
def Excused (w : World) (n : String) : Prop := n ∈ w.failedDeletes ∨ n ∈ w.lostTokens

section Tokens

variable {name : String} {w w' : World} {n : String}

theorem Excused.outside (hout : Outside name w w') (h : Excused w n) : Excused w' n := by
  rwa [Excused, hout.failedDeletes, hout.lostTokens]

theorem IsToken.outside (hout : Outside name w w') (h : IsToken name w' n) : IsToken name w n := by
  obtain ⟨s, hs, htype, hlabel⟩ := h
  have hsec := hout.secrets n
  rw [hs] at hsec
  generalize hw : w.secrets n = a at hsec
  cases hsec with
  | kept => exact ⟨s, hw, htype, hlabel⟩
  | edited s₀ version data => exact ⟨s₀, hw, htype, hlabel⟩
  | written _ _ _ ht _ =>
      rw [ht] at htype
      exact absurd htype (by decide)

theorem Recorded.outside (hout : Outside name w w') (h : Recorded w n) : Recorded w' n := by
  obtain ⟨o, ho, hfin, hid, hn⟩ := h
  have hobj := hout.obj
  rw [ho] at hobj
  generalize hw' : w'.obj = b at hobj
  cases hobj with
  | kept => exact ⟨o, hw', hfin, hid, hn⟩
  | changed hs =>
      refine ⟨_, hw', ?_, ?_, ?_⟩
      · rwa [containsFinalizer, hs.finalizers]
      · rwa [hs.status]
      · rwa [hs.status]
  | gone hf =>
      rw [containsFinalizer, hf] at hfin
      cases hfin

end Tokens

/-! ## The assertions of the phases -/

/-- All tokens satisfy `P`, and the published Secret is not one of them. -/
structure Tokens (name : String) (w : World) (P : String → Prop) : Prop where
  all : ∀ n, IsToken name w n → P n
  plain : ¬ IsToken name w (joinSecretName name)

/-- All tokens are accounted for, as far as the controller can know of them. -/
def Balanced (name : String) (w : World) : Prop :=
  Tokens name w (fun n => Recorded w n ∨ Excused w n)

/-- The object has been fetched as `j`, and all tokens are accounted for. -/
structure Settled (name : String) (j : WorkerJoinToken) (w : World) : Prop where
  balanced : Balanced name w
  minted : w.minted = none
  copy : Copy j w
  named : j.metadata.key = ⟨"", name⟩

/-- The token `t` has been created for `j` and is not recorded yet. -/
structure Pending (name : String) (j : WorkerJoinToken) (t : Token) (w : World) : Prop where
  minted : w.minted = some (bootstrapTokenName t.id)
  copy : Copy j w
  named : j.metadata.key = ⟨"", name⟩
  finalizer : containsFinalizer j.metadata workerJoinTokenFinalizer = true
  id : IsTokenID t.id
  tokens : Tokens name w
    (fun n => Recorded w n ∨ Excused w n ∨ n = bootstrapTokenName t.id)

/-- A Secret that is not a token of the WorkerJoinToken `name`. -/
def Plain (name : String) (s : Secret) : Prop :=
  ¬ (s.type = "bootstrap.kubernetes.io/token" ∧
    s.metadata.labels[workerJoinTokenClusterKey]? = some name)

/-- What holds in each phase of a pass. -/
def Accounting (name : String) : Phase → World → Prop
  | .begun => fun w => Balanced name w ∧ w.minted = none
  | .fetched j => Settled name j
  | .deleting j => fun w => Settled name j w ∧ ∀ n, IsToken name w n → Excused w n
  | .undrifted j => Settled name j
  | .due j => Settled name j
  | .expired j => Settled name j
  | .minting j => fun w => Settled name j w ∧ Active j
  | .numbered j b => fun w => Settled name j w ∧ Active j ∧ b.length = 3
  | .drawn j t => fun w => Settled name j w ∧ Active j ∧ IsTokenID t.id
  | .created j t => Pending name j t
  | .read j t kubeconfig existing => fun w => Pending name j t w ∧
      (∃ obj, publish j kubeconfig (existing.getD (newJoinSecret j)) = .ok obj) ∧
      Plain name (existing.getD (newJoinSecret j))
  | .published j t _ => Pending name j t
  | .revoked j t _ => fun w => Pending name j t w ∧
      ∀ n, IsToken name w n → Excused w n ∨ n = bootstrapTokenName t.id
  | .degrading j => Settled name j
  | .done => Balanced name
  | .failed => Balanced name

section Assertions

variable {name : String} {j : WorkerJoinToken} {t : Token} {w w' : World}

theorem Tokens.outside {P P' : String → Prop} (h : Tokens name w P) (hout : Outside name w w')
    (hP : ∀ n, P n → P' n) : Tokens name w' P' where
  all := fun n hn => hP n (h.all n (hn.outside hout))
  plain := fun hn => h.plain (hn.outside hout)

theorem Balanced.outside (h : Balanced name w) (hout : Outside name w w') : Balanced name w' :=
  Tokens.outside h hout fun _ hn => hn.imp (Recorded.outside hout) (Excused.outside hout)

theorem Settled.outside (h : Settled name j w) (hout : Outside name w w') : Settled name j w' where
  balanced := h.balanced.outside hout
  minted := hout.minted.trans h.minted
  copy := h.copy.outside hout
  named := h.named

theorem Pending.outside (h : Pending name j t w) (hout : Outside name w w') :
    Pending name j t w' where
  minted := hout.minted.trans h.minted
  copy := h.copy.outside hout
  named := h.named
  finalizer := h.finalizer
  id := h.id
  tokens := h.tokens.outside hout fun _ hn =>
    hn.imp (Recorded.outside hout) (Or.imp_left (Excused.outside hout))

theorem accounting_outside {ph : Phase} (h : Accounting name ph w) (hout : Outside name w w') :
    Accounting name ph w' := by
  cases ph with
  | begun => exact ⟨h.1.outside hout, hout.minted.trans h.2⟩
  | fetched j => exact Settled.outside h hout
  | deleting j => exact ⟨h.1.outside hout, fun n hn => (h.2 n (hn.outside hout)).outside hout⟩
  | undrifted j | due j | expired j => exact Settled.outside h hout
  | minting j | numbered j b | drawn j t => exact ⟨h.1.outside hout, h.2⟩
  | created j t => exact Pending.outside h hout
  | read j t kubeconfig existing => exact ⟨h.1.outside hout, h.2⟩
  | published j t s => exact Pending.outside h hout
  | revoked j t s =>
      exact ⟨h.1.outside hout, fun n hn => (h.2 n (hn.outside hout)).imp_left (·.outside hout)⟩
  | degrading j => exact Settled.outside h hout
  | done | failed => exact Balanced.outside h hout

theorem Settled.mark (h : Settled name j w) (lastSeen : Option Secrets) (expirySeen : Bool) :
    Settled name j { w with lastSeen := lastSeen, expirySeen := expirySeen } :=
  ⟨⟨h.balanced.all, h.balanced.plain⟩, h.minted, ⟨h.copy.same, h.copy.stays⟩, h.named⟩

theorem Pending.mark (h : Pending name j t w) (lastSeen : Option Secrets) :
    Pending name j t { w with lastSeen := lastSeen } :=
  ⟨h.minted, ⟨h.copy.same, h.copy.stays⟩, h.named, h.finalizer, h.id, h.tokens.all, h.tokens.plain⟩

variable {n : String} {o : WorkerJoinToken} {r : Reconciler} {s : Secret} {x : Except GoError Unit}

theorem Pending.store (h : Pending name j t w) (hs : Plain name s) (version : Nat)
    (lastSeen : Option Secrets) (n : String) :
    Pending name j t { w with
      secrets := setSecret w.secrets n (some s)
      version := version
      lastSeen := lastSeen } := by
  have htok : ∀ m, IsToken name { w with
      secrets := setSecret w.secrets n (some s), version := version, lastSeen := lastSeen } m →
      IsToken name w m := by
    rintro m ⟨s', hs', htype, hlabel⟩
    dsimp only at hs'
    by_cases hm : m = n
    · rw [hm, setSecret_self] at hs'
      cases hs'
      exact absurd ⟨htype, hlabel⟩ hs
    · rw [setSecret_of_ne _ _ hm] at hs'
      exact ⟨s', hs', htype, hlabel⟩
  exact ⟨h.minted, ⟨h.copy.same, h.copy.stays⟩, h.named, h.finalizer, h.id,
    fun m hm => h.tokens.all m (htok m hm), fun hm => h.tokens.plain (htok _ hm)⟩

theorem Settled.report (h : Settled name j w) {x : Except GoError WorkerJoinToken}
    (hs : server (.updateJoinTokenStatus o) w x w') (ho : o.status.tokenID = j.status.tokenID) :
    Balanced name w' := by
  rcases server_status hs with ⟨s, hobj, rfl⟩ | ⟨-, rfl⟩
  · refine ⟨fun n hn => ?_, h.balanced.plain⟩
    refine (h.balanced.all n hn).imp_left ?_
    rintro ⟨s₀, hs₀, hfin, hid, hn⟩
    rw [hobj] at hs₀
    cases hs₀
    have hsame : o.status.tokenID = s.status.tokenID := by rw [ho, (h.copy.same s hobj).status]
    exact ⟨_, rfl, hfin, hsame ▸ hid, hsame ▸ hn⟩
  · exact h.balanced

/-- Deleting the recorded token: it is gone, or its deletion has failed. -/
theorem token_after_delete {m : String} (hs : server (.deleteToken m) w x w')
    (hn : IsToken name w' n) : IsToken name w n ∧ (n ≠ m ∨ Excused w' n) := by
  rcases server_deleteToken hs with ⟨version, rfl⟩ | rfl
  · obtain ⟨s, hsec, hrest⟩ := hn
    dsimp only at hsec
    have hne : n ≠ m := by
      rintro rfl
      rw [setSecret_self] at hsec
      cases hsec
    rw [setSecret_of_ne _ _ hne] at hsec
    exact ⟨⟨s, hsec, hrest⟩, Or.inl hne⟩
  · refine ⟨hn, ?_⟩
    by_cases hm : n = m
    · exact Or.inr (Or.inl (hm ▸ List.mem_cons_self))
    · exact Or.inl hm

theorem deleteToken_frame {m : String} (hs : server (.deleteToken m) w x w') :
    w'.obj = w.obj ∧ w'.minted = w.minted ∧ ∀ n, Excused w n → Excused w' n := by
  rcases server_deleteToken hs with ⟨version, rfl⟩ | rfl
  · exact ⟨rfl, rfl, fun _ h => h⟩
  · exact ⟨rfl, rfl, fun _ h => h.imp_left (List.mem_cons_of_mem _)⟩

theorem Recorded.name_eq (hcopy : Copy j w) (h : Recorded w n) :
    j.status.tokenID ≠ "" ∧ n = bootstrapTokenName j.status.tokenID := by
  obtain ⟨o, ho, -, hid, hn⟩ := h
  rw [(hcopy.same o ho).status] at hid hn
  exact ⟨hid, hn⟩

theorem Settled.fetched (h : Balanced name w) (hminted : w.minted = none) (hj : w.obj = some j)
    (hkey : j.metadata.key = ⟨"", name⟩) : Settled name j w where
  balanced := h
  minted := hminted
  copy :=
    { same := fun o ho => by
        rw [hj] at ho
        cases ho
        exact .refl _
      stays := fun _ => ⟨j, hj⟩ }
  named := hkey

/-- After its token has been revoked, an object has no tokens but those that are excused. -/
theorem Settled.revokeLast (h : Settled name j w)
    (hs : server (.deleteToken (bootstrapTokenName j.status.tokenID)) w x w') :
    Settled name j w' ∧ ∀ n, IsToken name w' n → Excused w' n := by
  obtain ⟨hobj, hminted, hfailed⟩ := deleteToken_frame hs
  have hall : ∀ n, IsToken name w' n → Excused w' n := by
    intro n hn
    obtain ⟨hn, hne | hf⟩ := token_after_delete hs hn
    · rcases h.balanced.all n hn with hr | hf
      · exact absurd (hr.name_eq h.copy).2 hne
      · exact hfailed n hf
    · exact hf
  exact ⟨⟨⟨fun n hn => Or.inr (hall n hn),
      fun hn => h.balanced.plain (token_after_delete hs hn).1⟩,
    hminted.trans h.minted, h.copy.of_obj_eq hobj, h.named⟩, hall⟩

theorem Settled.nothingIssued (h : Settled name j w) (hid : j.status.tokenID = "") (n : String)
    (hn : IsToken name w n) : Excused w n := by
  rcases h.balanced.all n hn with hr | hf
  · exact absurd hid (hr.name_eq h.copy).1
  · exact hf

/-- When all tokens are excused, the record does not matter. -/
theorem Balanced.of_failed (h : Balanced name w) (hall : ∀ n, IsToken name w n → Excused w n)
    {x : Except GoError WorkerJoinToken} (hs : server (.updateJoinToken o) w x w') :
    Balanced name w' := by
  rcases server_updateJoinToken hs with ⟨s, s', -, -, -, rfl⟩ | rfl
  · exact ⟨fun n hn => Or.inr (hall n hn), h.plain⟩
  · exact h

/-- Before the controller's finalizer is there, no token is recorded. -/
theorem Settled.unadopted (h : Settled name j w)
    (hfin : containsFinalizer j.metadata workerJoinTokenFinalizer = false) (n : String)
    (hn : IsToken name w n) : Excused w n := by
  rcases h.balanced.all n hn with ⟨o, ho, hfin', -⟩ | hf
  · rw [containsFinalizer, (h.copy.same o ho).finalizers] at hfin'
    rw [containsFinalizer, hfin'] at hfin
    cases hfin
  · exact hf

theorem token_before_store (hn : IsToken name (w.storeToken s) n) (hne : n ≠ s.metadata.name) :
    IsToken name w n := by
  obtain ⟨s', hsec, hrest⟩ := hn
  dsimp only [World.storeToken] at hsec
  rw [setSecret_of_ne _ _ hne] at hsec
  exact ⟨s', hsec, hrest⟩

/-- The new token is the only one that is neither recorded nor excused. -/
theorem Settled.create {now : Instant} (h : Settled name j w) (hact : Active j)
    (hid : IsTokenID t.id) (hs : server (.createToken (tokenSecret r now j t)) w (.ok s) w') :
    Pending name j t w' := by
  obtain rfl := createToken_ok hs
  refine ⟨rfl, h.copy.of_obj_eq rfl, h.named, hact.2, hid, fun n hn => ?_, fun hn => ?_⟩
  · by_cases hne : n = bootstrapTokenName t.id
    · exact Or.inr (Or.inr hne)
    · exact (h.balanced.all n (token_before_store hn hne)).imp_right Or.inl
  · exact h.balanced.plain (token_before_store hn (joinSecretName_ne name hid))

/-- A token that the controller is not told of is excused. -/
theorem Settled.createFailed {now : Instant} {e : GoError} (h : Settled name j w)
    (hid : IsTokenID t.id) (hs : server (.createToken (tokenSecret r now j t)) w (.error e) w') :
    Settled name j w' := by
  rcases server_createToken hs with ⟨⟨_, hx⟩, -⟩ | ⟨-, rfl | rfl⟩
  · cases hx
  · refine ⟨⟨fun n hn => ?_, fun hn => ?_⟩, h.minted, h.copy.of_obj_eq rfl, h.named⟩
    · by_cases hne : n = bootstrapTokenName t.id
      · exact Or.inr (Or.inr (hne ▸ List.mem_cons_self))
      · exact (h.balanced.all n (token_before_store hn hne)).imp_right
          (Or.imp_right (List.mem_cons_of_mem _))
    · exact h.balanced.plain (token_before_store hn (joinSecretName_ne name hid))
  · exact h

/-- `SetControllerReference` looks at nothing of the owner that others change. -/
theorem setControllerReference_same (h : SameObject o j) (m : ObjectMeta) :
    setControllerReference o.metadata apiVersion kind m =
      setControllerReference j.metadata apiVersion kind m := by
  simp only [setControllerReference, h.name, h.ns, h.uid]

theorem publish_ok {kubeconfig : Bytes} {m : ObjectMeta}
    (h : setControllerReference j.metadata apiVersion kind s.metadata = .ok m) :
    ∃ obj, publish j kubeconfig s = .ok obj :=
  ⟨_, by rw [publish, h]; rfl⟩

theorem publish_new_ok (kubeconfig : Bytes) (hns : j.metadata.ns = "") :
    ∃ obj, publish j kubeconfig (newJoinSecret j) = .ok obj := by
  refine publish_ok (m := { (newJoinSecret j).metadata with
    ownerReferences := [⟨apiVersion, kind, j.metadata.name, j.metadata.uid, true⟩] }) ?_
  simp [setControllerReference, hns, getControllerOf, newJoinSecret, upsertOwnerRef]

/-- Publishing a kubeconfig in a Secret leaves its type and labels alone. -/
theorem Plain.publish {kubeconfig : Bytes} {obj : Secret} (h : Plain name s)
    (hp : publish j kubeconfig s = .ok obj) : Plain name obj := by
  obtain ⟨refs, rfl⟩ := publish_spec hp
  exact h

theorem plain_newJoinSecret : Plain name (newJoinSecret j) := by
  rintro ⟨htype, -⟩
  exact absurd (show "" = "bootstrap.kubernetes.io/token" from htype) (by decide)

theorem Pending.revoke (h : Pending name j t w)
    (hs : server (.deleteToken (bootstrapTokenName j.status.tokenID)) w x w') :
    Pending name j t w' ∧
      ∀ n, IsToken name w' n → Excused w' n ∨ n = bootstrapTokenName t.id := by
  obtain ⟨hobj, hminted, hfailed⟩ := deleteToken_frame hs
  have hall : ∀ n, IsToken name w' n → Excused w' n ∨ n = bootstrapTokenName t.id := by
    intro n hn
    obtain ⟨hn, hne | hf⟩ := token_after_delete hs hn
    · rcases h.tokens.all n hn with hr | hf | hnew
      · exact absurd (hr.name_eq h.copy).2 hne
      · exact Or.inl (hfailed n hf)
      · exact Or.inr hnew
    · exact Or.inl hf
  exact ⟨⟨hminted.trans h.minted, h.copy.of_obj_eq hobj, h.named, h.finalizer, h.id,
    fun n hn => Or.inr (hall n hn),
    fun hn => h.tokens.plain (token_after_delete hs hn).1⟩, hall⟩

theorem Pending.nothingToRevoke (h : Pending name j t w) (hid : j.status.tokenID = "") (n : String)
    (hn : IsToken name w n) : Excused w n ∨ n = bootstrapTokenName t.id := by
  rcases h.tokens.all n hn with hr | hf
  · exact absurd hid (hr.name_eq h.copy).1
  · exact hf

theorem Pending.record {now : Instant} (h : Pending name j t w)
    (hall : ∀ n, IsToken name w n → Excused w n ∨ n = bootstrapTokenName t.id)
    (hs : server (.updateJoinTokenStatus (issued r j now t s)) w (.ok o) w') :
    Balanced name w' := by
  obtain ⟨s₀, hobj, rfl⟩ := status_ok hs
  refine ⟨fun n hn => ?_, h.tokens.plain⟩
  rcases hall n hn with hf | hnew
  · exact Or.inr hf
  · refine Or.inl ⟨_, rfl, ?_, h.id.ne_empty, hnew⟩
    have hfin := h.finalizer
    rwa [containsFinalizer, ← (h.copy.same s₀ hobj).finalizers] at hfin

/-- A decision between two calls, when every kubeconfig can be built. -/
theorem accounting_skip (hk : ∀ t, ∃ b, kubeconfigOf r t = .ok b) {ph ph' : Phase}
    (hskip : Skip r ph ph') (h : Accounting name ph w) : Accounting name ph' w := by
  cases hskip with
  | released hdel => exact Settled.balanced h
  | nothingIssued hl hid => exact ⟨h, Settled.nothingIssued h hid⟩
  | unissued hact _ | unpublished hact _ => exact ⟨h, hact⟩
  | recorded j => exact Settled.balanced h
  | @unbuilt _ t _ he =>
      obtain ⟨b, hb⟩ := hk t
      rw [hb] at he
      cases he
  | refused he =>
      obtain ⟨-, ⟨obj, hobj⟩, -⟩ := h
      rw [hobj] at he
      cases he
  | upToDate _ _ => exact h.1
  | nothingToRevoke hid => exact ⟨h, Pending.nothingToRevoke h hid⟩
  | unwound j => exact Settled.balanced h

theorem Settled.getSecret (h : Settled name j w) {x : Except GoError Secret}
    (hs : server (.getSecret n) w x w') : Settled name j w' := by
  rcases server_getSecret hs with ⟨rfl, -⟩ | ⟨-, rfl⟩
  · exact h.mark (some w.secrets) w.expirySeen
  · exact h

theorem Pending.getSecret (h : Pending name j t w) {x : Except GoError Secret}
    (hs : server (.getSecret n) w x w') : Pending name j t w' := by
  rcases server_getSecret hs with ⟨rfl, -⟩ | ⟨-, rfl⟩
  · exact h.mark (some w.secrets)
  · exact h

theorem Pending.minted_ne (h : Pending name j t w) : w.minted ≠ none := by
  rw [h.minted]
  exact Option.some_ne_none _

/-- The Secret to publish in was found: it is not a token, and the controller may own it. -/
theorem Pending.found (h : Pending name j t w) (kubeconfig : Bytes)
    (hs : server (.getSecret (joinSecretName j.metadata.name)) w (.ok s) w')
    (hok : Unbroken w (.call (.getSecret (joinSecretName j.metadata.name)) (.ok s))) :
    Accounting name (.read j t kubeconfig (some s)) w' := by
  have hname : j.metadata.name = name := congrArg NamespacedName.name h.named
  refine ⟨h.getSecret hs, ?_, ?_⟩
  · obtain ⟨o, ho⟩ := h.copy.stays h.finalizer
    obtain ⟨m, hm⟩ := hok h.minted_ne o ho
    rw [setControllerReference_same (h.copy.same o ho)] at hm
    exact publish_ok hm
  · rcases server_getSecret hs with ⟨-, ⟨s', hx, hsec⟩ | ⟨e, hx, -⟩⟩ | ⟨⟨e, hx, -⟩, -⟩
    · cases hx
      rw [hname] at hsec
      exact fun hp => h.tokens.plain ⟨s, hsec, hp⟩
    · cases hx
    · cases hx

theorem Pending.absent (h : Pending name j t w) (kubeconfig : Bytes) {e : GoError}
    (hs : server (.getSecret (joinSecretName j.metadata.name)) w (.error e) w') :
    Accounting name (.read j t kubeconfig none) w' :=
  ⟨h.getSecret hs, publish_new_ok kubeconfig (congrArg NamespacedName.ns h.named),
    plain_newJoinSecret⟩

theorem Pending.createSecret (h : Pending name j t w) {obj : Secret} (hp : Plain name obj)
    (hs : server (.createSecret obj) w (.ok s) w') : Pending name j t w' := by
  rcases server_createSecret hs with ⟨-, rfl⟩ | ⟨⟨_, hx⟩, -⟩
  · exact h.store (s := { obj with metadata.resourceVersion := w.version + 1 }) hp _ _ _
  · cases hx

theorem Pending.updateSecret (h : Pending name j t w) {obj : Secret} (hp : Plain name obj)
    (hs : server (.updateSecret obj) w (.ok s) w') : Pending name j t w' := by
  rcases server_updateSecret hs with ⟨-, rfl⟩ | ⟨⟨_, hx⟩, -⟩
  · exact h.store (s := { obj with metadata.resourceVersion := w.version + 1 }) hp _ _ _
  · cases hx

/-- A call, when nothing breaks between the creation of a token and its record. -/
theorem accounting_move {ph ph' : Phase} {c : Call} {x : c.Answer}
    (hmove : Move r ⟨"", name⟩ ph c x ph') (h : Accounting name ph w) (hs : server c w x w')
    (hok : Unbroken w (.call c x)) : Accounting name ph' w' := by
  cases hmove with
  | fetch j =>
      obtain ⟨ho, hkey, rfl⟩ := getJoinToken_ok hs
      exact Settled.fetched ⟨h.1.all, h.1.plain⟩ h.2 ho hkey
  | fetchGone _ | fetchFailed e => exact getJoinToken_error hs ▸ h.1
  | revokeLast x hl hid => exact Settled.revokeLast h hs
  | release | releaseFailed => exact h.1.balanced.of_failed h.2 hs
  | adopt _ hdel hfin | adoptFailed _ hdel hfin =>
      exact (Settled.balanced h).of_failed (Settled.unadopted h hfin) hs
  | secretGone hact _ _ => exact ⟨Settled.getSecret h hs, hact⟩
  | secretFailed j n e => exact (Settled.getSecret h hs).balanced
  | secretChanged hact _ _ => exact ⟨Settled.getSecret h hs, hact⟩
  | secretKept hact _ _ _ => exact Settled.getSecret h hs
  | valid _ _ => exact (server_now hs).2 ▸ Settled.balanced h
  | pass _ _ => exact (server_now hs).2 ▸ h
  | observe j =>
      rw [server_expired hs]
      exact Settled.mark h w.lastSeen true
  | recordExpiry j o message | recordExpiryFailed j message e => exact Settled.report h hs rfl
  | number j b =>
      obtain ⟨rfl, hb⟩ := server_rand hs
      exact ⟨h.1, h.2, hb b rfl⟩
  | numberFailed j e => exact (server_rand hs).1 ▸ h.1
  | draw j b b' => exact (server_rand hs).1 ▸ ⟨h.1, h.2.1, b, h.2.2, rfl⟩
  | drawFailed j b e => exact (server_rand hs).1 ▸ h.1
  | stamp j t now => exact (server_now hs).2 ▸ h
  | create j t now s => exact Settled.create h.1 h.2.1 h.2.2 hs
  | createFailed j t now e => exact Settled.createFailed h.1 h.2.2 hs
  | @found j t kubeconfig s hk => exact Pending.found h kubeconfig hs hok
  | @absent j t kubeconfig e hk he => exact Pending.absent h kubeconfig hs
  | lookupFailed he => exact absurd (hok (Pending.minted_ne h)) he
  | publishNew s hp => exact Pending.createSecret h.1 (h.2.2.publish hp) hs
  | publishNewFailed _ _ =>
      obtain ⟨s, hx⟩ := hok h.1.minted_ne
      cases hx
  | publishOver s hp => exact Pending.updateSecret h.1 (h.2.2.publish hp) hs
  | publishOverFailed _ _ =>
      obtain ⟨s, hx⟩ := hok h.1.minted_ne
      cases hx
  | revoke x hid => exact Pending.revoke h hs
  | stampIssued j t s now => exact (server_now hs).2 ▸ h
  | record j t s now o => exact Pending.record h.1 h.2 hs
  | recordFailed =>
      obtain ⟨o, hx⟩ := hok h.1.minted_ne
      cases hx
  | degrade j reason message x => exact Settled.report h hs rfl

end Assertions

/-! ## Whole runs -/

/-- **All tokens are accounted for between two passes**, in every run in which nothing breaks between
the creation of a token and its record and no answer to such a creation gets lost. Each is the one
named in the status or one whose deletion failed; after the finalizer has been removed, only the
latter are left. -/
theorem tokens_accounted (r : Reconciler) (name : String)
    (hk : ∀ t, ∃ b, kubeconfigOf r t = .ok b) {w₀ : World}
    (h₀ : ∀ n, ¬ IsToken name w₀ n) {s : State sig (Except Fault Result) World}
    (hrun : (controller r name).toSystem.Run Unbroken ⟨w₀, none⟩ s) (hidle : s.running = none)
    (hanswered : s.world.lostTokens = []) :
    (∀ n, IsToken name s.world n →
      (∃ o, s.world.obj = some o ∧ n = bootstrapTokenName o.status.tokenID) ∨
        n ∈ s.world.failedDeletes) ∧
    ((∀ o, s.world.obj = some o →
        containsFinalizer o.metadata workerJoinTokenFinalizer = false) →
      s.world.failedDeletes = [] → ∀ n, ¬ IsToken name s.world n) := by
  have hstable : ∀ ph, (controller r name).toSystem.Stable Unbroken (Accounting name ph) :=
    fun ph w w' ⟨e, he⟩ _ hw => accounting_outside hw (outside_of_act he)
  have hbalanced : Balanced name s.world := by
    refine (System.run_flow (I := Balanced name) (controller_follows r name)
      (fun w w' ⟨e, he⟩ _ hw => Balanced.outside hw (outside_of_act he)) hstable
      (fun _ _ _ hskip h => accounting_skip hk hskip h)
      (fun _ _ _ _ _ _ hmove h hs hok => accounting_move hmove h hs hok)
      (fun w hw => ⟨⟨hw.all, hw.plain⟩, rfl⟩) (fun a q w hq hw => ?_) rfl
      ⟨fun n hn => absurd hn (h₀ n), h₀ _⟩ hrun).1 hidle
    cases a with
    | ok res | error e => cases hq; exact hw
  have hexcused : ∀ n, Excused s.world n → n ∈ s.world.failedDeletes := by
    rintro n (hf | hlost)
    · exact hf
    · rw [hanswered] at hlost
      cases hlost
  refine ⟨fun n hn => ?_, fun hfin hfailed n hn => ?_⟩
  · rcases hbalanced.all n hn with ⟨o, ho, -, -, hn⟩ | hf
    · exact Or.inl ⟨o, ho, hn⟩
    · exact Or.inr (hexcused n hf)
  · rcases hbalanced.all n hn with ⟨o, ho, hfin', -⟩ | hf
    · rw [hfin o ho] at hfin'
      cases hfin'
    · have hmem := hexcused n hf
      rw [hfailed] at hmem
      cases hmem

instance (w : World) (l : Label sig (Except Fault Result) World) : Decidable (Unbroken w l) := by
  have answered {α : Type} (x : Except GoError α) : Decidable (w.minted ≠ none → ∃ a, x = .ok a) :=
    decidable_of_iff (w.minted ≠ none → x.isOk = true) (by
      cases x <;> simp [Except.isOk, Except.toBool])
  cases l
  case call op x =>
    cases op
    case getSecret =>
      cases x with
      | error e => unfold Unbroken; infer_instance
      | ok s =>
          refine decidable_of_iff (w.minted ≠ none → ∀ o ∈ w.obj,
            (setControllerReference o.metadata apiVersion kind s.metadata).isOk = true) ?_
          simp only [Unbroken, Option.mem_def]
          refine imp_congr_right fun _ => forall_congr' fun o => imp_congr_right fun _ => ?_
          cases setControllerReference o.metadata apiVersion kind s.metadata <;>
            simp [Except.isOk, Except.toBool]
    case createSecret | updateSecret | updateJoinTokenStatus => exact answered x
    all_goals exact .isTrue trivial
  all_goals exact .isTrue trivial

/-- Between passes, the Secret `n` is a token of the WorkerJoinToken `workers`, no deletion has failed
and no answer to a creation got lost. -/
def holdsToken (n : String) (s : State sig (Except Fault Result) World) : Bool :=
  s.running.isNone && s.world.failedDeletes.isEmpty && s.world.lostTokens.isEmpty &&
    (s.world.secrets n).any (fun secret => secret.type == "bootstrap.kubernetes.io/token" &&
      secret.metadata.labels[workerJoinTokenClusterKey]? == some "workers")

theorem holdsToken_iff {n : String} {s : State sig (Except Fault Result) World} :
    holdsToken n s = true ↔
      s.running = none ∧ s.world.failedDeletes = [] ∧ s.world.lostTokens = [] ∧
        IsToken "workers" s.world n := by
  simp only [holdsToken, IsToken, Bool.and_eq_true, Option.isNone_iff_eq_none, List.isEmpty_iff,
    Option.any_eq_true, beq_iff_eq, and_assoc]

/-- A token that was issued without trouble is the one in the status. -/
theorem issued_token_accounted :
    ∃ s, (controller sampleReconciler "workers").toSystem.Run Unbroken sampleStart s ∧
      IsToken "workers" s.world "bootstrap-token-010101" ∧
      ∃ o, s.world.obj = some o ∧ "bootstrap-token-010101" = bootstrapTokenName o.status.tokenID := by
  obtain ⟨s, hrun, hs⟩ := Machine.exists_run (controller sampleReconciler "workers") Unbroken
    sampleStart (adoptPass ++ issuePass 1 .serve) (holdsToken "bootstrap-token-010101")
    (by decide +kernel)
  obtain ⟨hidle, hfailed, hanswered, htoken⟩ := holdsToken_iff.mp hs
  have hacc := (tokens_accounted sampleReconciler "workers" (fun t => ⟨_, rfl⟩)
    (fun n ⟨_, h, _⟩ => by cases h) hrun hidle hanswered).1 _ htoken
  rw [hfailed] at hacc
  exact ⟨s, hrun, htoken, hacc.resolve_right (List.not_mem_nil)⟩

/-- The status of a first token cannot be recorded. The object is deleted, and the token stays. -/
theorem unrecorded_token_survives :
    ∃ s, (controller sampleReconciler "workers").toSystem.Run (fun _ _ => True) sampleStart s ∧
      s.running = none ∧ s.world.obj = none ∧ s.world.failedDeletes = [] ∧
      s.world.lostTokens = [] ∧ IsToken "workers" s.world "bootstrap-token-010101" := by
  obtain ⟨s, hrun, hs⟩ := Machine.exists_run (controller sampleReconciler "workers")
    (fun _ _ => True) sampleStart
    (adoptPass ++ issuePass 1 (.fail "connection refused") ++
      [.env .requestDeletion] ++ pass [.serve, .serve])
    (fun s => holdsToken "bootstrap-token-010101" s && s.world.obj.isNone)
    (by decide +kernel)
  rw [Bool.and_eq_true, holdsToken_iff, Option.isNone_iff_eq_none] at hs
  exact ⟨s, hrun, hs.1.1, hs.2, hs.1.2⟩

end Heir.Controller.JoinToken
