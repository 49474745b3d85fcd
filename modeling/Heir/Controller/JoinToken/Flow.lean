import Heir.Controller.JoinToken.Reconcile

set_option autoImplicit false

/-! # The control flow of the WorkerJoinToken controller

`Reconcile` as a transition system: the phases of a pass, and the calls by which it goes from one to
the next. The phases carry what the pass remembers: the copy `j` of the WorkerJoinToken, the new
token, the published Secret. `reconcile_follows` says that the program makes no other calls, so an
invariant of the controller is an assertion for each phase that every call carries on.
-/

namespace Heir.Controller.JoinToken

open Heir.Core Heir.ClusterAgent Heir.Bootstrap Interact
open Heir.Runtime (apiServerURL)

inductive Phase where
  | begun
  /-- The object has been fetched. -/
  | fetched (j : WorkerJoinToken)
  /-- The token of an object to be deleted has been revoked, if there was one. -/
  | deleting (j : WorkerJoinToken)
  /-- The published Secret has the recorded checksum. -/
  | undrifted (j : WorkerJoinToken)
  /-- The token is past its expiry. -/
  | due (j : WorkerJoinToken)
  | expired (j : WorkerJoinToken)
  /-- A new token is needed. -/
  | minting (j : WorkerJoinToken)
  | numbered (j : WorkerJoinToken) (id : Bytes)
  | drawn (j : WorkerJoinToken) (t : Token)
  | created (j : WorkerJoinToken) (t : Token)
  /-- The kubeconfig is ready, and the Secret to publish it in has been read. -/
  | read (j : WorkerJoinToken) (t : Token) (kubeconfig : Bytes) (existing : Option Secret)
  | published (j : WorkerJoinToken) (t : Token) (joinSecret : Secret)
  /-- The previous token has been revoked, if there was one. -/
  | revoked (j : WorkerJoinToken) (t : Token) (joinSecret : Secret)
  /-- Issuing the token failed. -/
  | degrading (j : WorkerJoinToken)
  | done
  | failed

/-- The Secret in which a kubeconfig is published for the first time. -/
def newJoinSecret (j : WorkerJoinToken) : Secret :=
  { metadata := { name := joinSecretName j.metadata.name, ns := namespaceSystem } }

/-- The object with the controller's finalizer. -/
def withFinalizer (j : WorkerJoinToken) : WorkerJoinToken :=
  { j with metadata.finalizers := j.metadata.finalizers ++ [workerJoinTokenFinalizer] }

/-- The object without the controller's finalizer. -/
def withoutFinalizer (j : WorkerJoinToken) : WorkerJoinToken :=
  { j with metadata := removeFinalizer j.metadata workerJoinTokenFinalizer }

/-- The Secret of a token issued for `j`. -/
def tokenSecret (r : Reconciler) (now : Instant) (j : WorkerJoinToken) (t : Token) : Secret :=
  { newSecret r.libs now t j.spec.ttl with
    metadata.labels := (∅ : GoMap String).insert workerJoinTokenClusterKey j.metadata.name }

/-- The kubeconfig of a token. -/
def kubeconfigOf (r : Reconciler) (t : Token) : Except GoError Bytes :=
  buildBootstrapKubeconfig r.libs t r.ca (apiServerURL r.runtime)

/-- Publishing a kubeconfig changes the data and the owners of a Secret, and nothing else. -/
theorem publish_spec {j : WorkerJoinToken} {kubeconfig : Bytes} {s obj : Secret}
    (h : publish j kubeconfig s = .ok obj) :
    ∃ refs, obj = { s with
      metadata.ownerReferences := refs
      data := s.data.insert joinTokenKey kubeconfig } := by
  rw [publish] at h
  cases hm : setControllerReference j.metadata apiVersion kind s.metadata with
  | error e => rw [hm] at h; cases h
  | ok m =>
      rw [hm] at h
      cases h
      obtain ⟨refs, rfl⟩ := setControllerReference_ok hm
      exact ⟨refs, rfl⟩

theorem joinTokenData_publish {j : WorkerJoinToken} {kubeconfig : Bytes} {s obj : Secret}
    (h : publish j kubeconfig s = .ok obj) : joinTokenData obj = kubeconfig := by
  obtain ⟨refs, rfl⟩ := publish_spec h
  simp [joinTokenData]

/-- An object that is not being deleted and has the finalizer. -/
def Active (j : WorkerJoinToken) : Prop :=
  j.metadata.deletionTimestamp = none ∧
    containsFinalizer j.metadata workerJoinTokenFinalizer = true

/-- An object that is being deleted and has the finalizer. -/
def Leaving (j : WorkerJoinToken) : Prop :=
  j.metadata.deletionTimestamp.isSome = true ∧
    containsFinalizer j.metadata workerJoinTokenFinalizer = true

section Flow

variable (r : Reconciler) (req : NamespacedName)

/-- The calls of a pass. -/
inductive Move : Phase → (c : Call) → c.Answer → Phase → Prop where
  | fetch (j : WorkerJoinToken) : Move .begun (.getJoinToken req) (.ok j) (.fetched j)
  | fetchGone {e : GoError} : e.reason = .notFound →
      Move .begun (.getJoinToken req) (.error e) .done
  | fetchFailed (e : GoError) : Move .begun (.getJoinToken req) (.error e) .failed
  -- deletion
  | revokeLast {j : WorkerJoinToken} (x : Except GoError Unit) : Leaving j →
      j.status.tokenID ≠ "" →
      Move (.fetched j) (.deleteToken (bootstrapTokenName j.status.tokenID)) x (.deleting j)
  | release (j o : WorkerJoinToken) : Leaving j →
      Move (.deleting j) (.updateJoinToken (withoutFinalizer j)) (.ok o) .done
  | releaseFailed (j : WorkerJoinToken) (e : GoError) :
      Move (.deleting j) (.updateJoinToken (withoutFinalizer j)) (.error e) .failed
  -- the finalizer
  | adopt {j : WorkerJoinToken} (o : WorkerJoinToken) : j.metadata.deletionTimestamp = none →
      containsFinalizer j.metadata workerJoinTokenFinalizer = false →
      Move (.fetched j) (.updateJoinToken (withFinalizer j)) (.ok o) .done
  | adoptFailed {j : WorkerJoinToken} (e : GoError) : j.metadata.deletionTimestamp = none →
      containsFinalizer j.metadata workerJoinTokenFinalizer = false →
      Move (.fetched j) (.updateJoinToken (withFinalizer j)) (.error e) .failed
  -- the published Secret
  | secretGone {j : WorkerJoinToken} {name : String} {e : GoError} : Active j →
      j.status.secretRef = some name → e.reason = .notFound →
      Move (.fetched j) (.getSecret name) (.error e) (.minting j)
  | secretFailed (j : WorkerJoinToken) (name : String) (e : GoError) :
      Move (.fetched j) (.getSecret name) (.error e) .failed
  | secretChanged {j : WorkerJoinToken} {name : String} {s : Secret} : Active j →
      j.status.secretRef = some name →
      secretChecksum r (joinTokenData s) ≠ j.status.secretChecksum →
      Move (.fetched j) (.getSecret name) (.ok s) (.minting j)
  | secretKept {j : WorkerJoinToken} {name : String} {s : Secret} {t : Time} : Active j →
      j.status.expiresAt = some t → j.status.secretRef = some name →
      secretChecksum r (joinTokenData s) = j.status.secretChecksum →
      Move (.fetched j) (.getSecret name) (.ok s) (.undrifted j)
  -- expiry
  | valid {j : WorkerJoinToken} {t : Time} {now : Instant} : j.status.expiresAt = some t →
      now < t * 1000000000 → Move (.undrifted j) .now now .done
  | pass {j : WorkerJoinToken} {t : Time} {now : Instant} : j.status.expiresAt = some t →
      ¬ now < t * 1000000000 → Move (.undrifted j) .now now (.due j)
  | observe (j : WorkerJoinToken) : Move (.due j) .expired () (.expired j)
  | recordExpiry (j o : WorkerJoinToken) (message : String) :
      Move (.expired j) (.updateJoinTokenStatus (withReady j .false "Expired" message)) (.ok o) .done
  | recordExpiryFailed (j : WorkerJoinToken) (message : String) (e : GoError) :
      Move (.expired j) (.updateJoinTokenStatus (withReady j .false "Expired" message)) (.error e)
        .failed
  -- a new token
  | number (j : WorkerJoinToken) (b : Bytes) : Move (.minting j) (.rand 3) (.ok b) (.numbered j b)
  | numberFailed (j : WorkerJoinToken) (e : GoError) :
      Move (.minting j) (.rand 3) (.error e) (.degrading j)
  | draw (j : WorkerJoinToken) (b b' : Bytes) :
      Move (.numbered j b) (.rand 8) (.ok b') (.drawn j ⟨hexEncode b, hexEncode b'⟩)
  | drawFailed (j : WorkerJoinToken) (b : Bytes) (e : GoError) :
      Move (.numbered j b) (.rand 8) (.error e) (.degrading j)
  | stamp (j : WorkerJoinToken) (t : Token) (now : Instant) :
      Move (.drawn j t) .now now (.drawn j t)
  | create (j : WorkerJoinToken) (t : Token) (now : Instant) (s : Secret) :
      Move (.drawn j t) (.createToken (tokenSecret r now j t)) (.ok s) (.created j t)
  | createFailed (j : WorkerJoinToken) (t : Token) (now : Instant) (e : GoError) :
      Move (.drawn j t) (.createToken (tokenSecret r now j t)) (.error e) (.degrading j)
  -- its publication
  | found {j : WorkerJoinToken} {t : Token} {kubeconfig : Bytes} (s : Secret) :
      kubeconfigOf r t = .ok kubeconfig →
      Move (.created j t) (.getSecret (joinSecretName j.metadata.name)) (.ok s)
        (.read j t kubeconfig (some s))
  | absent {j : WorkerJoinToken} {t : Token} {kubeconfig : Bytes} {e : GoError} :
      kubeconfigOf r t = .ok kubeconfig → e.reason = .notFound →
      Move (.created j t) (.getSecret (joinSecretName j.metadata.name)) (.error e)
        (.read j t kubeconfig none)
  | lookupFailed {j : WorkerJoinToken} {t : Token} {e : GoError} : e.reason ≠ .notFound →
      Move (.created j t) (.getSecret (joinSecretName j.metadata.name)) (.error e) (.degrading j)
  | publishNew {j : WorkerJoinToken} {t : Token} {kubeconfig : Bytes} {obj : Secret} (s : Secret) :
      publish j kubeconfig (newJoinSecret j) = .ok obj →
      Move (.read j t kubeconfig none) (.createSecret obj) (.ok s) (.published j t s)
  | publishNewFailed {j : WorkerJoinToken} {t : Token} {kubeconfig : Bytes} {obj : Secret}
      (e : GoError) : publish j kubeconfig (newJoinSecret j) = .ok obj →
      Move (.read j t kubeconfig none) (.createSecret obj) (.error e) (.degrading j)
  | publishOver {j : WorkerJoinToken} {t : Token} {kubeconfig : Bytes} {existing obj : Secret}
      (s : Secret) : publish j kubeconfig existing = .ok obj →
      Move (.read j t kubeconfig (some existing)) (.updateSecret obj) (.ok s) (.published j t s)
  | publishOverFailed {j : WorkerJoinToken} {t : Token} {kubeconfig : Bytes}
      {existing obj : Secret} (e : GoError) : publish j kubeconfig existing = .ok obj →
      Move (.read j t kubeconfig (some existing)) (.updateSecret obj) (.error e) (.degrading j)
  -- its record
  | revoke {j : WorkerJoinToken} {t : Token} {s : Secret} (x : Except GoError Unit) :
      j.status.tokenID ≠ "" →
      Move (.published j t s) (.deleteToken (bootstrapTokenName j.status.tokenID)) x
        (.revoked j t s)
  | stampIssued (j : WorkerJoinToken) (t : Token) (s : Secret) (now : Instant) :
      Move (.revoked j t s) .now now (.revoked j t s)
  | record (j : WorkerJoinToken) (t : Token) (s : Secret) (now : Instant) (o : WorkerJoinToken) :
      Move (.revoked j t s) (.updateJoinTokenStatus (issued r j now t s)) (.ok o) .done
  | recordFailed (j : WorkerJoinToken) (t : Token) (s : Secret) (now : Instant) (e : GoError) :
      Move (.revoked j t s) (.updateJoinTokenStatus (issued r j now t s)) (.error e) .failed
  | degrade (j : WorkerJoinToken) (reason message : String)
      (x : Except GoError WorkerJoinToken) :
      Move (.degrading j) (.updateJoinTokenStatus (withReady j .false reason message)) x .failed

/-- The decisions of a pass between two calls. -/
inductive Skip : Phase → Phase → Prop where
  | released {j : WorkerJoinToken} : j.metadata.deletionTimestamp.isSome = true →
      Skip (.fetched j) .done
  | nothingIssued {j : WorkerJoinToken} : Leaving j → j.status.tokenID = "" →
      Skip (.fetched j) (.deleting j)
  | unissued {j : WorkerJoinToken} : Active j → j.status.expiresAt = none →
      Skip (.fetched j) (.minting j)
  | unpublished {j : WorkerJoinToken} : Active j → j.status.secretRef = none →
      Skip (.fetched j) (.minting j)
  | recorded (j : WorkerJoinToken) : Skip (.expired j) .done
  | unbuilt {j : WorkerJoinToken} {t : Token} {e : GoError} : kubeconfigOf r t = .error e →
      Skip (.created j t) (.degrading j)
  | refused {j : WorkerJoinToken} {t : Token} {kubeconfig : Bytes} {existing : Option Secret}
      {e : GoError} :
      publish j kubeconfig (existing.getD (newJoinSecret j)) = .error e →
      Skip (.read j t kubeconfig existing) (.degrading j)
  | upToDate {j : WorkerJoinToken} {t : Token} {kubeconfig : Bytes} {existing obj : Secret} :
      publish j kubeconfig existing = .ok obj → sameSecret existing obj = true →
      Skip (.read j t kubeconfig (some existing)) (.published j t obj)
  | nothingToRevoke {j : WorkerJoinToken} {t : Token} {s : Secret} : j.status.tokenID = "" →
      Skip (.published j t s) (.revoked j t s)
  /-- A panic unwinds without a report. -/
  | unwound (j : WorkerJoinToken) : Skip (.degrading j) .failed

def flow : Flow sig Phase := ⟨Move r req, Skip r⟩

/-! ## The program follows the flow -/

/-- From the phase `ph` on, the function follows the flow of a pass. -/
abbrev Along {α : Type} (p : Go α) (B : α → Phase → Prop) (ph : Phase) : Prop :=
  FollowsTo (flow r req) .failed p B ph

variable {r req}

theorem fail_along {α : Type} {B : α → Phase → Prop} (e : GoError) :
    Along r req (Go.fail e : Go α) B .failed :=
  FollowsTo.fail rfl

theorem setDegraded_along {α : Type} {B : α → Phase → Prop} (j : WorkerJoinToken)
    (reason message : String) :
    Along r req (setDegraded j reason message : Go α) B (.degrading j) :=
  FollowsTo.call_bind fun x => ⟨_, .degrade j reason message x, fail_along _⟩

theorem markExpired_along (j : WorkerJoinToken) :
    Along r req (markExpired j) (fun _ ph => ph = .done) (.expired j) := by
  have hrecord : Along r req (markExpired.record j) (fun _ ph => ph = .done) (.expired j) := by
    refine FollowsTo.call_bind fun x => ?_
    cases x with
    | ok o => exact ⟨_, .recordExpiry j o _, FollowsTo.ret rfl⟩
    | error e => exact ⟨_, .recordExpiryFailed j _ e, fail_along e⟩
  rw [markExpired]
  split
  · split
    · exact FollowsTo.skip (Skip.recorded j) (FollowsTo.ret rfl)
    · exact hrecord
  · exact hrecord

theorem deleteBootstrapTokenSecret_along {id : String} {ph ph' : Phase}
    (h : ∀ x, Move r req ph (.deleteToken (bootstrapTokenName id)) x ph') :
    Along r req (deleteBootstrapTokenSecret r id) (fun _ q => q = ph') ph := by
  refine FollowsTo.call_bind fun x => ⟨ph', h x, ?_⟩
  cases x with
  | ok u => exact FollowsTo.ret rfl
  | error e =>
      dsimp only
      split <;> exact FollowsTo.ret rfl

theorem release_along {j : WorkerJoinToken} (hleaving : Leaving j)
    {f : Except GoError WorkerJoinToken → Go Result} (hok : ∀ o, f (.ok o) = pure {})
    (herror : ∀ e, ∃ e', f (.error e) = Go.fail e') :
    Along r req (call (.updateJoinToken { j with
        metadata := removeFinalizer j.metadata workerJoinTokenFinalizer }) >>= f)
      (fun _ ph => ph = .done) (.deleting j) := by
  refine FollowsTo.call_bind fun x => ?_
  cases x with
  | ok o =>
      rw [hok]
      exact ⟨_, .release j o hleaving, FollowsTo.ret rfl⟩
  | error e =>
      obtain ⟨e', he'⟩ := herror e
      rw [he']
      exact ⟨_, .releaseFailed j e, fail_along _⟩

theorem reconcileDelete_along {j : WorkerJoinToken}
    (hdel : j.metadata.deletionTimestamp.isSome = true) :
    Along r req (reconcileDelete r j) (fun _ ph => ph = .done) (.fetched j) := by
  rw [reconcileDelete]
  split
  · exact FollowsTo.skip (Skip.released hdel) (FollowsTo.ret rfl)
  · rename_i hfin
    have hleaving : Leaving j := ⟨hdel, by simpa using hfin⟩
    by_cases hid : j.status.tokenID = ""
    · rw [if_neg (not_not.mpr hid)]
      exact FollowsTo.skip (Skip.nothingIssued hleaving hid)
        (release_along hleaving (fun _ => rfl) fun _ => ⟨_, rfl⟩)
    · rw [if_pos hid]
      refine FollowsTo.bind (deleteBootstrapTokenSecret_along fun x =>
        .revokeLast x hleaving hid) fun _ q hq => ?_
      rw [hq]
      exact release_along hleaving (fun _ => rfl) fun _ => ⟨_, rfl⟩

/-- The answer of `secretDrifted`, for an object that has an expiry. -/
theorem secretDrifted_along {j : WorkerJoinToken} {t : Time} (hact : Active j)
    (hexp : j.status.expiresAt = some t) :
    Along r req (secretDrifted r j)
      (fun b ph => ph = if b = true then .minting j else .undrifted j) (.fetched j) := by
  rw [secretDrifted]
  split
  · rename_i href
    exact FollowsTo.skip (Skip.unpublished hact href) (FollowsTo.ret rfl)
  · rename_i name href
    refine FollowsTo.call_bind fun x => ?_
    cases x with
    | error e =>
        by_cases he : e.reason = .notFound
        · refine ⟨_, .secretGone hact href he, ?_⟩
          simp only [he, if_true]
          exact FollowsTo.ret rfl
        · refine ⟨_, .secretFailed j name e, ?_⟩
          simp only [he, if_false]
          exact fail_along e
    | ok s =>
        by_cases hs : secretChecksum r (joinTokenData s) = j.status.secretChecksum
        · refine ⟨_, .secretKept hact hexp href hs, FollowsTo.ret ?_⟩
          simp [hs]
        · refine ⟨_, .secretChanged hact href hs, FollowsTo.ret ?_⟩
          simp [hs]

/-- `IssueBootstrapToken` within `mint`: a failure is reported by the caller. -/
theorem issueBootstrapToken_along (j : WorkerJoinToken) :
    FollowsTo (flow r req) (.degrading j)
      (issueBootstrapToken r.libs r.ca (apiServerURL r.runtime) j.spec.ttl
        ((∅ : GoMap String).insert workerJoinTokenClusterKey j.metadata.name))
      (fun p ph => ph = .created j p.1 ∧ kubeconfigOf r p.1 = .ok p.2) (.minting j) := by
  have hgenerate : FollowsTo (flow r req) (.degrading j) generate
      (fun t ph => ph = .drawn j t) (.minting j) := by
    refine FollowsTo.bind (B := fun x ph => match x with
      | .ok id => ∃ b, id = hexEncode b ∧ ph = .numbered j b
      | .error _ => ph = .degrading j) ?_ fun x q hq => ?_
    · refine FollowsTo.call_bind fun x => ?_
      cases x with
      | ok b => exact ⟨_, .number j b, FollowsTo.ret ⟨b, rfl, rfl⟩⟩
      | error e => exact ⟨_, .numberFailed j e, FollowsTo.ret rfl⟩
    · cases x with
      | error e => exact FollowsTo.fail hq
      | ok id =>
          obtain ⟨b, rfl, rfl⟩ := hq
          refine FollowsTo.bind (B := fun x ph => match x with
            | .ok secret => ph = .drawn j ⟨hexEncode b, secret⟩
            | .error _ => ph = .degrading j) ?_ fun x q hq => ?_
          · refine FollowsTo.call_bind fun x => ?_
            cases x with
            | ok b' => exact ⟨_, .draw j b b', FollowsTo.ret rfl⟩
            | error e => exact ⟨_, .drawFailed j b e, FollowsTo.ret rfl⟩
          · cases x with
            | error e => exact FollowsTo.fail hq
            | ok secret => exact FollowsTo.ret hq
  refine FollowsTo.bind hgenerate fun t q hq => ?_
  subst hq
  refine FollowsTo.call_bind fun now => ⟨_, .stamp j t now, ?_⟩
  refine FollowsTo.call_bind fun x => ?_
  cases x with
  | error e => exact ⟨_, .createFailed j t now e, FollowsTo.fail rfl⟩
  | ok s =>
      refine ⟨_, .create j t now s, ?_⟩
      cases hk : kubeconfigOf r t with
      | error e =>
          rw [kubeconfigOf] at hk
          simp only [hk]
          exact FollowsTo.skip (Skip.unbuilt hk) (FollowsTo.fail rfl)
      | ok kubeconfig =>
          have hk' := hk
          rw [kubeconfigOf] at hk'
          simp only [hk']
          exact FollowsTo.ret ⟨rfl, hk⟩

theorem createOrUpdate_along {j : WorkerJoinToken} {t : Token} {kubeconfig : Bytes}
    (hk : kubeconfigOf r t = .ok kubeconfig) :
    FollowsTo (flow r req) (.degrading j)
      (createOrUpdate (joinSecretName j.metadata.name) (publish j kubeconfig))
      (fun s ph => ph = .published j t s) (.created j t) := by
  refine FollowsTo.call_bind fun x => ?_
  cases x with
  | error e =>
      by_cases he : e.reason = .notFound
      · refine ⟨_, .absent hk he, ?_⟩
        simp only [he, if_true]
        cases hp : publish j kubeconfig (newJoinSecret j) with
        | error e' =>
            have hp' := hp
            rw [newJoinSecret] at hp'
            rw [hp']
            exact FollowsTo.skip (Skip.refused hp) (FollowsTo.fail rfl)
        | ok obj =>
            have hp' := hp
            rw [newJoinSecret] at hp'
            rw [hp', Go.ofExcept_ok_bind]
            refine FollowsTo.call_bind fun y => ?_
            cases y with
            | ok s => exact ⟨_, .publishNew s hp, FollowsTo.ret rfl⟩
            | error e' => exact ⟨_, .publishNewFailed e' hp, FollowsTo.fail rfl⟩
      · refine ⟨_, .lookupFailed he, ?_⟩
        simp only [he, if_false]
        exact FollowsTo.fail rfl
  | ok existing =>
      refine ⟨_, .found existing hk, ?_⟩
      dsimp only
      cases hp : publish j kubeconfig existing with
      | error e' =>
          have hskip : Skip r (.read j t kubeconfig (some existing)) (.degrading j) := .refused hp
          exact FollowsTo.skip hskip (FollowsTo.fail rfl)
      | ok obj =>
          rw [Go.ofExcept_ok_bind]
          split
          · rename_i hsame
            exact FollowsTo.skip (Skip.upToDate hp hsame) (FollowsTo.ret rfl)
          · refine FollowsTo.call_bind fun y => ?_
            cases y with
            | ok s => exact ⟨_, .publishOver s hp, FollowsTo.ret rfl⟩
            | error e' => exact ⟨_, .publishOverFailed e' hp, FollowsTo.fail rfl⟩

theorem record_along (j : WorkerJoinToken) (t : Token) (joinSecret : Secret)
    {f : Instant → Except GoError WorkerJoinToken → Go Result}
    (hok : ∀ now o, ∃ result, f now (.ok o) = pure result)
    (herror : ∀ now e, ∃ e', f now (.error e) = Go.fail e') :
    Along r req (call .now >>= fun now =>
        call (.updateJoinTokenStatus (issued r j now t joinSecret)) >>= f now)
      (fun _ ph => ph = .done) (.revoked j t joinSecret) := by
  refine FollowsTo.call_bind fun now => ⟨_, .stampIssued j t joinSecret now, ?_⟩
  refine FollowsTo.call_bind fun z => ?_
  cases z with
  | ok o =>
      obtain ⟨result, hresult⟩ := hok now o
      rw [hresult]
      exact ⟨_, .record j t joinSecret now o, FollowsTo.ret rfl⟩
  | error e =>
      obtain ⟨e', he'⟩ := herror now e
      rw [he']
      exact ⟨_, .recordFailed j t joinSecret now e, fail_along _⟩

theorem mint_along (j : WorkerJoinToken) :
    Along r req (mint r j) (fun _ ph => ph = .done) (.minting j) := by
  refine FollowsTo.bind (issueBootstrapToken_along j).lift_run fun x q hq => ?_
  rcases x with (e | m) | ⟨t, kubeconfig⟩
  · cases hq
    exact setDegraded_along j _ _
  · cases hq
    exact FollowsTo.skip (Skip.unwound j) (FollowsTo.fail rfl)
  · obtain ⟨rfl, hk⟩ := hq
    refine FollowsTo.bind (createOrUpdate_along hk).lift_run fun y q hq => ?_
    rcases y with (e | m) | joinSecret
    · cases hq
      exact setDegraded_along j _ _
    · cases hq
      exact FollowsTo.skip (Skip.unwound j) (FollowsTo.fail rfl)
    · cases hq
      by_cases hid : j.status.tokenID = ""
      · simp only [hid, ne_eq, not_true_eq_false, if_false]
        exact FollowsTo.skip (Skip.nothingToRevoke hid)
          (record_along j t joinSecret (fun _ _ => ⟨_, rfl⟩) fun _ _ => ⟨_, rfl⟩)
      · simp only [hid, ne_eq, not_false_eq_true, if_true]
        refine FollowsTo.bind (deleteBootstrapTokenSecret_along fun z => .revoke z hid)
          fun _ q hq => ?_
        rw [hq]
        exact record_along j t joinSecret (fun _ _ => ⟨_, rfl⟩) fun _ _ => ⟨_, rfl⟩

/-- **Reconcile follows the flow.** -/
theorem reconcile_follows :
    Along r req (reconcile r req) (fun _ ph => ph = .done) .begun := by
  refine FollowsTo.call_bind fun x => ?_
  cases x with
  | error e =>
      by_cases he : e.reason = .notFound
      · refine ⟨_, .fetchGone he, ?_⟩
        simp only [he, if_true]
        exact FollowsTo.ret rfl
      · refine ⟨_, .fetchFailed e, ?_⟩
        simp only [he, if_false]
        exact fail_along e
  | ok j =>
      refine ⟨_, .fetch j, ?_⟩
      dsimp only
      split
      · rename_i hdel
        exact reconcileDelete_along hdel
      · rename_i hdel
        have hdel' : j.metadata.deletionTimestamp = none := by simpa using hdel
        split
        · rename_i hfin
          have hfin' : containsFinalizer j.metadata workerJoinTokenFinalizer = false := by
            simpa using hfin
          refine FollowsTo.call_bind fun y => ?_
          cases y with
          | ok o => exact ⟨_, .adopt o hdel' hfin', FollowsTo.ret rfl⟩
          | error e => exact ⟨_, .adoptFailed e hdel' hfin', fail_along _⟩
        · rename_i hfin
          have hact : Active j := ⟨hdel', by simpa using hfin⟩
          split
          · rename_i hexp
            exact FollowsTo.skip (Skip.unissued hact hexp) (mint_along j)
          · rename_i t hexp
            refine FollowsTo.bind (secretDrifted_along hact hexp) fun b q hq => ?_
            cases b with
            | true =>
                cases hq
                exact mint_along j
            | false =>
                cases hq
                refine FollowsTo.call_bind fun now => ?_
                by_cases hnow : now < t * 1000000000
                · refine ⟨_, .valid hexp hnow, ?_⟩
                  simp only [hnow, if_true]
                  exact FollowsTo.ret rfl
                · refine ⟨_, .pass hexp hnow, ?_⟩
                  simp only [hnow, if_false]
                  exact FollowsTo.call_bind fun _ => ⟨_, .observe j, markExpired_along j⟩

end Flow

end Heir.Controller.JoinToken
