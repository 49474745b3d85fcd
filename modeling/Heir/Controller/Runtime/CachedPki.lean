import Heir.Controller.Runtime.Success

set_option autoImplicit false

/-! # The PKI Secret under a stale cache

The controller reads Secrets from a cache that follows the API server with a delay, and writes to
the API server itself. `setupPKIAuthConfiguration` returns the PKI Secret, from which the caller
takes certificates and hashes, so it should be the one that is stored.

Three ends of the function return a Secret. After an update it is what the API server answered, and
the API server would have refused an update based on an outdated version. When nothing has to be
rotated it is the Secret of the cache. When the Secret was missing and its creation fails because
it exists after all, it is the Secret that was just generated and that nobody stored. So the
returned Secret is the stored one exactly if the cache is not behind in the last two cases
(`returns_stored_iff`).
-/

namespace Heir.Controller.Runtime

open Heir.ControlPlane Heir.Core Heir.Runtime Interact

/-! ## A server with a cache in front -/

/-- The Secrets as the controller sees them. -/
structure Cache where
  secrets : NamespacedName → Option Secret
  keyed : Keyed Secret.metadata secrets

/-- A read from the cache. -/
def Cache.get (cache : Cache) (key : NamespacedName) : Except GoError Secret :=
  viewed key (cache.secrets key)

/-- Secrets are read from the cache; all other calls go to the API server. -/
@[simp] def respondCached (d : Defaulting) (cache : Cache) :
    (op : Call) → Choice → Cluster → Option (op.Answer × Cluster)
  | .get .secret key, .serve, c => some (cache.get key, c)
  | op, ch, c => respond d op ch c

def cachedServer (d : Defaulting) (cache : Cache) : Server sig Cluster :=
  Machine.serve (S := sig) (respondCached d cache)

section Server

variable {d : Defaulting} {cache : Cache} {c c' : Cluster}

theorem cachedServer_get {key : NamespacedName} {x : Except GoError Secret}
    (h : cachedServer d cache (.get .secret key) c x c') :
    c' = c ∧ (x = cache.get key ∨ ∃ t, x = .error (errorf t)) := by
  obtain ⟨ch, h⟩ := h
  cases ch with
  | serve =>
      cases h
      exact ⟨rfl, Or.inl rfl⟩
  | fail t =>
      cases h
      exact ⟨rfl, Or.inr ⟨t, rfl⟩⟩
  | _ => simp at h

theorem cachedServer_other {op : Call} {x : op.Answer} (hop : ∀ key, op ≠ .get .secret key) :
    cachedServer d cache op c x c' ↔ server d op c x c' := by
  cases op with
  | get k key =>
      cases k with
      | secret => exact absurd rfl (hop key)
      | configMap | service | deployment => exact Iff.rfl
  | _ => exact Iff.rfl

theorem cachedServer_read {op : Call} {x : op.Answer} (hop : IsRead op)
    (h : cachedServer d cache op c x c') : c' = c := by
  by_cases hget : ∀ key, op ≠ .get .secret key
  · exact server_read hop ((cachedServer_other hget).mp h)
  · obtain ⟨key, hget⟩ := not_forall.mp hget
    obtain rfl := not_not.mp hget
    exact (cachedServer_get h).1

end Server

/-! ## What is returned -/

section Returned

variable (libs : Libs) (d : Defaulting) (runtime : Runtime)

/-- The Secret stored under the Runtime's name has the data and the annotations of the given one,
and the Runtime controls it. -/
def IsStored (c : Cluster) (secret : Secret) : Prop :=
  ∃ stored : Secret, c.lookup .secret runtime.metadata.key = some stored ∧
    stored.data = secret.data ∧ stored.metadata.annotations = secret.metadata.annotations ∧
    isControlledBy stored.metadata runtime.metadata = true

/-- Whenever `setupPKIAuthConfiguration` succeeds, the Secret it returns is then stored. -/
def ReturnsStored (cache : Cache) (c : Cluster) : Prop :=
  ∀ t secret c', Exec (cachedServer d cache) (setupPKIAuthConfiguration libs runtime).run c t
    (.ok secret) c' → IsStored runtime c' secret

/-- The cache is not behind where the function relies on it: a Secret it does not have is not
stored, and the Secret of the Runtime it has is the stored one, unless a certificate in it has to
be replaced. -/
structure ViewSound (cache : Cache) (c : Cluster) : Prop where
  absent : cache.secrets runtime.metadata.key = none → c.lookup .secret runtime.metadata.key = none
  current : ∀ secret, cache.secrets runtime.metadata.key = some secret →
    isControlledBy secret.metadata runtime.metadata = true → LeavesCurrent libs runtime secret →
    IsStored runtime c secret

variable {libs d runtime} {cache : Cache} {c : Cluster}

theorem isStored_put {secret : Secret} (version : Nat)
    (hkey : secret.metadata.key = runtime.metadata.key)
    (howned : isControlledBy secret.metadata runtime.metadata = true) :
    IsStored runtime (c.put .secret (d.stored version .secret secret))
      (d.stored version .secret secret) := by
  refine ⟨d.stored version .secret secret, ?_, rfl, rfl, ?_⟩
  · exact c.lookup_put_stored d version (k := .secret) hkey
  · exact (isControlledBy_stored d version .secret secret runtime.metadata).trans howned

/-! ### A sound view is enough -/

/-- The end of a successful run has the returned Secret in store. -/
def StoredAtEnd (runtime : Runtime) (r : Except Fault Secret) (c : Cluster) : Prop :=
  ∀ secret, r = .ok secret → IsStored runtime c secret

theorem storedAtEnd_error (f : Fault) : StoredAtEnd runtime (.error f) c :=
  fun _ h => by cases h

theorem cached_wp_getOrElse {α : Type} {key : NamespacedName} {onAbsent : Go α}
    {onExisting : Secret → Go α} {post : Except Fault α → Cluster → Prop}
    (habsent : cache.secrets key = none → onAbsent.run.wp (cachedServer d cache) post c)
    (hexisting : ∀ secret, cache.secrets key = some secret →
      (onExisting secret).run.wp (cachedServer d cache) post c)
    (hfail : ∀ e, post (.error (.error e)) c) :
    (getOrElse .secret key onAbsent onExisting).run.wp (cachedServer d cache) post c :=
  wp_getOrElse_view (cache.secrets key) (fun _ _ => cachedServer_get) habsent hexisting hfail

/-- After a program that only reads, the function goes on in the same cluster. -/
theorem cached_read_bind {α : Type} {p : Go α} {f : α → Go Secret} {R : α → Prop}
    (hp : Asks .any Consults p R)
    (hf : ∀ a, R a → (f a).run.wp (cachedServer d cache) (StoredAtEnd runtime) c) :
    (p >>= f).run.wp (cachedServer d cache) (StoredAtEnd runtime) c := by
  rw [Prog.wp_run_bind]
  refine Prog.wp.mono (hp.wp (I := (· = c)) (fun op c₁ x c₂ hop hc hs =>
    ⟨trivial, (cachedServer_read hop.isRead hs).trans hc⟩) rfl) fun r c' ⟨hc, hr⟩ => ?_
  rw [hc]
  cases r with
  | ok a => exact hf a hr
  | error f => exact storedAtEnd_error f

/-- The creation of a Secret that is not stored goes on with the stored one, or with an error that
comes from outside the store. -/
theorem cached_create_bind {α : Type} {secret : Secret} {f : Except GoError Secret → Go α}
    {post : Except Fault α → Cluster → Prop}
    (hl : c.lookup .secret secret.metadata.key = none)
    (hok : (f (.ok (d.stored (c.version + 1) .secret secret))).run.wp (cachedServer d cache) post
      (c.put .secret (d.stored (c.version + 1) .secret secret)))
    (herror : ∀ t c', (f (.error (errorf t))).run.wp (cachedServer d cache) post c') :
    (Go.create .secret secret >>= f).run.wp (cachedServer d cache) post c := by
  intro x c' hx
  have hs := (cachedServer_other (by intro key h; cases h)).mp hx
  rcases server_create_absent hs hl with ⟨rfl, rfl⟩ | ⟨t, rfl⟩
  · exact hok
  · exact herror t c'

theorem ViewSound.returnsStored (h : ViewSound libs runtime cache c) :
    ReturnsStored libs d runtime cache c := by
  intro t secret c' he
  suffices hwp : (setupPKIAuthConfiguration libs runtime).run.wp (cachedServer d cache)
      (StoredAtEnd runtime) c from he.wp hwp secret rfl
  unfold setupPKIAuthConfiguration
  refine cached_wp_getOrElse (fun hmiss => ?_) (fun existing hcached => ?_)
    (fun e => storedAtEnd_error _)
  · refine cached_read_bind (generatePKIAuthSecret_asks libs runtime .any) fun s hs => ?_
    obtain ⟨hkey, hfresh⟩ := hs
    have href : setControllerRef runtime .secret s = pure (withRef runtime .secret s) :=
      setControllerRef_fresh hfresh
    have hkey' : (withRef runtime .secret s).metadata.key = runtime.metadata.key :=
      (withRef_key runtime .secret s).trans hkey
    rw [href, pure_bind]
    refine cached_create_bind (by rw [hkey']; exact h.absent hmiss) ?_ fun t c' => ?_
    · rintro _ ⟨⟩
      exact isStored_put _ hkey' (isControlledBy_withRef runtime .secret s)
    · exact storedAtEnd_error _
  · have hkey : existing.metadata.key = runtime.metadata.key := cache.keyed _ _ hcached
    by_cases howned : isControlledBy existing.metadata runtime.metadata = true
    · simp only [howned, if_true]
      refine cached_read_bind (regeneratePKILeafCerts_asks libs runtime .any existing).attempt
        fun r hr => ?_
      rcases r with (e | t) | ⟨s, updated⟩
      · exact storedAtEnd_error _
      · exact storedAtEnd_error _
      · obtain ⟨hrot, hcurrent⟩ := hr
        cases updated with
        | false =>
            -- nothing was due: the cached Secret is returned
            have hsame : s = existing := hrot.unchanged rfl
            rw [hsame]
            rintro _ ⟨⟩
            exact h.current existing hcached howned (hcurrent rfl)
        | true =>
            intro x c' hx
            have hs := (cachedServer_other (by intro key h; cases h)).mp hx
            rcases server_update_cases hs with ⟨_, -, -, rfl, rfl⟩ | ⟨⟨e, rfl⟩, -⟩
            · rintro _ ⟨⟩
              exact isStored_put _ (hrot.relabelled.key.trans hkey)
                (hrot.relabelled.isControlledBy.trans howned)
            · exact storedAtEnd_error _
    · simp only [howned]
      exact storedAtEnd_error _

/-! ### A sound view is necessary -/

theorem cachedServer_get_viewed (d : Defaulting) (cache : Cache) (c : Cluster) (key : NamespacedName) :
    cachedServer d cache (.get .secret key) c (viewed key (cache.secrets key)) c :=
  ⟨.serve, rfl⟩

theorem cached_signCSR_bind {α : Type} {ca : Certificate} {csr : CSR} {f : Certificate → Go α}
    {post : α → Cluster → Prop} (cert : Certificate)
    (h : Succeeds (cachedServer d cache) (f cert) post c) :
    Succeeds (cachedServer d cache) (Go.signCSR ca csr >>= f) post c :=
  .bind (.call_bind (.ok cert) c ⟨.certificate (.ok cert), rfl⟩ (.ret h))

theorem succeeds_ofExcept_bind {α β : Type} {x : Except GoError α} {f : α → Go β}
    {post : β → Cluster → Prop} {a : α} (hx : x = .ok a)
    (h : Succeeds (cachedServer d cache) (f a) post c) :
    Succeeds (cachedServer d cache) (Go.ofExcept x >>= f) post c := by
  subst hx
  exact .bind (.ret h)

theorem generatePKIAuthSecret_succeeds (hwrite : ∀ kc, ∃ b, libs.writeKubeconfig kc = .ok b)
    (ca : Certificate) :
    Succeeds (cachedServer d cache) (generatePKIAuthSecret libs runtime layout) (fun s c' =>
      c' = c ∧ s.metadata.key = runtime.metadata.key ∧ Fresh runtime s.metadata ∧
        s.data[layout.pki.caCert.secretKey]? = some ca.cert) c := by
  unfold generatePKIAuthSecret
  refine .call_bind (.ok ca) c ⟨.certificate (.ok ca), rfl⟩ ?_
  refine succeeds_ofExcept_bind rfl ?_
  -- every leaf certificate may as well be the authority's own
  iterate 7 refine cached_signCSR_bind ca ?_
  obtain ⟨b₁, h₁⟩ := hwrite _
  refine succeeds_ofExcept_bind h₁ ?_
  obtain ⟨b₂, h₂⟩ := hwrite _
  refine succeeds_ofExcept_bind h₂ ?_
  obtain ⟨b₃, h₃⟩ := hwrite _
  refine succeeds_ofExcept_bind h₃ ?_
  refine .ret ⟨rfl, rfl, ⟨rfl, rfl⟩, ?_⟩
  refine GoMap.getElem?_setAll_of_mem ∅ _ ?_ List.mem_cons_self
  simp only [List.map_cons, List.map_nil]
  decide

/-- A Secret that is stored but not cached is taken for missing, and one that was never stored is
returned. -/
theorem returns_generated (hwrite : ∀ kc, ∃ b, libs.writeKubeconfig kc = .ok b)
    (hmiss : cache.secrets runtime.metadata.key = none) {stored : Secret}
    (hstored : c.lookup .secret runtime.metadata.key = some stored) (ca : Certificate) :
    Succeeds (cachedServer d cache) (setupPKIAuthConfiguration libs runtime) (fun s c' =>
      c' = c ∧ s.data[layout.pki.caCert.secretKey]? = some ca.cert) c := by
  unfold setupPKIAuthConfiguration
  have hget := cachedServer_get_viewed d cache c runtime.metadata.key
  rw [hmiss] at hget
  refine succeeds_getOrElse_notFound hget (.bind ?_)
  refine (generatePKIAuthSecret_succeeds hwrite ca).mono fun s c' hs => ?_
  obtain ⟨rfl, hkey, hfresh, hdata⟩ := hs
  have href : setControllerRef runtime .secret s = pure (withRef runtime .secret s) :=
    setControllerRef_fresh hfresh
  have hkey' : (Obj.getMeta .secret (withRef runtime .secret s)).key = runtime.metadata.key :=
    (withRef_key runtime .secret s).trans hkey
  rw [href, pure_bind]
  refine .call_bind (.error (alreadyExists runtime.metadata.key)) c' ⟨.serve, ?_⟩ (.ret ⟨rfl, hdata⟩)
  show some (serveCreate d .secret (withRef runtime .secret s) c') = _
  simp only [serveCreate, hkey', hstored]

theorem ReturnsStored.viewSound (hwrite : ∀ kc, ∃ b, libs.writeKubeconfig kc = .ok b)
    (h : ReturnsStored libs d runtime cache c) : ViewSound libs runtime cache c where
  absent := by
    intro hmiss
    cases hl : c.lookup .secret runtime.metadata.key with
    | none => rfl
    | some stored =>
        -- the generated authority may have a certificate that the stored Secret has not
        let ca : Certificate := ⟨0 :: secretEntry stored layout.pki.caCert.secretKey, []⟩
        obtain ⟨t, s, c', he, rfl, hca⟩ := (returns_generated (d := d) hwrite hmiss hl ca).exec
        obtain ⟨stored', hl', hdata, -, -⟩ := h t s _ he
        have hsame : stored' = stored := Option.some.inj (hl'.symm.trans hl)
        rw [← hdata, hsame] at hca
        have hentry : secretEntry stored layout.pki.caCert.secretKey =
            0 :: secretEntry stored layout.pki.caCert.secretKey := by
          conv_lhs => rw [secretEntry, Std.ExtTreeMap.getD_eq_getD_getElem?, hca, Option.getD_some]
        exact absurd hentry (List.cons_ne_self 0 _).symm
  current := by
    intro secret hcached howned hcurrent
    have hrun : Succeeds (cachedServer d cache) (setupPKIAuthConfiguration libs runtime)
        (fun s c' => c' = c ∧ s = secret) c := by
      unfold setupPKIAuthConfiguration
      have hget := cachedServer_get_viewed d cache c runtime.metadata.key
      rw [hcached] at hget
      refine succeeds_getOrElse_ok hget ?_
      rw [if_pos howned, regeneratePKILeafCerts_current libs runtime hcurrent]
      exact .lift_run_bind (.ret (.ret ⟨rfl, rfl⟩))
    obtain ⟨t, s, c', he, rfl, rfl⟩ := hrun.exec
    exact h t s _ he

/-- `setupPKIAuthConfiguration` returns the stored Secret exactly if the cache is not behind where
the function relies on it. -/
theorem returns_stored_iff (hwrite : ∀ kc, ∃ b, libs.writeKubeconfig kc = .ok b) :
    ReturnsStored libs d runtime cache c ↔ ViewSound libs runtime cache c :=
  ⟨fun h => h.viewSound hwrite, fun h => h.returnsStored⟩

end Returned

/-! ## A cache that has seen nothing -/

theorem keyed_none : Keyed Secret.metadata fun _ => none := by
  intro key secret h
  cases h

def emptyCache : Cache := ⟨fun _ => none, keyed_none⟩

/-- A Secret without data that nobody owns, under the name of the Runtime `tenant`. -/
def strayCluster : Cluster :=
  (Cluster.withRuntime (.minimal "tenant" "default")).put .secret
    { metadata := { name := "tenant", ns := "default" }, data := ∅ }

/-- Nothing is stored and nothing is cached: the Secret is created, and what is returned is what
was stored. -/
theorem first_secret_returned :
    ReturnsStored (sampleLibs (.minimal "tenant" "default")) noDefaulting
      (.minimal "tenant" "default") emptyCache (.withRuntime (.minimal "tenant" "default")) := by
  refine (returns_stored_iff fun kc => ⟨[], rfl⟩).mpr ⟨fun _ => rfl, fun secret hcached => ?_⟩
  cases hcached

/-- The cache has not seen the stray Secret: a Secret that was never stored is returned. -/
theorem unsaved_secret_returned :
    ¬ ReturnsStored (sampleLibs (.minimal "tenant" "default")) noDefaulting
      (.minimal "tenant" "default") emptyCache strayCluster := by
  intro h
  have hview := h.viewSound fun kc => ⟨[], rfl⟩
  have habsent := hview.absent rfl
  cases habsent

end Heir.Controller.Runtime
