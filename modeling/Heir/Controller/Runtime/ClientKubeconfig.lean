import Heir.Pki.Validation
import Heir.Controller.Runtime.Success

set_option autoImplicit false

/-! # The client kubeconfig

`setupClientKubeconfig` keeps a stored kubeconfig that passes `validateClientKubeconfigSecret` and
replaces any other by a new one. Here the verification of certificates is no longer an arbitrary
answer: it is `parseAndVerifyCertificate`, and what the signer returns is a certificate of the given
authority with its key.

A new kubeconfig can be used. A kept one has passed every check, but the check of the key passes
without a key: a kubeconfig with a good certificate and no key data is kept and cannot be used. That
is the only gap (`client_kubeconfig_usable_iff`).
-/

namespace Heir.Controller.Runtime

open Heir.ControlPlane Heir.Core Heir.Runtime Heir.Pki Interact

/-! ## Kubeconfigs that can be used -/

/-- The current context of the kubeconfig leads to this cluster and this user. -/
def Resolves (libs : Libs) (raw : Bytes) (kc : ResolvedKubeconfig) : Prop :=
  ∃ config kctx, libs.loadKubeconfig raw = .ok config ∧
    config.contexts[config.currentContext]? = some kctx ∧
    config.clusters[kctx.cluster]? = some kc.cluster ∧
    config.authInfos[kctx.authInfo]? = some kc.authInfo

/-- A certificate of the authority for client authentication, valid now, with its private key. -/
structure ClientCredential (x509 : X509) (now : Time) (ca : Certificate) (cert key : Bytes)
    (leaf : X509Certificate) : Prop where
  parses : parseCertificatePEM x509 cert = .ok leaf
  chains : Chains x509 now leaf ca [.clientAuth]
  keyMatches : x509.parsePublicHalf key = .ok leaf.publicKey

section Usable

variable (x509 : X509) (libs : Libs) (now : Time) (runtime : Runtime)

/-- The kubeconfig of the Secret leads to the endpoint of the specification and to a user with a
credential for it. -/
def UsableKubeconfig (ca : Certificate) (secret : Secret) : Prop :=
  ∃ kc leaf, Resolves libs (secretEntry secret layout.auth.clientKubeconfig.secretKey) kc ∧
    kc.cluster.server = apiServerURL runtime ∧ leaf.ValidAt now ∧
    ClientCredential x509 now ca kc.authInfo.clientCertificateData kc.authInfo.clientKeyData leaf

/-- The name of the Secret with the client kubeconfig. -/
def clientKubeconfigKey : NamespacedName := ⟨runtime.ns, clientKubeconfigName runtime.name⟩

/-- The stored kubeconfig can be used with the stored authority. -/
def KubeconfigStored (c : Cluster) : Prop :=
  ∃ pkiSecret secret, c.lookup .secret runtime.metadata.key = some pkiSecret ∧
    c.lookup .secret (clientKubeconfigKey runtime) = some secret ∧
    UsableKubeconfig x509 libs now runtime (storedCA pkiSecret layout) secret

end Usable

section Resolves

variable {libs : Libs} {raw : Bytes} {kc kc' : ResolvedKubeconfig}

theorem Resolves.unique (h : Resolves libs raw kc) (h' : Resolves libs raw kc') : kc = kc' := by
  obtain ⟨config, kctx, hload, hctx, hcluster, huser⟩ := h
  obtain ⟨config', kctx', hload', hctx', hcluster', huser'⟩ := h'
  have hconfig : config = config' := Except.ok.inj (hload.symm.trans hload')
  subst hconfig
  have hkctx : kctx = kctx' := Option.some.inj (hctx.symm.trans hctx')
  subst hkctx
  have h₁ : kc.cluster = kc'.cluster := Option.some.inj (hcluster.symm.trans hcluster')
  have h₂ : kc.authInfo = kc'.authInfo := Option.some.inj (huser.symm.trans huser')
  cases kc
  cases kc'
  cases h₁
  cases h₂
  rfl

theorem Resolves.resolved (h : Resolves libs raw kc)
    (hcert : kc.authInfo.clientCertificateData ≠ []) : resolveKubeconfig libs raw = .ok kc := by
  obtain ⟨config, kctx, hload, hctx, hcluster, huser⟩ := h
  simp only [Runtime.resolveKubeconfig, hload, hctx, hcluster, huser, if_neg hcert]

theorem resolves_of_resolveKubeconfig (h : resolveKubeconfig libs raw = .ok kc) :
    Resolves libs raw kc ∧ kc.authInfo.clientCertificateData ≠ [] := by
  unfold Runtime.resolveKubeconfig at h
  split at h
  · cases h
  next config hload =>
    split at h
    · cases h
    next kctx hctx =>
      split at h
      · cases h
      next cluster hcluster =>
        split at h
        · cases h
        next user huser =>
          split at h
          · cases h
          next hcert =>
            cases h
            exact ⟨⟨config, kctx, hload, hctx, hcluster, huser⟩, hcert⟩

/-- The configuration that is written for the client. -/
def clientConfig (runtime : Runtime) (caCert : Bytes) (cert : Certificate) : KubeConfig where
  clusters := (∅ : GoMap KubeCluster).insert runtime.name ⟨apiServerURL runtime, caCert⟩
  authInfos := (∅ : GoMap AuthInfo).insert runtime.name
    { clientCertificateData := cert.cert, clientKeyData := cert.key }
  contexts := (∅ : GoMap KubeContext).insert (runtime.name ++ "@heir") ⟨runtime.name, runtime.name⟩
  currentContext := runtime.name ++ "@heir"

theorem resolves_clientConfig {runtime : Runtime} {caCert : Bytes} {cert : Certificate}
    (h : libs.loadKubeconfig raw = .ok (clientConfig runtime caCert cert)) :
    Resolves libs raw ⟨⟨apiServerURL runtime, caCert⟩,
      { clientCertificateData := cert.cert, clientKeyData := cert.key }⟩ := by
  refine ⟨clientConfig runtime caCert cert, ⟨runtime.name, runtime.name⟩, h, ?_, ?_, ?_⟩
  · exact (GoMap.getElem?_insert _ _ _ _).trans (if_pos rfl)
  · exact (GoMap.getElem?_insert _ _ _ _).trans (if_pos rfl)
  · exact (GoMap.getElem?_insert _ _ _ _).trans (if_pos rfl)

end Resolves

/-! ## The signer and the verification -/

section Server

variable (x509 : X509) (now : Time) (d : Defaulting)

/-- A certificate and its key as the signer returns them. -/
def Issued (ca cert : Certificate) : Prop :=
  ∃ leaf, ClientCredential x509 now ca cert.cert cert.key leaf

/-- The answer of `ParseAndVerifyCertificate` with the option that `WithClientCertificateValidation`
gives it. -/
def verdict (cert : Bytes) (ca : Certificate) (key : Bytes) : Except GoError Unit :=
  match parseAndVerifyCertificate x509 now cert ca [withKeyValidation key] with
  | .ok _ => .ok ()
  | .error r => .error r.toGoError

/-- The answers of the signer and of the verification. -/
def HonestPki : (op : Call) → op.Answer → Prop
  | .signCSR ca _ _, .ok cert => Issued x509 now ca cert
  | .verifyCertificate cert ca key, r => r = verdict x509 now cert ca key
  | _, _ => True

/-- The server of the management cluster, with an honest signer. -/
def pkiServer : Server sig Cluster := fun op c x c' => server d op c x c' ∧ HonestPki x509 now op x

variable {x509 now d} {c c' : Cluster}

/-- The verification passes for a credential, and for a certificate without a key. -/
theorem verdict_eq_ok {cert key : Bytes} {ca : Certificate} :
    verdict x509 now cert ca key = .ok () ↔ ∃ leaf, parseCertificatePEM x509 cert = .ok leaf ∧
      Chains x509 now leaf ca [.clientAuth] ∧
      (key ≠ [] → x509.parsePublicHalf key = .ok leaf.publicKey ∧
        leaf.publicKey.hasEqual = true) := by
  unfold verdict
  constructor
  · intro h
    cases hv : parseAndVerifyCertificate x509 now cert ca [withKeyValidation key] with
    | error r =>
        rw [hv] at h
        cases h
    | ok leaf =>
        obtain ⟨hparse, -, -, hkey, -, hchain⟩ := (parseAndVerifyCertificate_eq_ok rfl).mp hv
        exact ⟨leaf, hparse, hchain, verifyKeyPair_eq_ok.mp hkey⟩
  · rintro ⟨leaf, hparse, hchain, hkey⟩
    have hvalid := x509.verify_validAt _ _ _ _ hchain.2
    have hv : parseAndVerifyCertificate x509 now cert ca [withKeyValidation key] = .ok leaf :=
      (parseAndVerifyCertificate_eq_ok rfl).mpr
        ⟨hparse, rfl, rfl, verifyKeyPair_eq_ok.mpr hkey, hvalid, hchain⟩
    rw [hv]

theorem pki_signCSR_bind {α : Type} {ca : Certificate} {csr : CSR} {f : Certificate → Go α}
    {post : Except Fault α → Cluster → Prop}
    (hok : ∀ cert, Issued x509 now ca cert → (f cert).run.wp (pkiServer x509 now d) post c)
    (hfail : ∀ e, post (.error (.error e)) c) :
    (Go.signCSR ca csr >>= f).run.wp (pkiServer x509 now d) post c := by
  intro x c' hx
  obtain ⟨hs, hissued⟩ := hx
  rw [server_read (by trivial) hs]
  cases x with
  | ok cert => exact hok cert hissued
  | error e => exact hfail e

end Server

/-! ## Keep or replace -/

section Kubeconfig

variable (x509 : X509) (libs : Libs) (now : Time) (d : Defaulting) (runtime : Runtime)

/-- What `validateClientKubeconfigSecret` has found out when it accepts a Secret. -/
structure Accepted (ca : Certificate) (secret : Secret) (kc : ResolvedKubeconfig) : Prop where
  present : secretEntry secret layout.auth.clientKubeconfig.secretKey ≠ []
  resolves : resolveKubeconfig libs (secretEntry secret layout.auth.clientKubeconfig.secretKey) =
    .ok kc
  server : kc.cluster.server = apiServerURL runtime
  verified : verdict x509 now kc.authInfo.clientCertificateData ca kc.authInfo.clientKeyData = .ok ()

/-- Whenever `setupClientKubeconfig` succeeds, the kubeconfig that is then stored can be used. -/
def LeavesUsable (c : Cluster) : Prop :=
  ∀ t c', Exec (pkiServer x509 now d) (setupClientKubeconfig libs runtime).run c t (.ok ()) c' →
    KubeconfigStored x509 libs now runtime c'

/-- A stored kubeconfig of the Runtime that passes the validation comes with key data, unless the
stored authority cannot sign at all. -/
def KeysGiven (c : Cluster) : Prop :=
  ∀ pkiSecret existing kc, c.lookup .secret runtime.metadata.key = some pkiSecret →
    (∃ cert, Issued x509 now (storedCA pkiSecret layout) cert) →
    c.lookup .secret (clientKubeconfigKey runtime) = some existing →
    isControlledBy existing.metadata runtime.metadata = true →
    Accepted x509 libs now runtime (storedCA pkiSecret layout) existing kc →
    kc.authInfo.clientKeyData ≠ []

variable {x509 libs now d runtime} {c : Cluster} {ca : Certificate}

theorem Accepted.usable {secret : Secret} {kc : ResolvedKubeconfig}
    (h : Accepted x509 libs now runtime ca secret kc) (hkey : kc.authInfo.clientKeyData ≠ []) :
    UsableKubeconfig x509 libs now runtime ca secret := by
  obtain ⟨leaf, hparse, hchain, hpair⟩ := verdict_eq_ok.mp h.verified
  exact ⟨kc, leaf, (resolves_of_resolveKubeconfig h.resolves).1, h.server,
    x509.verify_validAt _ _ _ _ hchain.2, hparse, hchain, (hpair hkey).1⟩

theorem Accepted.not_usable {secret : Secret} {kc : ResolvedKubeconfig}
    (h : Accepted x509 libs now runtime ca secret kc) (hkey : kc.authInfo.clientKeyData = []) :
    ¬ UsableKubeconfig x509 libs now runtime ca secret := by
  rintro ⟨kc', leaf, hres, -, -, hcred⟩
  have hsame : kc' = kc := hres.unique (resolves_of_resolveKubeconfig h.resolves).1
  obtain ⟨e, he⟩ := x509.no_key
  have hpair := hcred.keyMatches
  rw [hsame, hkey, he] at hpair
  cases hpair

theorem validateClientKubeconfigSecret_wp (secret : Secret) :
    (validateClientKubeconfigSecret libs secret ca runtime layout).run.wp (pkiServer x509 now d)
      (fun r c' => c' = c ∧ ∀ v, r = .ok v → v = .ok () →
        ∃ kc, Accepted x509 libs now runtime ca secret kc) c := by
  unfold validateClientKubeconfigSecret
  dsimp only
  split
  · exact ⟨rfl, by rintro _ ⟨⟩ ⟨⟩⟩
  next hraw =>
    split
    · exact ⟨rfl, by rintro _ ⟨⟩ ⟨⟩⟩
    next kc hkc =>
      split
      · exact ⟨rfl, by rintro _ ⟨⟩ ⟨⟩⟩
      next hserver =>
        intro x c' hx
        obtain ⟨hs, hverdict⟩ := hx
        rw [server_read (by trivial) hs]
        cases x with
        | error e => exact ⟨rfl, by rintro _ ⟨⟩ ⟨⟩⟩
        | ok u => exact ⟨rfl, fun _ _ _ => ⟨kc, hraw, hkc, not_not.mp hserver, hverdict.symm⟩⟩

/-! ### A kubeconfig without a key is kept -/

theorem generateClientKubeconfigAuthSecret_succeeds {cert : Certificate}
    (hissued : Issued x509 now ca cert) :
    Succeeds (pkiServer x509 now d) (generateClientKubeconfigAuthSecret libs ca runtime layout)
      (fun _ c' => c' = c) c := by
  unfold generateClientKubeconfigAuthSecret
  refine .bind (.call_bind (.ok cert) c ⟨⟨.certificate (.ok cert), rfl⟩, hissued⟩ (.ret ?_))
  exact .ret rfl

theorem Accepted.validate_succeeds {secret : Secret} {kc : ResolvedKubeconfig}
    (h : Accepted x509 libs now runtime ca secret kc) :
    Succeeds (pkiServer x509 now d) (validateClientKubeconfigSecret libs secret ca runtime layout)
      (fun v c' => v = .ok () ∧ c' = c) c := by
  unfold validateClientKubeconfigSecret
  dsimp only
  rw [if_neg h.present, h.resolves]
  dsimp only
  rw [if_neg (not_not.mpr h.server)]
  exact .call_bind (.ok ()) c ⟨⟨.verification (.ok ()), rfl⟩, h.verified.symm⟩ (.ret ⟨rfl, rfl⟩)

theorem LeavesUsable.keysGiven (h : LeavesUsable x509 libs now d runtime c) :
    KeysGiven x509 libs now runtime c := by
  intro pkiSecret existing kc hpki hsigns hl howned haccepted hkey
  obtain ⟨cert, hissued⟩ := hsigns
  have hrun : Succeeds (pkiServer x509 now d) (setupClientKubeconfig libs runtime)
      (fun _ c' => c' = c) c := by
    unfold setupClientKubeconfig
    refine .call_bind (.ok pkiSecret) c ⟨server_get_found hpki, trivial⟩ (.bind ?_)
    refine (generateClientKubeconfigAuthSecret_succeeds hissued).mono fun newSecret c₁ hc₁ => ?_
    rw [hc₁]
    refine succeeds_getOrElse_ok ⟨server_get_found hl, trivial⟩ ?_
    rw [if_pos howned]
    refine .bind (haccepted.validate_succeeds.mono fun v c₂ hv => ?_)
    obtain ⟨rfl, rfl⟩ := hv
    exact .ret rfl
  obtain ⟨t, _, c', he, rfl⟩ := hrun.exec
  obtain ⟨pkiSecret', existing', hpki', hl', husable⟩ := h t _ he
  have h₁ : pkiSecret' = pkiSecret := Option.some.inj (hpki'.symm.trans hpki)
  have h₂ : existing' = existing := Option.some.inj (hl'.symm.trans hl)
  rw [h₁, h₂] at husable
  exact haccepted.not_usable hkey husable

/-! ### Everything else can be used -/

theorem clientKubeconfigKey_ne (runtime : Runtime) :
    runtime.metadata.key ≠ clientKubeconfigKey runtime := by
  intro h
  have hname : runtime.name = clientKubeconfigName runtime.name := congrArg NamespacedName.name h
  have hlen := congrArg String.length hname
  simp [clientKubeconfigName] at hlen

/-- A usable kubeconfig that is stored under its name leaves the authority as it was. -/
theorem kubeconfigStored_put {pkiSecret secret : Secret} {version : Nat}
    (hpki : c.lookup .secret runtime.metadata.key = some pkiSecret)
    (hkey : secret.metadata.key = clientKubeconfigKey runtime)
    (husable : UsableKubeconfig x509 libs now runtime (storedCA pkiSecret layout) secret) :
    KubeconfigStored x509 libs now runtime (c.put .secret (d.stored version .secret secret)) := by
  refine ⟨pkiSecret, d.stored version .secret secret, ?_, ?_, husable⟩
  · rw [c.lookup_put_of_ne (k := .secret) (d.stored version .secret secret) ?_]
    · exact hpki
    · rintro ⟨-, h⟩
      exact clientKubeconfigKey_ne runtime (h.trans hkey)
  · exact c.lookup_put_stored d version (k := .secret) hkey

section RoundTrip

variable (hround : ∀ caCert cert, ∃ b,
  libs.writeKubeconfig (clientConfig runtime caCert cert) = .ok b ∧
    libs.loadKubeconfig b = .ok (clientConfig runtime caCert cert))
include hround

theorem generated_usable {cert : Certificate} {secret : Secret} (hissued : Issued x509 now ca cert)
    (hdata : secret.data = (∅ : GoMap Bytes).insert layout.auth.clientKubeconfig.secretKey
      ((generateKubeconfig libs runtime.name ca.cert cert (apiServerURL runtime)).toOption.getD [])) :
    UsableKubeconfig x509 libs now runtime ca secret := by
  obtain ⟨leaf, hcred⟩ := hissued
  obtain ⟨b, hwrite, hload⟩ := hround ca.cert cert
  have hgen : generateKubeconfig libs runtime.name ca.cert cert (apiServerURL runtime) = .ok b := hwrite
  have hentry : secretEntry secret layout.auth.clientKubeconfig.secretKey = b := by
    rw [secretEntry, hdata, hgen, Std.ExtTreeMap.getD_eq_getD_getElem?, GoMap.getElem?_insert,
      if_pos rfl]
    rfl
  have hresolves := resolves_clientConfig hload
  rw [← hentry] at hresolves
  exact ⟨_, leaf, hresolves, rfl, x509.verify_validAt _ _ _ _ hcred.chains.2, hcred⟩

theorem generateClientKubeconfigAuthSecret_wp :
    (generateClientKubeconfigAuthSecret libs ca runtime layout).run.wp (pkiServer x509 now d)
      (fun r c' => c' = c ∧ ∀ s, r = .ok s → s.metadata.key = clientKubeconfigKey runtime ∧
        Fresh runtime s.metadata ∧ (∃ cert, Issued x509 now ca cert) ∧
        ∀ s' : Secret, s'.data = s.data → UsableKubeconfig x509 libs now runtime ca s') c := by
  unfold generateClientKubeconfigAuthSecret
  refine pki_signCSR_bind (fun cert hissued => ?_) (fun e => ⟨rfl, by rintro _ ⟨⟩⟩)
  refine ⟨rfl, ?_⟩
  rintro _ ⟨⟩
  exact ⟨rfl, ⟨rfl, rfl⟩, ⟨cert, hissued⟩, fun s' hdata => generated_usable hround hissued hdata⟩

theorem KeysGiven.leavesUsable (h : KeysGiven x509 libs now runtime c) :
    LeavesUsable x509 libs now d runtime c := by
  intro t c' he
  suffices hwp : (setupClientKubeconfig libs runtime).run.wp (pkiServer x509 now d)
      (fun r c' => r = .ok () → KubeconfigStored x509 libs now runtime c') c from he.wp hwp rfl
  unfold setupClientKubeconfig
  intro x c₁ hx
  obtain ⟨hc, hx⟩ := server_get_view hx.1
  rw [hc]
  rcases hx with rfl | ⟨t, rfl⟩
  swap
  · rintro ⟨⟩
  cases hpki : c.lookup .secret runtime.metadata.key with
  | none => rintro ⟨⟩
  | some pkiSecret =>
      show Prog.wp _ _ (_ >>= _ : Go Unit).run c
      rw [Prog.wp_run_bind]
      refine Prog.wp.mono (generateClientKubeconfigAuthSecret_wp hround) fun r c₂ hr => ?_
      obtain ⟨hc₂, hr⟩ := hr
      rw [hc₂]
      cases r with
      | error e => rintro ⟨⟩
      | ok newSecret =>
          obtain ⟨hkey, hfresh, hsigns, husable⟩ := hr newSecret rfl
          refine wp_getOrElse_view (c.lookup .secret (clientKubeconfigKey runtime))
            (fun _ _ hget => server_get_view hget.1) (fun hnone => ?_) (fun existing hl => ?_) ?_
          · -- there is none yet: the new one is created
            have href : setControllerRef runtime .secret newSecret =
                pure (withRef runtime .secret newSecret) := setControllerRef_fresh hfresh
            have hkey' : (Obj.getMeta .secret (withRef runtime .secret newSecret)).key =
                clientKubeconfigKey runtime := (withRef_key runtime .secret newSecret).trans hkey
            rw [href, pure_bind]
            intro y c₃ hy
            rcases server_create_absent hy.1 (by rw [hkey']; exact hnone) with ⟨rfl, rfl⟩ | ⟨t, rfl⟩
            · exact fun _ => kubeconfigStored_put hpki hkey' (husable _ rfl)
            · rintro ⟨⟩
          · have hkey' : existing.metadata.key = clientKubeconfigKey runtime := Cluster.lookup_key hl
            by_cases howned : isControlledBy existing.metadata runtime.metadata = true
            · rw [if_pos howned, Prog.wp_run_bind]
              refine Prog.wp.mono (validateClientKubeconfigSecret_wp existing) fun r c₃ hr => ?_
              obtain ⟨hc₃, hr⟩ := hr
              rw [hc₃]
              rcases r with f | (e | u)
              · rintro ⟨⟩
              · -- it was refused: its data is replaced
                show Prog.wp _ _ (updateObj .secret _).run c
                rw [run_updateObj]
                intro y c₄ hy
                rcases server_update_cases hy.1 with ⟨_, -, -, rfl, rfl⟩ | ⟨⟨e, rfl⟩, -⟩
                · exact fun _ => kubeconfigStored_put hpki hkey' (husable _ rfl)
                · rintro ⟨⟩
              · -- it was accepted: it stays
                obtain ⟨kc, haccepted⟩ := hr _ rfl rfl
                have hgiven := h pkiSecret existing kc hpki hsigns hl howned haccepted
                exact fun _ => ⟨pkiSecret, existing, hpki, hl, haccepted.usable hgiven⟩
            · rw [if_neg howned]
              rintro ⟨⟩
          · rintro e ⟨⟩

/-- After a success of `setupClientKubeconfig` the stored kubeconfig can be used, exactly if no
kubeconfig without key data is kept. -/
theorem client_kubeconfig_usable_iff :
    LeavesUsable x509 libs now d runtime c ↔ KeysGiven x509 libs now runtime c :=
  ⟨fun h => h.keysGiven, fun h => h.leavesUsable hround⟩

end RoundTrip

end Kubeconfig

/-! ## A kubeconfig with and without a key -/

section Sample

/-- Certificates and keys are their own public keys, and every certificate chains to every other in
the first hundred units of time. -/
def plainX509 : X509 where
  decodePEM := fun b => if b = [] then none else some ("CERTIFICATE", b)
  parseCertificate := fun b => .ok (plainCertificate b)
  parsePublicHalf := fun b => if b = [] then .error (errorf "no key") else .ok (plainKey b)
  certsFromPEM := fun b => if b = [] then [] else [plainCertificate b]
  verify := fun cert _ _ t =>
    if cert.notBefore ≤ t ∧ t ≤ cert.notAfter then .ok () else .error (errorf "expired")
  ipString := fun _ => ""
  isPrint := fun _ => true
  rfc3339 := fun _ => ""
  verify_validAt := fun cert _ _ t h => by
    by_contra hnot
    simp only [X509Certificate.ValidAt] at hnot
    rw [if_neg hnot] at h
    cases h
  no_key := ⟨errorf "no key", rfl⟩
where
  plainKey (b : Bytes) : PublicKey := ⟨"*rsa.PublicKey", true, b⟩
  plainCertificate (b : Bytes) : X509Certificate :=
    { organization := [], commonName := "", dnsNames := [], ipAddresses := []
      publicKey := plainKey b, notBefore := 0, notAfter := 100, raw := b }

/-- A byte string with an end mark. -/
def frame : Bytes → Bytes
  | [] => [0]
  | b :: l => 1 :: b :: frame l

def unframe : Bytes → Option (Bytes × Bytes)
  | 0 :: rest => some ([], rest)
  | _ :: b :: rest => (unframe rest).map (fun p => (b :: p.1, p.2))
  | _ => none

theorem unframe_frame (l rest : Bytes) : unframe (frame l ++ rest) = some (l, rest) := by
  induction l with
  | nil => rfl
  | cons b l ih =>
      show (unframe (frame l ++ rest)).map _ = _
      rw [ih]
      rfl

/-- The kubeconfig of the Runtime `tenant` as bytes: authority, certificate and key. -/
def framedConfig (caCert : Bytes) (cert : Certificate) : Bytes :=
  frame caCert ++ (frame cert.cert ++ (frame cert.key ++ []))

def loadFramed (raw : Bytes) : Option KubeConfig := do
  let (caCert, rest) ← unframe raw
  let (cert, rest) ← unframe rest
  let (key, _) ← unframe rest
  return clientConfig (.minimal "tenant" "default") caCert ⟨cert, key⟩

theorem loadFramed_framedConfig (caCert : Bytes) (cert : Certificate) :
    loadFramed (framedConfig caCert cert) =
      some (clientConfig (.minimal "tenant" "default") caCert cert) := by
  unfold loadFramed framedConfig
  simp only [unframe_frame, Option.bind_eq_bind, Option.bind_some, Option.pure_def]

/-- Libraries that write and read the kubeconfigs of the Runtime `tenant`. -/
def framedLibs : Libs :=
  { sampleLibs (.minimal "tenant" "default") with
    writeKubeconfig := fun kc =>
      match kc.clusters["tenant"]?, kc.authInfos["tenant"]? with
      | some cluster, some user => .ok (framedConfig cluster.certificateAuthorityData
          ⟨user.clientCertificateData, user.clientKeyData⟩)
      | _, _ => .error (errorf "not a kubeconfig of tenant")
    loadKubeconfig := fun raw =>
      match loadFramed raw with
      | some kc => .ok kc
      | none => .error (errorf "invalid configuration") }

theorem framedLibs_load (caCert : Bytes) (cert : Certificate) :
    framedLibs.loadKubeconfig (framedConfig caCert cert) =
      .ok (clientConfig (.minimal "tenant" "default") caCert cert) := by
  simp only [framedLibs, loadFramed_framedConfig]

theorem framedLibs_write (caCert : Bytes) (cert : Certificate) :
    framedLibs.writeKubeconfig (clientConfig (.minimal "tenant" "default") caCert cert) =
      .ok (framedConfig caCert cert) := by
  have hcluster : (clientConfig (.minimal "tenant" "default") caCert cert).clusters["tenant"]? =
      some ⟨apiServerURL (.minimal "tenant" "default"), caCert⟩ :=
    (GoMap.getElem?_insert _ _ _ _).trans (if_pos rfl)
  have huser : (clientConfig (.minimal "tenant" "default") caCert cert).authInfos["tenant"]? =
      some { clientCertificateData := cert.cert, clientKeyData := cert.key } :=
    (GoMap.getElem?_insert _ _ _ _).trans (if_pos rfl)
  simp only [framedLibs, hcluster, huser]

def tenantPki : Secret where
  metadata :=
    { name := "tenant", ns := "default"
      ownerReferences := [controllerRef (.minimal "tenant" "default")] }
  data := (∅ : GoMap Bytes).insert "ca.crt" [1]

/-- A client kubeconfig with the given key. -/
def tenantKubeconfig (key : Bytes) : Secret where
  metadata :=
    { name := "tenant-kubeconfig", ns := "default"
      ownerReferences := [controllerRef (.minimal "tenant" "default")] }
  data := (∅ : GoMap Bytes).insert "kubeconfig" (framedConfig [1] ⟨[1], key⟩)

def tenantCluster (key : Bytes) : Cluster :=
  ((Cluster.withRuntime (.minimal "tenant" "default")).put .secret tenantPki).put .secret
    (tenantKubeconfig key)

theorem storedCA_tenantPki : storedCA tenantPki layout = ⟨[1], []⟩ := by
  have hcert : secretEntry tenantPki layout.pki.caCert.secretKey = [1] := by
    rw [secretEntry, Std.ExtTreeMap.getD_eq_getD_getElem?, tenantPki, GoMap.getElem?_insert,
      if_pos (by decide), Option.getD_some]
  have hkey : secretEntry tenantPki layout.pki.caKey.secretKey = [] := by
    rw [secretEntry, Std.ExtTreeMap.getD_eq_getD_getElem?, tenantPki, GoMap.getElem?_insert,
      if_neg (by decide)]
    rfl
  rw [storedCA, hcert, hkey]

theorem secretEntry_tenantKubeconfig (key : Bytes) :
    secretEntry (tenantKubeconfig key) layout.auth.clientKubeconfig.secretKey =
      framedConfig [1] ⟨[1], key⟩ := by
  rw [secretEntry, Std.ExtTreeMap.getD_eq_getD_getElem?, tenantKubeconfig, GoMap.getElem?_insert,
    if_pos (by decide), Option.getD_some]

theorem tenantKubeconfig_resolves (key : Bytes) :
    Resolves framedLibs
      (secretEntry (tenantKubeconfig key) layout.auth.clientKubeconfig.secretKey)
      ⟨⟨apiServerURL (.minimal "tenant" "default"), [1]⟩,
        { clientCertificateData := [1], clientKeyData := key }⟩ := by
  rw [secretEntry_tenantKubeconfig]
  exact resolves_clientConfig (framedLibs_load [1] ⟨[1], key⟩)

/-- The kubeconfig has its key, and stays usable. -/
theorem tenant_kubeconfig_usable :
    LeavesUsable plainX509 framedLibs 50 noDefaulting (.minimal "tenant" "default")
      (tenantCluster [1]) := by
  refine (client_kubeconfig_usable_iff fun caCert cert =>
    ⟨_, framedLibs_write caCert cert, framedLibs_load caCert cert⟩).mpr ?_
  intro pkiSecret existing kc _ _ hl _ haccepted
  have hexisting : existing = tenantKubeconfig [1] := (Option.some.inj hl).symm
  subst hexisting
  have hkc := (resolves_of_resolveKubeconfig haccepted.resolves).1.unique
    (tenantKubeconfig_resolves [1])
  rw [hkc]
  decide

/-- The kubeconfig has no key, is accepted and stays. -/
theorem keyless_kubeconfig_kept :
    ¬ LeavesUsable plainX509 framedLibs 50 noDefaulting (.minimal "tenant" "default")
      (tenantCluster []) := by
  intro h
  have hissued : Issued plainX509 50 (storedCA tenantPki layout) ⟨[1], [1]⟩ := by
    rw [storedCA_tenantPki]
    exact ⟨plainX509.plainCertificate [1], rfl, ⟨by decide, rfl⟩, rfl⟩
  have haccepted : Accepted plainX509 framedLibs 50 (.minimal "tenant" "default")
      (storedCA tenantPki layout) (tenantKubeconfig []) ⟨⟨apiServerURL (.minimal "tenant" "default"), [1]⟩,
        { clientCertificateData := [1], clientKeyData := [] }⟩ := by
    constructor
    · rw [secretEntry_tenantKubeconfig]
      decide
    · exact (tenantKubeconfig_resolves []).resolved (by decide)
    · rfl
    · rw [storedCA_tenantPki]
      exact verdict_eq_ok.mpr
        ⟨plainX509.plainCertificate [1], rfl, ⟨by decide, rfl⟩, fun hne => absurd rfl hne⟩
  exact h.keysGiven tenantPki (tenantKubeconfig []) _ rfl ⟨_, hissued⟩ rfl rfl haccepted rfl

end Sample

end Heir.Controller.Runtime
