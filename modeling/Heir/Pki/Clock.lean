import Heir.Pki.Validation

set_option autoImplicit false

/-! # The clock of a verification

`WithClock` sets the time for the check of the validity window. The building of the chain is not given
a time and takes the system's, so a verdict also depends on when it is asked for: a certificate that
is accepted at one time of the system is rejected once that has passed the certificate's window, with
the same clock configured (`verdict_depends_on_wall`).

The verdict follows the configured clock only where it is a rejection: an earlier check fails, or
there is no authority, or the library has the same objection at all times, which is then not about the
window (`verdict_follows_clock_iff`).
-/

namespace Heir.Pki

open Heir.Core Heir.Runtime

/-- The options one after the other. -/
def configured (opts : List VerifyOption) : VerifyOptions :=
  opts.foldl (fun o (opt : VerifyOption) => opt o) {}

section Clock

variable (x509 : X509)

/-- The checks before the chain is built, with the clock at `t`. -/
def checkedCertificate (t : Time) (certPEM : Bytes) (opts : List VerifyOption) :
    Except Rejection X509Certificate := do
  let options := resolveOptions opts t
  let cert ← parseCertificatePEM x509 certPEM
  verifySubject x509 cert options
  verifySANs x509 cert options
  verifyKeyPair x509 cert options.keyPEM
  verifyValidity x509 cert t
  return cert

/-- A certificate that is as configured, at the time `t`. -/
structure Configured (t : Time) (certPEM : Bytes) (opts : List VerifyOption)
    (cert : X509Certificate) : Prop where
  parses : parseCertificatePEM x509 certPEM = .ok cert
  org : ∀ org, (configured opts).org = some org → org ∈ cert.organization
  commonName : ∀ cn, (configured opts).commonName = some cn → cert.commonName = cn
  /-- Each name as often as it is configured. -/
  sans : ∀ sans, (configured opts).sans = some sans → (certSANs x509 cert).Perm sans
  key : (configured opts).keyPEM ≠ [] →
    x509.parsePublicHalf (configured opts).keyPEM = .ok cert.publicKey ∧
      cert.publicKey.hasEqual = true
  validAt : cert.ValidAt t

/-- The usages that a chain has to be good for. -/
def configuredUsages (opts : List VerifyOption) : List ExtKeyUsage :=
  (configured opts).keyUsages.getD [.clientAuth]

/-- What should be accepted at the time `t`. -/
structure Acceptable (t : Time) (certPEM : Bytes) (ca : Certificate) (opts : List VerifyOption)
    (cert : X509Certificate) : Prop extends Configured x509 t certPEM opts cert where
  chains : Chains x509 t cert ca (configuredUsages opts)

/-- The verdict is the same at all times of the system, and it accepts what should be accepted at the
time `t`. -/
structure FollowsClock (t : Time) (certPEM : Bytes) (ca : Certificate) (opts : List VerifyOption) :
    Prop where
  independent : ∀ wall wall', parseAndVerifyCertificate x509 wall certPEM ca opts =
    parseAndVerifyCertificate x509 wall' certPEM ca opts
  accepts_iff : ∀ wall cert, parseAndVerifyCertificate x509 wall certPEM ca opts = .ok cert ↔
    Acceptable x509 t certPEM ca opts cert

/-- The library has one and the same objection to a chain at all times. -/
def AlwaysRefused (certPEM : Bytes) (ca : Certificate) (opts : List VerifyOption) : Prop :=
  ∃ cert text, parseCertificatePEM x509 certPEM = .ok cert ∧ ∀ wall, ∃ e,
    x509.verify cert (x509.certsFromPEM ca.cert) (configuredUsages opts) wall = .error e ∧
      e.text = text

variable {x509} {t : Time} {certPEM : Bytes} {ca : Certificate} {opts : List VerifyOption}

/-- With a clock configured, the options do not depend on the time of the system. -/
theorem resolveOptions_eq (hclock : (configured opts).now = some t) (wall : Time) :
    resolveOptions opts wall = resolveOptions opts t := by
  unfold resolveOptions VerifyOptions.defaults
  rw [configured] at hclock
  simp only [hclock, Option.getD_some]

theorem clock_resolveOptions (hclock : (configured opts).now = some t) (wall : Time) :
    (resolveOptions opts wall).clock = t := by
  unfold resolveOptions VerifyOptions.defaults
  rw [configured] at hclock
  simp only [hclock, Option.getD_some]

/-- The time of the system is only looked at by the last check. -/
theorem parseAndVerifyCertificate_eq (hclock : (configured opts).now = some t) (wall : Time) :
    parseAndVerifyCertificate x509 wall certPEM ca opts =
      checkedCertificate x509 t certPEM opts >>= fun cert =>
        verifyChain x509 wall cert ca (resolveOptions opts t).usages >>= fun _ => .ok cert := by
  unfold parseAndVerifyCertificate checkedCertificate
  dsimp only
  rw [resolveOptions_eq hclock wall, clock_resolveOptions hclock t]
  simp only [bind_assoc, pure_bind]
  rfl

theorem checkedCertificate_eq_ok {cert : X509Certificate} :
    checkedCertificate x509 t certPEM opts = .ok cert ↔
      Configured x509 t certPEM opts cert := by
  unfold checkedCertificate
  dsimp only
  cases hparse : parseCertificatePEM x509 certPEM with
  | error r =>
      refine ⟨fun h => (by cases h), fun h => ?_⟩
      cases hparse.symm.trans h.parses
  | ok cert' =>
      rw [ok_bind, check_bind_eq_ok, check_bind_eq_ok, check_bind_eq_ok, check_bind_eq_ok,
        verifySubject_eq_ok, verifySANs_eq_ok, verifyKeyPair_eq_ok, verifyValidity_eq_ok]
      constructor
      · rintro ⟨⟨horg, hcn⟩, hsans, hkey, hvalid, ⟨⟩⟩
        exact ⟨hparse, horg, hcn, hsans, hkey, hvalid⟩
      · rintro ⟨hparse', horg, hcn, hsans, hkey, hvalid⟩
        cases hparse.symm.trans hparse'
        exact ⟨⟨horg, hcn⟩, hsans, hkey, hvalid, rfl⟩

/-- At the time `t` of the system, the clock configured to `t` decides everything. -/
theorem accepted_iff_acceptable (hclock : (configured opts).now = some t)
    (cert : X509Certificate) : parseAndVerifyCertificate x509 t certPEM ca opts = .ok cert ↔
      Acceptable x509 t certPEM ca opts cert := by
  rw [parseAndVerifyCertificate_eq hclock]
  cases hchecked : checkedCertificate x509 t certPEM opts with
  | error r =>
      refine ⟨fun h => (by cases h), fun h => ?_⟩
      cases hchecked.symm.trans (checkedCertificate_eq_ok.mpr h.toConfigured)
  | ok cert' =>
      rw [ok_bind, check_bind_eq_ok, verifyChain_eq_ok]
      have hconfigured := checkedCertificate_eq_ok.mp hchecked
      constructor
      · rintro ⟨hchains, ⟨⟩⟩
        exact ⟨hconfigured, hchains⟩
      · rintro ⟨hconfigured', hchains⟩
        cases hconfigured.parses.symm.trans hconfigured'.parses
        exact ⟨hchains, rfl⟩

theorem check_injective {ε α : Type} {x y : Except ε Unit} {a : α}
    (h : (x >>= fun _ => Except.ok a) = y >>= fun _ => .ok a) : x = y := by
  cases x with
  | error e =>
      cases y with
      | error e' =>
          cases h
          rfl
      | ok _ => cases h
  | ok _ =>
      cases y with
      | error e' => cases h
      | ok _ => rfl

/-- If the last check does not look at the time of the system, the verdict follows the clock. -/
theorem followsClock_of_verifyChain (hclock : (configured opts).now = some t)
    (h : ∀ cert, Configured x509 t certPEM opts cert → ∀ wall,
      verifyChain x509 wall cert ca (resolveOptions opts t).usages =
        verifyChain x509 t cert ca (resolveOptions opts t).usages) :
    FollowsClock x509 t certPEM ca opts := by
  have hsame : ∀ wall, parseAndVerifyCertificate x509 wall certPEM ca opts =
      parseAndVerifyCertificate x509 t certPEM ca opts := by
    intro wall
    rw [parseAndVerifyCertificate_eq hclock wall, parseAndVerifyCertificate_eq hclock t]
    cases hchecked : checkedCertificate x509 t certPEM opts with
    | error r => rfl
    | ok cert =>
        rw [ok_bind, ok_bind, h cert (checkedCertificate_eq_ok.mp hchecked) wall]
  constructor
  · exact fun wall wall' => (hsame wall).trans (hsame wall').symm
  · intro wall cert
    rw [hsame wall, accepted_iff_acceptable hclock]

theorem verifyChain_of_error {wall : Time} {cert : X509Certificate} {usages : List ExtKeyUsage}
    {e : GoError} (hpool : x509.certsFromPEM ca.cert ≠ [])
    (h : x509.verify cert (x509.certsFromPEM ca.cert) usages wall = .error e) :
    verifyChain x509 wall cert ca usages = reject .untrusted e.text := by
  simp [verifyChain, hpool, h]

theorem verify_expired (cert : X509Certificate) (roots : List X509Certificate)
    (usages : List ExtKeyUsage) : ∃ e, x509.verify cert roots usages (cert.notAfter + 1) = .error e := by
  cases hv : x509.verify cert roots usages (cert.notAfter + 1) with
  | error e => exact ⟨e, rfl⟩
  | ok u =>
      have hvalid := x509.verify_validAt _ _ _ _ hv
      exact absurd hvalid.2 (Nat.not_succ_le_self _)

/-- A verdict on a configured certificate that is the same at all times is the rejection that the
certificate meets after the end of its window. -/
theorem alwaysRefused_of_followsClock (hclock : (configured opts).now = some t)
    {cert : X509Certificate} (hcert : Configured x509 t certPEM opts cert)
    (hpool : x509.certsFromPEM ca.cert ≠ []) (h : FollowsClock x509 t certPEM ca opts) :
    AlwaysRefused x509 certPEM ca opts := by
  have hsame : ∀ wall, verifyChain x509 wall cert ca (configuredUsages opts) =
      verifyChain x509 (cert.notAfter + 1) cert ca (configuredUsages opts) := by
    intro wall
    have hverdict := h.independent wall (cert.notAfter + 1)
    rw [parseAndVerifyCertificate_eq hclock, parseAndVerifyCertificate_eq hclock,
      checkedCertificate_eq_ok.mpr hcert, ok_bind, ok_bind] at hverdict
    exact check_injective hverdict
  obtain ⟨e₀, he₀⟩ := verify_expired cert (x509.certsFromPEM ca.cert) (configuredUsages opts)
  refine ⟨cert, e₀.text, hcert.parses, fun wall => ?_⟩
  have hwall := hsame wall
  rw [verifyChain_of_error hpool he₀] at hwall
  cases hv : x509.verify cert (x509.certsFromPEM ca.cert) (configuredUsages opts) wall with
  | ok u =>
      rw [verifyChain_eq_ok.mpr ⟨hpool, hv⟩] at hwall
      cases hwall
  | error e =>
      rw [verifyChain_of_error hpool hv] at hwall
      injection hwall with hwall
      injection hwall with _ htext
      exact ⟨e, rfl, Option.some.inj htext⟩

/-- **When the verdict follows the clock.** With a clock configured to `t`: the verdict is the same at
all times of the system and accepts exactly what should be accepted at `t`, if and only if there is
nothing to accept: the certificate is not as configured, or there is no authority, or the library
refuses the chain with one and the same error at all times. -/
theorem verdict_follows_clock_iff (hclock : (configured opts).now = some t) :
    FollowsClock x509 t certPEM ca opts ↔
      (∀ cert, ¬ Configured x509 t certPEM opts cert) ∨ x509.certsFromPEM ca.cert = [] ∨
        AlwaysRefused x509 certPEM ca opts := by
  constructor
  · intro h
    by_cases hnone : ∀ cert, ¬ Configured x509 t certPEM opts cert
    · exact Or.inl hnone
    by_cases hpool : x509.certsFromPEM ca.cert = []
    · exact Or.inr (Or.inl hpool)
    obtain ⟨cert, hcert⟩ := not_forall_not.mp hnone
    exact Or.inr (Or.inr (alwaysRefused_of_followsClock hclock hcert hpool h))
  · rintro (hnone | hpool | ⟨cert', text, hparse, hrefused⟩)
    · exact followsClock_of_verifyChain hclock fun cert hcert => absurd hcert (hnone cert)
    · refine followsClock_of_verifyChain hclock fun cert _ wall => ?_
      simp [verifyChain, hpool]
    · refine followsClock_of_verifyChain hclock fun cert hcert wall => ?_
      by_cases hpool : x509.certsFromPEM ca.cert = []
      · simp [verifyChain, hpool]
      cases hcert.parses.symm.trans hparse
      obtain ⟨e, he, htext⟩ := hrefused wall
      obtain ⟨e', he', htext'⟩ := hrefused t
      exact (verifyChain_of_error hpool he).trans
        (htext.trans htext'.symm ▸ (verifyChain_of_error hpool he').symm)

end Clock

/-! ## A certificate that expires -/

/-- A certificate for the times 0 to 10. -/
def shortLived : X509Certificate where
  organization := ["kubernetes"]
  commonName := "kube-apiserver"
  dnsNames := []
  ipAddresses := []
  publicKey := ⟨"*ecdsa.PublicKey", true, []⟩
  notBefore := 0
  notAfter := 10
  raw := []

/-- The library looks for critical extensions that it does not know, then at the window. -/
def verifyWindow (cert : X509Certificate) (_roots : List X509Certificate)
    (_usages : List ExtKeyUsage) (t : Time) : Except GoError Unit :=
  if cert.raw ≠ [] then .error (errorf "x509: unhandled critical extension")
  else if cert.notBefore ≤ t ∧ t ≤ cert.notAfter then .ok ()
  else .error (errorf "x509: certificate has expired or is not yet valid")

theorem validAt_of_verifyWindow (cert : X509Certificate) (roots : List X509Certificate)
    (usages : List ExtKeyUsage) (t : Time) (h : verifyWindow cert roots usages t = .ok ()) :
    cert.ValidAt t := by
  by_contra hnot
  unfold verifyWindow at h
  split at h
  · cases h
  · split at h
    · exact hnot ‹_›
    · cases h

theorem no_key_error : ∃ e, (Except.error (errorf "no key") : Except GoError PublicKey) = .error e :=
  ⟨_, rfl⟩

/-- Every text is the certificate, and it is its own authority; an empty text is none. What follows
the first byte are extensions. -/
def shortLivedX509 : X509 where
  decodePEM := fun b => some ("CERTIFICATE", b)
  parseCertificate := fun b => .ok { shortLived with raw := b.tail }
  parsePublicHalf := fun _ => .error (errorf "no key")
  certsFromPEM := fun b => if b = [] then [] else [shortLived]
  verify := verifyWindow
  ipString := fun _ => ""
  isPrint := fun _ => true
  rfc3339 := fun t => toString t
  verify_validAt := validAt_of_verifyWindow
  no_key := no_key_error

/-- A certificate that is as configured, with an authority: an extension that the library does not
know makes it refuse the certificate at all times. -/
theorem unknown_extension_follows_clock :
    Configured shortLivedX509 5 [1, 2] [withCNValidation "kube-apiserver", withClock 5]
      { shortLived with raw := [2] } ∧
    shortLivedX509.certsFromPEM [1] ≠ [] ∧
    FollowsClock shortLivedX509 5 [1, 2] ⟨[1], []⟩
      [withCNValidation "kube-apiserver", withClock 5] := by
  refine ⟨checkedCertificate_eq_ok.mp rfl, by decide,
    (verdict_follows_clock_iff rfl).mpr (Or.inr (Or.inr ?_))⟩
  exact ⟨_, _, rfl, fun wall => ⟨_, rfl, rfl⟩⟩

/-- The clock is configured to a time in the certificate's window. The certificate is accepted when
the system's time is in it too, and rejected later. -/
theorem verdict_depends_on_wall :
    Acceptable shortLivedX509 5 [1] ⟨[1], []⟩ [withClock 5] shortLived ∧
    parseAndVerifyCertificate shortLivedX509 5 [1] ⟨[1], []⟩ [withClock 5] = .ok shortLived ∧
    parseAndVerifyCertificate shortLivedX509 20 [1] ⟨[1], []⟩ [withClock 5] =
      reject .untrusted "x509: certificate has expired or is not yet valid" := by
  have haccepted :
      parseAndVerifyCertificate shortLivedX509 5 [1] ⟨[1], []⟩ [withClock 5] = .ok shortLived := rfl
  exact ⟨(accepted_iff_acceptable rfl shortLived).mp haccepted, haccepted, rfl⟩

end Heir.Pki
