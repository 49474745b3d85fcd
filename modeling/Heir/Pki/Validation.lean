import Heir.Runtime.PkiAuth

set_option autoImplicit false

/-! # Verification of certificates

`ParseAndVerifyCertificate` of the pki package: its options, its checks in their order, and the
error of each. The formats and the building of certificate chains are functions of other libraries
and fields of `X509`. The time is an argument: `wall` is what `time.Now` returns, and the building
of chains always uses it, whatever clock is configured.
-/

namespace Heir.Pki

open Heir.Core Heir.Runtime

/-! ## Certificates -/

inductive ExtKeyUsage where
  | any
  | serverAuth
  | clientAuth
  | codeSigning
  | emailProtection
  | ipsecEndSystem
  | ipsecTunnel
  | ipsecUser
  | timeStamping
  | ocspSigning
  | microsoftServerGatedCrypto
  | netscapeServerGatedCrypto
  | microsoftCommercialCodeSigning
  | microsoftKernelCodeSigning
  deriving DecidableEq, Repr

/-- A public key: its Go type, whether that type has a method `Equal`, and the key. -/
structure PublicKey where
  goType : String
  hasEqual : Bool
  encoded : Bytes
  deriving DecidableEq

/-- `x509.Certificate`. What is not read here is in `raw`. -/
structure X509Certificate where
  organization : List String
  commonName : String
  dnsNames : List String
  ipAddresses : List Bytes
  publicKey : PublicKey
  notBefore : Time
  notAfter : Time
  raw : Bytes
  deriving DecidableEq

/-- The time lies in the validity window of the certificate. -/
def X509Certificate.ValidAt (cert : X509Certificate) (t : Time) : Prop :=
  cert.notBefore ≤ t ∧ t ≤ cert.notAfter

/-- The libraries for certificates and keys. -/
structure X509 where
  /-- `pem.Decode`: type and content of the first block. -/
  decodePEM : Bytes → Option (String × Bytes)
  /-- `x509.ParseCertificate`. -/
  parseCertificate : Bytes → Except GoError X509Certificate
  /-- `helpers.ParsePrivateKeyPEM`, followed by `Public`. -/
  parsePublicHalf : Bytes → Except GoError PublicKey
  /-- The certificates that `AppendCertsFromPEM` adds to an empty pool. -/
  certsFromPEM : Bytes → List X509Certificate
  /-- `Certificate.Verify` with the given roots and usages, at the given time. -/
  verify : X509Certificate → List X509Certificate → List ExtKeyUsage → Time → Except GoError Unit
  /-- `net.IP.String`. -/
  ipString : Bytes → String
  /-- `strconv.IsPrint`. -/
  isPrint : Char → Bool
  /-- `Time.UTC` and `Format(time.RFC3339)`. -/
  rfc3339 : Time → String
  /-- A chain starts with a certificate that is valid at the time. -/
  verify_validAt : ∀ cert roots usages t, verify cert roots usages t = .ok () → cert.ValidAt t
  /-- An empty text has no PEM block with a key. -/
  no_key : ∃ e, parsePublicHalf [] = .error e

variable (x509 : X509)

/-! ## Errors -/

/-- The sentinels of the package. -/
inductive Sentinel where
  | invalidPEM
  | keyMismatch
  | subjectMismatch
  | sanMismatch
  | untrusted
  | expired
  deriving DecidableEq, Repr

def Sentinel.text : Sentinel → String
  | .invalidPEM => "pki: certificate is not valid PEM"
  | .keyMismatch => "pki: private key does not match certificate"
  | .subjectMismatch => "pki: certificate subject does not match expectation"
  | .sanMismatch => "pki: certificate SANs do not match expectation"
  | .untrusted => "pki: certificate does not chain to the expected CA"
  | .expired => "pki: certificate is outside its validity window"

/-- An error that wraps a sentinel. -/
structure Rejection where
  sentinel : Sentinel
  detail : Option String := none
  deriving DecidableEq, Repr

def Rejection.toGoError (r : Rejection) : GoError :=
  errorf (r.sentinel.text ++ (r.detail.map (fun d => ": " ++ d)).getD "")

def reject {α : Type} (sentinel : Sentinel) (detail : String) : Except Rejection α :=
  .error ⟨sentinel, some detail⟩

/-- The verb `%v` for a slice of strings. -/
def sprintSlice (l : List String) : String := "[" ++ String.intercalate " " l ++ "]"

/-! ## Options -/

/-- `verifyOptions`. An optional slice is one that may be nil; the clock is the time it shows. -/
structure VerifyOptions where
  keyPEM : Bytes := []
  org : Option String := none
  commonName : Option String := none
  sans : Option (List String) := none
  keyUsages : Option (List ExtKeyUsage) := none
  now : Option Time := none

abbrev VerifyOption : Type := VerifyOptions → VerifyOptions

def withKeyValidation (keyPEM : Bytes) : VerifyOption := fun o => { o with keyPEM := keyPEM }

def withOValidation (org : String) : VerifyOption := fun o => { o with org := some org }

def withCNValidation (cn : String) : VerifyOption := fun o => { o with commonName := some cn }

def withSANsValidation (sans : Option (List String)) : VerifyOption := fun o => { o with sans := sans }

def withKeyUsages (usages : Option (List ExtKeyUsage)) : VerifyOption :=
  fun o => { o with keyUsages := usages }

def withClock (now : Time) : VerifyOption := fun o => { o with now := some now }

/-- The options after `defaults`. -/
structure ResolvedOptions extends VerifyOptions where
  clock : Time
  usages : List ExtKeyUsage

/-- `defaults`: the system's clock, and client authentication. -/
def VerifyOptions.defaults (o : VerifyOptions) (wall : Time) : ResolvedOptions :=
  { o with
    clock := o.now.getD wall
    usages := o.keyUsages.getD [.clientAuth] }

/-- The options one after the other, then the defaults. -/
def resolveOptions (opts : List VerifyOption) (wall : Time) : ResolvedOptions :=
  let options : VerifyOptions := opts.foldl (fun o (opt : VerifyOption) => opt o) {}
  options.defaults wall

/-! ## Checks -/

def parseCertificatePEM (certPEM : Bytes) : Except Rejection X509Certificate :=
  match x509.decodePEM certPEM with
  | none => .error ⟨.invalidPEM, none⟩
  | some (type, content) =>
      if type ≠ "" ∧ type ≠ "CERTIFICATE" then
        reject .invalidPEM ("unexpected PEM block type " ++ GoString.quote x509.isPrint type)
      else
        match x509.parseCertificate content with
        | .error e => reject .invalidPEM e.text
        | .ok cert => .ok cert

def verifySubject (cert : X509Certificate) (o : ResolvedOptions) : Except Rejection Unit :=
  match o.org.filter (fun org => org ∉ cert.organization) with
  | some org => reject .subjectMismatch
      ("organization " ++ sprintSlice cert.organization ++ " does not include " ++ GoString.quote x509.isPrint org)
  | none =>
      match o.commonName.filter (fun cn => cert.commonName ≠ cn) with
      | some cn => reject .subjectMismatch
          ("CN " ++ GoString.quote x509.isPrint cert.commonName ++ ", want " ++ GoString.quote x509.isPrint cn)
      | none => .ok ()

def certSANs (cert : X509Certificate) : List String :=
  cert.dnsNames ++ cert.ipAddresses.map x509.ipString

def verifySANs (cert : X509Certificate) (o : ResolvedOptions) : Except Rejection Unit :=
  match o.sans with
  | none => .ok ()
  | some sans =>
      let got := GoMap.sortStrings (certSANs x509 cert)
      let want := GoMap.sortStrings sans
      if got ≠ want then
        reject .sanMismatch ("got " ++ sprintSlice got ++ ", want " ++ sprintSlice want)
      else .ok ()

/-- `verifyKeyPair`: without a key there is nothing to check. -/
def verifyKeyPair (cert : X509Certificate) (keyPEM : Bytes) : Except Rejection Unit :=
  if keyPEM = [] then .ok ()
  else
    match x509.parsePublicHalf keyPEM with
    | .error e => reject .keyMismatch ("parse private key: " ++ e.text)
    | .ok pub =>
        if cert.publicKey.hasEqual = false then
          reject .keyMismatch
            ("public key of type " ++ cert.publicKey.goType ++ " does not support comparison")
        else if cert.publicKey ≠ pub then .error ⟨.keyMismatch, none⟩
        else .ok ()

def verifyValidity (cert : X509Certificate) (now : Time) : Except Rejection Unit :=
  if now < cert.notBefore then
    reject .expired ("not valid until " ++ x509.rfc3339 cert.notBefore)
  else if cert.notAfter < now then
    reject .expired ("expired at " ++ x509.rfc3339 cert.notAfter)
  else .ok ()

/-- `verifyChain`: the options of `Verify` have no time, so it takes the system's. -/
def verifyChain (wall : Time) (cert : X509Certificate) (ca : Certificate) (usages : List ExtKeyUsage) :
    Except Rejection Unit :=
  let pool := x509.certsFromPEM ca.cert
  if pool = [] then reject .untrusted "CA certificate is not valid PEM"
  else
    match x509.verify cert pool usages wall with
    | .error e => reject .untrusted e.text
    | .ok _ => .ok ()

def parseAndVerifyCertificate (wall : Time) (certPEM : Bytes) (ca : Certificate)
    (opts : List VerifyOption) : Except Rejection X509Certificate := do
  let options := resolveOptions opts wall
  let cert ← parseCertificatePEM x509 certPEM
  verifySubject x509 cert options
  verifySANs x509 cert options
  verifyKeyPair x509 cert options.keyPEM
  verifyValidity x509 cert options.clock
  verifyChain x509 wall cert ca options.usages
  return cert

/-! ## What is accepted -/

section Accepted

variable {x509} {cert : X509Certificate}

theorem verifySubject_eq_ok {o : ResolvedOptions} : verifySubject x509 cert o = .ok () ↔
    (∀ org, o.org = some org → org ∈ cert.organization) ∧
      ∀ cn, o.commonName = some cn → cert.commonName = cn := by
  unfold verifySubject
  cases horg : o.org with
  | none =>
      cases hcn : o.commonName with
      | none => simp
      | some cn => by_cases h : cert.commonName = cn <;> simp [h, reject, Option.filter]
  | some org =>
      by_cases hmem : org ∈ cert.organization
      · cases hcn : o.commonName with
        | none => simp [hmem, Option.filter]
        | some cn => by_cases h : cert.commonName = cn <;> simp [h, hmem, reject, Option.filter]
      · simp [hmem, reject, Option.filter]

theorem verifySANs_eq_ok {o : ResolvedOptions} : verifySANs x509 cert o = .ok () ↔
    ∀ sans, o.sans = some sans → (certSANs x509 cert).Perm sans := by
  unfold verifySANs
  cases hsans : o.sans with
  | none => simp
  | some sans =>
      dsimp only
      constructor
      · rintro h _ ⟨⟩
        have heq : GoMap.sortStrings (certSANs x509 cert) = GoMap.sortStrings sans := by
          by_contra hne
          rw [if_pos hne] at h
          cases h
        have hgot := (GoMap.sortStrings_perm (certSANs x509 cert)).symm
        rw [heq] at hgot
        exact hgot.trans (GoMap.sortStrings_perm sans)
      · intro h
        rw [if_neg (not_not.mpr (GoMap.sortStrings_congr (h sans rfl)))]

/-- An empty key is not compared with the certificate. -/
theorem verifyKeyPair_eq_ok {keyPEM : Bytes} : verifyKeyPair x509 cert keyPEM = .ok () ↔
    (keyPEM ≠ [] → x509.parsePublicHalf keyPEM = .ok cert.publicKey ∧
      cert.publicKey.hasEqual = true) := by
  unfold verifyKeyPair
  by_cases hkey : keyPEM = []
  · simp [hkey]
  · rw [if_neg hkey]
    cases hp : x509.parsePublicHalf keyPEM with
    | error e => simp [hkey, reject]
    | ok pub =>
        dsimp only
        by_cases hequal : cert.publicKey.hasEqual = false
        · simp [hkey, hequal, reject]
        · rw [if_neg hequal]
          rw [Bool.not_eq_false] at hequal
          by_cases hsame : cert.publicKey = pub
          · rw [hsame] at hequal
            simp [hsame, hequal]
          · have hsame' : pub ≠ cert.publicKey := fun h => hsame h.symm
            simp [hsame, hsame', hkey]

theorem verifyValidity_eq_ok {now : Time} :
    verifyValidity x509 cert now = .ok () ↔ cert.ValidAt now := by
  unfold verifyValidity X509Certificate.ValidAt
  by_cases hbefore : now < cert.notBefore
  · simp [hbefore, reject, Nat.not_le.mpr hbefore]
  · by_cases hafter : cert.notAfter < now
    · simp [hbefore, hafter, reject, Nat.not_le.mpr hafter]
    · simp only [hbefore, hafter, if_false, true_iff]
      exact ⟨Nat.not_lt.mp hbefore, Nat.not_lt.mp hafter⟩

/-- The certificate chains to the authority for the usages, at the time. -/
def Chains (x509 : X509) (t : Time) (cert : X509Certificate) (ca : Certificate)
    (usages : List ExtKeyUsage) : Prop :=
  x509.certsFromPEM ca.cert ≠ [] ∧ x509.verify cert (x509.certsFromPEM ca.cert) usages t = .ok ()

theorem verifyChain_eq_ok {wall : Time} {ca : Certificate} {usages : List ExtKeyUsage} :
    verifyChain x509 wall cert ca usages = .ok () ↔ Chains x509 wall cert ca usages := by
  unfold verifyChain Chains
  dsimp only
  by_cases hpool : x509.certsFromPEM ca.cert = []
  · simp [hpool, reject]
  · rw [if_neg hpool]
    cases hv : x509.verify cert (x509.certsFromPEM ca.cert) usages wall with
    | error e => simp [reject]
    | ok u => simp [hpool]

theorem check_bind_eq_ok {ε α : Type} {x : Except ε Unit} {y : Except ε α} {a : α} :
    (x >>= fun _ => y) = .ok a ↔ x = .ok () ∧ y = .ok a := by
  cases x with
  | error e => simp
  | ok u => simp

theorem parseAndVerifyCertificate_eq_ok {wall : Time} {certPEM : Bytes} {ca : Certificate}
    {opts : List VerifyOption} {o : ResolvedOptions}
    (ho : resolveOptions opts wall = o) :
    parseAndVerifyCertificate x509 wall certPEM ca opts = .ok cert ↔
      parseCertificatePEM x509 certPEM = .ok cert ∧ verifySubject x509 cert o = .ok () ∧
      verifySANs x509 cert o = .ok () ∧ verifyKeyPair x509 cert o.keyPEM = .ok () ∧
      cert.ValidAt o.clock ∧ Chains x509 wall cert ca o.usages := by
  unfold parseAndVerifyCertificate
  dsimp only
  rw [ho, ← verifyValidity_eq_ok, ← verifyChain_eq_ok]
  cases hparse : parseCertificatePEM x509 certPEM with
  | error r => simp
  | ok cert' =>
      rw [ok_bind, check_bind_eq_ok, check_bind_eq_ok, check_bind_eq_ok, check_bind_eq_ok,
        check_bind_eq_ok]
      constructor
      · rintro ⟨h₁, h₂, h₃, h₄, h₅, ⟨⟩⟩
        exact ⟨rfl, h₁, h₂, h₃, h₄, h₅⟩
      · rintro ⟨⟨⟩, h₁, h₂, h₃, h₄, h₅⟩
        exact ⟨h₁, h₂, h₃, h₄, h₅, rfl⟩

end Accepted

end Heir.Pki
