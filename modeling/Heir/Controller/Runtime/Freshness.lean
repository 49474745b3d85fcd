import Heir.Controller.Runtime.Authority
import Heir.Lib.GoString

set_option autoImplicit false

/-! # The names in the certificates

Whether a certificate is signed again is decided by comparing the hash of the names joined by
commas. Two lists of names that are joined to the same text cannot be told apart, and the names a
user adds are arbitrary strings: a name with a comma in it may read like two names.

`names_fresh` says that this is the only way in which a successful pass can leave a certificate for
other names than those of the Runtime it has read, as long as its reads are up to date.
-/

namespace Heir.Controller.Runtime.Pki

open Heir.ControlPlane Heir.Core Heir.Runtime Interact

/-- No name of the API server has a comma in it. -/
def CommaFree (r : Runtime) : Prop := ∀ s ∈ apiServerAltNames r, ',' ∉ s.toList

/-- The stored certificates were signed for the names of the Runtime. -/
structure SignedFor (issued : Certificate → CSR → Certificate → Prop) (r : Runtime)
    (secret : Secret) : Prop where
  apiServer : issued (storedCA secret layout) (apiServerRequest r)
    ⟨secretEntry secret layout.pki.apiServerCert.secretKey,
      secretEntry secret layout.pki.apiServerKey.secretKey⟩
  planeTunnel : issued (storedCA secret layout) (planeTunnelRequest r)
    ⟨secretEntry secret layout.pki.planeTunnelCert.secretKey,
      secretEntry secret layout.pki.planeTunnelKey.secretKey⟩

/-! ## The hash determines the names -/

theorem apiServerAltNames_ne_nil (r : Runtime) : apiServerAltNames r ≠ [] := by
  have h : "kubernetes" ∈ apiServerAltNames r :=
    (mem_apiServerAltNames r "kubernetes").mpr ⟨by decide, Or.inr (Or.inl (by simp))⟩
  exact List.ne_nil_of_mem h

section Hash

variable {libs : Libs} (hsha : Function.Injective libs.sha256)
include hsha

theorem join_eq_of_sansHash_eq {l l' : List String} (h : sansHash libs l = sansHash libs l') :
    String.intercalate "," l = String.intercalate "," l' :=
  bytes_injective (hsha h)

theorem apiServerRequest_eq {r r' : Runtime} (hr : CommaFree r) (hr' : CommaFree r')
    (h : sansHash libs (apiServerRequest r).hostnames =
      sansHash libs (apiServerRequest r').hostnames) :
    apiServerRequest r = apiServerRequest r' := by
  have hnames : apiServerAltNames r = apiServerAltNames r' :=
    GoString.intercalate_injective hr hr' (apiServerAltNames_ne_nil r) (apiServerAltNames_ne_nil r')
      (join_eq_of_sansHash_eq hsha h)
  rw [apiServerRequest, hnames, apiServerRequest]

/-- The plane tunnel has one name at most, which is not empty. -/
theorem planeTunnelRequest_eq {r r' : Runtime}
    (h : sansHash libs (planeTunnelRequest r).hostnames =
      sansHash libs (planeTunnelRequest r').hostnames) :
    planeTunnelRequest r = planeTunnelRequest r' := by
  have hjoin : ∀ host, String.intercalate "," (planeTunnelAltNames host) = host := by
    intro host
    rw [planeTunnelAltNames]
    split
    · next hempty => rw [hempty, String.intercalate_nil]
    · rw [String.intercalate_singleton]
  have hhost := join_eq_of_sansHash_eq hsha h
  simp only [planeTunnelRequest, planeTunnelCSR, hjoin] at hhost
  rw [planeTunnelRequest, hhost, planeTunnelRequest]

end Hash

/-! ## Every successful pass -/

/-- **The names are fresh.** Start without the Secret and let the controller reconcile the Runtime
again and again, while the Runtime changes and any call fails at any time. If no Runtime it reads
has a name of the API server with a comma in it, then whenever a pass has ended well, the stored
certificates were signed for the names of the Runtime of that pass. -/
theorem names_fresh {libs : Libs} (hsha : Function.Injective libs.sha256) {d : Defaulting}
    {req : NamespacedName} {issued : Certificate → CSR → Certificate → Prop} {c₀ : Cluster}
    (hnone : c₀.lookup .secret req = none)
    {s : State sig (Except Fault (Runtime × Secret)) World}
    (hrun : (controller libs d req).toSystem.Run (Honest issued CommaFree)
      ⟨{ cluster := c₀ }, none⟩ s)
    {r : Runtime} {secret : Secret}
    (hdone : s.running = some (.ret (.ok (r, secret)))) :
    ∃ stored, s.world.secret req = some stored ∧ SignedFor issued r stored := by
  have hreached := reached_of_run hnone hrun
  obtain ⟨hinv, hr, stored, hstored, hcurrent⟩ := hreached.done r secret hdone
  obtain ⟨⟨r₁, hr₁, hserver⟩, r₂, -, htunnel⟩ := hinv.recorded stored hstored
  have hrequest₁ : apiServerRequest r₁ = apiServerRequest r := apiServerRequest_eq hsha hr₁ hr
    (Option.some.inj (hserver.recorded.symm.trans hcurrent.apiServer))
  have hrequest₂ : planeTunnelRequest r₂ = planeTunnelRequest r := planeTunnelRequest_eq hsha
    (Option.some.inj (htunnel.recorded.symm.trans hcurrent.planeTunnel))
  exact ⟨stored, hstored, hrequest₁ ▸ hserver.issued, hrequest₂ ▸ htunnel.issued⟩

instance : DecidablePred CommaFree := fun r =>
  inferInstanceAs (Decidable (∀ s ∈ apiServerAltNames r, ',' ∉ s.toList))

instance (issued : Certificate → CSR → Certificate → Prop)
    [∀ ca csr cert, Decidable (issued ca csr cert)] (r : Runtime) (secret : Secret) :
    Decidable (SignedFor issued r secret) :=
  decidable_of_iff (_ ∧ _) ⟨fun h => ⟨h.1, h.2⟩, fun h => ⟨h.1, h.2⟩⟩

/-- A pass has ended well for a Runtime with these names; whether the stored certificates are signed
for it. -/
def endsWith (sans : List String) (signed : Bool)
    (s : State sig (Except Fault (Runtime × Secret)) World) : Bool :=
  match s.running, s.world.secret ⟨"default", "tenant"⟩ with
  | some (.ret (.ok (r, _))), some stored =>
      r.spec.cluster.apiServer.sans == sans &&
        decide (SignedFor (fun _ csr cert => cert = listing csr) r stored) == signed
  | _, _ => false

theorem exists_of_endsWith {sans : List String} {signed : Bool}
    {s : State sig (Except Fault (Runtime × Secret)) World}
    (h : endsWith sans signed s = true) :
    ∃ r secret stored, s.running = some (.ret (.ok (r, secret))) ∧
      s.world.secret ⟨"default", "tenant"⟩ = some stored ∧ r.spec.cluster.apiServer.sans = sans ∧
      decide (SignedFor (fun _ csr cert => cert = listing csr) r stored) = signed := by
  rw [endsWith] at h
  split at h
  · next r secret stored hrunning hstored =>
      rw [Bool.and_eq_true, beq_iff_eq, beq_iff_eq] at h
      exact ⟨r, secret, stored, hrunning, hstored, h⟩
  · cases h

/-- The names are split differently, and the certificate is signed again. -/
theorem tenant_names_fresh :
    ∃ s r secret, tenantController.toSystem.Run
        (Honest (fun _ csr cert => cert = listing csr) CommaFree)
        ⟨{ cluster := .withRuntime (tenant []) }, none⟩ s ∧
      s.running = some (.ret (.ok (r, secret))) ∧ r.spec.cluster.apiServer.sans = ["zz", "zzz"] ∧
      ∃ stored, s.world.secret ⟨"default", "tenant"⟩ = some stored ∧
        SignedFor (fun _ csr cert => cert = listing csr) r stored := by
  obtain ⟨s, hrun, hs⟩ := Machine.exists_run tenantController
    (Honest (fun _ csr cert => cert = listing csr) CommaFree)
    ⟨{ cluster := .withRuntime (tenant []) }, none⟩
    (creation (tenant []) ++ (rotation (tenant ["zz", "zzz"])).dropLast) (endsWith ["zz", "zzz"] true)
    (by decide +kernel)
  obtain ⟨r, secret, -, hrunning, -, hsans, -⟩ := exists_of_endsWith hs
  exact ⟨s, r, secret, hrun, hrunning, hsans,
    names_fresh ofList_map_injective rfl hrun hrunning⟩

/-- **A name with a comma in it.** The names `zz` and `zzz` are replaced by the one name `zz,zzz`.
The hash stays, the pass ends well, and the certificate is still the one for two names. -/
theorem comma_names_stale :
    Function.Injective (sampleLibs (tenant [])).sha256 ∧
    ∃ s r secret stored, tenantController.toSystem.Run
        (Honest (fun _ csr cert => cert = listing csr) fun _ => True)
        ⟨{ cluster := .withRuntime (tenant ["zz", "zzz"]) }, none⟩ s ∧
      s.running = some (.ret (.ok (r, secret))) ∧ r.spec.cluster.apiServer.sans = ["zz,zzz"] ∧
      s.world.secret ⟨"default", "tenant"⟩ = some stored ∧
      ¬ SignedFor (fun _ csr cert => cert = listing csr) r stored := by
  refine ⟨ofList_map_injective, ?_⟩
  obtain ⟨s, hrun, hs⟩ := Machine.exists_run tenantController
    (Honest (fun _ csr cert => cert = listing csr) fun _ => True)
    ⟨{ cluster := .withRuntime (tenant ["zz", "zzz"]) }, none⟩
    (creation (tenant ["zz", "zzz"]) ++ [.env (.runtime (some (tenant ["zz,zzz"]))), .enter,
      .call .serve, .call .serve]) (endsWith ["zz,zzz"] false) (by decide +kernel)
  obtain ⟨r, secret, stored, hrunning, hstored, hsans, hsigned⟩ := exists_of_endsWith hs
  exact ⟨s, r, secret, stored, hrun, hrunning, hsans, hstored, of_decide_eq_false hsigned⟩

end Heir.Controller.Runtime.Pki
