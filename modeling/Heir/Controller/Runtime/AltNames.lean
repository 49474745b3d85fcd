import Heir.Controller.Runtime.Success

set_option autoImplicit false

/-! # The names in the API server's certificate

`APIServerAltNames` sorts the names and drops the repeated ones, so its result depends on the set of
names only. A change of the specification that leaves that set as it is does not make
`RegeneratePKILeafCerts` sign a certificate again (`cosmetic_sans_keep_certificates`). The names of
the plane tunnel's certificate are its host, which has to be the same too.
-/

namespace Heir.Controller.Runtime

open Heir.ControlPlane Heir.Core Heir.Runtime Interact

/-! ## The list is canonical -/

/-- Dropping repeated neighbours of a sorted list leaves a strictly increasing one. -/
theorem pairwise_lt_compact {l : List String} (h : l.Pairwise (· ≤ ·)) :
    (compact l).Pairwise (· < ·) := by
  -- induction along `compact`; the head is below the next one, and that is below all others
  fun_induction compact l with
  | case1 => exact .nil
  | case2 s => exact List.pairwise_singleton _ _
  | case3 s rest ih => exact ih h.of_cons
  | case4 s t rest hne ih =>
      rw [List.pairwise_cons] at h
      obtain ⟨hle, hrest⟩ := h
      refine List.pairwise_cons.mpr ⟨fun u hu => ?_, ih hrest⟩
      have hst : s < t := lt_of_le_of_ne (hle t List.mem_cons_self) hne
      have htu : t ≤ u := by
        rcases List.mem_cons.mp ((mem_compact u _).mp hu) with rfl | hu
        · exact le_refl _
        · exact (List.pairwise_cons.mp hrest).1 u hu
      exact lt_of_lt_of_le hst htu

theorem sortedLT_apiServerAltNames (runtime : Runtime) :
    (apiServerAltNames runtime).SortedLT :=
  (pairwise_lt_compact (GoMap.sortedLE_sortStrings _).pairwise).sortedLT

/-- The names that do not come from the specification. -/
def defaultAltNames : List String :=
  ["127.0.0.1", "10.96.0.1", "0.0.0.0", "kubernetes", "kubernetes.default",
    "kubernetes.default.svc", "kubernetes.default.cluster", "server.kubernetes.local",
    "api-server.kubernetes.local"]

/-- The name of the API server's Service in the management cluster. -/
def serviceName (runtime : Runtime) : String :=
  runtime.name ++ "." ++ runtime.ns ++ ".svc.cluster.local"

/-- The external host of the API server. -/
def apiServerHost (runtime : Runtime) : String :=
  runtime.spec.cluster.controlPlaneExternalEndpoint.apiServer.host

def planeTunnelHost (runtime : Runtime) : String :=
  runtime.spec.cluster.controlPlaneExternalEndpoint.planeTunnel.host

/-- The user's names. -/
def userSans (runtime : Runtime) : List String := runtime.spec.cluster.apiServer.sans

/-- The names of a Runtime, in increasing order and without the empty one. -/
structure Canonical (runtime : Runtime) (names : List String) : Prop where
  increasing : names.SortedLT
  nonempty : ∀ s ∈ names, s ≠ ""
  mem_iff : ∀ s, s ∈ names ↔ s ∈ userSans runtime ∧ s ≠ "" ∨ s ∈ defaultAltNames ∨
    s = serviceName runtime ∨ s = apiServerHost runtime ∧ s ≠ ""

theorem serviceName_ne_empty (runtime : Runtime) : serviceName runtime ≠ "" := by
  intro h
  have hlen := congrArg String.length h
  simp [serviceName, String.length_append] at hlen

theorem canonical_apiServerAltNames (runtime : Runtime) :
    Canonical runtime (apiServerAltNames runtime) where
  increasing := sortedLT_apiServerAltNames runtime
  nonempty := fun s hs => ((mem_apiServerAltNames runtime s).mp hs).1
  mem_iff := fun s => by
    have hdefault : s ∈ defaultAltNames → s ≠ "" := by
      intro hs
      rintro rfl
      revert hs
      decide
    have hsplit : s ∈ ["127.0.0.1", "10.96.0.1", "0.0.0.0", "kubernetes", "kubernetes.default",
          "kubernetes.default.svc", "kubernetes.default.cluster", "server.kubernetes.local",
          "api-server.kubernetes.local",
          runtime.name ++ "." ++ runtime.ns ++ ".svc.cluster.local"] ↔
        s ∈ defaultAltNames ∨ s = serviceName runtime := by
      simp [defaultAltNames, serviceName, or_assoc]
    rw [mem_apiServerAltNames, hsplit]
    constructor
    · rintro ⟨hne, huser | (hdef | hname) | hhost⟩
      · exact .inl ⟨huser, hne⟩
      · exact .inr (.inl hdef)
      · exact .inr (.inr (.inl hname))
      · exact .inr (.inr (.inr ⟨hhost, hne⟩))
    · rintro (⟨huser, hne⟩ | hdef | hname | ⟨hhost, hne⟩)
      · exact ⟨hne, .inl huser⟩
      · exact ⟨hdefault hdef, .inr (.inl (.inl hdef))⟩
      · exact ⟨hname ▸ serviceName_ne_empty runtime, .inr (.inl (.inr hname))⟩
      · exact ⟨hne, .inr (.inr hhost)⟩

/-! ## Cosmetic changes -/

/-- The lists of the user's names differ only by order, repetition or empty entries. -/
def SameSans (r r' : Runtime) : Prop :=
  ∀ s, s ≠ "" → (s ∈ userSans r ↔ s ∈ userSans r')

/-- Two Runtimes whose specifications may differ, but not in the names of the API server. -/
structure Cosmetic (r r' : Runtime) : Prop where
  name : r.name = r'.name
  ns : r.ns = r'.ns
  host : apiServerHost r = apiServerHost r'
  sans : SameSans r r'

theorem Cosmetic.apiServerAltNames_eq {r r' : Runtime} (h : Cosmetic r r') :
    apiServerAltNames r = apiServerAltNames r' := by
  apply (sortedLT_apiServerAltNames r).eq_of_mem_iff (sortedLT_apiServerAltNames r')
  intro s
  have hname : serviceName r = serviceName r' := by rw [serviceName, serviceName, h.name, h.ns]
  rw [(canonical_apiServerAltNames r).mem_iff, (canonical_apiServerAltNames r').mem_iff, hname,
    h.host]
  refine or_congr_left ?_
  rw [and_comm, and_comm (b := s ≠ "")]
  exact and_congr_right (h.sans s)

/-- A Secret that is up to date for one of them is for the other one. -/
theorem Cosmetic.leavesCurrent {r r' : Runtime} (h : Cosmetic r r')
    (htunnel : planeTunnelHost r = planeTunnelHost r') {libs : Libs} {secret : Secret}
    (hcurrent : LeavesCurrent libs r secret) : LeavesCurrent libs r' secret := by
  obtain ⟨hserver, hplane⟩ := hcurrent
  constructor
  · rw [← h.apiServerAltNames_eq]
    exact hserver
  · rw [show r'.spec.cluster.controlPlaneExternalEndpoint.planeTunnel.host =
      r.spec.cluster.controlPlaneExternalEndpoint.planeTunnel.host from htunnel.symm]
    exact hplane

/-- **The names are canonical, and cosmetic changes sign nothing.** The names of every Runtime are a
strictly increasing list of exactly its names. So for two Runtimes with the same name, namespace and
hosts whose lists of names differ only by order, repetition or empty entries: a Secret that is up to
date for one is returned as it is for the other one, no change is reported, and no call is made. -/
theorem cosmetic_sans_keep_certificates (libs : Libs) :
    (∀ runtime, Canonical runtime (apiServerAltNames runtime)) ∧
    ∀ r r' secret, Cosmetic r r' → planeTunnelHost r = planeTunnelHost r' →
      LeavesCurrent libs r secret →
        regeneratePKILeafCerts libs secret r' layout = pure (secret, false) := by
  refine ⟨canonical_apiServerAltNames, fun r r' secret h htunnel hcurrent => ?_⟩
  exact regeneratePKILeafCerts_current libs r' (h.leavesCurrent htunnel hcurrent)

/-! ## Samples -/

/-- A tenant with these names and this host of the plane tunnel. -/
def named (sans : List String) (tunnel : String) : Runtime :=
  let r := ControlPlane.Runtime.minimal "tenant" "default"
  { r with
    spec.cluster.apiServer.sans := sans
    spec.cluster.controlPlaneExternalEndpoint.planeTunnel.host := tunnel }

/-- A Secret that records the names of a Runtime. -/
def recordedSecret (libs : Libs) (r : Runtime) : Secret where
  metadata :=
    { name := r.name
      ns := r.ns
      annotations := ((∅ : GoMap String).insert pkiAPIServerHashAnnotation
        (sansHash libs (apiServerAltNames r))).insert pkiPlaneTunnelHashAnnotation
        (sansHash libs (planeTunnelAltNames (planeTunnelHost r))) }
  data := (∅ : GoMap Bytes).insert "ca.crt" [1]

theorem leavesCurrent_recordedSecret (libs : Libs) (r : Runtime) :
    LeavesCurrent libs r (recordedSecret libs r) := by
  have hne : ¬ pkiPlaneTunnelHashAnnotation = pkiAPIServerHashAnnotation := by decide
  constructor
  · rw [Records, recordedSecret, Std.ExtTreeMap.getD_eq_getD_getElem?, GoMap.getElem?_insert,
      if_neg hne, GoMap.getElem?_insert, if_pos rfl, Option.getD_some]
  · rw [Records, recordedSecret, Std.ExtTreeMap.getD_eq_getD_getElem?, GoMap.getElem?_insert,
      if_pos rfl, Option.getD_some]
    rfl

/-- Another order, a repetition and an empty entry. -/
theorem reordered_sans_keep_certificates :
    regeneratePKILeafCerts (sampleLibs (named ["a", "b"] "t"))
      (recordedSecret (sampleLibs (named ["a", "b"] "t")) (named ["a", "b"] "t"))
      (named ["b", "", "a", "b"] "t") layout =
        pure (recordedSecret (sampleLibs (named ["a", "b"] "t")) (named ["a", "b"] "t"), false) := by
  have hsans : SameSans (named ["a", "b"] "t") (named ["b", "", "a", "b"] "t") := by
    intro s hs
    simp only [userSans, named, List.mem_cons, List.not_mem_nil, or_false, hs, false_or]
    constructor
    · rintro (h | h)
      · exact .inr (.inl h)
      · exact .inl h
    · rintro (h | h | h)
      · exact .inr h
      · exact .inl h
      · exact .inr h
  have hcosmetic : Cosmetic (named ["a", "b"] "t") (named ["b", "", "a", "b"] "t") :=
    ⟨rfl, rfl, rfl, hsans⟩
  exact (cosmetic_sans_keep_certificates (sampleLibs (named ["a", "b"] "t"))).2 _ _ _ hcosmetic rfl
    (leavesCurrent_recordedSecret _ _)

/-- A server that signs every request. -/
def signing : Server sig Unit := fun op w x w' =>
  w' = w ∧
    match op, x with
    | .signCSR _ _ _, x => x = .ok ⟨[7], [8]⟩
    | _, _ => False

/-- A leaf with other names than the Secret records is signed again. -/
theorem exec_regenerateLeaf_stale {libs : Libs} {ca : Certificate} {secret stored : Secret}
    {annotationKey certKey keyKey what : String} {csr : CSR}
    (hstale : ¬ Records libs secret annotationKey csr.hostnames)
    (hstore : storeCertificate secret certKey keyKey annotationKey (sansHash libs csr.hostnames)
      ⟨[7], [8]⟩ = .ok stored) :
    Exec signing (regenerateLeaf libs ca secret annotationKey csr certKey keyKey what).run ()
      [⟨.signCSR ca csr certificateDuration, .ok ⟨[7], [8]⟩⟩] (.ok (stored, true)) () := by
  have hne : ¬ secret.metadata.annotations.getD annotationKey "" = sansHash libs csr.hostnames :=
    hstale
  unfold regenerateLeaf
  dsimp only
  rw [if_neg hne]
  refine .call ⟨rfl, rfl⟩ ?_
  show Exec signing (Go.ofResult (storeCertificate secret certKey keyKey annotationKey
    (sansHash libs csr.hostnames) ⟨[7], [8]⟩) >>= fun s => pure (s, true)).run () [] _ ()
  rw [hstore]
  exact .ret _ _

theorem exec_regeneratePKILeafCerts_stale {libs : Libs} {r : Runtime} {secret : Secret}
    (hserver : Records libs secret pkiAPIServerHashAnnotation (apiServerAltNames r))
    (hplane : ¬ Records libs secret pkiPlaneTunnelHashAnnotation
      (planeTunnelAltNames (planeTunnelHost r)))
    (hdata : secret.data.isEmpty = false) :
    ∃ calls secret', Exec signing (regeneratePKILeafCerts libs secret r layout).run () calls
      (.ok (secret', true)) () := by
  obtain ⟨stored, hstore⟩ : ∃ stored, storeCertificate secret layout.pki.planeTunnelCert.secretKey
      layout.pki.planeTunnelKey.secretKey pkiPlaneTunnelHashAnnotation
      (sansHash libs (planeTunnelAltNames (planeTunnelHost r))) ⟨[7], [8]⟩ = .ok stored := by
    unfold storeCertificate assignDecoded
    rw [hdata]
    exact ⟨_, rfl⟩
  have hexec : Exec signing (regenerateLeaf libs (storedCA secret layout) secret
      pkiPlaneTunnelHashAnnotation (planeTunnelCSR (planeTunnelAltNames (planeTunnelHost r)))
      layout.pki.planeTunnelCert.secretKey layout.pki.planeTunnelKey.secretKey "plane tunnel").run ()
      _ (.ok (stored, true)) () := exec_regenerateLeaf_stale hplane hstore
  unfold regeneratePKILeafCerts
  dsimp only
  rw [regenerateLeaf_current libs hserver, pure_bind, ExceptT.run_bind]
  exact ⟨_, stored, hexec.bind (.ret _ _)⟩

/-- With another host of the plane tunnel a certificate is signed, although everything that the API
server's names depend on is the same. -/
theorem tunnel_host_signs :
    Cosmetic (named [] "a.example.com") (named [] "b.example.com") ∧
    LeavesCurrent (sampleLibs (named [] "a.example.com")) (named [] "a.example.com")
      (recordedSecret (sampleLibs (named [] "a.example.com")) (named [] "a.example.com")) ∧
    ∃ calls secret', Exec signing
      (regeneratePKILeafCerts (sampleLibs (named [] "a.example.com"))
        (recordedSecret (sampleLibs (named [] "a.example.com")) (named [] "a.example.com"))
        (named [] "b.example.com") layout).run () calls (.ok (secret', true)) () := by
  have hcosmetic : Cosmetic (named [] "a.example.com") (named [] "b.example.com") :=
    ⟨rfl, rfl, rfl, fun _ _ => Iff.rfl⟩
  have hcurrent := leavesCurrent_recordedSecret (sampleLibs (named [] "a.example.com"))
    (named [] "a.example.com")
  refine ⟨hcosmetic, hcurrent, ?_⟩
  have hserver := hcurrent.1
  rw [hcosmetic.apiServerAltNames_eq] at hserver
  have hplane : ¬ Records (sampleLibs (named [] "a.example.com"))
      (recordedSecret (sampleLibs (named [] "a.example.com")) (named [] "a.example.com"))
      pkiPlaneTunnelHashAnnotation
      (planeTunnelAltNames (planeTunnelHost (named [] "b.example.com"))) := by
    intro h
    have hsame := hcurrent.2.symm.trans h
    revert hsame
    decide +kernel
  exact exec_regeneratePKILeafCerts_stale hserver hplane (by simp [recordedSecret])

end Heir.Controller.Runtime
