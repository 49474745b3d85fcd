import Heir.Controller.Runtime.Stability

set_option autoImplicit false

/-! # The PKI Secret over many reconciliations

`setupPKIAuthConfiguration` creates the Secret with a new certificate authority, and from then on
re-signs the two certificates whose names follow the specification. Whether one has to be re-signed
is read off an annotation with the hash of the names.

The controller is run again and again on whatever Runtime is stored, while others change the Runtime
and everything but the Secret. Its reads are up to date: a Get is answered with the object that is
stored (a cache that lags behind is the subject of `CachedPki`). A certificate is bytes; that a pair
of a certificate and a key was made by signing a request with an authority is a relation `issued`,
of which only what the answers of the signer say is known.

`authority_preserved` says that the Secret never holds a mixture: the authority and the other keys
stay, and a leaf certificate, its key and its annotation always belong together.
-/

namespace Heir.Controller.Runtime.Pki

open Heir.ControlPlane Heir.Core Heir.Runtime Interact

/-! ## The controller among others -/

/-- The cluster, and two marks of the running pass: the Secret that was stored when it began, and
whether a certificate could not be signed in it. -/
structure World where
  cluster : Cluster
  begun : Option Secret := none
  signFailed : Bool := false

/-- A change by others: of the Runtime, or of another object. -/
inductive Change where
  | runtime (r : Option Runtime)
  | put (k : Kind) (o : Obj k)

section Machine

variable (libs : Libs) (d : Defaulting) (req : NamespacedName)

/-- The PKI Secret of the Runtime. -/
def World.secret (w : World) : Option Secret := w.cluster.lookup .secret req

def change : Change → World → Option World
  | .runtime r, w => some { w with cluster := { w.cluster with runtime := r } }
  | .put k o, w =>
      if .secret = k ∧ req = (Obj.getMeta k o).key then none
      else some { w with cluster := w.cluster.put k o }

def failedSign : (op : Call) → op.Answer → Bool
  | .signCSR _ _ _, .error _ => true
  | _, _ => false

/-- The answers of the cluster; a failure to sign is marked. -/
def answer (op : Call) (ch : Choice) (w : World) : Option (op.Answer × World) :=
  (respond d op ch w.cluster).map fun (x, c) =>
    (x, { w with cluster := c, signFailed := w.signFailed || failedSign op x })

/-- The part of `Reconcile` that is about the PKI Secret. -/
def pass : Go (Runtime × Secret) := do
  match ← Go.call (.getRuntime req) with
  | .error e => Go.fail e
  | .ok runtime =>
      let secret ← setupPKIAuthConfiguration libs runtime
      return (runtime, secret)

/-- The controller with reads that are up to date. -/
def controller : Machine sig (Except Fault (Runtime × Secret)) World Choice Change where
  prog := (pass libs req).run
  respond := answer d
  act := change req
  enter := fun w => { w with begun := w.secret req, signFailed := false }
  leave := fun _ w => w

end Machine

/-- What the signer returns was issued, and the controller works on admitted Runtimes only. -/
def Honest (issued : Certificate → CSR → Certificate → Prop)
    (admitted : Runtime → Prop) (_ : World) :
    Label sig (Except Fault (Runtime × Secret)) World → Prop
  | .call (.signCSR ca csr _) (.ok cert) => issued ca csr cert
  | .call (.getRuntime _) (.ok r) => admitted r
  | _ => True

/-! ## What the Secret says -/

/-- The keys of the two certificates that are re-signed. -/
def leafKeys : List String :=
  [layout.pki.apiServerCert.secretKey, layout.pki.apiServerKey.secretKey,
    layout.pki.planeTunnelCert.secretKey, layout.pki.planeTunnelKey.secretKey]

/-- The request for the API server's certificate of a Runtime. -/
def apiServerRequest (r : Runtime) : CSR := apiServerCSR (apiServerAltNames r)

/-- The request for the plane tunnel's certificate of a Runtime. -/
def planeTunnelRequest (r : Runtime) : CSR :=
  planeTunnelCSR (planeTunnelAltNames r.spec.cluster.controlPlaneExternalEndpoint.planeTunnel.host)

section Recorded

variable (libs : Libs) (issued : Certificate → CSR → Certificate → Prop)
  (admitted : Runtime → Prop)

/-- The stored pair was issued by the stored authority for the request, and the annotation is the
hash of the names in it. -/
structure Leaf (secret : Secret) (annotationKey certKey keyKey : String) (csr : CSR) : Prop where
  recorded : secret.metadata.annotations[annotationKey]? = some (sansHash libs csr.hostnames)
  issued : issued (storedCA secret layout) csr
    ⟨secretEntry secret certKey, secretEntry secret keyKey⟩

def ApiServerLeaf (secret : Secret) (r : Runtime) : Prop :=
  Leaf libs issued secret pkiAPIServerHashAnnotation layout.pki.apiServerCert.secretKey
    layout.pki.apiServerKey.secretKey (apiServerRequest r)

def PlaneTunnelLeaf (secret : Secret) (r : Runtime) : Prop :=
  Leaf libs issued secret pkiPlaneTunnelHashAnnotation layout.pki.planeTunnelCert.secretKey
    layout.pki.planeTunnelKey.secretKey (planeTunnelRequest r)

/-- Each of the two certificates was signed for some Runtime and recorded as such. -/
structure Recorded (secret : Secret) : Prop where
  apiServer : ∃ r, admitted r ∧ ApiServerLeaf libs issued secret r
  planeTunnel : ∃ r, admitted r ∧ PlaneTunnelLeaf libs issued secret r

/-- The annotations are the hashes of the names of the Runtime. -/
structure Current (r : Runtime) (secret : Secret) : Prop where
  apiServer : secret.metadata.annotations[ pkiAPIServerHashAnnotation]? =
    some (sansHash libs (apiServerRequest r).hostnames)
  planeTunnel : secret.metadata.annotations[ pkiPlaneTunnelHashAnnotation]? =
    some (sansHash libs (planeTunnelRequest r).hostnames)

end Recorded

variable {new : Secret}

theorem Leaf.congr {libs : Libs} {issued : Certificate → CSR → Certificate → Prop} {secret : Secret}
    {annotationKey certKey keyKey : String} {csr : CSR}
    (h : Leaf libs issued secret annotationKey certKey keyKey csr) (hdata : new.data = secret.data)
    (hannotations : new.metadata.annotations = secret.metadata.annotations) :
    Leaf libs issued new annotationKey certKey keyKey csr := by
  constructor
  · rw [hannotations]
    exact h.recorded
  · simp only [storedCA, secretEntry, hdata]
    exact h.issued

theorem Recorded.congr {libs : Libs} {issued : Certificate → CSR → Certificate → Prop}
    {admitted : Runtime → Prop} {secret : Secret} (h : Recorded libs issued admitted secret)
    (hdata : new.data = secret.data)
    (hannotations : new.metadata.annotations = secret.metadata.annotations) :
    Recorded libs issued admitted new := by
  obtain ⟨⟨r, hr, hserver⟩, r', hr', htunnel⟩ := h
  exact ⟨⟨r, hr, hserver.congr hdata hannotations⟩, r', hr', htunnel.congr hdata hannotations⟩

/-- The second version differs from the first in the two certificates and their keys at most. -/
structure Rotated (old new : Secret) : Prop where
  key : new.metadata.key = old.metadata.key
  kept : ∀ k, k ∉ leafKeys → new.data[k]? = old.data[k]?

theorem Rotated.refl (secret : Secret) : Rotated secret secret := ⟨rfl, fun _ _ => rfl⟩

theorem Rotated.trans {a b c : Secret} (h : Rotated a b) (h' : Rotated b c) : Rotated a c :=
  ⟨h'.key.trans h.key, fun k hk => (h'.kept k hk).trans (h.kept k hk)⟩

theorem secretEntry_eq {a b : Secret} {k : String} (h : b.data[k]? = a.data[k]?) :
    secretEntry b k = secretEntry a k := by
  rw [secretEntry, secretEntry, Std.ExtTreeMap.getD_eq_getD_getElem?,
    Std.ExtTreeMap.getD_eq_getD_getElem?, h]

theorem Rotated.storedCA_eq {old : Secret} (h : Rotated old new) :
    storedCA new layout = storedCA old layout := by
  rw [storedCA, storedCA, secretEntry_eq (h.kept _ (by decide)),
    secretEntry_eq (h.kept _ (by decide))]

/-! ## A certificate is replaced -/

/-- The Secret with a new certificate, its key and the hash of its names. -/
def withLeaf (secret : Secret) (annotationKey certKey keyKey hash : String) (cert : Certificate) :
    Secret :=
  { secret with
    data := (secret.data.insert certKey cert.cert).insert keyKey cert.key
    metadata.annotations := secret.metadata.annotations.insert annotationKey hash }

theorem storeCertificate_eq {secret : Secret} {certKey keyKey annotationKey hash : String}
    {cert : Certificate}
    (h : storeCertificate secret certKey keyKey annotationKey hash cert = .ok new) :
    new = withLeaf secret annotationKey certKey keyKey hash cert := by
  simp only [storeCertificate, assignDecoded] at h
  split at h
  · cases h
  · cases h
    rfl

section WithLeaf

variable {libs : Libs} {issued : Certificate → CSR → Certificate → Prop} {secret : Secret}
  {annotationKey certKey keyKey hash : String} {cert : Certificate}

theorem withLeaf_data (k : String) :
    (withLeaf secret annotationKey certKey keyKey hash cert).data[k]? =
      if keyKey = k then some cert.key else if certKey = k then some cert.cert
      else secret.data[k]? := by
  rw [withLeaf, GoMap.getElem?_insert, GoMap.getElem?_insert]

theorem rotated_withLeaf (hcert : certKey ∈ leafKeys) (hkey : keyKey ∈ leafKeys) :
    Rotated secret (withLeaf secret annotationKey certKey keyKey hash cert) := by
  refine ⟨rfl, fun k hk => ?_⟩
  have hk₁ : keyKey ≠ k := fun h => hk (h ▸ hkey)
  have hk₂ : certKey ≠ k := fun h => hk (h ▸ hcert)
  rw [withLeaf_data, if_neg hk₁, if_neg hk₂]

theorem leaf_withLeaf {csr : CSR} (hcert : certKey ∈ leafKeys) (hkey : keyKey ∈ leafKeys)
    (hne : keyKey ≠ certKey) (hissued : issued (storedCA secret layout) csr cert) :
    Leaf libs issued
      (withLeaf secret annotationKey certKey keyKey (sansHash libs csr.hostnames) cert)
      annotationKey certKey keyKey csr := by
  constructor
  · rw [withLeaf, GoMap.getElem?_insert, if_pos rfl]
  · rw [(rotated_withLeaf hcert hkey).storedCA_eq, secretEntry, secretEntry,
      Std.ExtTreeMap.getD_eq_getD_getElem?, Std.ExtTreeMap.getD_eq_getD_getElem?, withLeaf_data,
      withLeaf_data, if_pos rfl, if_neg hne, if_pos rfl]
    exact hissued

theorem Leaf.withLeaf {annotationKey' certKey' keyKey' : String} {csr : CSR}
    (h : Leaf libs issued secret annotationKey' certKey' keyKey' csr) (hcert : certKey ∈ leafKeys)
    (hkey : keyKey ∈ leafKeys) (hother : annotationKey ≠ annotationKey')
    (hdisjoint : certKey ∉ [certKey', keyKey'] ∧ keyKey ∉ [certKey', keyKey']) :
    Leaf libs issued (withLeaf secret annotationKey certKey keyKey hash cert) annotationKey'
      certKey' keyKey' csr := by
  simp only [List.mem_cons, List.not_mem_nil, or_false, not_or] at hdisjoint
  constructor
  · rw [Pki.withLeaf, GoMap.getElem?_insert, if_neg hother]
    exact h.recorded
  · have hentry : ∀ k, k ≠ certKey → k ≠ keyKey →
        secretEntry (Pki.withLeaf secret annotationKey certKey keyKey hash cert) k =
          secretEntry secret k := by
      intro k hc hk
      refine secretEntry_eq ?_
      rw [withLeaf_data, if_neg (Ne.symm hk), if_neg (Ne.symm hc)]
    rw [(rotated_withLeaf hcert hkey).storedCA_eq,
      hentry certKey' (Ne.symm hdisjoint.1.1) (Ne.symm hdisjoint.2.1),
      hentry keyKey' (Ne.symm hdisjoint.1.2) (Ne.symm hdisjoint.2.2)]
    exact h.issued

end WithLeaf

/-! ## What the calls do to the Secret -/

section Calls

variable {d : Defaulting} {req : NamespacedName} {w w' : World}

theorem answer_cases {op : Call} {x : op.Answer}
    (h : Machine.serve (S := sig) (answer d) op w x w') :
    server d op w.cluster x w'.cluster ∧ w'.begun = w.begun ∧
      w'.signFailed = (w.signFailed || failedSign op x) := by
  obtain ⟨ch, h⟩ := h
  obtain ⟨⟨y, c⟩, hr, hy⟩ := Option.map_eq_some_iff.mp h
  cases hy
  exact ⟨⟨ch, hr⟩, rfl, rfl⟩

theorem change_keeps {e : Change} (h : change req e w = some w') :
    w'.secret req = w.secret req ∧ w'.begun = w.begun ∧ w'.signFailed = w.signFailed := by
  cases e with
  | runtime r =>
      cases h
      exact ⟨rfl, rfl, rfl⟩
  | put k o =>
      simp only [change, Option.ite_none_left_eq_some] at h
      obtain ⟨hother, h⟩ := h
      cases h
      exact ⟨w.cluster.lookup_put_of_ne o hother, rfl, rfl⟩

/-- The state of a pass that has stored nothing yet and in which nothing has failed. -/
structure At (req : NamespacedName) (o : Option Secret) (w : World) : Prop where
  secret : w.secret req = o
  begun : w.begun = o
  signFailed : w.signFailed = false

theorem At.change {o : Option Secret} {e : Change} (hw : At req o w)
    (h : Pki.change req e w = some w') : At req o w' := by
  obtain ⟨hsecret, hbegun, hfailed⟩ := change_keeps h
  exact ⟨hsecret.trans hw.secret, hbegun.trans hw.begun, hfailed.trans hw.signFailed⟩

/-- A call that stores nothing, other than a failure to sign, keeps the state. -/
theorem At.read {o : Option Secret} {op : Call} {x : op.Answer} (hw : At req o w)
    (h : Machine.serve (S := sig) (answer d) op w x w') (hop : IsRead op)
    (hsign : failedSign op x = false) : At req o w' := by
  obtain ⟨hserver, hbegun, hfailed⟩ := answer_cases h
  have hcluster := server_read hop hserver
  refine ⟨?_, hbegun.trans hw.begun, ?_⟩
  · rw [World.secret, hcluster]
    exact hw.secret
  · rw [hfailed, hsign, Bool.or_false]
    exact hw.signFailed

end Calls

/-! ## The invariant -/

section Invariant

variable (libs : Libs) (req : NamespacedName) (issued : Certificate → CSR → Certificate → Prop)
  (admitted : Runtime → Prop)

/-- What is stored is recorded. -/
def RecordedIn (o : Option Secret) : Prop :=
  ∀ secret, o = some secret → Recorded libs issued admitted secret

/-- The stored Secret is recorded, and a pass that has failed to sign has not changed it. -/
structure Inv (w : World) : Prop where
  recorded : RecordedIn libs issued admitted (w.secret req)
  unchanged : w.signFailed = true → w.secret req = w.begun

/-- Where the controller stores the Secret: it creates one that is recorded, or it rotates
certificates of the stored one. In neither case has it failed to sign. -/
def Allowed : (op : Call) → World → Prop
  | .create .secret o, w => o.metadata.key = req ∧ w.secret req = none ∧
      Recorded libs issued admitted o ∧ w.signFailed = false
  | .update .secret o, w => ∃ secret, w.secret req = some secret ∧ o.metadata.key = req ∧
      Rotated secret o ∧ Recorded libs issued admitted o ∧ w.signFailed = false
  | .create _ _, _ => False
  | .update _ _, _ => False
  | .updateRuntimeStatus _, _ => False
  | _, _ => True

/-- A pass for the Runtime has ended well. -/
def Done (r : Runtime) (w : World) : Prop :=
  Inv libs req issued admitted w ∧ admitted r ∧
    ∃ secret, w.secret req = some secret ∧ Current libs r secret

variable {libs req issued admitted} {d : Defaulting}

theorem At.inv {o : Option Secret} {w : World} (hw : At req o w)
    (ho : RecordedIn libs issued admitted o) : Inv libs req issued admitted w where
  recorded := hw.secret ▸ ho
  unchanged := fun h => by
    rw [hw.signFailed] at h
    cases h

theorem Inv.change {w w' : World} {e : Change} (hw : Inv libs req issued admitted w)
    (h : Pki.change req e w = some w') : Inv libs req issued admitted w' := by
  obtain ⟨hsecret, hbegun, hfailed⟩ := change_keeps h
  refine ⟨hsecret ▸ hw.recorded, fun hf => ?_⟩
  rw [hsecret, hbegun]
  exact hw.unchanged (hfailed ▸ hf)

theorem At.failed {o : Option Secret} {w w' : World} {op : Call} {x : op.Answer} (hw : At req o w)
    (ho : RecordedIn libs issued admitted o) (h : Machine.serve (S := sig) (answer d) op w x w')
    (hop : IsRead op) : Inv libs req issued admitted w' := by
  obtain ⟨hserver, hbegun, -⟩ := answer_cases h
  have hsecret : w'.secret req = o := by
    rw [World.secret, server_read hop hserver]
    exact hw.secret
  exact ⟨hsecret ▸ ho, fun _ => by rw [hsecret, hbegun, hw.begun]⟩

end Invariant

/-! ## A pass -/

section Pass

variable (libs : Libs) (d : Defaulting) (req : NamespacedName)
  (issued : Certificate → CSR → Certificate → Prop) (admitted : Runtime → Prop)

/-- A triple for the controller among others: at every call the invariant holds, and every write is
allowed. -/
abbrev Pass {α : Type} (A : World → Prop) (p : Go α) (B : α → World → Prop) : Prop :=
  Triple (controller libs d req).toSystem (Honest issued admitted)
    (fun op w => Inv libs req issued admitted w ∧ Allowed libs req issued admitted op w) A p B
    (Inv libs req issued admitted)

variable {libs d req issued admitted}

theorem at_stable (o : Option Secret) :
    (controller libs d req).toSystem.Stable (Honest issued admitted) (At req o) := by
  rintro w w' ⟨e, he⟩ - hw
  exact hw.change he

theorem inv_stable :
    (controller libs d req).toSystem.Stable (Honest issued admitted)
      (Inv libs req issued admitted) := by
  rintro w w' ⟨e, he⟩ - hw
  exact hw.change he

variable {o : Option Secret} {r : Runtime} {secret : Secret} {α : Type}

theorem fail_pass {B : α → World → Prop} (ho : RecordedIn libs issued admitted o) (f : Fault) :
    Pass libs d req issued admitted (At req o) (Go.ofResult (.error f) : Go α) B :=
  Triple.fail (at_stable o) fun _ hw => hw.inv ho

/-- Signing: an issued certificate, or the end of the pass. -/
theorem sign_pass (ho : RecordedIn libs issued admitted o) (ca : Certificate) (csr : CSR) :
    Pass libs d req issued admitted (At req o) (Go.signCSR ca csr)
      (fun cert w => issued ca csr cert ∧ At req o w) := by
  refine Triple.call_bind (B := fun x w => Inv libs req issued admitted w ∧
    ∀ cert, x = .ok cert → issued ca csr cert ∧ At req o w) (at_stable o)
    (fun _ hw => ⟨hw.inv ho, trivial⟩) ?_ ?_
  · intro w x w' hw hs hok
    refine ⟨hw.failed ho hs trivial, ?_⟩
    rintro cert rfl
    exact ⟨hok, hw.read hs trivial rfl⟩
  · intro x
    cases x with
    | ok cert =>
        intro w hw
        have hcert := hw.2 cert rfl
        exact .ret (At req o) (at_stable o) hcert.2 fun w' h' => ⟨hcert.1, h'⟩
    | error e => exact fun w hw => .ret _ inv_stable hw.1 fun _ h => h

theorem read_pass (ho : RecordedIn libs issued admitted o) {op : Call} {f : op.Answer → Go α}
    {B : α → World → Prop} (hop : IsRead op) (hsign : ∀ x, failedSign op x = false)
    (hallowed : ∀ w, Allowed libs req issued admitted op w)
    (hf : ∀ x, Pass libs d req issued admitted (At req o) (f x) B) :
    Pass libs d req issued admitted (At req o) (Go.call op >>= f) B :=
  Triple.call_bind (B := fun _ => At req o) (at_stable o)
    (fun w hw => ⟨hw.inv ho, hallowed w⟩)
    (fun _ x _ hw hs _ => hw.read hs hop (hsign x)) hf

theorem sign_bind_pass (ho : RecordedIn libs issued admitted o) {ca : Certificate} {csr : CSR}
    {f : Certificate → Go α} {B : α → World → Prop} (hf : ∀ cert, issued ca csr cert →
      Pass libs d req issued admitted (At req o) (f cert) B) :
    Pass libs d req issued admitted (At req o) (Go.signCSR ca csr >>= f) B :=
  Triple.bind (sign_pass ho ca csr) inv_stable fun cert => Triple.assume (hf cert)

theorem ofExcept_bind_pass {β : Type} (ho : RecordedIn libs issued admitted o)
    {x : Except GoError β} {f : β → Go α} {B : α → World → Prop}
    (hf : ∀ b, Pass libs d req issued admitted (At req o) (f b) B) :
    Pass libs d req issued admitted (At req o) (Go.ofExcept x >>= f) B := by
  cases x with
  | ok b => exact hf b
  | error e => exact fail_pass ho (.error e)

/-! ## Creation -/

/-- A generated Secret: under the name of the Runtime, without an owner, and recorded. -/
structure Generated (libs : Libs) (issued : Certificate → CSR → Certificate → Prop)
    (r : Runtime) (secret : Secret) : Prop where
  key : secret.metadata.key = r.metadata.key
  fresh : Fresh r secret.metadata
  apiServer : ApiServerLeaf libs issued secret r
  planeTunnel : PlaneTunnelLeaf libs issued secret r

/-- The keys of a generated Secret. -/
def secretKeys : List String :=
  [layout.pki.caCert.secretKey, layout.pki.caKey.secretKey, layout.pki.apiServerCert.secretKey,
    layout.pki.apiServerKey.secretKey, layout.pki.serviceAccountCert.secretKey,
    layout.pki.serviceAccountKey.secretKey, layout.pki.planeTunnelKey.secretKey,
    layout.pki.planeTunnelCert.secretKey, layout.pki.apiServerPlaneTunnelKey.secretKey,
    layout.pki.apiServerPlaneTunnelCert.secretKey, layout.auth.adminConf.secretKey,
    layout.auth.controllerManagerConf.secretKey, layout.auth.schedulerConf.secretKey]

theorem secretEntry_of_mem {entries : List (String × Bytes)} {k : String} {v : Bytes}
    (hdata : secret.data = GoMap.setAll ∅ entries) (hnodup : (entries.map Prod.fst).Nodup)
    (h : (k, v) ∈ entries) : secretEntry secret k = v := by
  rw [secretEntry, Std.ExtTreeMap.getD_eq_getD_getElem?, hdata,
    GoMap.getElem?_setAll_of_mem ∅ entries hnodup h, Option.getD_some]

/-- A Secret that is written down with the pair, the authority and the hash is recorded. -/
theorem leaf_of_mem {entries : List (String × Bytes)} {annotations : List (String × String)}
    {annotationKey certKey keyKey : String} {ca cert : Certificate} {csr : CSR}
    (hdata : secret.data = GoMap.setAll ∅ entries)
    (hmeta : secret.metadata.annotations = GoMap.setAll ∅ annotations)
    (hkeys : (entries.map Prod.fst).Nodup) (hnames : (annotations.map Prod.fst).Nodup)
    (hca : (layout.pki.caCert.secretKey, ca.cert) ∈ entries ∧
      (layout.pki.caKey.secretKey, ca.key) ∈ entries)
    (hcert : (certKey, cert.cert) ∈ entries ∧ (keyKey, cert.key) ∈ entries)
    (hhash : (annotationKey, sansHash libs csr.hostnames) ∈ annotations)
    (hissued : issued ca csr cert) : Leaf libs issued secret annotationKey certKey keyKey csr := by
  constructor
  · rw [hmeta]
    exact GoMap.getElem?_setAll_of_mem ∅ _ hnames hhash
  · rw [storedCA, secretEntry_of_mem hdata hkeys hca.1, secretEntry_of_mem hdata hkeys hca.2,
      secretEntry_of_mem hdata hkeys hcert.1, secretEntry_of_mem hdata hkeys hcert.2]
    exact hissued

theorem recordedIn_none : RecordedIn libs issued admitted none := fun _ h => by cases h

theorem generate_pass (r : Runtime) :
    Pass libs d req issued admitted (At req none) (generatePKIAuthSecret libs r layout)
      (fun secret w => Generated libs issued r secret ∧ At req none w) := by
  have ho : RecordedIn libs issued admitted none := recordedIn_none
  have hkeys : secretKeys.Nodup := by decide
  have hnames : [ deletionProtectionAnnotation, pkiAPIServerHashAnnotation,
    pkiPlaneTunnelHashAnnotation].Nodup := by decide
  refine read_pass ho trivial (fun _ => rfl) (fun _ => trivial) fun ca => ?_
  refine ofExcept_bind_pass ho fun ca => ?_
  refine sign_bind_pass ho fun planeTunnelServer htunnel => ?_
  refine sign_bind_pass ho fun apiServerPlaneTunnelServer _ => ?_
  refine sign_bind_pass ho fun apiServerCert hserver => ?_
  refine sign_bind_pass ho fun serviceAccountCert _ => ?_
  refine sign_bind_pass ho fun adminCert _ => ?_
  refine sign_bind_pass ho fun controllerManagerCert _ => ?_
  refine sign_bind_pass ho fun schedulerCert _ => ?_
  refine ofExcept_bind_pass ho fun adminConf => ?_
  refine ofExcept_bind_pass ho fun controllerManagerConf => ?_
  refine ofExcept_bind_pass ho fun schedulerConf => ?_
  refine Triple.ret (at_stable none) fun w hw => ⟨⟨rfl, ⟨rfl, rfl⟩, ?_, ?_⟩, hw⟩
  · exact leaf_of_mem rfl rfl hkeys hnames ⟨by simp, by simp⟩ ⟨by simp, by simp⟩
      (by simp [apiServerRequest, apiServerCSR]) hserver
  · exact leaf_of_mem rfl rfl hkeys hnames ⟨by simp, by simp⟩ ⟨by simp, by simp⟩
      (by simp [planeTunnelRequest, planeTunnelCSR]) htunnel

/-! ## Rotation -/

section Rotation

variable {stored : Secret}

/-- What becomes of one certificate: its annotation is up to date, or it is replaced. -/
def LeafOutcome (libs : Libs) (issued : Certificate → CSR → Certificate → Prop) (ca : Certificate)
    (secret : Secret) (annotationKey : String) (csr : CSR) (certKey keyKey : String)
    (x : Secret × Bool) : Prop :=
  (x = (secret, false) ∧
    secret.metadata.annotations.getD annotationKey "" = sansHash libs csr.hostnames) ∨
  ∃ cert, issued ca csr cert ∧
    x = (withLeaf secret annotationKey certKey keyKey (sansHash libs csr.hostnames) cert, true)

theorem regenerateLeaf_pass (ho : RecordedIn libs issued admitted (some stored)) (ca : Certificate)
    (secret : Secret) (annotationKey : String) (csr : CSR) (certKey keyKey what : String) :
    Pass libs d req issued admitted (At req (some stored))
      (regenerateLeaf libs ca secret annotationKey csr certKey keyKey what)
      (fun x w => LeafOutcome libs issued ca secret annotationKey csr certKey keyKey x ∧
        At req (some stored) w) := by
  rw [regenerateLeaf]
  split
  · next hsame => exact Triple.ret (at_stable _) fun w hw => ⟨Or.inl ⟨rfl, hsame⟩, hw⟩
  · refine Triple.lift_run_bind (sign_pass ho ca csr) (fun cert => Triple.assume fun hissued => ?_)
      fun err => ?_
    · cases hstore : storeCertificate secret certKey keyKey annotationKey
          (sansHash libs csr.hostnames) cert with
      | error f =>
          simp only [hstore]
          exact fail_pass ho f
      | ok new =>
          simp only [hstore]
          refine Triple.ret (at_stable _) fun w hw => ⟨Or.inr ⟨cert, hissued, ?_⟩, hw⟩
          rw [storeCertificate_eq hstore]
    · cases err with
      | error e | panic t => exact Triple.fail inv_stable fun _ hw => hw

/-- What `RegeneratePKILeafCerts` returns for a recorded Secret. -/
structure Regenerated (libs : Libs) (issued : Certificate → CSR → Certificate → Prop)
    (admitted : Runtime → Prop) (r : Runtime) (old : Secret)
    (x : Secret × Bool) : Prop where
  rotated : Rotated old x.1
  recorded : Recorded libs issued admitted x.1
  current : Current libs r x.1
  same : x.2 = false → x.1 = old

theorem annotation_eq {m : GoMap String} {k h h' : String} (hsome : m[k]? = some h)
    (hget : m.getD k "" = h') : m[k]? = some h' := by
  rw [Std.ExtTreeMap.getD_eq_getD_getElem?, hsome, Option.getD_some] at hget
  rw [hsome, hget]

theorem recorded_apiServer {r : Runtime} (hr : admitted r) {old : Secret}
    (hold : Recorded libs issued admitted old) {x : Secret × Bool}
    (hx : LeafOutcome libs issued (storedCA old layout) old pkiAPIServerHashAnnotation
      (apiServerRequest r) layout.pki.apiServerCert.secretKey layout.pki.apiServerKey.secretKey x) :
    Rotated old x.1 ∧ Recorded libs issued admitted x.1 ∧
      x.1.metadata.annotations[ pkiAPIServerHashAnnotation]? =
        some (sansHash libs (apiServerRequest r).hostnames) ∧ (x.2 = false → x.1 = old) := by
  rcases hx with ⟨rfl, hsame⟩ | ⟨cert, hissued, rfl⟩
  · obtain ⟨r', -, hleaf⟩ := hold.apiServer
    exact ⟨.refl old, hold, annotation_eq hleaf.recorded hsame, fun _ => rfl⟩
  · have hleaf : ApiServerLeaf libs issued _ r :=
      leaf_withLeaf (by decide) (by decide) (by decide) hissued
    obtain ⟨r', hr', htunnel⟩ := hold.planeTunnel
    refine ⟨rotated_withLeaf (by decide) (by decide), ⟨⟨r, hr, hleaf⟩, r', hr', ?_⟩, hleaf.recorded,
      fun h => by cases h⟩
    exact htunnel.withLeaf (by decide) (by decide) (by decide) (by decide)

/-- The plane tunnel's certificate after the second step, which leaves the other as it is. -/
theorem recorded_planeTunnel {r : Runtime} (hr : admitted r) {old : Secret}
    (hold : Recorded libs issued admitted old) {x : Secret × Bool}
    (hx : LeafOutcome libs issued (storedCA old layout) old pkiPlaneTunnelHashAnnotation
      (planeTunnelRequest r) layout.pki.planeTunnelCert.secretKey
      layout.pki.planeTunnelKey.secretKey x) :
    Rotated old x.1 ∧ Recorded libs issued admitted x.1 ∧
      x.1.metadata.annotations[ pkiPlaneTunnelHashAnnotation]? =
        some (sansHash libs (planeTunnelRequest r).hostnames) ∧
      x.1.metadata.annotations[ pkiAPIServerHashAnnotation]? =
        old.metadata.annotations[ pkiAPIServerHashAnnotation]? ∧ (x.2 = false → x.1 = old) := by
  rcases hx with ⟨rfl, hsame⟩ | ⟨cert, hissued, rfl⟩
  · obtain ⟨r', -, hleaf⟩ := hold.planeTunnel
    exact ⟨.refl old, hold, annotation_eq hleaf.recorded hsame, rfl, fun _ => rfl⟩
  · have hleaf : PlaneTunnelLeaf libs issued _ r :=
      leaf_withLeaf (by decide) (by decide) (by decide) hissued
    obtain ⟨r', hr', hserver⟩ := hold.apiServer
    refine ⟨rotated_withLeaf (by decide) (by decide), ⟨⟨r', hr', ?_⟩, r, hr, hleaf⟩, hleaf.recorded,
      ?_, fun h => by cases h⟩
    · exact hserver.withLeaf (by decide) (by decide) (by decide) (by decide)
    · rw [withLeaf, GoMap.getElem?_insert, if_neg (by decide)]

theorem regenerate_pass {r : Runtime} (hr : admitted r)
    (hstored : Recorded libs issued admitted stored) :
    Pass libs d req issued admitted (At req (some stored))
      (regeneratePKILeafCerts libs stored r layout)
      (fun x w => Regenerated libs issued admitted r stored x ∧ At req (some stored) w) := by
  have ho : RecordedIn libs issued admitted (some stored) := fun _ h => Option.some.inj h ▸ hstored
  refine Triple.bind (regenerateLeaf_pass ho _ _ _ _ _ _ _) inv_stable fun x => ?_
  refine Triple.assume fun hx => ?_
  obtain ⟨hrot₁, hrec₁, hcur₁, hsame₁⟩ := recorded_apiServer hr hstored hx
  refine Triple.bind (regenerateLeaf_pass ho _ _ _ _ _ _ _) inv_stable fun y => ?_
  refine Triple.assume fun hy => ?_
  -- the authority of the second request was read before the first certificate was replaced
  rw [← hrot₁.storedCA_eq] at hy
  obtain ⟨hrot₂, hrec₂, hcur₂, hkept, hsame₂⟩ := recorded_planeTunnel hr hrec₁ hy
  refine Triple.ret (at_stable _) fun w hw => ⟨⟨hrot₁.trans hrot₂, hrec₂, ⟨?_, hcur₂⟩, ?_⟩, hw⟩
  · exact hkept.trans hcur₁
  · intro hno
    rw [Bool.or_eq_false_iff] at hno
    exact (hsame₂ hno.2).trans (hsame₁ hno.1)

end Rotation

/-! ## The whole pass -/

theorem done_stable (r : Runtime) :
    (controller libs d req).toSystem.Stable (Honest issued admitted)
      (Done libs req issued admitted r) := by
  rintro w w' ⟨e, he⟩ - ⟨hinv, hr, secret, hsecret, hcurrent⟩
  exact ⟨hinv.change he, hr, secret, (change_keeps he).1.trans hsecret, hcurrent⟩

theorem done_of_put (hr : admitted r) {w w' : World} {version : Nat}
    (hkey : secret.metadata.key = req) (hrecorded : Recorded libs issued admitted secret)
    (hcurrent : Current libs r secret) (hfailed : w'.signFailed = false)
    (hput : w'.cluster = w.cluster.put .secret (d.stored version .secret secret)) :
    Done libs req issued admitted r w' := by
  have hsecret : w'.secret req = some (d.stored version .secret secret) := by
    rw [World.secret, hput, ← hkey]
    exact w.cluster.lookup_put_self .secret (d.stored version .secret secret)
  refine ⟨⟨fun _ h => ?_, fun h => ?_⟩, hr, _, hsecret, hcurrent.apiServer, hcurrent.planeTunnel⟩
  · rw [hsecret] at h
    exact Option.some.inj h ▸ hrecorded.congr rfl rfl
  · rw [hfailed] at h
    cases h

/-- Creating the Secret: it was absent, so nobody else can have created it. -/
theorem create_pass (hr : admitted r) (hreq : r.metadata.key = req)
    (hsecret : Generated libs issued r secret) {f : Secret → Except GoError Secret → Go Secret}
    (hok : ∀ s o, f s (.ok o) = pure o)
    (herror : ∀ s e, e.reason ≠ .alreadyExists → f s (.error e) = Go.fail e) :
    Pass libs d req issued admitted (At req none)
      ((setControllerRef r .secret secret : Go Secret) >>= fun s => Go.create .secret s >>= f s)
      (fun _ => Done libs req issued admitted r) := by
  have hrecorded : Recorded libs issued admitted (withRef r .secret secret) :=
    Recorded.congr ⟨⟨r, hr, hsecret.apiServer⟩, r, hr, hsecret.planeTunnel⟩ rfl rfl
  have hcurrent : Current libs r (withRef r .secret secret) :=
    ⟨hsecret.apiServer.recorded, hsecret.planeTunnel.recorded⟩
  have hkey : (withRef r .secret secret).metadata.key = req :=
    (withRef_key r .secret secret).trans (hsecret.key.trans hreq)
  rw [setControllerRef_fresh (k := .secret) hsecret.fresh, pure_bind]
  refine Triple.call_bind (B := fun x w => (∀ o, x = .ok o → Done libs req issued admitted r w) ∧
    ∀ e, x = .error e → e.reason ≠ .alreadyExists ∧ At req none w) (at_stable none) ?_ ?_ ?_
  · intro w hw
    exact ⟨hw.inv recordedIn_none, hkey, hw.secret, hrecorded, hw.signFailed⟩
  · intro w x w' hw hs _
    obtain ⟨hserver, hbegun, hfailed⟩ := answer_cases hs
    have hnot : w'.signFailed = false := by rw [hfailed, hw.signFailed]; rfl
    have hlookup : w.cluster.lookup .secret (withRef r .secret secret).metadata.key = none := by
      rw [hkey]
      exact hw.secret
    rcases server_create hserver with h | ⟨⟨t, rfl⟩, hc⟩
    · rw [serveCreate] at h
      simp only [Obj.getMeta, hlookup] at h
      obtain ⟨rfl, hc⟩ := Prod.mk.inj h
      exact ⟨fun _ _ => done_of_put hr hkey hrecorded hcurrent hnot hc, by rintro _ ⟨⟩⟩
    · refine ⟨by rintro _ ⟨⟩, ?_⟩
      rintro e ⟨⟩
      refine ⟨by rintro ⟨⟩, ?_, hbegun.trans hw.begun, hnot⟩
      rw [World.secret, hc]
      exact hw.secret
  · intro x
    cases x with
    | ok o =>
        rw [hok]
        exact fun w hw => .ret _ (done_stable r) (hw.1 o rfl) fun _ h => h
    | error e =>
        intro w hw
        obtain ⟨hreason, hat⟩ := hw.2 e rfl
        rw [herror _ _ hreason]
        exact fail_pass recordedIn_none (.error e) w hat

/-- Storing the rotated Secret, or nothing if no certificate was replaced. -/
theorem rotate_pass (hr : admitted r) {stored : Secret} (hkey : stored.metadata.key = req)
    (hstored : Recorded libs issued admitted stored) {x : Secret × Bool}
    (hx : Regenerated libs issued admitted r stored x) {f : Except GoError Secret → Go Secret}
    (hok : ∀ o, f (.ok o) = pure o) (herror : ∀ e, f (.error e) = Go.fail e) :
    Pass libs d req issued admitted (At req (some stored))
      (if x.2 then Go.update .secret x.1 >>= f else pure x.1)
      (fun _ => Done libs req issued admitted r) := by
  have ho : RecordedIn libs issued admitted (some stored) := fun _ h => Option.some.inj h ▸ hstored
  split
  · refine Triple.call_bind (B := fun x w => (∀ o, x = .ok o → Done libs req issued admitted r w) ∧
      ∀ e, x = .error e → At req (some stored) w) (at_stable _) ?_ ?_ ?_
    · intro w hw
      exact ⟨hw.inv ho, stored, hw.secret, hx.rotated.key.trans hkey, hx.rotated, hx.recorded,
        hw.signFailed⟩
    · intro w x' w' hw hs _
      obtain ⟨hserver, hbegun, hfailed⟩ := answer_cases hs
      have hnot : w'.signFailed = false := by rw [hfailed, hw.signFailed]; rfl
      rcases server_update_cases hserver with ⟨_, -, -, rfl, hc⟩ | ⟨⟨e, rfl⟩, hc⟩
      · exact ⟨fun _ _ => done_of_put hr (hx.rotated.key.trans hkey) hx.recorded hx.current hnot hc,
          by rintro _ ⟨⟩⟩
      · refine ⟨by rintro _ ⟨⟩, fun e' _ => ⟨?_, hbegun.trans hw.begun, hnot⟩⟩
        rw [World.secret, hc]
        exact hw.secret
    · intro x'
      cases x' with
      | ok o =>
          rw [hok]
          exact fun w hw => .ret _ (done_stable r) (hw.1 o rfl) fun _ h => h
      | error e =>
          rw [herror]
          exact fun w hw => fail_pass ho (.error e) w (hw.2 e rfl)
  · next hno =>
      -- nothing to store: the stored Secret is the one that was read
      rw [Bool.not_eq_true] at hno
      refine Triple.ret (at_stable _) fun w hw => ⟨hw.inv ho, hr, stored, hw.secret, ?_⟩
      exact hx.same hno ▸ hx.current

theorem setup_pass (hr : admitted r) (hreq : r.metadata.key = req)
    (ho : RecordedIn libs issued admitted o) :
    Pass libs d req issued admitted (At req o) (setupPKIAuthConfiguration libs r)
      (fun _ => Done libs req issued admitted r) := by
  refine Triple.call_bind (B := fun x w => At req o w ∧
    (∀ secret, x = .ok secret → o = some secret) ∧
    ∀ e, x = .error e → e.reason = .notFound → o = none) (at_stable o)
    (fun _ hw => ⟨hw.inv ho, trivial⟩) ?_ ?_
  · intro w x w' hw hs _
    refine ⟨hw.read hs trivial rfl, ?_⟩
    obtain ⟨hserver, -, -⟩ := answer_cases hs
    have hlookup : w.cluster.lookup .secret r.metadata.key = o := by
      rw [hreq]
      exact hw.secret
    rcases (server_get hserver).2 with rfl | ⟨t, rfl⟩
    · rw [serveGet, hlookup]
      cases o with
      | none => exact ⟨by rintro _ ⟨⟩, fun _ _ _ => rfl⟩
      | some stored => exact ⟨fun _ h => congrArg some (Except.ok.inj h), by rintro _ ⟨⟩⟩
    · refine ⟨by rintro _ ⟨⟩, ?_⟩
      rintro e ⟨⟩ h
      cases h
  · rintro (e | existing) w ⟨hat, hfound, habsent⟩
    · dsimp only
      split
      · next hnot =>
          obtain rfl := habsent e rfl hnot
          refine Triple.bind (generate_pass r) inv_stable (fun secret => ?_) w hat
          exact Triple.assume fun hsecret => create_pass hr hreq hsecret (fun _ _ => rfl)
            fun _ _ hreason => if_neg hreason
      · exact fail_pass ho (.error e) w hat
    · obtain rfl := hfound existing rfl
      have hkey : existing.metadata.key = req := Cluster.lookup_key hat.secret
      have hrecorded := ho existing rfl
      dsimp only
      split
      · refine Triple.lift_run_bind (regenerate_pass hr hrecorded) (fun y => ?_) (fun err => ?_) w hat
        · exact Triple.assume fun hy => rotate_pass hr hkey hrecorded hy (fun _ => rfl) fun _ => rfl
        · cases err with
          | error e | panic t => exact Triple.fail inv_stable fun _ hw => hw
      · exact fail_pass ho _ w hat

theorem pass_pass (ho : RecordedIn libs issued admitted o) :
    Pass libs d req issued admitted (At req o) (pass libs req)
      (fun x => Done libs req issued admitted x.1) := by
  refine Triple.call_bind (B := fun x w => At req o w ∧
    ∀ r, x = .ok r → admitted r ∧ r.metadata.key = req) (at_stable o)
    (fun _ hw => ⟨hw.inv ho, trivial⟩) ?_ ?_
  · intro w x w' hw hs hok
    refine ⟨hw.read hs trivial rfl, ?_⟩
    rintro r rfl
    exact ⟨hok, (server_getRuntime_ok (answer_cases hs).1).2⟩
  · rintro (e | r) w ⟨hat, hr⟩
    · exact fail_pass ho (.error e) w hat
    · obtain ⟨hadmitted, hkey⟩ := hr r rfl
      refine Triple.bind (setup_pass hadmitted hkey ho) inv_stable (fun secret => ?_) w hat
      exact Triple.ret (done_stable r) fun _ h => h

/-! ## Every run -/

/-- The states of a run from a cluster without the Secret: the invariant holds, every write is
allowed, and a pass that has ended well leaves an up-to-date Secret. -/
structure Reached (libs : Libs) (req : NamespacedName)
    (issued : Certificate → CSR → Certificate → Prop) (admitted : Runtime → Prop)
    (s : State sig (Except Fault (Runtime × Secret)) World) : Prop where
  inv : Inv libs req issued admitted s.world
  allowed : ∀ op k, s.running = some (.call op k) → Allowed libs req issued admitted op s.world
  done : ∀ r secret, s.running = some (.ret (.ok (r, secret))) →
    Done libs req issued admitted r s.world

theorem reached_of_run {c₀ : Cluster} (hnone : c₀.lookup .secret req = none)
    {s : State sig (Except Fault (Runtime × Secret)) World}
    (hrun : (controller libs d req).toSystem.Run (Honest issued admitted)
      ⟨{ cluster := c₀ }, none⟩ s) : Reached libs req issued admitted s := by
  have hinit : Inv libs req issued admitted { cluster := c₀ } :=
    At.inv ⟨hnone, rfl, rfl⟩ recordedIn_none
  have hsafe := System.run_safe (M := (controller libs d req).toSystem)
    (I := Inv libs req issued admitted)
    (fun op w => Inv libs req issued admitted w ∧ Allowed libs req issued admitted op w)
    (fun x w => match x with
      | .ok x => Done libs req issued admitted x.1 w
      | .error _ => Inv libs req issued admitted w) inv_stable
    (fun w hw _ => Prog.Safe.mono (pass_pass hw.recorded _ ⟨rfl, rfl, rfl⟩) fun x w h => by
      cases x <;> exact h)
    (fun x w hw _ => by
      cases x with
      | ok x => exact hw.1
      | error e => exact hw) rfl hinit hrun
  refine ⟨?_, fun op k h => (hsafe.2 _ h s.world .refl).1.2, fun r secret h => ?_⟩
  · cases hrunning : s.running with
    | none => exact hsafe.1 hrunning
    | some p =>
        cases p with
        | call op k => exact (hsafe.2 _ hrunning s.world .refl).1.1
        | ret x =>
            have hx := hsafe.2 _ hrunning s.world .refl
            cases x with
            | ok x => exact hx.1
            | error e => exact hx
  · exact hsafe.2 _ h s.world .refl

/-- What is stored stays, up to rotation. -/
def Kept (o o' : Option Secret) : Prop :=
  ∀ secret, o = some secret → ∃ secret', o' = some secret' ∧ Rotated secret secret'

theorem Kept.of_eq {o' : Option Secret} (h : o' = o) : Kept o o' :=
  fun secret hs => ⟨secret, h.trans hs, .refl secret⟩

theorem Kept.trans {o₁ o₂ o₃ : Option Secret} (h : Kept o₁ o₂) (h' : Kept o₂ o₃) : Kept o₁ o₃ := by
  intro secret hs
  obtain ⟨secret₂, hs₂, hrot⟩ := h secret hs
  obtain ⟨secret₃, hs₃, hrot'⟩ := h' secret₂ hs₂
  exact ⟨secret₃, hs₃, hrot.trans hrot'⟩

theorem kept_call {op : Call} {x : op.Answer} {w w' : World}
    (hallowed : Allowed libs req issued admitted op w)
    (h : Machine.serve (S := sig) (answer d) op w x w') : Kept (w.secret req) (w'.secret req) := by
  obtain ⟨hserver, -, -⟩ := answer_cases h
  have hread : IsRead op → Kept (w.secret req) (w'.secret req) := fun hop =>
    .of_eq (by rw [World.secret, World.secret, server_read hop hserver])
  cases op with
  | create k o =>
      cases k with
      | secret =>
          intro secret hsecret
          rw [hallowed.2.1] at hsecret
          cases hsecret
      | _ => exact hallowed.elim
  | update k o =>
      cases k with
      | secret =>
          obtain ⟨old, hold, hkey, hrotated, -⟩ := hallowed
          rcases server_update_cases hserver with ⟨_, -, -, -, hc⟩ | ⟨-, hc⟩
          · intro secret hsecret
            cases hold.symm.trans hsecret
            refine ⟨d.stored (w.cluster.version + 1) .secret o, ?_, hrotated.key, hrotated.kept⟩
            rw [World.secret, hc, ← hkey]
            exact w.cluster.lookup_put_self .secret (d.stored (w.cluster.version + 1) .secret o)
          · exact .of_eq (by rw [World.secret, World.secret, hc])
      | _ => exact hallowed.elim
  | updateRuntimeStatus r => exact hallowed.elim
  | _ => exact hread trivial

theorem kept_step {s s' : State sig (Except Fault (Runtime × Secret)) World}
    {l : Label sig (Except Fault (Runtime × Secret)) World}
    (hs : Reached libs req issued admitted s)
    (h : (controller libs d req).toSystem.Step s l s') :
    Kept (s.world.secret req) (s'.world.secret req) := by
  cases h with
  | enter w => exact .of_eq rfl
  | call hx => exact kept_call (hs.allowed _ _ rfl) hx
  | leave a w => exact .of_eq rfl
  | env he =>
      obtain ⟨e, he⟩ := he
      exact .of_eq (change_keeps he).1

theorem kept_run {c₀ : Cluster} (hnone : c₀.lookup .secret req = none)
    {s s' : State sig (Except Fault (Runtime × Secret)) World}
    (hrun : (controller libs d req).toSystem.Run (Honest issued admitted)
      ⟨{ cluster := c₀ }, none⟩ s)
    (hrun' : (controller libs d req).toSystem.Run (Honest issued admitted) s s') :
    Kept (s.world.secret req) (s'.world.secret req) := by
  induction hrun' with
  | refl => exact .of_eq rfl
  | step hpre hstep _ ih => exact ih.trans (kept_step (reached_of_run hnone (hrun.trans hpre)) hstep)

end Pass

/-- **The authority is preserved.** Start without the Secret and let the controller reconcile the
Runtime again and again, while the Runtime changes and any call fails at any time. From any state
of the run to any later one the stored Secret stays; its authority and all keys but those of the
two re-signed certificates stay as they are. In the later state each of the two certificates was
issued, with its key and by the stored authority, for a request whose names have the recorded hash;
and if a certificate could not be signed in the latest pass, the Secret is the one the pass began
with. -/
theorem authority_preserved {libs : Libs} {d : Defaulting} {req : NamespacedName}
    {issued : Certificate → CSR → Certificate → Prop} {c₀ : Cluster}
    (hnone : c₀.lookup .secret req = none)
    {s s' : State sig (Except Fault (Runtime × Secret)) World}
    (hrun : (controller libs d req).toSystem.Run (Honest issued fun _ => True)
      ⟨{ cluster := c₀ }, none⟩ s)
    (hrun' : (controller libs d req).toSystem.Run (Honest issued fun _ => True) s s') :
    (∀ secret, s.world.secret req = some secret → ∃ secret', s'.world.secret req = some secret' ∧
      storedCA secret' layout = storedCA secret layout ∧
      ∀ k, k ∉ leafKeys → secret'.data[k]? = secret.data[k]?) ∧
    (∀ secret, s'.world.secret req = some secret →
      (∃ r, ApiServerLeaf libs issued secret r) ∧ ∃ r, PlaneTunnelLeaf libs issued secret r) ∧
    (s'.world.signFailed = true → s'.world.secret req = s'.world.begun) := by
  have hinv := (reached_of_run hnone (hrun.trans hrun')).inv
  refine ⟨fun secret hsecret => ?_, fun secret hsecret => ?_, hinv.unchanged⟩
  · obtain ⟨secret', hsecret', hrotated⟩ := kept_run hnone hrun hrun' secret hsecret
    exact ⟨secret', hsecret', hrotated.storedCA_eq, hrotated.kept⟩
  · obtain ⟨⟨r, -, hserver⟩, r', -, htunnel⟩ := hinv.recorded secret hsecret
    exact ⟨⟨r, hserver⟩, r', htunnel⟩

/-! ## A run -/

instance (issued : Certificate → CSR → Certificate → Prop) (admitted : Runtime → Prop)
    [∀ ca csr cert, Decidable (issued ca csr cert)] [DecidablePred admitted] (w : World)
    (l : Label sig (Except Fault (Runtime × Secret)) World) :
    Decidable (Honest issued admitted w l) := by
  cases l
  case call op x =>
    cases op
    case signCSR | getRuntime => cases x <;> (unfold Honest; infer_instance)
    all_goals exact .isTrue trivial
  all_goals exact .isTrue trivial

/-- A certificate that lists its names. -/
def listing (csr : CSR) : Certificate := ⟨csr.hostnames.flatMap (fun s => bytes s ++ [0]), [1]⟩

/-- The Runtime `tenant` with some names of its own. -/
def tenant (sans : List String) : Runtime :=
  let r : Runtime := .minimal "tenant" "default"
  { r with spec.cluster.apiServer.sans := sans }

/-- The controller for it. -/
def tenantController : Machine sig (Except Fault (Runtime × Secret)) World Choice Change :=
  controller (sampleLibs (tenant [])) noDefaulting ⟨"default", "tenant"⟩

/-- The Secret is created, every call being served. -/
def creation (r : Runtime) : List (Machine.Act Choice Change) :=
  let sign (csr : CSR) : Choice := .certificate (.ok (listing csr))
  let others := [planeTunnelEgressName r.name]
  [.enter] ++ ([.serve, .serve, sign ⟨"", "", "", []⟩, sign (planeTunnelRequest r),
    sign ⟨"", "", "", others⟩, sign (apiServerRequest r), sign ⟨"", "", "", []⟩, sign ⟨"", "", "", []⟩,
    sign ⟨"", "", "", []⟩, sign ⟨"", "", "", []⟩, .serve] : List Choice).map .call ++ [.leave]

/-- The names change and the certificate of the API server is signed again. -/
def rotation (r : Runtime) : List (Machine.Act Choice Change) :=
  [.env (.runtime (some r)), .enter] ++
    ([.serve, .serve, .certificate (.ok (listing (apiServerRequest r))), .serve] : List Choice).map
      .call ++ [.leave]

/-- The names change and the certificate cannot be signed. -/
def failedRotation (r : Runtime) : List (Machine.Act Choice Change) :=
  [.env (.runtime (some r)), .enter] ++
    ([.serve, .serve, .certificate (.error (errorf "no entropy"))] : List Choice).map .call ++ [.leave]

/-- Between the two states a certificate was replaced, and another could not be. -/
def rotatedThenFailed (s s' : State sig (Except Fault (Runtime × Secret)) World) :
    Bool :=
  let cert (w : World) : Option Bytes :=
    (w.secret ⟨"default", "tenant"⟩).map (secretEntry · layout.pki.apiServerCert.secretKey)
  (cert s.world).isSome && cert s.world != cert s'.world && s'.world.signFailed

/-- The API server gets a further name, and a second one for which the signer fails. -/
theorem tenant_authority_preserved :
    ∃ s s', tenantController.toSystem.Run (Honest (fun _ csr cert => cert = listing csr) fun _ => True)
        ⟨{ cluster := .withRuntime (tenant []) }, none⟩ s ∧
      tenantController.toSystem.Run (Honest (fun _ csr cert => cert = listing csr) fun _ => True) s s' ∧
      rotatedThenFailed s s' = true ∧
      (∀ secret, s.world.secret ⟨"default", "tenant"⟩ = some secret →
        ∃ secret', s'.world.secret ⟨"default", "tenant"⟩ = some secret' ∧
          storedCA secret' layout = storedCA secret layout) ∧
      s'.world.secret ⟨"default", "tenant"⟩ = s'.world.begun := by
  obtain ⟨s, s', hrun, hrun', hQ⟩ := Machine.exists_run_run tenantController
    (Honest (fun _ csr cert => cert = listing csr) fun _ => True)
    ⟨{ cluster := .withRuntime (tenant []) }, none⟩ (creation (tenant []))
    (rotation (tenant ["zz"]) ++ failedRotation (tenant ["zz", "zzz"])) rotatedThenFailed
    (by decide +kernel)
  have hfailed : s'.world.signFailed = true := by
    rw [rotatedThenFailed, Bool.and_eq_true] at hQ
    exact hQ.2
  obtain ⟨hkept, -, hunchanged⟩ := authority_preserved rfl hrun hrun'
  refine ⟨s, s', hrun, hrun', hQ, fun secret hsecret => ?_, hunchanged hfailed⟩
  obtain ⟨secret', hsecret', hca, -⟩ := hkept secret hsecret
  exact ⟨secret', hsecret', hca⟩

end Heir.Controller.Runtime.Pki
