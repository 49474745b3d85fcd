import Heir.Controller.Runtime.Stability

set_option autoImplicit false

/-! # What a reconciliation asks of the API server

`Reconcile` of one Runtime writes eleven objects, all with names made from the Runtime's. For seven
of them the setup function refuses an existing object of another owner; for the Service and the
three Deployments of `unguardedKeys` it does not. What is written over an existing object keeps its
metadata but for labels and annotations. Of the annotations, those of the control plane's Service
and of the plane tunnel's Services are replaced by the generated ones, and the others are kept, with
the hashes of `hashAnnotations` added.

`setupAll_setup` says this about every call of the nine setup functions, whatever the answers are.
It mentions no cluster, so that it can be used where others change the objects between two calls.
-/

namespace Heir.Controller.Runtime

open Heir.ControlPlane Heir.Core Heir.Runtime Interact

/-! ## The managed objects -/

/-- The objects of the Runtime `name` whose setup does not look at the owner. -/
def unguardedKeys (name : String) : List (Kind × String) :=
  [(.service, name),
   (.deployment, name),
   (.deployment, clusterAgentName name),
   (.deployment, planeTunnelName name)]

/-- All objects of the Runtime `name`. -/
def objectKeys (name : String) : List (Kind × String) :=
  unguardedKeys name ++
  [(.secret, name),
   (.secret, clientKubeconfigName name),
   (.secret, clusterAgentRuntimeSecretName name),
   (.configMap, name),
   (.service, planeTunnelHeadlessName name),
   (.service, planeTunnelName name),
   (.service, planeTunnelEgressName name)]

/-- The key of one of the Runtime's objects. -/
def Managed (r : Runtime) (k : Kind) (key : NamespacedName) : Prop :=
  key.ns = r.ns ∧ (k, key.name) ∈ objectKeys r.name

/-! ## Metadata -/

/-- The metadata of an object with new labels and annotations. -/
def Relabelled (m m' : ObjectMeta) : Prop :=
  ∃ labels annotations, m' = { m with labels := labels, annotations := annotations }

theorem Relabelled.refl (m : ObjectMeta) : Relabelled m m := ⟨_, _, rfl⟩

theorem Relabelled.key {m m' : ObjectMeta} (h : Relabelled m m') : m'.key = m.key := by
  obtain ⟨labels, annotations, rfl⟩ := h
  rfl

theorem Relabelled.resourceVersion {m m' : ObjectMeta} (h : Relabelled m m') :
    m'.resourceVersion = m.resourceVersion := by
  obtain ⟨labels, annotations, rfl⟩ := h
  rfl

theorem Relabelled.isControlledBy {m m' owner : ObjectMeta} (h : Relabelled m m') :
    isControlledBy m' owner = isControlledBy m owner := by
  obtain ⟨labels, annotations, rfl⟩ := h
  rfl

/-- The annotations in which the controller records hashes. -/
def hashAnnotations : List String :=
  [ controlPlaneConfigHashAnnotation, pkiAPIServerHashAnnotation, pkiPlaneTunnelHashAnnotation]

/-- All annotations are kept, but for those of the controller itself. -/
def KeepsAnnotations (before after : GoMap String) : Prop :=
  ∀ a v, a ∉ hashAnnotations → before[a]? = some v → after[a]? = some v

theorem KeepsAnnotations.of_eq {before after : GoMap String} (h : after = before) :
    KeepsAnnotations before after := by
  rw [h]
  exact fun _ _ _ hv => hv

theorem KeepsAnnotations.trans {m₁ m₂ m₃ : GoMap String} (h : KeepsAnnotations m₁ m₂)
    (h' : KeepsAnnotations m₂ m₃) : KeepsAnnotations m₁ m₃ :=
  fun a v ha hv => h' a v ha (h a v ha hv)

theorem keepsAnnotations_insert {a : String} (ha : a ∈ hashAnnotations) (m : GoMap String)
    (v : String) : KeepsAnnotations m (m.insert a v) := by
  intro b w hb hw
  rw [GoMap.getElem?_insert, if_neg fun heq : a = b => hb (heq ▸ ha)]
  exact hw

/-- The annotations that the specification asks for on the control plane's Service. -/
def serviceAnnotations (r : Runtime) : GoMap String :=
  r.spec.controlPlane.service.additionalMetadata.annotations

/-- The annotations are kept, or those of a Service replaced. That of the control plane then has
the annotations of the specification. -/
def Annotates (r : Runtime) (k : Kind) (key : NamespacedName) (before after : GoMap String) : Prop :=
  KeepsAnnotations before after ∨
    k = .service ∧ (key = r.metadata.key → KeepsAnnotations (serviceAnnotations r) after)

theorem syncService_meta (desired existing o : Service)
    (h : syncService desired existing = some o) :
    Relabelled existing.metadata o.metadata := by
  simp only [syncService, Option.ite_none_left_eq_some, Option.some.injEq] at h
  rw [← h.2]
  exact ⟨_, _, rfl⟩

theorem syncDeployment_meta (desired existing o : Deployment)
    (h : syncDeployment desired existing = some o) :
    Relabelled existing.metadata o.metadata := by
  simp only [syncDeployment, Option.ite_none_left_eq_some, Option.some.injEq] at h
  rw [← h.2]
  exact ⟨_, _, rfl⟩

theorem syncSecret_meta (desired existing o : Secret)
    (h : syncSecret desired existing = some o) :
    Relabelled existing.metadata o.metadata := by
  simp only [syncSecret, Option.ite_none_left_eq_some, Option.some.injEq] at h
  rw [← h.2]
  exact ⟨_, _, rfl⟩

theorem syncService_annotations {desired existing o : Service}
    (h : syncService desired existing = some o) :
    o.metadata.annotations = desired.metadata.annotations := by
  simp only [syncService, Option.ite_none_left_eq_some, Option.some.injEq] at h
  rw [← h.2]

theorem syncDeployment_annotations {desired existing o : Deployment}
    (h : syncDeployment desired existing = some o) :
    o.metadata.annotations = existing.metadata.annotations := by
  simp only [syncDeployment, Option.ite_none_left_eq_some, Option.some.injEq] at h
  rw [← h.2]

theorem syncSecret_annotations {desired existing o : Secret}
    (h : syncSecret desired existing = some o) :
    o.metadata.annotations = existing.metadata.annotations := by
  simp only [syncSecret, Option.ite_none_left_eq_some, Option.some.injEq] at h
  rw [← h.2]

/-! ## Calls -/

/-- The circumstances of a pass: which answers its calls may get, which kinds of objects it may
write, and which faults may end it. Errors may, and so may panics, unless the signer fails without
the certificate of an authority. -/
structure Setting where
  ans : (op : Call) → op.Answer → Prop
  kind : Kind → Prop
  fault : Fault → Prop
  error : ∀ e, fault (.error e)
  signed : (∀ f, fault f) ∨
    ∀ ca csr expiry cert, ans (.signCSR ca csr expiry) (.ok cert) → ca.cert ≠ []

/-- Nothing is known. -/
def Setting.any : Setting where
  ans := fun _ _ => True
  kind := fun _ => True
  fault := fun _ => True
  error := fun _ => trivial
  signed := Or.inl fun _ => trivial

/-- The function makes calls with `P` only, and its results satisfy `R`. -/
abbrev Asks {α : Type} (s : Setting) (P : Call → Prop) (p : Go α) (R : α → Prop) : Prop :=
  Calls (S := sig) s.ans P s.fault p R

/-- The calls that neither write nor are about the Runtime itself. -/
def Consults : Call → Prop
  | .get _ _ => True
  | .generateSelfSignedCert => True
  | .signCSR _ _ _ => True
  | .verifyCertificate _ _ _ => True
  | .ranges => True
  | _ => False

theorem Consults.isRead {op : Call} (h : Consults op) : IsRead op := by
  cases op <;> first
    | exact h.elim
    | trivial

/-- An update with the copy `r` of an object that was read under that key. -/
structure Updates (r : Runtime) (k : Kind) (key : NamespacedName) (existing o : Obj k) : Prop where
  managed : Managed r k key
  owner : (k, key.name) ∈ unguardedKeys r.name ∨
    isControlledBy (Obj.getMeta k existing) r.metadata = true
  relabelled : Relabelled (Obj.getMeta k existing) (Obj.getMeta k o)
  annotates : Annotates r k key (Obj.getMeta k existing).annotations (Obj.getMeta k o).annotations

/-- The calls of the setup functions with the copy `r`. A status they report is that of a degraded
Runtime. -/
def IsSetup (s : Setting) (r : Runtime) : Call → Prop
  | .create k o => s.kind k ∧ Managed r k (Obj.getMeta k o).key
  | .update k o => s.kind k ∧
      ∃ key existing, s.ans (.get k key) (.ok existing) ∧ Updates r k key existing o
  | .updateRuntimeStatus r' => r'.status.observedGeneration = r.metadata.generation ∧
      isStatusConditionTrue r'.status.conditions typeAvailableRuntime = false
  | .getRuntime _ => False
  | .built _ => False
  | _ => True

abbrev Setup {α : Type} (s : Setting) (r : Runtime) (p : Go α) (R : α → Prop) : Prop :=
  Asks s (IsSetup s r) p R

section Rules

variable {α β : Type} {s : Setting} {P : Call → Prop} {R : α → Prop}

namespace Asks

theorem bind {p : Go α} {f : α → Go β} {T : β → Prop} (hp : Asks s P p R)
    (hf : ∀ a, R a → Asks s P (f a) T) : Asks s P (p >>= f) T :=
  Calls.bind hp hf

theorem ret {a : α} (ha : R a) : Asks s P (pure a : Go α) R := Calls.ret ha

theorem fail (e : GoError) : Asks s P (Go.fail e : Go α) R := Calls.ofExcept (s.error e)

theorem ofResult {x : GoResult α} (h : Outcome s.fault R x) : Asks s P (Go.ofResult x) R :=
  Calls.ofExcept h

theorem ofExcept {x : Except GoError α} (h : ∀ a, x = .ok a → R a) : Asks s P (Go.ofExcept x) R := by
  cases x with
  | ok a => exact .ret (h a rfl)
  | error e => exact fail e

theorem call {op : Call} (h : P op) : Asks s P (Go.call op) (s.ans op) := Calls.call h

theorem attempt {p : Go α} (hp : Asks s P p R) : Asks s P (Go.attempt p) (Outcome s.fault R) :=
  Calls.lift_run hp

theorem mono {P' : Call → Prop} {R' : α → Prop} {p : Go α} (hp : Asks s P' p R)
    (hP : ∀ op, P' op → P op) (hR : ∀ a, R a → R' a) : Asks s P p R' :=
  hp.weaken (fun _ _ h => h) hP (fun _ h => h) hR

theorem signCSR (ca : Certificate) (csr : CSR) (h : P (.signCSR ca csr certificateDuration)) :
    Asks s P (Go.signCSR ca csr) (fun _ => (∀ f, s.fault f) ∨ ca.cert ≠ []) := by
  refine (call h).bind fun x hx => ofExcept fun cert hcert => ?_
  rw [hcert] at hx
  exact s.signed.imp_right fun hsigned => hsigned _ _ _ _ hx

theorem getOrElse {k : Kind} {key : NamespacedName} {onAbsent : Go α} {onExisting : Obj k → Go α}
    (hget : P (.get k key)) (ha : Asks s P onAbsent R)
    (he : ∀ o, s.ans (.get k key) (.ok o) → Asks s P (onExisting o) R) :
    Asks s P (Runtime.getOrElse k key onAbsent onExisting) R := by
  refine (call hget).bind fun x hx => ?_
  cases x with
  | ok o => exact he o hx
  | error e =>
      dsimp only
      split
      · exact ha
      · exact fail e

theorem createObj {k : Kind} {o : Obj k} (h : P (.create k o)) :
    Asks s P (Runtime.createObj k o) (fun _ => True) := by
  refine (call h).bind fun x _ => ?_
  cases x with
  | ok o' => exact .ret trivial
  | error e => exact fail e

theorem updateObj {k : Kind} {o : Obj k} (h : P (.update k o)) :
    Asks s P (Runtime.updateObj k o) (fun _ => True) := by
  refine (call h).bind fun x _ => ?_
  cases x with
  | ok o' => exact .ret trivial
  | error e => exact fail e

theorem updateIfNeeded {k : Kind} {o? : Option (Obj k)} (h : ∀ o, o? = some o → P (.update k o)) :
    Asks s P (Runtime.updateIfNeeded k o?) (fun _ => True) := by
  cases o? with
  | none => exact .ret trivial
  | some o => exact updateObj (h o rfl)

/-- A creation that takes an object created by somebody else in the meantime as its own. -/
theorem createTolerant {k : Kind} {o : Obj k} {f : Except GoError (Obj k) → Go α}
    {g : Obj k → α} {b : α} (h : P (.create k o)) (hok : ∀ a, f (.ok a) = pure (g a))
    (herror : ∀ e, f (.error e) = if e.reason = .alreadyExists then pure b else Go.fail e) :
    Asks s P (Go.create k o >>= f) (fun _ => True) := by
  refine (call h).bind fun x _ => ?_
  cases x with
  | ok created =>
      rw [hok]
      exact .ret trivial
  | error e =>
      rw [herror]
      split
      · exact .ret trivial
      · exact fail e

theorem setControllerRef (r : Runtime) (k : Kind) (obj : Obj k) :
    Asks s P (Runtime.setControllerRef r k obj) (fun o =>
      (Obj.getMeta k o).key = (Obj.getMeta k obj).key ∧
        (Obj.getMeta k o).annotations = (Obj.getMeta k obj).annotations) := by
  refine (ofExcept fun m hm => setControllerReference_ok hm).bind fun m hm => ?_
  obtain ⟨refs, rfl⟩ := hm
  exact .ret (by simp [ObjectMeta.key])

end Asks

theorem withAvailable_true (r : Runtime) (status : ConditionStatus) (reason message : String) :
    isStatusConditionTrue (withAvailable r status reason message).status.conditions
      typeAvailableRuntime = (status == .true) :=
  isStatusConditionTrue_set _ _

theorem Setup.orDegraded {r : Runtime} {reason : String} {p : Go α} (hp : Setup s r p R) :
    Setup s r (Runtime.orDegraded r reason p) R := by
  refine hp.attempt.bind fun x hx => ?_
  rcases x with (e | t) | a
  · exact (Asks.call ⟨rfl, withAvailable_true _ _ _ _⟩).bind fun _ _ => .fail _
  · exact .ofResult hx
  · exact .ret hx

theorem Asks.setup {r : Runtime} {p : Go α} (hp : Asks s Consults p R) : Setup s r p R := by
  refine hp.mono (fun op hop => ?_) fun _ h => h
  cases op <;> first
    | exact hop.elim
    | trivial

end Rules

/-! ## Certificates and kubeconfigs -/

section Generators

variable (libs : Libs) (r : Runtime) (s : Setting)

theorem generatePKIAuthSecret_asks :
    Asks s Consults (generatePKIAuthSecret libs r layout)
      (fun secret => secret.metadata.key = r.metadata.key ∧ Fresh r secret.metadata) := by
  refine (Asks.call (by trivial)).bind fun _ _ =>
    (Asks.ofExcept fun _ _ => trivial).bind fun ca (_ : True) => ?_
  -- seven certificates are signed, then three kubeconfigs are written
  iterate 7 refine (Asks.signCSR ca _ (by trivial)).bind fun _ _ => ?_
  iterate 3 refine (Asks.ofExcept fun _ _ => trivial).bind fun _ (_ : True) => ?_
  exact .ret ⟨rfl, rfl, rfl⟩

theorem generateClientKubeconfigAuthSecret_asks (ca : Certificate) :
    Asks s Consults (generateClientKubeconfigAuthSecret libs ca r layout)
      (fun secret => secret.metadata.key = ⟨r.ns, clientKubeconfigName r.name⟩) :=
  (Asks.signCSR ca _ (by trivial)).bind fun _ _ => .ret rfl

/-- The hash that a Secret records under an annotation is that of the given names. -/
def Records (secret : Secret) (annotationKey : String) (names : List String) : Prop :=
  secret.metadata.annotations.getD annotationKey "" = sansHash libs names

/-- Both leaf certificates have the names of the specification, going by their hashes. -/
def LeavesCurrent (secret : Secret) : Prop :=
  Records libs secret pkiAPIServerHashAnnotation (apiServerAltNames r) ∧
  Records libs secret pkiPlaneTunnelHashAnnotation
    (planeTunnelAltNames r.spec.cluster.controlPlaneExternalEndpoint.planeTunnel.host)

/-- A rotation changes data and annotations only, and reports it. -/
structure RotatedFrom (secret : Secret) (res : Secret × Bool) : Prop where
  relabelled : Relabelled secret.metadata res.1.metadata
  annotations : KeepsAnnotations secret.metadata.annotations res.1.metadata.annotations
  data : res.1.data.isEmpty = true → secret.data.isEmpty = true
  unchanged : res.2 = false → res.1 = secret

theorem RotatedFrom.refl (secret : Secret) : RotatedFrom secret (secret, false) :=
  ⟨.refl _, .of_eq rfl, fun h => h, fun _ => rfl⟩

theorem RotatedFrom.trans {secret : Secret} {res₁ res₂ : Secret × Bool} (h₁ : RotatedFrom secret res₁)
    (h₂ : RotatedFrom res₁.1 res₂) : RotatedFrom secret (res₂.1, res₁.2 || res₂.2) where
  relabelled := by
    obtain ⟨_, _, hmeta₁⟩ := h₁.relabelled
    obtain ⟨labels, annotations, hmeta₂⟩ := h₂.relabelled
    exact ⟨labels, annotations, by rw [hmeta₂, hmeta₁]⟩
  annotations := h₁.annotations.trans h₂.annotations
  data := fun h => h₁.data (h₂.data h)
  unchanged := by
    intro hno
    rw [Bool.or_eq_false_iff] at hno
    exact (h₂.unchanged hno.2).trans (h₁.unchanged hno.1)

theorem storeCertificate_rotated {secret secret' : Secret}
    {certKey keyKey annotationKey wantHash : String} {cert : Certificate}
    (hkey : annotationKey ∈ hashAnnotations)
    (h : storeCertificate secret certKey keyKey annotationKey wantHash cert = .ok secret') :
    RotatedFrom secret (secret', true) := by
  unfold storeCertificate assignDecoded at h
  by_cases hempty : secret.data.isEmpty = true
  · rw [if_pos hempty] at h
    cases h
  · rw [if_neg hempty] at h
    cases h
    refine ⟨⟨_, _, rfl⟩, keepsAnnotations_insert hkey _ _, fun hdata => ?_, fun h => by cases h⟩
    exact absurd (Std.ExtTreeMap.isEmpty_iff.mp hdata) Std.ExtTreeMap.insert_ne_empty

/-- Certificates are stored in a Secret that has data. -/
theorem storeCertificate_total {secret : Secret} (certKey keyKey annotationKey wantHash : String)
    (cert : Certificate) (h : secret.data.isEmpty ≠ true) :
    ∃ secret', storeCertificate secret certKey keyKey annotationKey wantHash cert = .ok secret' := by
  unfold storeCertificate assignDecoded
  rw [if_neg h]
  exact ⟨_, rfl⟩

/-- A Secret without data has no authority, and then nothing is signed. -/
theorem regenerateLeaf_asks {ca : Certificate} {secret : Secret} {annotationKey : String}
    (hkey : annotationKey ∈ hashAnnotations) (hca : secret.data.isEmpty = true → ca.cert = [])
    (csr : CSR) (certKey keyKey what : String) :
    Asks s Consults (regenerateLeaf libs ca secret annotationKey csr certKey keyKey what) (fun res =>
      RotatedFrom secret res ∧ (res.2 = false → Records libs secret annotationKey csr.hostnames)) := by
  unfold regenerateLeaf
  dsimp only
  split
  next hrecorded => exact .ret ⟨.refl secret, fun _ => hrecorded⟩
  · refine (Asks.signCSR ca csr (by trivial)).attempt.bind fun x hx => ?_
    rcases x with (e | t) | cert
    · exact .fail _
    · exact .ofResult hx
    · have hstore : Asks s Consults (Go.ofResult (storeCertificate secret certKey keyKey
          annotationKey (sansHash libs csr.hostnames) cert)) (fun s => RotatedFrom secret (s, true)) := by
        refine .ofResult ?_
        cases h : storeCertificate secret certKey keyKey annotationKey
            (sansHash libs csr.hostnames) cert with
        | ok secret' => exact storeCertificate_rotated hkey h
        | error f =>
            rcases hx with hany | hne
            · exact hany f
            · obtain ⟨_, hok⟩ := storeCertificate_total certKey keyKey annotationKey
                (sansHash libs csr.hostnames) cert fun hempty => hne (hca hempty)
              rw [hok] at h
              cases h
      exact hstore.bind fun secret' hrot => .ret ⟨hrot, fun h => by cases h⟩

theorem storedCA_of_isEmpty {secret : Secret} (h : secret.data.isEmpty = true) :
    (storedCA secret layout).cert = [] := by
  rw [Std.ExtTreeMap.isEmpty_iff] at h
  unfold storedCA secretEntry
  rw [h]
  rfl

theorem regeneratePKILeafCerts_asks (secret : Secret) :
    Asks s Consults (regeneratePKILeafCerts libs secret r layout) (fun res =>
      RotatedFrom secret res ∧ (res.2 = false → LeavesCurrent libs r secret)) := by
  refine (regenerateLeaf_asks libs s (by decide) storedCA_of_isEmpty _ _ _ _).bind
    fun r₁ ⟨h₁, hnames₁⟩ => ?_
  refine (regenerateLeaf_asks libs s (by decide) (fun h => storedCA_of_isEmpty (h₁.data h)) _ _ _ _).bind
    fun r₂ ⟨h₂, hnames₂⟩ => ?_
  refine .ret ⟨h₁.trans h₂, fun hno => ?_⟩
  rw [Bool.or_eq_false_iff] at hno
  refine ⟨hnames₁ hno.1, ?_⟩
  rw [← h₁.unchanged hno.1]
  exact hnames₂ hno.2

theorem validateClientKubeconfigSecret_asks (secret : Secret) (ca : Certificate) :
    Asks s Consults (validateClientKubeconfigSecret libs secret ca r layout) (fun _ => True) := by
  rw [validateClientKubeconfigSecret]
  split
  · exact .ret trivial
  · split
    · exact .ret trivial
    · dsimp only
      split
      · exact .ret trivial
      · refine (Asks.call (by trivial)).bind fun x _ => ?_
        cases x <;> exact .ret trivial

end Generators

/-! ## The setup functions -/

section Setup

variable {s : Setting} {r : Runtime}

/-- The setup functions that do not look at the owner. -/
theorem createOrSync_setup {k : Kind} {desired : Obj k} {sync : Obj k → Obj k → Option (Obj k)}
    (hk : s.kind k) (hns : (Obj.getMeta k desired).ns = r.ns)
    (hmem : (k, (Obj.getMeta k desired).name) ∈ unguardedKeys r.name)
    (hsync : ∀ a e o, sync a e = some o → Relabelled (Obj.getMeta k e) (Obj.getMeta k o))
    (hannotations : ∀ a e o, sync a e = some o →
      (Obj.getMeta k a).annotations = (Obj.getMeta k desired).annotations →
      Annotates r k (Obj.getMeta k desired).key (Obj.getMeta k e).annotations
        (Obj.getMeta k o).annotations) :
    Setup s r (createOrSync r k desired sync) (fun _ => True) := by
  refine (Asks.setControllerRef r k desired).bind fun desired' ⟨hkey, ha⟩ => ?_
  rw [hkey]
  have hmanaged : Managed r k (Obj.getMeta k desired).key := ⟨hns, List.mem_append_left _ hmem⟩
  refine .getOrElse trivial (.createObj ⟨hk, hkey ▸ hmanaged⟩) fun existing hget => ?_
  refine .updateIfNeeded fun o ho => ⟨hk, _, existing, hget, ?_⟩
  exact ⟨hmanaged, Or.inl hmem, hsync _ _ o ho, hannotations _ _ o ho ha⟩

theorem createOrSync_deployment_setup (hk : s.kind .deployment) {desired : Deployment}
    (hns : desired.metadata.ns = r.ns)
    (hmem : (Kind.deployment, desired.metadata.name) ∈ unguardedKeys r.name) :
    Setup s r (createOrSync r .deployment desired syncDeployment) (fun _ => True) :=
  createOrSync_setup hk hns hmem syncDeployment_meta fun _ _ _ ho _ =>
    Or.inl (.of_eq (syncDeployment_annotations ho))

theorem setupService_setup (hk : s.kind .service) : Setup s r (setupService r) (fun _ => True) := by
  refine (Asks.call trivial).bind fun ranges _ => ?_
  refine createOrSync_setup hk rfl List.mem_cons_self syncService_meta fun a e o ho ha => ?_
  refine Or.inr ⟨rfl, fun _ b v _ hb => ?_⟩
  rw [show (Obj.getMeta .service o).annotations = _ from syncService_annotations ho,
    show Service.metadata a = Obj.getMeta .service a from rfl, ha]
  show (mergeArgs _ _ _ (serviceAnnotations r))[b]? = some v
  rw [mergeArgs, GoMap.getElem?_setAll_visit, hb, Option.some_or]

theorem generateDeployment_shape {o : Orders} {opts : DeployOpts} {dep : Deployment}
    (h : generateDeployment o r layout opts = .ok dep) :
    dep.metadata.name = r.name ∧ Fresh r dep.metadata := by
  rw [generateDeployment] at h
  cases he : storageEnv r.spec.cluster.storage with
  | error f =>
      rw [he] at h
      cases h
  | ok env =>
      rw [he] at h
      cases h
      exact ⟨rfl, rfl, rfl⟩

theorem setupDeployment_setup (hk : s.kind .deployment) (opts : DeployOpts)
    (hfault : ∀ o f, generateDeployment o r layout opts = .error f → s.fault f) :
    Setup s r (setupDeployment r opts) (fun _ => True) := by
  refine (Asks.call trivial).bind fun ranges _ => ?_
  have hgen : Setup s r (Go.ofResult (generateDeployment ranges.strings r layout opts))
      (fun dep => dep.metadata.name = r.name ∧ Fresh r dep.metadata) := by
    refine .ofResult ?_
    cases h : generateDeployment ranges.strings r layout opts with
    | ok dep => exact generateDeployment_shape h
    | error f => exact hfault _ f h
  refine hgen.bind fun dep ⟨hname, hns, _⟩ => createOrSync_deployment_setup hk hns ?_
  rw [hname]
  simp [unguardedKeys]

theorem setupClusterAgentDeployment_setup (hk : s.kind .deployment) (opts : DeployOpts) :
    Setup s r (setupClusterAgentDeployment r opts) (fun _ => True) := by
  refine (Asks.call trivial).bind fun ranges _ => createOrSync_deployment_setup hk rfl ?_
  simp [unguardedKeys, generateClusterAgentDeployment, deploymentOf]

theorem setupPlaneTunnelDeployment_setup (wrkCtx : WorkerContext) (hk : s.kind .deployment)
    (opts : DeployOpts) : Setup s r (setupPlaneTunnelDeployment wrkCtx r opts) (fun _ => True) := by
  refine (Asks.call trivial).bind fun ranges _ => createOrSync_deployment_setup hk rfl ?_
  simp [unguardedKeys, generatePlaneTunnelDeployment, deploymentOf]

/-! The other setup functions refuse an object of another owner. -/

/-- The Services of the plane tunnel have other names than the Runtime. -/
theorem tunnelService_name_ne {wrkCtx : WorkerContext} {svc : Service}
    (h : svc ∈ generatePlaneTunnelService wrkCtx r) : svc.metadata.key ≠ r.metadata.key := by
  have hlen : ∀ s : String, s ≠ "" → r.name ++ s ≠ r.name := by
    intro s hs heq
    have h := congrArg String.length heq
    rw [String.length_append] at h
    exact hs (String.length_eq_zero_iff.mp (by omega))
  intro hkey
  have hname : svc.metadata.name = r.name := congrArg NamespacedName.name hkey
  simp only [generatePlaneTunnelService, List.mem_cons, List.not_mem_nil, or_false] at h
  rcases h with rfl | rfl | rfl
  · exact hlen _ (by decide) hname
  · exact hlen _ (by decide) hname
  · exact hlen _ (by decide) hname

theorem setupTunnelService_setup (hk : s.kind .service) {svc : Service}
    (hmanaged : Managed r .service svc.metadata.key) (hne : svc.metadata.key ≠ r.metadata.key) :
    Setup s r (setupTunnelService r svc) (fun _ => True) := by
  refine (Asks.setControllerRef r .service svc).bind fun svc' ⟨hkey, _⟩ => ?_
  have hkey : svc'.metadata.key = svc.metadata.key := hkey
  rw [hkey]
  refine .getOrElse trivial (.createObj ⟨hk, hkey ▸ hmanaged⟩) fun existing hget => ?_
  split
  next hctl =>
    refine .updateIfNeeded fun o ho => ⟨hk, _, existing, hget, ?_⟩
    exact ⟨hmanaged, Or.inr hctl, syncService_meta _ _ o ho,
      Or.inr ⟨rfl, fun heq => absurd heq hne⟩⟩
  · exact .fail _

theorem setupPlaneTunnelService_setup (wrkCtx : WorkerContext) (hk : s.kind .service) :
    Setup s r (setupPlaneTunnelService wrkCtx r) (fun _ => True) := by
  have hall : ∀ svc ∈ generatePlaneTunnelService wrkCtx r,
      Managed r .service svc.metadata.key ∧ svc.metadata.key ≠ r.metadata.key := by
    intro svc hsvc
    refine ⟨?_, tunnelService_name_ne hsvc⟩
    simp only [generatePlaneTunnelService, List.mem_cons, List.not_mem_nil, or_false] at hsvc
    rcases hsvc with rfl | rfl | rfl <;> simp [Managed, tunnelService, objectKeys, ObjectMeta.key]
  rw [setupPlaneTunnelService]
  generalize generatePlaneTunnelService wrkCtx r = svcs at hall
  -- induction over the Services still to be set up
  induction svcs with
  | nil => exact .ret trivial
  | cons svc svcs ih =>
      obtain ⟨hmanaged, hne⟩ := hall svc List.mem_cons_self
      rw [List.forM_eq_forM, List.forM_cons]
      refine (setupTunnelService_setup hk hmanaged hne).bind fun _ _ => ?_
      exact ih fun s hs => hall s (List.mem_cons_of_mem _ hs)

variable (libs : Libs)

theorem generateClusterAgentRuntimeSecret_shape {libs : Libs} {secret : Secret}
    (h : generateClusterAgentRuntimeSecret libs r layout = .ok secret) :
    secret.metadata.key = ⟨r.ns, clusterAgentRuntimeSecretName r.name⟩ ∧ Fresh r secret.metadata := by
  rw [generateClusterAgentRuntimeSecret] at h
  split at h
  · cases h
  · cases h
    exact ⟨rfl, rfl, rfl⟩

theorem setupClusterAgentRuntimeSecret_setup (hk : s.kind .secret) :
    Setup s r (setupClusterAgentRuntimeSecret libs r) (fun _ => True) := by
  refine (Asks.ofExcept fun _ h => (generateClusterAgentRuntimeSecret_shape h).1).bind
    fun desired hkey => (Asks.call trivial).bind fun ranges _ => ?_
  refine (Asks.setControllerRef r .secret desired).bind fun desired' ⟨hkey', _⟩ => ?_
  have hkey : desired'.metadata.key = ⟨r.ns, clusterAgentRuntimeSecretName r.name⟩ := hkey'.trans hkey
  have hmanaged : Managed r .secret ⟨r.ns, clusterAgentRuntimeSecretName r.name⟩ :=
    ⟨rfl, by simp [objectKeys]⟩
  rw [hkey]
  refine .getOrElse trivial ?_ fun existing hget => ?_
  · exact .createTolerant ⟨hk, hkey ▸ hmanaged⟩ (fun _ => rfl) (fun _ => rfl)
  · split
    next hctl =>
      refine (Asks.updateIfNeeded fun o ho => ⟨hk, _, existing, hget, ?_⟩).bind
        fun _ _ => .ret trivial
      exact ⟨hmanaged, Or.inr hctl, syncSecret_meta _ _ o ho,
        Or.inl (.of_eq (syncSecret_annotations ho))⟩
    · exact .fail _

theorem managed_self {k : Kind} (h : (k, r.name) ∈ objectKeys r.name) : Managed r k r.metadata.key :=
  ⟨rfl, h⟩

theorem setupControlPlaneConfiguration_setup (hk : s.kind .configMap) (hfault : ∀ f, s.fault f) :
    Setup s r (setupControlPlaneConfiguration libs r) (fun _ => True) := by
  refine (Asks.call trivial).bind fun ranges _ => ?_
  have hgen : Setup s r (Go.ofResult (generateControlPlaneConfig libs.toYaml libs.sha256
      ranges.strings r layout)) (fun p => p.1.metadata.key = r.metadata.key) := by
    refine .ofResult ?_
    cases h : generateControlPlaneConfig libs.toYaml libs.sha256 ranges.strings r layout with
    | ok p => exact (generateControlPlaneConfig_shape libs r h).1
    | error f => exact hfault f
  have hmanaged : Managed r .configMap r.metadata.key := managed_self (by simp [objectKeys])
  refine hgen.bind fun p hkey => ?_
  obtain ⟨desired, hash⟩ := p
  dsimp only at hkey ⊢
  rw [hkey]
  refine .getOrElse trivial ?_ fun existing hget => ?_
  · refine (Asks.setControllerRef r .configMap desired).bind fun desired' ⟨hkey', _⟩ => ?_
    have hkey : (Obj.getMeta .configMap desired').key = r.metadata.key := hkey'.trans hkey
    exact (Asks.createObj ⟨hk, hkey ▸ hmanaged⟩).bind fun _ _ => .ret trivial
  · split
    next hctl =>
      split
      · exact .ret trivial
      · refine Asks.bind (R := fun _ => True) ?_ fun _ _ => .ret trivial
        -- the hash is stored among the existing annotations
        have hassign : Setup s r (Go.ofResult (assignDecoded existing.metadata.annotations
            controlPlaneConfigHashAnnotation hash)) (fun annotations => annotations =
              existing.metadata.annotations.insert controlPlaneConfigHashAnnotation hash) := by
          unfold assignDecoded
          split
          · exact .ofResult (hfault _)
          · exact .ofResult rfl
        refine hassign.bind fun annotations hannotations => ?_
        refine .updateObj ⟨hk, _, existing, hget, hmanaged, Or.inr hctl, ⟨_, _, rfl⟩, Or.inl ?_⟩
        show KeepsAnnotations existing.metadata.annotations annotations
        rw [hannotations]
        exact keepsAnnotations_insert (by decide) _ _
    · exact .fail _

theorem setupPKIAuthConfiguration_setup (hk : s.kind .secret) :
    Setup s r (setupPKIAuthConfiguration libs r) (fun _ => True) := by
  have hmanaged : Managed r .secret r.metadata.key := managed_self (by simp [objectKeys])
  refine .getOrElse trivial ?_ fun existing hget => ?_
  · refine (generatePKIAuthSecret_asks libs r s).setup.bind fun secret ⟨hkey, _⟩ => ?_
    refine (Asks.setControllerRef r .secret secret).bind fun secret' ⟨hkey', _⟩ => ?_
    have hkey : (Obj.getMeta .secret secret').key = r.metadata.key := hkey'.trans hkey
    exact .createTolerant ⟨hk, hkey ▸ hmanaged⟩ (fun _ => rfl) (fun _ => rfl)
  · split
    next hctl =>
      refine (regeneratePKILeafCerts_asks libs r s existing).setup.attempt.bind fun x hx => ?_
      rcases x with (e | t) | ⟨secret, updated⟩
      · exact .fail _
      · exact .ofResult hx
      · obtain ⟨hrot, -⟩ := hx
        cases updated with
        | false => exact .ret trivial
        | true =>
            refine (Asks.call ⟨hk, _, existing, hget, hmanaged, Or.inr hctl, hrot.relabelled,
              Or.inl hrot.annotations⟩).bind fun y _ => ?_
            cases y with
            | ok stored => exact .ret trivial
            | error e => exact .fail e
    · exact .fail _

theorem setupClientKubeconfig_setup (hk : s.kind .secret) :
    Setup s r (setupClientKubeconfig libs r) (fun _ => True) := by
  have hmanaged : Managed r .secret ⟨r.ns, clientKubeconfigName r.name⟩ :=
    ⟨rfl, by simp [objectKeys]⟩
  refine (Asks.call trivial).bind fun x _ => ?_
  cases x with
  | error e => exact .fail _
  | ok pkiSecret =>
      refine (generateClientKubeconfigAuthSecret_asks libs r s _).setup.bind fun newSecret hkey => ?_
      refine .getOrElse trivial ?_ fun existing hget => ?_
      · refine (Asks.setControllerRef r .secret newSecret).bind fun newSecret' ⟨hkey', _⟩ => ?_
        have hkey : (Obj.getMeta .secret newSecret').key = _ := hkey'.trans hkey
        exact .createTolerant ⟨hk, hkey ▸ hmanaged⟩ (fun _ => rfl) (fun _ => rfl)
      · split
        next hctl =>
          refine (validateClientKubeconfigSecret_asks libs r s existing _).setup.bind fun v _ => ?_
          cases v with
          | ok u => exact .ret trivial
          | error e =>
              exact .updateObj ⟨hk, _, existing, hget, hmanaged, Or.inr hctl, .refl _,
                Or.inl (.of_eq rfl)⟩
        · exact .fail _

/-- **The calls of the setup functions.** -/
theorem setupAll_setup (wrkCtx : WorkerContext) (hk : ∀ k, s.kind k) (hfault : ∀ f, s.fault f) :
    Setup s r (setupAll libs wrkCtx r) (fun _ => True) := by
  refine (setupPKIAuthConfiguration_setup libs (hk _)).orDegraded.bind fun pkiSecret _ => ?_
  refine (setupClientKubeconfig_setup libs (hk _)).orDegraded.bind fun _ _ => ?_
  refine (setupClusterAgentRuntimeSecret_setup libs (hk _)).orDegraded.bind fun _ _ => ?_
  refine (setupClusterAgentDeployment_setup (hk _) _).orDegraded.bind fun _ _ => ?_
  refine (setupControlPlaneConfiguration_setup libs (hk _) hfault).orDegraded.bind fun _ _ => ?_
  refine (setupDeployment_setup (hk _) _ fun _ f _ => hfault f).orDegraded.bind fun _ _ => ?_
  refine (setupService_setup (hk _)).orDegraded.bind fun _ _ => ?_
  refine (setupPlaneTunnelService_setup wrkCtx (hk _)).orDegraded.bind fun _ _ => ?_
  refine (setupPlaneTunnelDeployment_setup wrkCtx (hk _) _).orDegraded.bind fun _ _ => ?_
  exact .ret trivial

end Setup

/-! ## The rest of a pass -/

section Reconcile

variable {s : Setting} {P : Call → Prop} {T : Runtime → Prop} {req : NamespacedName}
  (hget : ∀ r, s.ans (.getRuntime req) (.ok r) → T r) (hfetch : P (.getRuntime req))
  (hreport : ∀ r, P (.updateRuntimeStatus r))
include hget hfetch

theorem fetch_asks : Asks s P (runtimeCall (Go.call (.getRuntime req))) T :=
  (Asks.call hfetch).bind fun x hx => .ofExcept fun r hr => hget r (by rw [hr] at hx; exact hx)

include hreport

omit hget hfetch in
theorem report_asks (r : Runtime) :
    Asks s P (runtimeCall (Go.call (.updateRuntimeStatus r))) (fun _ => True) :=
  (Asks.call (hreport r)).bind fun _ _ => .ofExcept fun _ _ => trivial

theorem prepare_asks {r : Runtime} (hr : T r) : Asks s P (prepare req r) T := by
  rw [prepare]
  split
  · exact (report_asks hreport _).bind fun _ _ => fetch_asks hget hfetch
  · exact .ret hr

theorem finish_asks (libs : Libs) (pkiSecret : Secret) :
    Asks s P (finish libs req pkiSecret) (fun _ => True) := by
  refine (fetch_asks hget hfetch).bind fun r _ => ?_
  refine (Asks.ofExcept fun _ _ => trivial).bind fun certs (_ : True) => ?_
  exact (report_asks hreport _).bind fun _ _ => .ret trivial

/-- A reconciliation reads and reports the Runtime, and sets up the objects of what it read. -/
theorem reconcile_asks (libs : Libs) (wrkCtx : WorkerContext) (hbuilt : ∀ g, P (.built g))
    (hsetup : ∀ r, T r → Asks s P (setupAll libs wrkCtx r) (fun _ => True)) :
    Asks s P (reconcile libs wrkCtx req) (fun _ => True) := by
  refine (Asks.call hfetch).bind fun x hx => ?_
  cases x with
  | error e =>
      dsimp only
      split
      · exact .ret trivial
      · exact .fail e
  | ok r =>
      refine (prepare_asks hget hfetch hreport (hget r hx)).bind fun r' hr' => ?_
      refine (hsetup r' hr').bind fun pkiSecret _ => ?_
      exact (Asks.call (hbuilt _)).bind fun _ _ => finish_asks hget hfetch hreport libs pkiSecret

end Reconcile

end Heir.Controller.Runtime
