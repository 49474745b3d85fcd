import Heir.Controller.Runtime.NilSafety

set_option autoImplicit false

/-! # Reconciliations that end with a nil panic

The two expressions of `NilSafety` are reached. For every Runtime and ConfigMap that do not give
them what they need there is a cluster, with nothing in it that the Runtime does not control, in
which a reconciliation runs into a nil pointer or a nil map: the PKI Secret is there and up to date,
and everything else is created on the way. With that `reconcile_nil_safe_iff` says for which
Runtimes and ConfigMaps `Reconcile` is safe.
-/

namespace Heir.Controller.Runtime

open Heir.ControlPlane Heir.Core Heir.Runtime Interact

/-! ## Runs that panic -/

section Panics

variable {d : Defaulting} {c : Cluster} {α β : Type}

/-- Some run ends with a nil panic. -/
def NilPanics (d : Defaulting) (c : Cluster) (p : Go α) : Prop :=
  p.run.may (signingServer d) (fun x _ => ¬ NilSafe x) c

theorem NilPanics.bind {p : Go α} {f : α → Go β} (h : NilPanics d c p) : NilPanics d c (p >>= f) := by
  rw [NilPanics, ExceptT.run_bind, Prog.may_bind]
  refine Prog.may.mono h fun x c' hx => ?_
  cases x with
  | ok a => exact absurd (NilSafe.ok a) hx
  | error e => exact fun hsafe => hx hsafe.pass

theorem nilPanics_ofResult {x : GoResult α} (h : ¬ NilSafe x) : NilPanics d c (Go.ofResult x) := h

theorem NilPanics.orDegraded {p : Go α} (h : NilPanics d c p) (r : Runtime)
    (reason : String) : NilPanics d c (Runtime.orDegraded r reason p) := by
  rw [NilPanics, Runtime.orDegraded, Go.run_attempt_bind, Prog.may_bind]
  refine Prog.may.mono h fun x c' hx => ?_
  rcases x with (e | t) | a
  · exact absurd (NilSafe.error e) hx
  · exact fun hsafe => hx hsafe.pass
  · exact absurd (NilSafe.ok a) hx

theorem succeeds_orDegraded {p : Go α} {post : α → Cluster → Prop}
    (h : Succeeds (signingServer d) p post c) (r : Runtime) (reason : String) :
    Succeeds (signingServer d) (Runtime.orDegraded r reason p) post c :=
  .lift_run_bind (h.mono fun _ _ hpost => .ret hpost)

end Panics

/-! ## A cluster that lets a reconciliation through -/

section Ready

variable (libs : Libs) (r : Runtime) (cm : Option ConfigMap)

/-- A PKI Secret that needs no rotation. -/
def readyPki : Secret where
  metadata :=
    { name := r.name
      ns := r.ns
      annotations := mapOf
        [( pkiAPIServerHashAnnotation, sansHash libs (apiServerAltNames r)),
         ( pkiPlaneTunnelHashAnnotation, sansHash libs
            (planeTunnelAltNames r.spec.cluster.controlPlaneExternalEndpoint.planeTunnel.host))]
      ownerReferences := [controllerRef r] }
  data := (∅ : GoMap Bytes).insert layout.pki.caCert.secretKey [1]

/-- The Runtime with its ConfigMap, if it has one. -/
def configCluster : Cluster :=
  match cm with
  | none => Cluster.withRuntime r
  | some existing => (Cluster.withRuntime r).put .configMap existing

/-- The same with a PKI Secret. -/
def readyCluster : Cluster := (configCluster r cm).put .secret (readyPki libs r)

/-- What the way to the two expressions relies on: the PKI Secret, the ConfigMap, and that some
names are free. -/
structure ReadyFor (free : List (Kind × NamespacedName)) (c : Cluster) : Prop where
  pki : c.lookup .secret r.metadata.key = some (readyPki libs r)
  configMap : c.lookup .configMap r.metadata.key = cm
  free : ∀ e ∈ free, c.lookup e.1 e.2 = none

/-- The names that are taken on the way. -/
def agentSecretKey : NamespacedName := ⟨r.ns, clusterAgentRuntimeSecretName r.name⟩

def agentDeploymentKey : NamespacedName := ⟨r.ns, clusterAgentName r.name⟩

def kubeconfigKey : NamespacedName := ⟨r.ns, clientKubeconfigName r.name⟩

variable {libs r cm} {d : Defaulting} {c : Cluster}

theorem ReadyFor.put {free : List (Kind × NamespacedName)} (h : ReadyFor libs r cm free c) {k : Kind}
    (o : Obj k) (hpki : (k, (Obj.getMeta k o).key) ≠ (.secret, r.metadata.key))
    (hcm : (k, (Obj.getMeta k o).key) ≠ (.configMap, r.metadata.key))
    (hfree : (k, (Obj.getMeta k o).key) ∉ free) : ReadyFor libs r cm free (c.put k o) where
  pki := by
    rw [c.lookup_put_of_ne o fun he => hpki (Prod.ext he.1.symm he.2.symm)]
    exact h.pki
  configMap := by
    rw [c.lookup_put_of_ne o fun he => hcm (Prod.ext he.1.symm he.2.symm)]
    exact h.configMap
  free := by
    intro e he
    have hne : ¬ (e.1 = k ∧ e.2 = (Obj.getMeta k o).key) := by
      intro heq
      have hsame : e = (k, (Obj.getMeta k o).key) := Prod.ext heq.1 heq.2
      exact hfree (hsame ▸ he)
    rw [c.lookup_put_of_ne o hne]
    exact h.free e he

/-- A ConfigMap that belongs to the Runtime. -/
structure OwnConfigMap (r : Runtime) (existing : ConfigMap) : Prop where
  key : existing.metadata.key = r.metadata.key
  controlled : isControlledBy existing.metadata r.metadata = true

theorem ReadyFor.of_lookup {free : List (Kind × NamespacedName)} (h : ReadyFor libs r cm free c)
    {c' : Cluster} (hlookup : ∀ k key, c'.lookup k key = c.lookup k key) :
    ReadyFor libs r cm free c' where
  pki := (hlookup _ _).trans h.pki
  configMap := (hlookup _ _).trans h.configMap
  free := fun e he => (hlookup _ _).trans (h.free e he)

theorem configCluster_lookup (hcm : ∀ existing, cm = some existing → OwnConfigMap r existing) :
    (configCluster r cm).lookup .configMap r.metadata.key = cm := by
  cases cm with
  | none => rfl
  | some existing =>
      rw [← (hcm existing rfl).key]
      exact Cluster.lookup_put_self _ .configMap existing

theorem configCluster_runtime : (configCluster r cm).runtime = some r := by
  cases cm <;> rfl

theorem configCluster_other {k : Kind} (hk : k ≠ .configMap) (key : NamespacedName) :
    (configCluster r cm).lookup k key = none := by
  have hempty : (Cluster.withRuntime r).lookup k key = none := by
    cases k <;> rfl
  cases cm with
  | none => exact hempty
  | some existing =>
      show ((Cluster.withRuntime r).put .configMap existing).lookup k key = none
      rw [Cluster.lookup_put_of_ne _ _ fun h => hk h.1]
      exact hempty

theorem isControlledBy_readyPki : isControlledBy (readyPki libs r).metadata r.metadata = true := by
  simp [readyPki, isControlledBy, getControllerOf, controllerRef]

theorem readyCluster_owned (hcm : ∀ existing, cm = some existing → OwnConfigMap r existing) (k : Kind)
    (key : NamespacedName) : Owned r (readyCluster libs r cm) k key := by
  intro o hl
  unfold readyCluster at hl
  by_cases hput : k = .secret ∧ key = (Obj.getMeta .secret (readyPki libs r)).key
  · obtain ⟨rfl, rfl⟩ := hput
    rw [Cluster.lookup_put_self] at hl
    cases hl
    exact isControlledBy_readyPki
  · rw [Cluster.lookup_put_of_ne _ _ hput] at hl
    by_cases hk : k = .configMap
    · subst hk
      cases cm with
      | none => cases hl
      | some existing =>
          by_cases hkey : key = existing.metadata.key
          · subst hkey
            have hself := (Cluster.withRuntime r).lookup_put_self .configMap existing
            have hsame : o = existing := Option.some.inj (hl.symm.trans hself)
            rw [hsame]
            exact (hcm existing rfl).controlled
          · have hother : ((Cluster.withRuntime r).put .configMap existing).lookup .configMap key = none :=
              Cluster.lookup_put_of_ne _ _ fun h => hkey h.2
            cases hl.symm.trans hother
    · rw [configCluster_other hk] at hl
      cases hl

theorem readyFor_readyCluster (hcm : ∀ existing, cm = some existing → OwnConfigMap r existing) :
    ReadyFor libs r cm
      [(.secret, kubeconfigKey r), (.secret, agentSecretKey r), (.deployment, agentDeploymentKey r)]
      (readyCluster libs r cm) where
  pki := Cluster.lookup_put_self _ .secret (readyPki libs r)
  configMap := by
    unfold readyCluster
    rw [Cluster.lookup_put_of_ne _ _ fun h => by cases h.1]
    exact configCluster_lookup hcm
  free := by
    have hfree : ∀ e : Kind × NamespacedName, e.1 ≠ .configMap → e ≠ (.secret, r.metadata.key) →
        (readyCluster libs r cm).lookup e.1 e.2 = none := by
      intro e hk hne
      unfold readyCluster
      rw [Cluster.lookup_put_of_ne _ _ fun h => hne (Prod.ext h.1 h.2)]
      exact configCluster_other hk e.2
    intro e he
    simp only [List.mem_cons, List.not_mem_nil, or_false] at he
    rcases he with rfl | rfl | rfl
    · exact hfree _ (by simp) (by simp [kubeconfigKey, clientKubeconfigName, ObjectMeta.key,
        ControlPlane.Runtime.name])
    · exact hfree _ (by simp) (by simp [agentSecretKey, clusterAgentRuntimeSecretName, ObjectMeta.key,
        ControlPlane.Runtime.name])
    · exact hfree _ (by simp) (by simp)

theorem getD_mapOf_of_mem {l : List (String × String)} {k v : String} (hd : (l.map Prod.fst).Nodup)
    (h : (k, v) ∈ l) : (mapOf l).getD k "" = v := by
  rw [mapOf, Std.ExtTreeMap.getD_eq_getD_getElem?, GoMap.getElem?_setAll_of_mem ∅ l hd h,
    Option.getD_some]

theorem leavesCurrent_readyPki {s : Runtime} (hs : CopyOf r s) :
    LeavesCurrent libs s (readyPki libs r) := by
  have hnodup : [ pkiAPIServerHashAnnotation, pkiPlaneTunnelHashAnnotation].Nodup := by decide
  obtain ⟨_, _, rfl⟩ := hs
  constructor
  · exact getD_mapOf_of_mem hnodup List.mem_cons_self
  · exact getD_mapOf_of_mem hnodup (List.mem_cons_of_mem _ List.mem_cons_self)

theorem storedCA_readyPki : (storedCA (readyPki libs r) layout).cert = [1] := by
  have hentry : (readyPki libs r).data[layout.pki.caCert.secretKey]? = some [1] :=
    (GoMap.getElem?_insert _ _ _ _).trans (if_pos rfl)
  unfold storedCA secretEntry
  rw [Std.ExtTreeMap.getD_eq_getD_getElem?, hentry]
  rfl

/-! ## The way to the configuration -/

variable {s : Runtime} {free : List (Kind × NamespacedName)}

theorem CopyOf.controls (hs : CopyOf r s) {m : ObjectMeta}
    (h : isControlledBy m r.metadata = true) : isControlledBy m s.metadata = true := by
  obtain ⟨_, _, rfl⟩ := hs
  exact h

theorem prepare_succeeds (hr : c.runtime = some r) :
    Succeeds (signingServer d) (prepare r.metadata.key r)
      (fun s c' => CopyOf r s ∧ ∀ k key, c'.lookup k key = c.lookup k key) c := by
  unfold prepare
  split
  · obtain ⟨s', c', ⟨version, hs'⟩, hr', hlookup, hserved⟩ := server_status_stored (d := d)
      (r := withAvailable r .unknown "Reconciling" "Starting reconciliation") hr rfl rfl
    have hkey : s'.metadata.key = r.metadata.key := by
      rw [hs']
      rfl
    have hget := server_getRuntime_found (d := d) hr'
    rw [hkey] at hget
    refine .bind (Prog.may_call (.ok s') c' ⟨hserved, trivial⟩ ⟨s', rfl, ?_⟩)
    exact Prog.may_call (.ok s') c' ⟨hget, trivial⟩ ⟨s', rfl, ⟨_, version, hs'⟩, hlookup⟩
  · exact .ret ⟨.refl r, fun _ _ => rfl⟩

theorem setupPKIAuthConfiguration_succeeds (h : ReadyFor libs r cm free c) (hs : CopyOf r s) :
    Succeeds (signingServer d) (setupPKIAuthConfiguration libs s) (fun _ c' => c' = c) c := by
  have howned : isControlledBy (readyPki libs r).metadata s.metadata = true :=
    hs.controls isControlledBy_readyPki
  unfold setupPKIAuthConfiguration
  rw [hs.key]
  refine succeeds_getOrElse_ok ⟨server_get_found h.pki, trivial⟩ ?_
  rw [if_pos howned, regeneratePKILeafCerts_current libs s (leavesCurrent_readyPki hs)]
  exact .lift_run_bind (.ret (.ret rfl))

theorem ReadyFor.create {k : Kind} {key : NamespacedName} {o : Obj k}
    (h : ReadyFor libs r cm ((k, key) :: free) c) (hkey : (Obj.getMeta k o).key = key)
    (hpki : (k, key) ≠ (.secret, r.metadata.key)) (hcm : (k, key) ≠ (.configMap, r.metadata.key))
    (hfree : (k, key) ∉ free) :
    ∃ c', signingServer d (.create k o) c (.ok (d.stored (c.version + 1) k o)) c' ∧
      ReadyFor libs r cm free c' := by
  have hl : c.lookup k (Obj.getMeta k o).key = none := by
    rw [hkey]
    exact h.free (k, key) List.mem_cons_self
  have hkey' : (Obj.getMeta k (d.stored (c.version + 1) k o)).key = key := by
    rw [Defaulting.stored_meta]
    exact hkey
  refine ⟨_, ⟨server_create_stored hl, trivial⟩, ?_⟩
  refine ReadyFor.put ⟨h.pki, h.configMap, fun e he => h.free e (List.mem_cons_of_mem _ he)⟩ _ ?_ ?_ ?_
  · rw [hkey']
    exact hpki
  · rw [hkey']
    exact hcm
  · rw [hkey']
    exact hfree

theorem signingServer_signs {ca : Certificate} (hca : ca.cert ≠ []) (csr : CSR) (cert : Certificate) :
    signingServer d (.signCSR ca csr certificateDuration) c (.ok cert) c :=
  ⟨⟨.certificate (.ok cert), rfl⟩, hca⟩

theorem generateClientKubeconfigAuthSecret_signed {ca : Certificate} (hca : ca.cert ≠ []) :
    Succeeds (signingServer d) (generateClientKubeconfigAuthSecret libs ca s layout)
      (fun secret c' => c' = c ∧ secret.metadata.key = kubeconfigKey s ∧ Fresh s secret.metadata) c := by
  unfold generateClientKubeconfigAuthSecret
  refine .bind (.call_bind (.ok ca) c (signingServer_signs hca _ ca) (.ret ?_))
  exact .ret ⟨rfl, rfl, rfl, rfl⟩

theorem setupClientKubeconfig_succeeds (hs : CopyOf r s)
    (h : ReadyFor libs r cm ((.secret, kubeconfigKey r) :: free) c)
    (hfree : (.secret, kubeconfigKey r) ∉ free) :
    Succeeds (signingServer d) (setupClientKubeconfig libs s)
      (fun _ c' => ReadyFor libs r cm free c') c := by
  have hskey : kubeconfigKey s = kubeconfigKey r := by
    obtain ⟨_, _, rfl⟩ := hs
    rfl
  have hpki : c.lookup .secret s.metadata.key = some (readyPki libs r) := by
    rw [hs.key]
    exact h.pki
  have hnone : c.lookup .secret (kubeconfigKey s) = none := by
    rw [hskey]
    exact h.free (.secret, kubeconfigKey r) List.mem_cons_self
  have hca : (storedCA (readyPki libs r) layout).cert ≠ [] := by
    rw [storedCA_readyPki]
    decide
  unfold setupClientKubeconfig
  refine .call_bind (.ok (readyPki libs r)) c ⟨server_get_found hpki, trivial⟩ (.bind ?_)
  refine (generateClientKubeconfigAuthSecret_signed hca).mono fun secret c₁ hsecret => ?_
  obtain ⟨rfl, hkey, hfresh⟩ := hsecret
  refine succeeds_getOrElse_notFound ⟨server_get_absent hnone, trivial⟩ ?_
  have href : setControllerRef s .secret secret = pure (withRef s .secret secret) :=
    setControllerRef_fresh hfresh
  rw [href, pure_bind]
  have hkey' : (Obj.getMeta .secret (withRef s .secret secret)).key = kubeconfigKey r :=
    ((withRef_key s .secret secret).trans hkey).trans hskey
  obtain ⟨c₂, hserved, hready⟩ := h.create (d := d) hkey'
    (by simp [kubeconfigKey, clientKubeconfigName, ObjectMeta.key, ControlPlane.Runtime.name]) (by simp) hfree
  exact .call_bind _ c₂ hserved (.ret hready)

theorem signingServer_ranges (ranges : Ranges) : signingServer d .ranges c ranges c :=
  ⟨⟨.ranges ranges, rfl⟩, trivial⟩

/-- The orders in which the keys are visited do not matter on the way. -/
def anyRanges : Ranges := ⟨fun _ => default, default⟩

theorem setupClusterAgentRuntimeSecret_succeeds
    (hmarshal : ∀ r', ∃ b, libs.marshalRuntime r' = .ok b) (hs : CopyOf r s)
    (h : ReadyFor libs r cm ((.secret, agentSecretKey r) :: free) c)
    (hfree : (.secret, agentSecretKey r) ∉ free) :
    Succeeds (signingServer d) (setupClusterAgentRuntimeSecret libs s)
      (fun _ c' => ReadyFor libs r cm free c') c := by
  have hskey : agentSecretKey s = agentSecretKey r := by
    obtain ⟨_, _, rfl⟩ := hs
    rfl
  obtain ⟨secret, hgen⟩ : ∃ secret, generateClusterAgentRuntimeSecret libs s layout = .ok secret := by
    obtain ⟨b, hb⟩ := hmarshal { s with status := {} }
    unfold generateClusterAgentRuntimeSecret
    rw [hb]
    exact ⟨_, rfl⟩
  have href : setControllerRef s .secret secret = pure (withRef s .secret secret) :=
    setControllerRef_fresh (generateClusterAgentRuntimeSecret_shape hgen).2
  have hkey : (Obj.getMeta .secret (withRef s .secret secret)).key = agentSecretKey r :=
    ((withRef_key s .secret secret).trans (generateClusterAgentRuntimeSecret_shape hgen).1).trans hskey
  have hnone : c.lookup .secret (withRef s .secret secret).metadata.key = none := by
    rw [show (withRef s .secret secret).metadata.key = _ from hkey]
    exact h.free (.secret, agentSecretKey r) List.mem_cons_self
  obtain ⟨c', hserved, hready⟩ := h.create (d := d) hkey
    (by simp [agentSecretKey, clusterAgentRuntimeSecretName, ObjectMeta.key, ControlPlane.Runtime.name])
    (by simp) hfree
  unfold setupClusterAgentRuntimeSecret
  rw [hgen]
  refine .bind (.ret (.call_bind anyRanges c (signingServer_ranges _) ?_))
  dsimp only
  rw [href, pure_bind]
  refine succeeds_getOrElse_notFound ⟨server_get_absent hnone, trivial⟩ ?_
  exact .call_bind _ c' hserved (.ret hready)

theorem setupClusterAgentDeployment_succeeds (hs : CopyOf r s)
    (h : ReadyFor libs r cm ((.deployment, agentDeploymentKey r) :: free) c)
    (hfree : (.deployment, agentDeploymentKey r) ∉ free) (opts : DeployOpts) :
    Succeeds (signingServer d) (setupClusterAgentDeployment s opts)
      (fun _ c' => ReadyFor libs r cm free c') c := by
  have hskey : agentDeploymentKey s = agentDeploymentKey r := by
    obtain ⟨_, _, rfl⟩ := hs
    rfl
  unfold setupClusterAgentDeployment
  refine .call_bind anyRanges c (signingServer_ranges _) ?_
  generalize hdesired : generateClusterAgentDeployment anyRanges.strings s layout opts = desired
  have hfresh : Fresh s (Obj.getMeta .deployment desired) := by
    rw [← hdesired]
    exact ⟨rfl, rfl⟩
  have hkey : (Obj.getMeta .deployment (withRef s .deployment desired)).key = agentDeploymentKey r := by
    rw [withRef_key, ← hskey, ← hdesired]
    rfl
  have hnone : c.lookup .deployment (agentDeploymentKey r) = none :=
    h.free (.deployment, agentDeploymentKey r) List.mem_cons_self
  obtain ⟨c', hserved, hready⟩ := h.create (d := d) hkey (by simp) (by simp) hfree
  unfold createOrSync
  rw [setControllerRef_fresh hfresh, pure_bind, hkey]
  refine succeeds_getOrElse_notFound ⟨server_get_absent hnone, trivial⟩ ?_
  rw [Succeeds, run_createObj]
  exact Prog.may_call _ c' hserved ⟨(), rfl, hready⟩

/-! ## The two panics -/

variable {o : Orders} {desired existing : ConfigMap} {hash : String}

theorem setupControlPlaneConfiguration_generated (hs : CopyOf r s)
    (hgen : generateControlPlaneConfig libs.toYaml libs.sha256 o r layout = .ok (desired, hash))
    {post : Except Fault String → Cluster → Prop}
    (h : (getOrElse .configMap r.metadata.key
      (do
        let desired ← setControllerRef s .configMap desired
        createObj .configMap desired
        return hash)
      (fun existing => do
        if isControlledBy existing.metadata s.metadata then
          let existingHash := hashConfigData libs.sha256 existing.data
          if existingHash = hash then return existingHash
          else
            updateConfigMap existing desired hash
            return hash
        else refuseToAdopt "secret" existing.metadata)).run.may (signingServer d) post c) :
    (setupControlPlaneConfiguration libs s).run.may (signingServer d) post c := by
  have hkey := (generateControlPlaneConfig_shape libs r hgen).1
  unfold setupControlPlaneConfiguration
  refine Prog.may_call (⟨o, default⟩ : Ranges) c (signingServer_ranges _) ?_
  show Prog.may _ _ (Go.ofResult (generateControlPlaneConfig _ _ o s layout) >>= _ : Go String).run c
  rw [hs.generate, hgen, Go.ofResult_ok_bind]
  dsimp only
  rw [hkey]
  exact h

theorem setupControlPlaneConfiguration_panics (hs : CopyOf r s)
    (h : ReadyFor libs r (some existing) free c) (howned : OwnConfigMap r existing)
    (hempty : existing.metadata.annotations.isEmpty = true)
    (hgen : generateControlPlaneConfig libs.toYaml libs.sha256 o r layout = .ok (desired, hash))
    (hdiff : hashConfigData libs.sha256 existing.data ≠ hash) :
    NilPanics d c (setupControlPlaneConfiguration libs s) := by
  refine setupControlPlaneConfiguration_generated hs hgen ?_
  rw [run_getOrElse]
  refine Prog.may_call (.ok existing) c ⟨server_get_found h.configMap, trivial⟩ ?_
  dsimp only
  rw [if_pos (hs.controls howned.controlled), if_neg hdiff]
  unfold updateConfigMap assignDecoded
  rw [if_pos hempty]
  exact fun hsafe => hsafe "assignment to entry in nil map" (by decide) rfl

theorem setupControlPlaneConfiguration_succeeds (hs : CopyOf r s) (h : ReadyFor libs r cm free c)
    (hcm : ∀ existing, cm = some existing → OwnConfigMap r existing)
    (hguard : ∀ existing, cm = some existing → existing.metadata.annotations.isEmpty = true →
      hashConfigData libs.sha256 existing.data = hash)
    (hgen : generateControlPlaneConfig libs.toYaml libs.sha256 o r layout = .ok (desired, hash)) :
    Succeeds (signingServer d) (setupControlPlaneConfiguration libs s) (fun _ _ => True) c := by
  have hshape := generateControlPlaneConfig_shape libs r hgen
  refine setupControlPlaneConfiguration_generated hs hgen ?_
  cases hcm' : cm with
  | none =>
      have hnone : c.lookup .configMap r.metadata.key = none := by
        rw [h.configMap, hcm']
      have hfresh : Fresh s desired.metadata := by
        obtain ⟨_, _, rfl⟩ := hs
        exact hshape.2.1
      have hkey : (Obj.getMeta .configMap (withRef s .configMap desired)).key = r.metadata.key :=
        (withRef_key s .configMap desired).trans hshape.1
      refine succeeds_getOrElse_notFound ⟨server_get_absent hnone, trivial⟩ ?_
      rw [setControllerRef_fresh (k := .configMap) hfresh, pure_bind]
      refine .bind ?_
      rw [Succeeds, run_createObj]
      refine Prog.may_call _ _ ⟨server_create_stored (by rw [hkey]; exact hnone), trivial⟩ ?_
      exact ⟨(), rfl, .ret trivial⟩
  | some existing =>
      have hl : c.lookup .configMap r.metadata.key = some existing := by
        rw [h.configMap, hcm']
      have hown := hcm existing hcm'
      refine succeeds_getOrElse_ok ⟨server_get_found hl, trivial⟩ ?_
      rw [if_pos (hs.controls hown.controlled)]
      dsimp only
      by_cases hsame : hashConfigData libs.sha256 existing.data = hash
      · rw [if_pos hsame]
        exact .ret trivial
      · have hannotated : existing.metadata.annotations.isEmpty ≠ true :=
          fun hempty => hsame (hguard existing hcm' hempty)
        rw [if_neg hsame]
        refine .bind ?_
        unfold updateConfigMap assignDecoded
        rw [if_neg hannotated]
        refine .bind (.ret ?_)
        rw [← hown.key] at hl
        rw [Succeeds, run_updateObj]
        exact Prog.may_call _ _ ⟨server_update_stored (k := .configMap) hl rfl, trivial⟩
          ⟨(), rfl, .ret trivial⟩

theorem setupDeployment_panics (hs : CopyOf r s)
    (hstorage : ¬ NilSafe (storageEnv r.spec.cluster.storage)) (opts : DeployOpts) :
    NilPanics d c (setupDeployment s opts) := by
  have hpanic : ¬ NilSafe (generateDeployment anyRanges.strings s layout opts) := by
    obtain ⟨_, _, rfl⟩ := hs
    intro hsafe
    apply hstorage
    intro t ht heq
    refine hsafe t ht ?_
    unfold generateDeployment
    dsimp only
    rw [heq]
    rfl
  unfold setupDeployment
  refine Prog.may_call anyRanges c (signingServer_ranges _) ?_
  exact (nilPanics_ofResult hpanic).bind

/-! ## Which Runtimes and ConfigMaps are safe -/

/-- In every cluster with this Runtime and this ConfigMap in which the Runtime controls all its
objects, no reconciliation ends with a nil panic. -/
def NeverNilPanics (libs : Libs) (wrkCtx : WorkerContext) (d : Defaulting) (r : Runtime)
    (cm : Option ConfigMap) : Prop :=
  ∀ c, c.runtime = some r → c.lookup .configMap r.metadata.key = cm →
    (∀ k name, (k, name) ∈ objectKeys r.name → Owned r c k ⟨r.ns, name⟩) →
    ∀ t x c', Exec (signingServer d) (reconcile libs wrkCtx r.metadata.key).run c t x c' → NilSafe x

variable {wrkCtx : WorkerContext}

/-- The way to the configuration is open: a panic there or right after it is reached. -/
theorem reconcile_panics (hmarshal : ∀ r', ∃ b, libs.marshalRuntime r' = .ok b)
    (hcm : ∀ existing, cm = some existing → OwnConfigMap r existing)
    (hpanic : ∀ s c, CopyOf r s → ReadyFor libs r cm [] c → ∀ (opts : String → DeployOpts)
      (rest : Go Secret), NilPanics d c (do
        let configHash ← orDegraded s "ControlPlaneConfigFailed"
          (setupControlPlaneConfiguration libs s)
        orDegraded s "DeploymentFailed" (setupDeployment s (opts configHash))
        rest)) :
    NilPanics d (readyCluster libs r cm) (reconcile libs wrkCtx r.metadata.key) := by
  have hr : (readyCluster libs r cm).runtime = some r :=
    (Cluster.put_runtime _ _ _).trans configCluster_runtime
  have hready₀ : ReadyFor libs r cm _ (readyCluster libs r cm) := readyFor_readyCluster hcm
  unfold reconcile
  refine Prog.may_call (.ok r) _ ⟨server_getRuntime_found hr, trivial⟩ ?_
  refine Succeeds.may_bind ((prepare_succeeds hr).mono fun s c₁ hs => ?_)
  obtain ⟨hs, hlookup⟩ := hs
  have hready₁ : ReadyFor libs r cm _ c₁ := hready₀.of_lookup hlookup
  refine NilPanics.bind ?_
  unfold setupAll
  refine Succeeds.may_bind (succeeds_orDegraded ?_ s _)
  refine (setupPKIAuthConfiguration_succeeds hready₁ hs).mono fun pkiSecret c₂ hc₂ => ?_
  rw [hc₂]
  refine Succeeds.may_bind (succeeds_orDegraded ?_ s _)
  refine (setupClientKubeconfig_succeeds hs hready₁ ?_).mono fun _ c₃ hready₃ => ?_
  · simp [kubeconfigKey, agentSecretKey, clientKubeconfigName, clusterAgentRuntimeSecretName]
  refine Succeeds.may_bind (succeeds_orDegraded ?_ s _)
  refine (setupClusterAgentRuntimeSecret_succeeds hmarshal hs hready₃ ?_).mono
    fun agentHash c₄ hready₄ => ?_
  · simp
  refine Succeeds.may_bind (succeeds_orDegraded ?_ s _)
  refine (setupClusterAgentDeployment_succeeds hs hready₄ (by simp) _).mono fun _ c₅ hready₅ => ?_
  exact hpanic s c₅ hs hready₅ (fun configHash => [( configHashAnnotation, configHash), _]) _

theorem NeverNilPanics.nilGuarded (hmarshal : ∀ r', ∃ b, libs.marshalRuntime r' = .ok b)
    (hcm : ∀ existing, cm = some existing → OwnConfigMap r existing)
    (h : NeverNilPanics libs wrkCtx d r cm) : NilGuarded libs r cm := by
  have hno : ¬ NilPanics d (readyCluster libs r cm) (reconcile libs wrkCtx r.metadata.key) := by
    intro hpanics
    obtain ⟨t, x, c', he, hx⟩ := Prog.may.exec hpanics
    have hr : (readyCluster libs r cm).runtime = some r :=
      (Cluster.put_runtime _ _ _).trans configCluster_runtime
    have hready : ReadyFor libs r cm _ (readyCluster libs r cm) := readyFor_readyCluster hcm
    exact hx (h _ hr hready.configMap
      (fun k name _ => readyCluster_owned hcm k _) t x c' he)
  have hannotations : ∀ existing hash, cm = some existing →
      existing.metadata.annotations.isEmpty = true → Generates libs r hash →
      hashConfigData libs.sha256 existing.data = hash := by
    intro existing hash hex hempty hgenerates
    obtain ⟨o, desired, hgen⟩ := hgenerates
    by_contra hdiff
    refine hno (reconcile_panics hmarshal hcm fun s c hs hready opts rest => ?_)
    subst hex
    exact ((setupControlPlaneConfiguration_panics hs hready (hcm existing rfl) hempty hgen
      hdiff).orDegraded s _).bind
  refine ⟨hannotations, ?_⟩
  rintro ⟨hash, o, desired, hgen⟩
  by_contra hstorage
  rw [← storageEnv_nilSafe_iff] at hstorage
  refine hno (reconcile_panics hmarshal hcm fun s c hs hready opts rest => ?_)
  refine Succeeds.may_bind (succeeds_orDegraded ?_ s _)
  refine (setupControlPlaneConfiguration_succeeds hs hready hcm
    (fun existing hex hempty => hannotations existing hash hex hempty ⟨o, desired, hgen⟩) hgen).mono
    fun configHash c' _ => ?_
  exact ((setupDeployment_panics hs hstorage _).orDegraded s _).bind

/-- `Reconcile` runs into no nil pointer and no nil map, exactly if the two unguarded expressions
find what they need. -/
theorem reconcile_nil_safe_iff (hmarshal : ∀ r', ∃ b, libs.marshalRuntime r' = .ok b)
    (hcm : ∀ existing, cm = some existing → OwnConfigMap r existing) :
    NeverNilPanics libs wrkCtx d r cm ↔ NilGuarded libs r cm := by
  refine ⟨fun h => h.nilGuarded hmarshal hcm, fun h c hr hl _ t x c' he => ?_⟩
  have hholds : Holds r cm c := by
    refine ⟨fun s hs => ?_, hl⟩
    have hsame : r = s := Option.some.inj (hr.symm.trans hs)
    rw [← hsame]
    exact .refl r
  exact (he.wp (h.reconcile wrkCtx r.metadata.key hholds)).1

end Ready

/-! ## Storage with and without a data source -/

theorem sampleLibs_generates (runtime : Runtime)
    (h : runtime.spec.cluster.kubelet.configPatches = "") (o : Orders) :
    ∃ p, generateControlPlaneConfig (sampleLibs runtime).toYaml (sampleLibs runtime).sha256 o runtime
      layout = .ok p := by
  obtain ⟨m, hm⟩ := sampleLibs_nodeProfile h
  rw [generateControlPlaneConfig_eq, hm]
  exact ⟨_, rfl⟩

/-- Kine with a data source, and no kube-proxy. -/
def sourcedRuntime : Runtime :=
  { Runtime.minimal "tenant" "default" with
    spec.cluster.storage.kine := some { dataSourceRef := some ⟨"db", "dsn"⟩ }
    spec.cluster.network.kubeProxy.disabled := true }

/-- The ConfigMap of the configuration is there, and its annotations have been removed. -/
theorem stripped_nil_safe :
    ∃ existing : ConfigMap, existing.metadata.annotations.isEmpty = true ∧
      (∃ hash, Generates (sampleLibs sourcedRuntime) sourcedRuntime hash) ∧
      NeverNilPanics (sampleLibs sourcedRuntime) newWorkerContextWithDefaults noDefaulting
        sourcedRuntime (some existing) := by
  obtain ⟨⟨desired, hash⟩, hgen⟩ := sampleLibs_generates sourcedRuntime rfl fun _ => default
  obtain ⟨hkey, -, hhash⟩ := generateControlPlaneConfig_shape _ _ hgen
  let stripped : ConfigMap := { desired with metadata.annotations := ∅ }
  refine ⟨withRef sourcedRuntime .configMap stripped, rfl, ⟨hash, _, desired, hgen⟩,
    (reconcile_nil_safe_iff (fun _ => ⟨[], rfl⟩) ?_).mpr ⟨?_, ?_⟩⟩
  · rintro _ ⟨⟩
    exact ⟨(withRef_key sourcedRuntime .configMap stripped).trans hkey,
      isControlledBy_withRef sourcedRuntime .configMap stripped⟩
  · rintro _ hash' ⟨⟩ - ⟨o, desired', hgen'⟩
    -- without kube-proxy the order does not matter
    have hsame := (generateControlPlaneConfig_stable_iff (sampleLibs sourcedRuntime).toYaml
      (sampleLibs sourcedRuntime).sha256 sourcedRuntime).mpr (.inl rfl) o fun _ => default
    cases hgen'.symm.trans (hsame.trans hgen)
    exact hhash
  · rintro - _ - ⟨⟩ ⟨⟩

/-- Kine is configured, and its data source is left out. -/
def kineRuntime : Runtime :=
  { Runtime.minimal "tenant" "default" with spec.cluster.storage.kine := some {} }

/-- Kine without a data source crashes the controller. -/
theorem kine_nil_panics :
    ¬ NeverNilPanics (sampleLibs kineRuntime) newWorkerContextWithDefaults noDefaulting kineRuntime
      none := by
  intro h
  have hguarded := h.nilGuarded (fun _ => ⟨[], rfl⟩) fun _ h => by cases h
  obtain ⟨p, hgen⟩ := sampleLibs_generates kineRuntime rfl fun _ => default
  exact hguarded.dataSource ⟨p.2, _, p.1, hgen⟩ {} rfl rfl rfl

end Heir.Controller.Runtime
