import Heir.Controller.Runtime.Success

set_option autoImplicit false

/-! # Objects of other owners

A cluster may hold objects of others under the names the controller uses. What `Reconcile` does
to them follows from the frame: nothing, as long as the four unguarded names are free or hold
objects of the Runtime itself (`reconcile_foreign_unchanged`). A foreign object under one of the
four is overwritten, unless it happens to look as the controller wants it.
-/

namespace Heir.Controller.Runtime

open Heir.ControlPlane Heir.Core Heir.Runtime Interact

/-! ## Content -/

/-- Two versions of an object have the same labels, annotations and data or specification. -/
def SameContent : (k : Kind) → Obj k → Obj k → Prop
  | .secret, a, b => a.metadata.labels = b.metadata.labels ∧
      a.metadata.annotations = b.metadata.annotations ∧ a.data = b.data
  | .configMap, a, b => a.metadata.labels = b.metadata.labels ∧
      a.metadata.annotations = b.metadata.annotations ∧ a.data = b.data
  | .service, a, b => a.metadata.labels = b.metadata.labels ∧
      a.metadata.annotations = b.metadata.annotations ∧ a.spec = b.spec
  | .deployment, a, b => a.metadata.labels = b.metadata.labels ∧
      a.metadata.annotations = b.metadata.annotations ∧ a.spec = b.spec

theorem SameContent.refl (k : Kind) (o : Obj k) : SameContent k o o := by
  cases k <;> exact ⟨rfl, rfl, rfl⟩

section Foreign

variable (d : Defaulting) (r : Runtime)

/-- Every object that the Runtime does not control is still there, with the same content. -/
def ForeignKept (c c' : Cluster) : Prop :=
  ∀ k key o, c.lookup k key = some o → isControlledBy (Obj.getMeta k o) r.metadata = false →
    ∃ o', c'.lookup k key = some o' ∧ SameContent k o o'

/-- However the program runs and ends, it keeps the objects of other owners. -/
def ForeignUnchanged {α : Type} (p : Go α) (c : Cluster) : Prop :=
  ∀ t x c', Exec (server d) p.run c t x c' → ForeignKept r c c'

variable {d r} {c : Cluster}

theorem ForeignKept.refl (r : Runtime) (c : Cluster) : ForeignKept r c c :=
  fun k _ o hl _ => ⟨o, hl, SameContent.refl k o⟩

/-- A write at one place keeps the rest; there it must keep a foreign object's content. -/
theorem ForeignKept.put {k : Kind} {o' : Obj k}
    (h : ∀ o, c.lookup k (Obj.getMeta k o').key = some o →
      isControlledBy (Obj.getMeta k o) r.metadata = false → SameContent k o o') :
    ForeignKept r c (c.put k o') := by
  intro k' key o hl hf
  by_cases hk : k' = k ∧ key = (Obj.getMeta k o').key
  · obtain ⟨rfl, rfl⟩ := hk
    exact ⟨o', c.lookup_put_self k' o', h o hl hf⟩
  · rw [c.lookup_put_of_ne o' hk]
    exact ⟨o, hl, SameContent.refl k' o⟩

/-- A Runtime whose unguarded names hold no object of another owner writes none. -/
theorem Framed.foreignKept {c' : Cluster} (h : Framed r c c')
    (hown : ∀ k name, (k, name) ∈ unguardedKeys r.name → Owned r c k ⟨r.ns, name⟩) :
    ForeignKept r c c' := by
  intro k key o hl hf
  rcases h.kept k key with heq | ⟨hns, -, hw⟩
  · exact ⟨o, heq.trans hl, SameContent.refl k o⟩
  · have hctl : isControlledBy (Obj.getMeta k o) r.metadata = true := by
      rcases hw with hu | ho
      · have hkey : (⟨r.ns, key.name⟩ : NamespacedName) = key := by rw [← hns]
        exact hown k key.name hu o (hkey ▸ hl)
      · exact ho o hl
    rw [hctl] at hf
    cases hf

/-! ## The setup functions that do not look at the owner -/

/-- What is stored over a foreign object by a setup function that does not look at its owner has
the content of that object. -/
def SyncKeeps (d : Defaulting) (r : Runtime) (c : Cluster) (k : Kind) (desired : Obj k)
    (sync : Obj k → Obj k → Option (Obj k)) : Prop :=
  ∀ o, c.lookup k (Obj.getMeta k desired).key = some o →
    isControlledBy (Obj.getMeta k o) r.metadata = false →
    ∀ o', sync (withRef r k desired) o = some o' →
      SameContent k o (d.stored (c.version + 1) k o')

theorem foreignUnchanged_ranges {f : Ranges → Go Unit} :
    ForeignUnchanged d r (Go.call .ranges >>= f) c ↔ ∀ ranges, ForeignUnchanged d r (f ranges) c := by
  constructor
  · intro h ranges t x c' he
    have hs : server d .ranges c ranges c := ⟨.ranges ranges, rfl⟩
    exact h _ x c' (.call hs he)
  · intro h t x c' he
    obtain ⟨ranges, c₁, t₁, hs, rfl, he₁⟩ := Exec.call_inv he
    rw [server_read (by trivial) hs] at he₁
    exact h ranges t₁ x c' he₁

section Sync

variable {k : Kind} {desired : Obj k} {sync : Obj k → Obj k → Option (Obj k)}

/-- Both calls may be served. Then the new version is stored over the existing object. -/
theorem createOrSync_overwrites {o o' : Obj k} (hfresh : Fresh r (Obj.getMeta k desired))
    (hl : c.lookup k (Obj.getMeta k desired).key = some o)
    (ho' : sync (withRef r k desired) o = some o')
    (hmeta : Relabelled (Obj.getMeta k o) (Obj.getMeta k o')) :
    Succeeds (server d) (createOrSync r k desired sync)
      (fun _ c' => c' = c.put k (d.stored (c.version + 1) k o')) c := by
  have hkey : (Obj.getMeta k o').key = (Obj.getMeta k desired).key :=
    hmeta.key.trans (Cluster.lookup_key hl)
  rw [createOrSync, setControllerRef_fresh hfresh, pure_bind, withRef_key]
  refine succeeds_getOrElse_found hl ?_
  rw [ho', updateIfNeeded]
  rw [← hkey] at hl
  exact succeeds_updateObj hl hmeta.resourceVersion.symm rfl

theorem foreignUnchanged_createOrSync (hfresh : Fresh r (Obj.getMeta k desired))
    (hsync : ∀ a e o, sync a e = some o → Relabelled (Obj.getMeta k e) (Obj.getMeta k o))
    (h : SyncKeeps d r c k desired sync) : ForeignUnchanged d r (createOrSync r k desired sync) c := by
  rw [createOrSync, setControllerRef_fresh hfresh, pure_bind, withRef_key]
  intro t x c' he
  suffices hwp : Prog.wp (server d) (fun _ c' => ForeignKept r c c') _ c from he.wp hwp
  apply wp_getOrElse
  · -- what is created was not there before
    intro hl
    apply wp_createObj
    · intro _
      refine .put fun o ho _ => ?_
      rw [Defaulting.stored_meta] at ho
      have hnone := hl.symm.trans (withRef_key r k desired ▸ ho)
      cases hnone
    · exact fun _ => .refl r c
  · intro existing hl
    cases ho' : sync (withRef r k desired) existing with
    | none => exact .refl r c
    | some o' =>
        apply wp_updateObj
        · refine .put fun o ho hf => ?_
          have hkey : (Obj.getMeta k (d.stored (c.version + 1) k o')).key =
              (Obj.getMeta k desired).key := by
            rw [Defaulting.stored_meta]
            exact (hsync _ _ o' ho').key.trans (Cluster.lookup_key hl)
          rw [hkey, hl] at ho
          cases ho
          exact h existing hl hf o' ho'
        · exact fun _ => .refl r c
  · exact fun _ => .refl r c

/-- A setup function that does not look at the owner keeps the objects of others exactly when its
update of one would store the same content. -/
theorem createOrSync_foreign_iff (hfresh : Fresh r (Obj.getMeta k desired))
    (hsync : ∀ a e o, sync a e = some o → Relabelled (Obj.getMeta k e) (Obj.getMeta k o)) :
    ForeignUnchanged d r (createOrSync r k desired sync) c ↔ SyncKeeps d r c k desired sync := by
  constructor
  · intro h o hl hf o' ho'
    have hmeta := hsync _ _ o' ho'
    have hkey : (Obj.getMeta k o').key = (Obj.getMeta k desired).key :=
      hmeta.key.trans (Cluster.lookup_key hl)
    obtain ⟨t, x, c', hrun, b, rfl, rfl⟩ := (createOrSync_overwrites hfresh hl ho' hmeta).exec
    obtain ⟨o'', hl'', hc⟩ := h _ _ _ hrun k _ o hl hf
    rw [c.lookup_put_stored d _ hkey, Option.some.injEq] at hl''
    rw [hl'']
    exact hc
  · exact foreignUnchanged_createOrSync hfresh hsync

end Sync

theorem setupService_foreign_iff :
    ForeignUnchanged d r (setupService r) c ↔
      ∀ ranges : Ranges, SyncKeeps d r c .service (generateService ranges.strings r) syncService :=
  foreignUnchanged_ranges.trans (forall_congr' fun _ =>
    createOrSync_foreign_iff (k := .service) ⟨rfl, rfl⟩ syncService_meta)

theorem setupClusterAgentDeployment_foreign_iff (opts : DeployOpts) :
    ForeignUnchanged d r (setupClusterAgentDeployment r opts) c ↔
      ∀ ranges : Ranges, SyncKeeps d r c .deployment
        (generateClusterAgentDeployment ranges.strings r layout opts) syncDeployment :=
  foreignUnchanged_ranges.trans (forall_congr' fun _ =>
    createOrSync_foreign_iff (k := .deployment) ⟨rfl, rfl⟩ syncDeployment_meta)

theorem setupPlaneTunnelDeployment_foreign_iff (wrkCtx : WorkerContext) (opts : DeployOpts) :
    ForeignUnchanged d r (setupPlaneTunnelDeployment wrkCtx r opts) c ↔
      ∀ ranges : Ranges, SyncKeeps d r c .deployment
        (generatePlaneTunnelDeployment ranges.strings wrkCtx r layout opts) syncDeployment :=
  foreignUnchanged_ranges.trans (forall_congr' fun _ =>
    createOrSync_foreign_iff (k := .deployment) ⟨rfl, rfl⟩ syncDeployment_meta)

theorem setupDeployment_foreign_iff (opts : DeployOpts) :
    ForeignUnchanged d r (setupDeployment r opts) c ↔
      ∀ (ranges : Ranges) (dep : Deployment),
        generateDeployment ranges.strings r layout opts = .ok dep →
          SyncKeeps d r c .deployment dep syncDeployment := by
  refine foreignUnchanged_ranges.trans (forall_congr' fun ranges => ?_)
  cases hgen : generateDeployment ranges.strings r layout opts with
  | error f =>
      -- the nil storage reference: the function panics before its first call
      refine ⟨fun _ dep h => (by cases h), fun _ t x c' he => ?_⟩
      rw [(Exec.ret_inv he).2.2]
      exact .refl r c
  | ok dep =>
      rw [Go.ofResult_ok_bind, createOrSync_foreign_iff (k := .deployment)
        (generateDeployment_shape hgen).2 syncDeployment_meta]
      constructor
      · rintro h _ ⟨⟩
        exact h
      · exact fun h => h dep rfl

end Foreign

/-! ## The main result -/

/-- **The ownership guard.** When the names of `unguardedKeys` are free or hold objects of the
Runtime, `Reconcile` keeps every object of other owners, however it ends. For each of the four
setup functions behind these names: it keeps a foreign object exactly when the update it makes
would store that object's own content. -/
theorem reconcile_foreign_unchanged (libs : Libs) (wrkCtx : WorkerContext) (d : Defaulting)
    (c : Cluster) (runtime : Runtime) (h : c.runtime = some runtime) :
    ((∀ k name, (k, name) ∈ unguardedKeys runtime.name → Owned runtime c k ⟨runtime.ns, name⟩) →
      ForeignUnchanged d runtime (reconcile libs wrkCtx runtime.metadata.key) c) ∧
    (ForeignUnchanged d runtime (setupService runtime) c ↔
      ∀ ranges : Ranges,
        SyncKeeps d runtime c .service (generateService ranges.strings runtime) syncService) ∧
    ∀ opts : DeployOpts,
      (ForeignUnchanged d runtime (setupDeployment runtime opts) c ↔
        ∀ (ranges : Ranges) (dep : Deployment),
          generateDeployment ranges.strings runtime layout opts = .ok dep →
            SyncKeeps d runtime c .deployment dep syncDeployment) ∧
      (ForeignUnchanged d runtime (setupClusterAgentDeployment runtime opts) c ↔
        ∀ ranges : Ranges, SyncKeeps d runtime c .deployment
          (generateClusterAgentDeployment ranges.strings runtime layout opts) syncDeployment) ∧
      (ForeignUnchanged d runtime (setupPlaneTunnelDeployment wrkCtx runtime opts) c ↔
        ∀ ranges : Ranges, SyncKeeps d runtime c .deployment
          (generatePlaneTunnelDeployment ranges.strings wrkCtx runtime layout opts)
          syncDeployment) := by
  refine ⟨fun hown t x c' he => ?_, setupService_foreign_iff, fun opts =>
    ⟨setupDeployment_foreign_iff opts, setupClusterAgentDeployment_foreign_iff opts,
      setupPlaneTunnelDeployment_foreign_iff wrkCtx opts⟩⟩
  have hframe : Framed runtime c c' :=
    reconcile_framed libs wrkCtx _ (Framed.refl h) he
  exact hframe.foreignKept hown

/-- A ConfigMap without an owner, under the name of the Runtime. -/
def strangersConfigMap : ConfigMap where
  metadata := { name := "tenant", ns := "default", resourceVersion := 1 }
  data := (∅ : GoMap String).insert "app.conf" "debug"

/-- The ConfigMap of somebody else is in the way, and is kept: the name is guarded. -/
theorem strangers_configMap_kept :
    let c := (Cluster.withRuntime (.minimal "tenant" "default")).put .configMap strangersConfigMap
    c.lookup .configMap ⟨"default", "tenant"⟩ = some strangersConfigMap ∧
      isControlledBy strangersConfigMap.metadata (Runtime.minimal "tenant" "default").metadata = false ∧
      ForeignUnchanged noDefaulting (.minimal "tenant" "default")
        (reconcile (sampleLibs (.minimal "tenant" "default")) newWorkerContextWithDefaults
          ⟨"default", "tenant"⟩) c := by
  refine ⟨Cluster.lookup_put_self _ .configMap strangersConfigMap, by decide,
    (reconcile_foreign_unchanged _ _ _ _ _ rfl).1 fun k name hkey o ho => ?_⟩
  have hk : k ≠ .configMap := by
    rintro rfl
    simp [unguardedKeys] at hkey
  rw [Cluster.lookup_put_of_ne _ _ fun h => hk h.1] at ho
  cases k <;> cases ho

/-! ## A Deployment of somebody else -/

theorem exec_idle {α : Type} (d : Defaulting) (p : Prog sig α) (c : Cluster) :
    ∃ t a, Exec (server d) p c t a c := by
  induction p with
  | ret a => exact ⟨[], a, .ret a c⟩
  | call op k ih =>
      have hs : ∃ x, server d op c x c := by
        cases op with
        | get k key | create k o | update k o | getRuntime key | updateRuntimeStatus r =>
            exact ⟨_, .fail "", rfl⟩
        | generateSelfSignedCert | signCSR ca csr expire =>
            exact ⟨_, .certificate (.error (errorf "")), rfl⟩
        | verifyCertificate cert ca key => exact ⟨_, .verification (.ok ()), rfl⟩
        | ranges => exact ⟨_, .ranges ⟨fun _ => default, default⟩, rfl⟩
        | built g => exact ⟨_, .serve, rfl⟩
      obtain ⟨x, hx⟩ := hs
      obtain ⟨t, a, ht⟩ := ih x
      exact ⟨_, a, .call hx ht⟩

/-- A Runtime that has been looked at before. -/
def seenRuntime : Runtime :=
  withAvailable (.minimal "tenant" "default") .unknown "Reconciling" "Starting reconciliation"

/-- A Deployment without an owner, under the name of the cluster agent. -/
def strangersDeployment : Deployment where
  metadata := { name := "tenant-cluster-agent", ns := "default", resourceVersion := 1 }
  spec :=
    { replicas := some 3
      selector := ∅
      template :=
        { labels := ∅
          annotations := ∅
          spec :=
            { serviceAccountName := ""
              runtimeClassName := none
              tolerations := []
              affinity := none
              volumes := []
              containers := [] } } }

def strangersCluster : Cluster :=
  (Cluster.withRuntime seenRuntime).put .deployment strangersDeployment

/-- The calls up to the update of the cluster agent's Deployment, all served. -/
def overwriting : List Choice :=
  let sign : Choice := .certificate (.ok ⟨[], []⟩)
  let ranges : Choice := .ranges ⟨fun _ => default, default⟩
  [.serve] ++
  [.serve, sign, sign, sign, sign, sign, sign, sign, sign, .serve] ++
  [.serve, sign, .serve, .serve] ++
  [ranges, .serve, .serve] ++
  [ranges, .serve, .serve]

/-- The Deployment of somebody else is overwritten by the one of the cluster agent. -/
theorem strangers_deployment_overwritten :
    ¬ ForeignUnchanged noDefaulting seenRuntime
      (reconcile (sampleLibs seenRuntime) newWorkerContextWithDefaults ⟨"default", "tenant"⟩)
      strangersCluster := by
  intro h
  have hrun : (Machine.advance (S := sig) (respond noDefaulting)
      (reconcile (sampleLibs seenRuntime) newWorkerContextWithDefaults ⟨"default", "tenant"⟩).run
      overwriting strangersCluster).any (fun p =>
        (p.2.deployments ⟨"default", "tenant-cluster-agent"⟩).any
          (fun dep => dep.spec.replicas = some 1)) = true := by
    decide +kernel
  obtain ⟨⟨q, c'⟩, hq, hdep⟩ := (Option.any_eq_true _ _).mp hrun
  obtain ⟨dep, hl, hone⟩ := (Option.any_eq_true _ _).mp hdep
  obtain ⟨t, x, hidle⟩ := exec_idle noDefaulting q c'
  obtain ⟨t', he⟩ := Machine.advance_exec hq hidle
  obtain ⟨dep', hl', -, -, hspec⟩ := h t' x c' he .deployment ⟨"default", "tenant-cluster-agent"⟩
    strangersDeployment (Cluster.lookup_put_self _ .deployment strangersDeployment) rfl
  have heq : dep' = dep := Option.some.inj (hl'.symm.trans hl)
  have hthree : dep.spec.replicas = some 3 := by
    rw [← heq, ← hspec]
    rfl
  rw [hthree] at hone
  exact absurd hone (by decide)

end Heir.Controller.Runtime
