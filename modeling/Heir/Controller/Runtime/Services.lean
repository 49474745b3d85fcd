import Heir.Controller.Runtime.Success

set_option autoImplicit false

/-! # Repair of the four Services

`setupService` and `setupPlaneTunnelService` bring the four Services of a Runtime in line with what
the generators produce. An existing Service is updated only if its type, its ports, its labels or
its annotations differ from the generated ones; its selector is not compared. So a Service whose
selector alone was changed is left as it is, and the repair is complete exactly if no Service is
in that state (`services_repaired_iff`).

What the two functions do to one slot of the store is `SlotSynced`; the rest follows from it.
-/

namespace Heir.Controller.Runtime

open Heir.ControlPlane Heir.Core Heir.Runtime Interact

/-! ## One Service -/

/-- What a successful pass makes of the slot of a Service. -/
inductive SlotSynced (d : Defaulting) (desired : Service) : Option Service → Option Service → Prop
  | created (refs : List OwnerReference) (version : Nat) :
      SlotSynced d desired none
        (some (d.stored version .service
          { desired with metadata := { desired.metadata with ownerReferences := refs } }))
  | kept {existing : Service} (h : syncService desired existing = none) :
      SlotSynced d desired (some existing) (some existing)
  | updated {existing next : Service} (version : Nat) (h : syncService desired existing = some next) :
      SlotSynced d desired (some existing) (some (d.stored version .service next))

/-- The Services under other names are as they were. -/
def OthersKept (keys : List NamespacedName) (c c' : Cluster) : Prop :=
  ∀ key, key ∉ keys → c'.lookup .service key = c.lookup .service key

/-- Every successful run of the program brings the given Services in line, and no other. -/
def SyncsAll (d : Defaulting) (svcs : List Service) (p : Go Unit) : Prop :=
  ∀ c, p.run.wp (server d) (fun r c' => ∀ u, r = .ok u →
    (∀ svc ∈ svcs, SlotSynced d svc (c.lookup .service svc.metadata.key)
      (c'.lookup .service svc.metadata.key)) ∧
    OthersKept (svcs.map fun svc => svc.metadata.key) c c') c

/-- Where the Runtime controls the Services that exist, the program can succeed. -/
def CanSync (d : Defaulting) (runtime : Runtime) (svcs : List Service) (p : Go Unit) :
    Prop :=
  ∀ c, (∀ svc ∈ svcs, Owned runtime c .service svc.metadata.key) →
    Succeeds (server d) p (fun _ _ => True) c

section Sync

variable {d : Defaulting} {runtime : Runtime}

theorem syncService_key {desired existing next : Service} {c : Cluster} {key : NamespacedName}
    (hl : c.lookup .service key = some existing) (h : syncService desired existing = some next) :
    next.metadata.key = key :=
  (syncService_meta desired existing next h).key.trans (Cluster.lookup_key hl)

/-- The slot after a write of the Service that has the name of the slot. -/
theorem lookup_put_stored (d : Defaulting) (c : Cluster) (version : Nat) (svc : Service)
    {key : NamespacedName} (hkey : svc.metadata.key = key) :
    (c.put .service (d.stored version .service svc)).lookup .service key =
        some (d.stored version .service svc) ∧
      OthersKept [key] c (c.put .service (d.stored version .service svc)) := by
  subst hkey
  constructor
  · exact c.lookup_put_self .service (d.stored version .service svc)
  · intro key hne
    apply c.lookup_put_of_ne
    rintro ⟨-, rfl⟩
    exact hne (List.mem_singleton.mpr rfl)

/-- What both setup functions do once the desired Service has its owner: create it, or bring the
existing one in line. -/
theorem syncsAll_getOrElse {desired : Service} {onExisting : Service → Go Unit}
    (hexisting : ∀ existing, onExisting existing =
        updateIfNeeded .service (syncService desired existing) ∨
      ∃ e, onExisting existing = Go.fail e) :
    SyncsAll d [desired] (getOrElse .service desired.metadata.key
      (createObj .service (withRef runtime .service desired)) onExisting) := by
  intro c
  apply wp_getOrElse
  · intro habsent
    apply wp_createObj
    · rintro - _ ⟨⟩
      have hkey : (withRef runtime .service desired : Service).metadata.key = desired.metadata.key := rfl
      obtain ⟨hself, hothers⟩ := lookup_put_stored d c (c.version + 1) _ hkey
      refine ⟨fun svc hsvc => ?_, hothers⟩
      obtain rfl := List.mem_singleton.mp hsvc
      rw [habsent, hself]
      exact .created [controllerRef runtime] (c.version + 1)
    · rintro e _ ⟨⟩
  · intro existing hl
    rcases hexisting existing with h | ⟨e, h⟩
    · rw [h]
      cases hsync : syncService desired existing with
      | none =>
          rintro _ ⟨⟩
          refine ⟨fun svc hsvc => ?_, fun _ _ => rfl⟩
          obtain rfl := List.mem_singleton.mp hsvc
          rw [hl]
          exact .kept hsync
      | some next =>
          apply wp_updateObj
          · rintro _ ⟨⟩
            obtain ⟨hself, hothers⟩ := lookup_put_stored d c (c.version + 1) next
              (syncService_key hl hsync)
            refine ⟨fun svc hsvc => ?_, hothers⟩
            obtain rfl := List.mem_singleton.mp hsvc
            rw [hl, hself]
            exact .updated (c.version + 1) hsync
          · rintro e _ ⟨⟩
    · rw [h]
      rintro _ ⟨⟩
  · rintro e _ ⟨⟩

theorem canSync_getOrElse {desired : Service} {onExisting : Service → Go Unit}
    (hexisting : ∀ existing, isControlledBy existing.metadata runtime.metadata = true →
      onExisting existing = updateIfNeeded .service (syncService desired existing)) :
    CanSync d runtime [desired] (getOrElse .service desired.metadata.key
      (createObj .service (withRef runtime .service desired)) onExisting) := by
  intro c howned
  cases hl : c.lookup .service desired.metadata.key with
  | none =>
      apply succeeds_getOrElse_absent hl
      refine succeeds_createObj ?_ trivial
      rw [withRef_key]
      exact hl
  | some existing =>
      apply succeeds_getOrElse_found hl
      rw [hexisting existing (howned desired List.mem_cons_self existing hl)]
      exact succeeds_updateIfNeeded hl fun next hnext => syncService_meta desired existing next hnext

theorem SyncsAll.cons {svc : Service} {svcs : List Service} {p q : Go Unit}
    (hp : SyncsAll d [svc] p) (hq : SyncsAll d svcs q)
    (hnew : svc.metadata.key ∉ svcs.map fun s => s.metadata.key) :
    SyncsAll d (svc :: svcs) (p >>= fun _ => q) := by
  intro c
  rw [Prog.wp_run_bind]
  refine (hp c).mono fun r c₁ hr => ?_
  cases r with
  | error e =>
      rintro _ ⟨⟩
  | ok u =>
      obtain ⟨hslot, hothers⟩ := hr u rfl
      refine (hq c₁).mono fun r' c₂ hr' u' hu' => ?_
      obtain ⟨hslots, hothers'⟩ := hr' u' hu'
      constructor
      · intro s hs
        by_cases hkey : s.metadata.key = svc.metadata.key
        · -- the first Service is not touched again
          rcases List.mem_cons.mp hs with rfl | hs
          · rw [hothers' _ hnew]
            exact hslot s List.mem_cons_self
          · exact absurd (hkey ▸ List.mem_map_of_mem hs) hnew
        · -- the others were not touched before
          rcases List.mem_cons.mp hs with rfl | hs
          · exact absurd rfl hkey
          · rw [← hothers s.metadata.key (by simpa using hkey)]
            exact hslots s hs
      · intro key hkey
        rw [List.map_cons, List.mem_cons, not_or] at hkey
        rw [hothers' key hkey.2, hothers key (by simpa using hkey.1)]

theorem SyncsAll.nil : SyncsAll d [] (pure ()) := by
  rintro c _ ⟨⟩
  exact ⟨fun svc hsvc => absurd hsvc List.not_mem_nil, fun _ _ => rfl⟩

theorem CanSync.cons {svc : Service} {svcs : List Service} {p q : Go Unit}
    (hp : CanSync d runtime [svc] p) (hsync : SyncsAll d [svc] p) (hq : CanSync d runtime svcs q)
    (hnew : svc.metadata.key ∉ svcs.map fun s => s.metadata.key) :
    CanSync d runtime (svc :: svcs) (p >>= fun _ => q) := by
  intro c howned
  have hfirst : ∀ s ∈ [svc], Owned runtime c .service s.metadata.key := by
    intro s hs
    obtain rfl := List.mem_singleton.mp hs
    exact howned s List.mem_cons_self
  refine .bind (((hp c hfirst).and_wp (hsync c)).mono fun _ c' ⟨_, _, hothers⟩ => hq c' ?_)
  intro s hs o ho
  have hne : s.metadata.key ∉ [svc.metadata.key] := by
    intro hmem
    rw [← List.mem_singleton.mp hmem] at hnew
    exact hnew (List.mem_map_of_mem hs)
  exact howned s (List.mem_cons_of_mem _ hs) o ((hothers _ hne).symm.trans ho)

end Sync

/-! ## The four Services -/

section Setup

variable (d : Defaulting) (wrkCtx : WorkerContext) (runtime : Runtime)

/-- The Services that the generators produce: the control plane's, then the plane tunnel's. -/
def desiredServices : List Service :=
  generateService (fun _ => .byKey) runtime :: generatePlaneTunnelService wrkCtx runtime

/-- Both setup functions, in the order of `Reconcile`. -/
def setupServices : Go Unit := do
  setupService runtime
  setupPlaneTunnelService wrkCtx runtime

theorem generateService_congr (o o' : Orders) :
    generateService o runtime = generateService o' runtime := by
  unfold generateService
  dsimp only
  rw [mergeArgs_congr (o .labelsBase) (o .labelsExtra) (o' .labelsBase) (o' .labelsExtra),
    mergeArgs_congr (o .annotationsBase) (o .annotationsExtra) (o' .annotationsBase)
      (o' .annotationsExtra)]

theorem setupService_eq : setupService runtime = Go.call .ranges >>= fun _ =>
    getOrElse .service (generateService (fun _ => .byKey) runtime).metadata.key
      (createObj .service (withRef runtime .service (generateService (fun _ => .byKey) runtime)))
      (fun existing => updateIfNeeded .service
        (syncService (generateService (fun _ => .byKey) runtime) existing)) := by
  rw [setupService]
  refine bind_congr fun ranges => ?_
  rw [generateService_congr runtime ranges.strings fun _ => .byKey, createOrSync,
    setControllerRef_fresh ⟨rfl, rfl⟩, pure_bind]
  rfl

theorem setupTunnelService_eq {svc : Service} (hfresh : Fresh runtime svc.metadata) :
    setupTunnelService runtime svc =
      getOrElse .service svc.metadata.key (createObj .service (withRef runtime .service svc))
        (fun existing => if isControlledBy existing.metadata runtime.metadata then
            updateIfNeeded .service (syncService svc existing)
          else refuseToAdopt "plane tunnel service" existing.metadata) := by
  have href : setControllerRef runtime .service svc = pure (withRef runtime .service svc) :=
    setControllerRef_fresh hfresh
  rw [setupTunnelService, href, pure_bind]
  rfl

theorem syncsAll_setupService :
    SyncsAll d [generateService (fun _ => .byKey) runtime] (setupService runtime) := by
  intro c
  rw [setupService_eq]
  intro ranges c' hs
  rw [server_read (by trivial) hs]
  exact syncsAll_getOrElse (fun _ => Or.inl rfl) c

theorem canSync_setupService :
    CanSync d runtime [generateService (fun _ => .byKey) runtime] (setupService runtime) := by
  intro c howned
  rw [setupService_eq]
  refine .call_bind ⟨fun _ => .byKey, .byKey⟩ c ⟨.ranges _, rfl⟩ ?_
  exact canSync_getOrElse (fun _ _ => rfl) c howned

variable {runtime}

theorem syncsAll_setupTunnelService {svc : Service} (hfresh : Fresh runtime svc.metadata) :
    SyncsAll d [svc] (setupTunnelService runtime svc) := by
  rw [setupTunnelService_eq runtime hfresh]
  apply syncsAll_getOrElse
  intro existing
  by_cases hctl : isControlledBy existing.metadata runtime.metadata = true
  · exact Or.inl (if_pos hctl)
  · exact Or.inr ⟨_, if_neg hctl⟩

theorem canSync_setupTunnelService {svc : Service} (hfresh : Fresh runtime svc.metadata) :
    CanSync d runtime [svc] (setupTunnelService runtime svc) := by
  rw [setupTunnelService_eq runtime hfresh]
  exact canSync_getOrElse fun existing hctl => if_pos hctl

variable (runtime)

theorem fresh_generatePlaneTunnelService {svc : Service}
    (h : svc ∈ generatePlaneTunnelService wrkCtx runtime) : Fresh runtime svc.metadata := by
  simp only [generatePlaneTunnelService, List.mem_cons, List.not_mem_nil, or_false] at h
  rcases h with rfl | rfl | rfl <;> exact ⟨rfl, rfl⟩

theorem nodup_desiredServices :
    ((desiredServices wrkCtx runtime).map fun svc => svc.metadata.key).Nodup := by
  have happend : ∀ a b : String, runtime.name ++ a = runtime.name ++ b → a = b := by
    intro a b h
    exact (String.append_right_inj _).mp h
  have hempty : ∀ a : String, runtime.name = runtime.name ++ a → "" = a := by
    intro a h
    exact happend "" a (by rw [String.append_empty]; exact h)
  simp only [desiredServices, generateService, generatePlaneTunnelService, tunnelService,
    List.map_cons, List.map_nil, ObjectMeta.key, planeTunnelHeadlessName, planeTunnelName,
    planeTunnelEgressName, List.nodup_cons, List.mem_cons, NamespacedName.mk.injEq, true_and,
    List.not_mem_nil, or_false, not_or, not_false_eq_true, List.nodup_nil, and_true]
  refine ⟨⟨fun h => ?_, fun h => ?_, fun h => ?_⟩, ⟨fun h => ?_, fun h => ?_⟩, fun h => ?_⟩
  · exact absurd (hempty _ h) (by decide)
  · exact absurd (hempty _ h) (by decide)
  · exact absurd (hempty _ h) (by decide)
  · exact absurd (happend _ _ h) (by decide)
  · exact absurd (happend _ _ h) (by decide)
  · exact absurd (happend _ _ h) (by decide)

theorem syncs_forM {svcs : List Service} (hfresh : ∀ svc ∈ svcs, Fresh runtime svc.metadata)
    (hnodup : (svcs.map fun svc => svc.metadata.key).Nodup) :
    SyncsAll d svcs (svcs.forM (setupTunnelService runtime)) ∧
      CanSync d runtime svcs (svcs.forM (setupTunnelService runtime)) := by
  induction svcs with
  | nil => exact ⟨.nil, fun _ _ => .ret trivial⟩
  | cons svc svcs ih =>
      rw [List.map_cons, List.nodup_cons] at hnodup
      obtain ⟨hsyncs, hcan⟩ := ih (fun s hs => hfresh s (List.mem_cons_of_mem _ hs)) hnodup.2
      have hsvc := hfresh svc List.mem_cons_self
      rw [List.forM_eq_forM, List.forM_cons]
      exact ⟨(syncsAll_setupTunnelService d hsvc).cons hsyncs hnodup.1,
        (canSync_setupTunnelService d hsvc).cons (syncsAll_setupTunnelService d hsvc) hcan hnodup.1⟩

theorem setupServices_syncs :
    SyncsAll d (desiredServices wrkCtx runtime) (setupServices wrkCtx runtime) ∧
      CanSync d runtime (desiredServices wrkCtx runtime) (setupServices wrkCtx runtime) := by
  have hnodup := nodup_desiredServices wrkCtx runtime
  rw [desiredServices, List.map_cons, List.nodup_cons] at hnodup
  obtain ⟨hsyncs, hcan⟩ := syncs_forM d runtime
    (fun svc hsvc => fresh_generatePlaneTunnelService wrkCtx runtime hsvc) hnodup.2
  exact ⟨(syncsAll_setupService d runtime).cons hsyncs hnodup.1,
    (canSync_setupService d runtime).cons (syncsAll_setupService d runtime) hcan hnodup.1⟩

end Setup

/-! ## Repair -/

/-- The defaults of the API server keep a selector, and a cluster IP that is set. -/
structure KeepsServices (d : Defaulting) : Prop where
  selector : ∀ spec, (d.service spec).selector = spec.selector
  clusterIP : ∀ spec, spec.clusterIP ≠ "" → (d.service spec).clusterIP = spec.clusterIP

/-- What is asked for: the desired specification with the cluster IP of the Service there was. -/
def askedFor (desired : Service) (before : Option Service) : Core.ServiceSpec :=
  { desired.spec with
    clusterIP := (before.map fun svc => svc.spec.clusterIP).getD desired.spec.clusterIP }

/-- A live Service is the desired one, up to the defaults of the API server, with the cluster IP of
the Service there was before. -/
structure Repaired (d : Defaulting) (desired : Service) (before : Option Service) (live : Service) :
    Prop where
  type : live.spec.type = desired.spec.type ∨
    live.spec.type = (d.service (askedFor desired before)).type
  ports : live.spec.ports = desired.spec.ports ∨
    live.spec.ports = (d.service (askedFor desired before)).ports
  selector : live.spec.selector = desired.spec.selector
  labels : live.metadata.labels = desired.metadata.labels
  annotations : live.metadata.annotations = desired.metadata.annotations
  clusterIP : ∀ existing, before = some existing → existing.spec.clusterIP ≠ "" →
    live.spec.clusterIP = existing.spec.clusterIP

/-- The Service is taken to be up to date only if its selector is right. -/
def SelectorSeen (desired : Service) (before : Option Service) : Prop :=
  ∀ existing, before = some existing → syncService desired existing = none →
    existing.spec.selector = desired.spec.selector

theorem syncService_none {desired existing : Service} (h : syncService desired existing = none) :
    existing.spec.type = desired.spec.type ∧ existing.spec.ports = desired.spec.ports ∧
      existing.metadata.labels = desired.metadata.labels ∧
      existing.metadata.annotations = desired.metadata.annotations := by
  unfold syncService at h
  dsimp only at h
  split at h
  · assumption
  · cases h

theorem syncService_some {desired existing next : Service}
    (h : syncService desired existing = some next) :
    next.spec = askedFor desired (some existing) ∧
      next.metadata.labels = desired.metadata.labels ∧
      next.metadata.annotations = desired.metadata.annotations := by
  unfold syncService at h
  dsimp only at h
  split at h
  · cases h
  · cases h
    exact ⟨rfl, rfl, rfl⟩

section Repair

variable {d : Defaulting} {desired : Service} {before after : Option Service}

theorem SlotSynced.repaired (hd : KeepsServices d) (h : SlotSynced d desired before after)
    (hseen : SelectorSeen desired before) : ∃ live, after = some live ∧ Repaired d desired before live := by
  cases h with
  | created refs version =>
      refine ⟨_, rfl, Or.inr rfl, Or.inr rfl, hd.selector _, rfl, rfl, ?_⟩
      rintro _ ⟨⟩
  | @kept existing hsync =>
      obtain ⟨htype, hports, hlabels, hannotations⟩ := syncService_none hsync
      refine ⟨existing, rfl, Or.inl htype, Or.inl hports, hseen existing rfl hsync, hlabels,
        hannotations, ?_⟩
      rintro _ ⟨⟩ -
      rfl
  | @updated existing next version hsync =>
      obtain ⟨hspec, hlabels, hannotations⟩ := syncService_some hsync
      have hstored : (d.stored version .service next : Service).spec =
          d.service (askedFor desired (some existing)) := congrArg d.service hspec
      refine ⟨_, rfl, Or.inr (by rw [hstored]), Or.inr (by rw [hstored]), ?_, hlabels, hannotations, ?_⟩
      · rw [hstored, hd.selector]
        rfl
      · rintro _ ⟨⟩ hip
        rw [hstored]
        exact hd.clusterIP (askedFor desired (some existing)) hip

theorem SlotSynced.selectorSeen (h : SlotSynced d desired before after) {live : Service}
    (hlive : after = some live) (hselector : live.spec.selector = desired.spec.selector) :
    SelectorSeen desired before := by
  intro existing hbefore hsync
  subst hbefore
  cases h with
  | kept _ =>
      cases hlive
      exact hselector
  | updated version hnext =>
      rw [hsync] at hnext
      cases hnext

end Repair

/-- After every run of the two setup functions that returns without error, the four Services are
the desired ones. -/
def ServicesRepaired (d : Defaulting) (wrkCtx : WorkerContext) (runtime : Runtime)
    (c : Cluster) : Prop :=
  ∀ t c', Exec (server d) (setupServices wrkCtx runtime).run c t (.ok ()) c' →
    ∀ svc ∈ desiredServices wrkCtx runtime, ∃ live, c'.lookup .service svc.metadata.key = some live ∧
      Repaired d svc (c.lookup .service svc.metadata.key) live

/-- **When the Services are repaired.** For a Runtime that controls those of its Services that exist:
exactly if every Service that has the desired type, ports, labels and annotations has the desired
selector too. -/
theorem services_repaired_iff {d : Defaulting} (hd : KeepsServices d) (wrkCtx : WorkerContext)
    (runtime : Runtime) (c : Cluster)
    (howned : ∀ svc ∈ desiredServices wrkCtx runtime, Owned runtime c .service svc.metadata.key) :
    ServicesRepaired d wrkCtx runtime c ↔
      ∀ svc ∈ desiredServices wrkCtx runtime,
        SelectorSeen svc (c.lookup .service svc.metadata.key) := by
  obtain ⟨hsyncs, hcan⟩ := setupServices_syncs d wrkCtx runtime
  constructor
  · intro h svc hsvc
    -- a run that succeeds: it has synced the slot, and the Service in it is repaired
    obtain ⟨t, u, c', he, -, hslots, -⟩ := ((hcan c howned).and_wp (hsyncs c)).exec
    obtain ⟨live, hlive, hrepaired⟩ := h t c' he svc hsvc
    exact (hslots svc hsvc).selectorSeen hlive hrepaired.selector
  · intro h t c' he svc hsvc
    have hslots := (he.wp (hsyncs c) () rfl).1
    exact (hslots svc hsvc).repaired hd (h svc hsvc)

theorem keepsServices_noDefaulting : KeepsServices noDefaulting := ⟨fun _ => rfl, fun _ _ => rfl⟩

theorem owned_put {runtime : Runtime} {o : Service}
    (hcontrolled : isControlledBy o.metadata runtime.metadata = true) (key : NamespacedName) :
    Owned runtime ((Cluster.withRuntime runtime).put .service o) .service key := by
  intro existing hexisting
  by_cases hkey : key = o.metadata.key
  · subst hkey
    cases ((Cluster.withRuntime runtime).lookup_put_self .service o).symm.trans hexisting
    exact hcontrolled
  · rw [Cluster.lookup_put_of_ne _ (k := .service) o fun h => hkey h.2] at hexisting
    cases hexisting

/-- The control plane's Service with the selector of something else. -/
def misdirected : Service :=
  let svc : Service := withRef (.minimal "tenant" "default") .service
    (generateService (fun _ => .byKey) (.minimal "tenant" "default"))
  { svc with spec.selector := (∅ : GoMap String).insert "app" "other" }

/-- It has a cluster IP, and has lost its ports too. -/
def drifted : Service :=
  { misdirected with spec.ports := [], spec.clusterIP := "10.96.0.20" }

/-- The Service that has drifted is repaired, and the other three are created. -/
theorem drifted_service_repaired :
    ServicesRepaired noDefaulting newWorkerContextWithDefaults (.minimal "tenant" "default")
      ((Cluster.withRuntime (.minimal "tenant" "default")).put .service drifted) := by
  have hports : ∀ svc ∈ desiredServices newWorkerContextWithDefaults (.minimal "tenant" "default"),
      svc.spec.ports ≠ [] := by
    decide +kernel
  refine (services_repaired_iff keepsServices_noDefaulting _ _ _ fun svc _ =>
    owned_put (by decide) _).mpr fun svc hsvc existing hexisting hsync => ?_
  by_cases hkey : svc.metadata.key = ⟨"default", "tenant"⟩
  · rw [hkey] at hexisting
    cases hexisting
    exact absurd (syncService_none hsync).2.1.symm (hports svc hsvc)
  · rw [Cluster.lookup_put_of_ne _ (k := .service) drifted fun h => hkey h.2] at hexisting
    cases hexisting

/-- The misdirected Service stays as it is: both functions return without error, and traffic still
goes to other pods. -/
theorem misdirected_service_kept :
    ∃ t c', Exec (server noDefaulting)
        (setupServices newWorkerContextWithDefaults (.minimal "tenant" "default")).run
        ((Cluster.withRuntime (.minimal "tenant" "default")).put .service misdirected) t (.ok ()) c' ∧
      (c'.lookup .service ⟨"default", "tenant"⟩).map (fun svc => svc.spec.selector["app"]?) =
        some (some "other") ∧
      (generateService (fun _ => .byKey) (.minimal "tenant" "default")).spec.selector["app"]? =
        none := by
  let runtime := ControlPlane.Runtime.minimal "tenant" "default"
  let c := (Cluster.withRuntime runtime).put .service misdirected
  have hlookup : c.lookup .service ⟨"default", "tenant"⟩ = some misdirected :=
    (Cluster.withRuntime runtime).lookup_put_self .service misdirected
  obtain ⟨hsyncs, hcan⟩ := setupServices_syncs noDefaulting newWorkerContextWithDefaults runtime
  obtain ⟨t, u, c', he, -, hslots, -⟩ :=
    ((hcan c fun svc _ => owned_put (by decide) _).and_wp (hsyncs c)).exec
  have hslot := hslots _ List.mem_cons_self
  rw [show (generateService (fun _ => .byKey) runtime).metadata.key = ⟨"default", "tenant"⟩ from rfl,
    hlookup] at hslot
  refine ⟨t, c', he, ?_, by decide +kernel⟩
  generalize c'.lookup .service ⟨"default", "tenant"⟩ = after at hslot
  cases hslot with
  | kept _ => decide +kernel
  | updated version hnext =>
      have hnone : syncService (generateService (fun _ => .byKey) runtime) misdirected = none := by
        decide +kernel
      rw [hnone] at hnext
      cases hnext

end Heir.Controller.Runtime
