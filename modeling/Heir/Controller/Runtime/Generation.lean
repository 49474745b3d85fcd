import Heir.Controller.Runtime.Ownership

set_option autoImplicit false

/-! # Observed generations

Users change the specification of a Runtime while its reconciliations run. The API server counts
the changes in `metadata.generation`, and `Reconcile` reports in `status.observedGeneration` which
one the cluster reflects. A client that waits for an available Runtime with the observed generation
of its change relies on the objects having been built from that specification or a later one.

`Reconcile` builds all objects from one copy of the Runtime, but reports the generation of another
copy, fetched afterwards. The report is right in every run in which the generation is still the
same at that point (`observed_generation_sound`).
-/

namespace Heir.Controller.Runtime

open Heir.ControlPlane Heir.Core Heir.Runtime Interact

/-! ## Reconciliations among users -/

/-- The cluster, with two marks of the history: the generation from which the running pass has
built all objects, and the one from which the last pass that got so far has. -/
structure World where
  cluster : Cluster
  builtNow : Option Nat
  lastBuilt : Option Nat

/-- A change of the Runtime by a user. -/
inductive Edit where
  /-- A new specification, which the server counts. -/
  | spec (spec : RuntimeSpec)
  /-- New labels or annotations. -/
  | labels (labels annotations : GoMap String)

def Edit.apply : Edit → Runtime → Runtime
  | .spec s, r => { r with
      spec := s
      metadata.generation := r.metadata.generation + 1 }
  | .labels ls as, r => { r with
      metadata.labels := ls
      metadata.annotations := as }

/-- The server stores the change under a new version. -/
def edit (e : Edit) (w : World) : Option World :=
  w.cluster.runtime.map fun r =>
    let r := e.apply r
    { w with cluster := { w.cluster with
        runtime := some { r with metadata.resourceVersion := w.cluster.version + 1 }
        version := w.cluster.version + 1 } }

/-- The answers of the cluster; the mark of a finished build is kept. -/
def answer (d : Defaulting) (op : Call) (ch : Choice) (w : World) : Option (op.Answer × World) :=
  (respond d op ch w.cluster).map fun (x, c) =>
    match op with
    | .built g => (x, ⟨c, some g, some g⟩)
    | _ => (x, { w with cluster := c })

section Machine

variable (libs : Libs) (wrkCtx : WorkerContext) (d : Defaulting) (req : NamespacedName)

/-- The Runtime controller at work on one Runtime, among users who change it. -/
def controller : Machine sig (Except Fault Unit) World Choice Edit where
  prog := (reconcile libs wrkCtx req).run
  respond := answer d
  act := edit
  enter := fun w => { w with builtNow := none }
  leave := fun _ w => { w with builtNow := none }

end Machine

/-- The start: a Runtime without status, and nothing built yet. -/
def World.start (c : Cluster) : World := ⟨c, none, none⟩

/-- The generation of the stored Runtime. -/
def World.generation (w : World) : Option Nat :=
  w.cluster.runtime.map (fun r => r.metadata.generation)

/-- When a pass that has built all objects fetches the Runtime again, its generation is still the
one the objects were built from. -/
def Unraced (w : World) : Label sig (Except Fault Unit) World → Prop
  | .call (.getRuntime _) _ => ∀ g, w.builtNow = some g → w.generation = some g
  | _ => True

/-- **Soundness of the observed generation**: an available Runtime was last built from the
generation it reports, or from a later one. -/
def World.Sound (w : World) : Prop :=
  ∀ r, w.cluster.runtime = some r →
    isStatusConditionTrue r.status.conditions typeAvailableRuntime = true →
    ∃ g, w.lastBuilt = some g ∧ r.status.observedGeneration ≤ g

/-! ## Calls that do not touch the Runtime -/

/-- The calls about managed objects, certificates and iteration orders. -/
def IsManaged : Call → Prop
  | .getRuntime _ => False
  | .updateRuntimeStatus _ => False
  | .built _ => False
  | _ => True

/-! ## The invariant -/

/-- What holds between any two steps: the report is sound, and never ahead of the specification. -/
structure Inv (w : World) : Prop where
  reported : ∀ r, w.cluster.runtime = some r →
    r.status.observedGeneration ≤ r.metadata.generation
  sound : w.Sound

/-- A copy of generation `g` has been fetched in this pass. -/
structure Fetched (g : Nat) (w : World) : Prop extends Inv w where
  unbuilt : w.builtNow = none
  between : ∀ r, w.cluster.runtime = some r →
    r.status.observedGeneration ≤ g ∧ g ≤ r.metadata.generation

/-- All objects have been built from generation `g` in this pass. -/
structure Built (g : Nat) (w : World) : Prop extends Inv w where
  built : w.builtNow = some g
  last : w.lastBuilt = some g
  between : ∀ r, w.cluster.runtime = some r →
    r.status.observedGeneration ≤ g ∧ g ≤ r.metadata.generation

/-- A step that leaves the status and the marks alone and does not lower the generation. -/
structure Advance (w w' : World) : Prop where
  runtime : ∀ r', w'.cluster.runtime = some r' → ∃ r, w.cluster.runtime = some r ∧
    r'.status = r.status ∧ r.metadata.generation ≤ r'.metadata.generation
  builtNow : w'.builtNow = w.builtNow
  lastBuilt : w'.lastBuilt = w.lastBuilt

section Invariant

variable {w w' : World} {g : Nat}

theorem Inv.advance (h : Inv w) (ha : Advance w w') : Inv w' where
  reported := by
    intro r' hr'
    obtain ⟨r, hr, hs, hg⟩ := ha.runtime r' hr'
    rw [hs]
    exact (h.reported r hr).trans hg
  sound := by
    intro r' hr' htrue
    obtain ⟨r, hr, hs, -⟩ := ha.runtime r' hr'
    rw [hs] at htrue ⊢
    rw [ha.lastBuilt]
    exact h.sound r hr htrue

theorem Inv.unmark (h : Inv w) : Inv { w with builtNow := none } := ⟨h.reported, h.sound⟩

theorem Advance.between (ha : Advance w w')
    (h : ∀ r, w.cluster.runtime = some r →
      r.status.observedGeneration ≤ g ∧ g ≤ r.metadata.generation) :
    ∀ r, w'.cluster.runtime = some r →
      r.status.observedGeneration ≤ g ∧ g ≤ r.metadata.generation := by
  intro r' hr'
  obtain ⟨r, hr, hs, hg⟩ := ha.runtime r' hr'
  rw [hs]
  exact ⟨(h r hr).1, (h r hr).2.trans hg⟩

theorem Fetched.advance (h : Fetched g w) (ha : Advance w w') : Fetched g w' where
  toInv := h.toInv.advance ha
  unbuilt := ha.builtNow.trans h.unbuilt
  between := ha.between h.between

theorem Built.advance (h : Built g w) (ha : Advance w w') : Built g w' where
  toInv := h.toInv.advance ha
  built := ha.builtNow.trans h.built
  last := ha.lastBuilt.trans h.last
  between := ha.between h.between

theorem advance_of_edit {e : Edit} (h : edit e w = some w') : Advance w w' := by
  obtain ⟨r, hr, rfl⟩ := Option.map_eq_some_iff.mp h
  refine ⟨?_, rfl, rfl⟩
  rintro _ ⟨⟩
  refine ⟨r, hr, ?_⟩
  cases e with
  | spec s => exact ⟨rfl, Nat.le_succ _⟩
  | labels ls as => exact ⟨rfl, le_rfl⟩

theorem answer_cases {d : Defaulting} {op : Call} {x : op.Answer}
    (h : Machine.serve (S := sig) (answer d) op w x w') (hop : ∀ g, op ≠ .built g) :
    server d op w.cluster x w'.cluster ∧ w'.builtNow = w.builtNow ∧ w'.lastBuilt = w.lastBuilt := by
  obtain ⟨ch, h⟩ := h
  obtain ⟨⟨y, c⟩, hy, heq⟩ := Option.map_eq_some_iff.mp h
  cases op with
  | built g => exact absurd rfl (hop g)
  | _ =>
      cases heq
      exact ⟨⟨ch, hy⟩, rfl, rfl⟩

theorem answer_built {d : Defaulting} {x : Unit}
    (h : Machine.serve (S := sig) (answer d) (.built g) w x w') :
    w' = ⟨w.cluster, some g, some g⟩ := by
  obtain ⟨ch, h⟩ := h
  obtain ⟨⟨y, c⟩, hy, heq⟩ := Option.map_eq_some_iff.mp h
  cases heq
  have hserved : server d (.built g) w.cluster x c := ⟨ch, hy⟩
  have hc : c = w.cluster := server_read (by trivial) hserved
  rw [hc]

theorem server_managed {d : Defaulting} {op : Call} {x : op.Answer} {c c' : Cluster}
    (hop : IsManaged op) (h : server d op c x c') : c'.runtime = c.runtime := by
  cases op with
  | create k o =>
      rcases server_create_cases h with ⟨-, -, rfl⟩ | ⟨-, rfl⟩
      · exact c.put_runtime k _
      · rfl
  | update k o =>
      rcases server_update_cases h with ⟨s, -, -, -, rfl⟩ | ⟨-, rfl⟩
      · exact c.put_runtime k _
      · rfl
  | getRuntime key | updateRuntimeStatus r => exact hop.elim
  | _ => rw [server_read (by trivial) h]

theorem advance_of_runtime_eq (hr : w'.cluster.runtime = w.cluster.runtime)
    (hb : w'.builtNow = w.builtNow) (hl : w'.lastBuilt = w.lastBuilt) : Advance w w' where
  runtime := fun r' hr' => ⟨r', hr ▸ hr', rfl, le_rfl⟩
  builtNow := hb
  lastBuilt := hl

theorem Fetched.report {d : Defaulting} {r' : Runtime}
    {x : Except GoError Runtime} (h : Fetched g w)
    (hs : Machine.serve (S := sig) (answer d) (.updateRuntimeStatus r') w x w')
    (hle : r'.status.observedGeneration ≤ g)
    (hfalse : isStatusConditionTrue r'.status.conditions typeAvailableRuntime = false) :
    Fetched g w' := by
  obtain ⟨hserver, hb, hl⟩ := answer_cases hs (fun _ h => by cases h)
  rcases server_status_cases hserver with heq | ⟨s, hstored, hc⟩
  · exact h.advance (advance_of_runtime_eq (congrArg Cluster.runtime heq) hb hl)
  · have hg : g ≤ s.metadata.generation := (h.between s hstored).2
    refine ⟨⟨?_, ?_⟩, hb.trans h.unbuilt, ?_⟩
    · rw [hc]
      rintro _ ⟨⟩
      exact hle.trans hg
    · rw [World.Sound, hc]
      rintro _ ⟨⟩ htrue
      rw [hfalse] at htrue
      cases htrue
    · rw [hc]
      rintro _ ⟨⟩
      exact ⟨hle, hg⟩

theorem Built.report {d : Defaulting} {r' : Runtime}
    {x : Except GoError Runtime} (h : Built g w)
    (hs : Machine.serve (S := sig) (answer d) (.updateRuntimeStatus r') w x w')
    (hle : r'.status.observedGeneration = g) : Built g w' := by
  obtain ⟨hserver, hb, hl⟩ := answer_cases hs (fun _ h => by cases h)
  rcases server_status_cases hserver with heq | ⟨s, hstored, hc⟩
  · exact h.advance (advance_of_runtime_eq (congrArg Cluster.runtime heq) hb hl)
  · have hbetween : ∀ r, w'.cluster.runtime = some r →
        r.status.observedGeneration ≤ g ∧ g ≤ r.metadata.generation := by
      rw [hc]
      rintro _ ⟨⟩
      exact ⟨hle.le, (h.between s hstored).2⟩
    exact
      { reported := fun r hr => (hbetween r hr).1.trans (hbetween r hr).2
        sound := fun r hr _ => ⟨g, hl.trans h.last, (hbetween r hr).1⟩
        built := hb.trans h.built
        last := hl.trans h.last
        between := hbetween }

end Invariant

/-! ## A pass keeps the invariant -/

section Pass

variable (libs : Libs) (wrkCtx : WorkerContext) (d : Defaulting) (req : NamespacedName)

/-- A triple for the controller among users, where every call is made in a sound world. -/
abbrev Pass {α : Type} (A : World → Prop) (p : Go α) (B : α → World → Prop) : Prop :=
  Triple (controller libs wrkCtx d req).toSystem Unraced (fun _ => World.Sound) A p B Inv

theorem stable_of_advance {A : World → Prop} (h : ∀ w w', A w → Advance w w' → A w') :
    (controller libs wrkCtx d req).toSystem.Stable Unraced A := by
  rintro w w' ⟨e, he⟩ - hw
  exact h w w' hw (advance_of_edit he)

variable {libs wrkCtx d req}

theorem inv_stable : (controller libs wrkCtx d req).toSystem.Stable Unraced Inv :=
  stable_of_advance libs wrkCtx d req fun _ _ => Inv.advance

theorem fetched_stable (g : Nat) :
    (controller libs wrkCtx d req).toSystem.Stable Unraced (Fetched g) :=
  stable_of_advance libs wrkCtx d req fun _ _ => Fetched.advance

theorem built_stable (g : Nat) :
    (controller libs wrkCtx d req).toSystem.Stable Unraced (Built g) :=
  stable_of_advance libs wrkCtx d req fun _ _ => Built.advance

/-- The beginning of a pass. -/
def Begun (w : World) : Prop := Inv w ∧ w.builtNow = none

theorem begun_stable : (controller libs wrkCtx d req).toSystem.Stable Unraced Begun :=
  stable_of_advance libs wrkCtx d req fun _ _ h ha =>
    ⟨h.1.advance ha, ha.builtNow.trans h.2⟩

theorem fetch_begun {w w' : World} {x : Except GoError Runtime} (h : Begun w)
    (hs : Machine.serve (S := sig) (answer d) (.getRuntime req) w x w') :
    Begun w' ∧ ∀ r, x = .ok r → Fetched r.metadata.generation w' ∧
      r.status.observedGeneration ≤ r.metadata.generation := by
  obtain ⟨hserver, hb, hl⟩ := answer_cases hs (fun _ h => by cases h)
  have hc := (server_getRuntime hserver).1
  have ha : Advance w w' := advance_of_runtime_eq (congrArg Cluster.runtime hc) hb hl
  refine ⟨⟨h.1.advance ha, hb.trans h.2⟩, ?_⟩
  rintro r rfl
  have hr : w.cluster.runtime = some r := (server_getRuntime_ok hserver).1
  refine ⟨⟨h.1.advance ha, hb.trans h.2, ?_⟩, h.1.reported r hr⟩
  rw [hc, hr]
  rintro _ ⟨⟩
  exact ⟨h.1.reported r hr, le_rfl⟩

theorem fail_pass {α : Type} {A : World → Prop} {B : α → World → Prop} (e : GoError)
    (hA : (controller libs wrkCtx d req).toSystem.Stable Unraced A) (h : ∀ w, A w → Inv w) :
    Pass libs wrkCtx d req A (Go.fail e : Go α) B :=
  Triple.fail hA h

theorem fetch_pass : Pass libs wrkCtx d req Begun (runtimeCall (Go.call (.getRuntime req)))
    (fun r => Fetched r.metadata.generation) := by
  refine Triple.call_bind (B := fun x w => Begun w ∧ ∀ r, x = .ok r →
    Fetched r.metadata.generation w) begun_stable (fun w h => h.1.sound) ?_ ?_
  · intro w x w' h hs _
    exact ⟨(fetch_begun h hs).1, fun r hr => ((fetch_begun h hs).2 r hr).1⟩
  · intro x
    cases x with
    | ok r =>
        refine Triple.weaken _ (Triple.ret (fetched_stable r.metadata.generation) fun _ h => h)
          (fun w h => h.2 r rfl) (fun _ _ h => h)
    | error e =>
        exact Triple.weaken _ (fail_pass e begun_stable fun _ h => h.1) (fun w h => h.1)
          (fun _ _ h => h)

theorem prepare_pass (r : Runtime)
    (hr : r.status.observedGeneration ≤ r.metadata.generation) :
    Pass libs wrkCtx d req (Fetched r.metadata.generation) (prepare req r)
      (fun r' => Fetched r'.metadata.generation) := by
  rw [prepare]
  split
  · refine Triple.bind (B := fun _ => Begun) ?_ inv_stable fun _ => fetch_pass
    refine Triple.call_bind (B := fun _ => Fetched r.metadata.generation) (fetched_stable _)
      (fun w h => h.sound) ?_ ?_
    · intro w x w' h hs _
      exact h.report hs hr (withAvailable_true _ _ _ _)
    · intro x
      cases x with
      | ok r' => exact Triple.ret (fetched_stable _) fun w h => ⟨h.toInv, h.unbuilt⟩
      | error e => exact fail_pass e (fetched_stable _) fun w h => h.toInv
  · exact Triple.ret (fetched_stable _) fun w h => h

theorem setupAll_pass (r : Runtime) :
    Pass libs wrkCtx d req (Fetched r.metadata.generation) (setupAll libs wrkCtx r)
      (fun _ => Fetched r.metadata.generation) := by
  have hsetup : Setup .any r (setupAll libs wrkCtx r) (fun _ => True) :=
    setupAll_setup libs wrkCtx (fun _ => trivial) fun _ => trivial
  refine Triple.of_all hsetup.all (fun _ _ _ _ _ _ _ => trivial)
    (fetched_stable _) (fun _ w _ h => h.sound) ?_ (fun w h => h.toInv)
  intro op w x w' hop h hs _
  by_cases hm : IsManaged op
  · obtain ⟨hserver, hb, hl⟩ := answer_cases hs (fun g hg => by rw [hg] at hm; exact hm)
    exact h.advance (advance_of_runtime_eq (server_managed hm hserver) hb hl)
  · cases op with
    | updateRuntimeStatus r' => exact h.report hs hop.1.le hop.2
    | getRuntime key | built g => exact hop.elim
    | _ => exact absurd trivial hm

theorem finish_pass (g : Nat) (pkiSecret : Secret) :
    Pass libs wrkCtx d req (Built g) (finish libs req pkiSecret) (fun _ => Inv) := by
  -- the copy that is fetched here has generation `g`, since nobody raced the pass
  refine Triple.bind (B := fun r w => Built g w ∧ r.metadata.generation = g) ?_ inv_stable ?_
  · refine Triple.call_bind (B := fun x w => Built g w ∧ ∀ r, x = .ok r →
      r.metadata.generation = g) (built_stable g) (fun w h => h.sound) ?_ ?_
    · intro w x w' h hs hok
      obtain ⟨hserver, hb, hl⟩ := answer_cases hs (fun _ h => by cases h)
      have hc := (server_getRuntime hserver).1
      refine ⟨h.advance (advance_of_runtime_eq (congrArg Cluster.runtime hc) hb hl), ?_⟩
      rintro r rfl
      have hgen := hok g h.built
      rw [World.generation, (server_getRuntime_ok hserver).1] at hgen
      exact Option.some.inj hgen
    · intro x
      cases x with
      | ok r =>
          intro w hw
          exact .ret (Built g) (built_stable g) hw.1 fun w' h' => ⟨h', hw.2 r rfl⟩
      | error e =>
          intro w hw
          exact .ret (Built g) (built_stable g) hw.1 fun w' h' => h'.toInv
  · intro r
    rcases eq_or_ne r.metadata.generation g with hg | hg
    · refine Triple.weaken (Built g) ?_ (fun w h => h.1) (fun _ _ h => h)
      cases hcert : certificateStatuses libs pkiSecret with
      | error e => exact fun w hw => .ret (Built g) (built_stable g) hw fun w' h' => h'.toInv
      | ok certs =>
          rw [Go.ofExcept_ok_bind]
          refine Triple.bind (B := fun _ => Built g) ?_ inv_stable fun _ =>
            Triple.ret (built_stable g) fun w h => h.toInv
          refine Triple.call_bind (B := fun _ => Built g) (built_stable g) (fun w h => h.sound)
            (fun w x w' h hs _ => h.report hs hg) ?_
          intro x
          cases x with
          | ok r' => exact Triple.ret (built_stable g) fun w h => h
          | error e => exact fail_pass e (built_stable g) fun w h => h.toInv
    · exact fun w h => absurd h.2 hg

/-- The mark is set in a world where a copy of that generation has been fetched. -/
theorem Fetched.mark {g : Nat} {w w' : World} {x : Unit} (h : Fetched g w)
    (hs : Machine.serve (S := sig) (answer d) (.built g) w x w') : Built g w' := by
  rw [answer_built hs]
  exact
    { reported := h.reported
      sound := fun r hr _ => ⟨g, rfl, (h.between r hr).1⟩
      built := rfl
      last := rfl
      between := h.between }

theorem reconcile_pass :
    Pass libs wrkCtx d req Begun (reconcile libs wrkCtx req) (fun _ => Inv) := by
  refine Triple.call_bind (B := fun x w => Begun w ∧ ∀ r, x = .ok r →
    Fetched r.metadata.generation w ∧ r.status.observedGeneration ≤ r.metadata.generation)
    begun_stable (fun w h => h.1.sound) (fun w x w' h hs _ => fetch_begun h hs) ?_
  intro x
  cases x with
  | error e =>
      refine Triple.weaken Begun ?_ (fun w h => h.1) (fun _ _ h => h)
      dsimp only
      split
      · exact Triple.ret begun_stable fun w h => h.1
      · exact fail_pass e begun_stable fun w h => h.1
  | ok r =>
      rcases le_or_gt r.status.observedGeneration r.metadata.generation with hr | hr
      · refine Triple.weaken (Fetched r.metadata.generation) ?_ (fun w h => (h.2 r rfl).1)
          (fun _ _ h => h)
        refine Triple.bind (prepare_pass r hr) inv_stable fun r' => ?_
        refine Triple.bind (setupAll_pass r') inv_stable fun pkiSecret => ?_
        exact Triple.call_bind (B := fun _ => Built r'.metadata.generation) (fetched_stable _)
          (fun w h => h.sound) (fun w x w' h hs _ => h.mark hs) fun _ => finish_pass _ pkiSecret
      · exact fun w h => absurd (h.2 r rfl).2 (by omega)

/-- **The observed generation is sound.** Start with a Runtime without status, and let users
change it while the controller reconciles it again and again, any call failing at any time. If no
change of the specification falls between the build of the objects and the last fetch of the
Runtime in the same pass, then in every state reached an available Runtime was last built from the
generation it reports, or from a later one. -/
theorem observed_generation_sound {c₀ : Cluster} {r₀ : Runtime}
    (hr₀ : c₀.runtime = some r₀) (hstatus : r₀.status = {})
    {s : State sig (Except Fault Unit) World}
    (hrun : (controller libs wrkCtx d req).toSystem.Run Unraced ⟨World.start c₀, none⟩ s) :
    s.world.Sound := by
  have hinit : Inv (World.start c₀) := by
    have hr : ∀ r, (World.start c₀).cluster.runtime = some r → r.status = {} := by
      intro r hr
      rw [show (World.start c₀).cluster.runtime = some r₀ from hr₀] at hr
      cases hr
      exact hstatus
    refine ⟨fun r h => ?_, fun r h htrue => ?_⟩
    · rw [hr r h]
      exact Nat.zero_le _
    · rw [hr r h] at htrue
      cases htrue
  have hsafe := System.run_safe (M := (controller libs wrkCtx d req).toSystem) (I := Inv)
    (fun _ => World.Sound) (fun _ => Inv) inv_stable
    (fun w hw _ => Prog.Safe.mono (reconcile_pass _ ⟨hw.unmark, rfl⟩) fun r w h => by
      cases r <;> exact h)
    (fun _ w hw _ => hw.unmark) rfl hinit hrun
  cases hrunning : s.running with
  | none => exact (hsafe.1 hrunning).sound
  | some p =>
      cases p with
      | ret a => exact (hsafe.2 _ hrunning s.world .refl).sound
      | call op k => exact (hsafe.2 _ hrunning s.world .refl).1

end Pass

/-! ## A change between the build and the report -/

/-- A first reconciliation in which every call is served; `edits` happen between the build and the
last fetch. -/
def firstPass (edits : List Edit) : List (Machine.Act Choice Edit) :=
  let sign : Choice := .certificate (.ok ⟨[], []⟩)
  let ranges : Choice := .ranges ⟨fun _ => default, default⟩
  let synced : List Choice := [ranges, .serve, .serve]
  let build : List Choice :=
    [.serve, .serve, .serve] ++
    [.serve, sign, sign, sign, sign, sign, sign, sign, sign, .serve] ++
    [.serve, sign, .serve, .serve] ++
    synced ++ synced ++ synced ++ synced ++ synced ++
    [.serve, .serve, .serve, .serve, .serve, .serve] ++
    synced ++ [.serve]
  [.enter] ++ build.map .call ++ edits.map .env ++ [.call .serve, .call .serve, .leave]

/-- The controller for the Runtime `tenant`. -/
def tenantController : Machine sig (Except Fault Unit) World Choice Edit :=
  controller (sampleLibs (.minimal "tenant" "default")) newWorkerContextWithDefaults noDefaulting
    ⟨"default", "tenant"⟩

def tenantStart : State sig (Except Fault Unit) World :=
  ⟨World.start (.withRuntime (.minimal "tenant" "default")), none⟩

/-- A Runtime reported as available with generation `g`, last built from generation `b`. -/
def reports (g b : Nat) (s : State sig (Except Fault Unit) World) : Bool :=
  s.world.lastBuilt == some b && s.world.cluster.runtime.any (fun r =>
    isStatusConditionTrue r.status.conditions typeAvailableRuntime &&
      r.status.observedGeneration == g)

instance (w : World) (l : Label sig (Except Fault Unit) World) : Decidable (Unraced w l) :=
  match l with
  | .call (.getRuntime _) _ =>
      decidable_of_iff (∀ g ∈ w.builtNow, w.generation = some g) Iff.rfl
  | .call (.get _ _) _ | .call (.create _ _) _ | .call (.update _ _) _
  | .call (.updateRuntimeStatus _) _ | .call .generateSelfSignedCert _ | .call (.signCSR _ _ _) _
  | .call (.verifyCertificate _ _ _) _ | .call .ranges _ | .call (.built _) _
  | .enter | .leave _ | .env _ => .isTrue trivial

/-- Left alone, the first reconciliation ends with a report of the generation that was built. -/
theorem first_report_sound :
    ∃ s, tenantController.toSystem.Run Unraced tenantStart s ∧ reports 1 1 s = true ∧
      s.world.Sound := by
  obtain ⟨s, hrun, hs⟩ := Machine.exists_run tenantController Unraced tenantStart
    (firstPass []) (reports 1 1) (by decide +kernel)
  exact ⟨s, hrun, hs, observed_generation_sound rfl rfl hrun⟩

/-- A change of the specification right after the build is reported as built. -/
theorem raced_report_not_sound :
    ∃ s, tenantController.toSystem.Run (fun _ _ => True) tenantStart s ∧ ¬ s.world.Sound := by
  obtain ⟨s, hrun, hs⟩ := Machine.exists_run tenantController (fun _ _ => True) tenantStart
    (firstPass [.spec { (Runtime.minimal "tenant" "default").spec with
      controlPlane := { heirImage := "ghcr.io/tardigradeproj/heir:v2" } }])
    (reports 2 1) (by decide +kernel)
  refine ⟨s, hrun, fun hsound => ?_⟩
  simp only [reports, Bool.and_eq_true, beq_iff_eq, Option.any_eq_true] at hs
  obtain ⟨hlast, r, hr, htrue, hgen⟩ := hs
  obtain ⟨g, hg, hle⟩ := hsound r hr htrue
  rw [hlast] at hg
  cases hg
  omega

end Heir.Controller.Runtime
