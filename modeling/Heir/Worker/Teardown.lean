import Heir.Lib.Automaton

set_option autoImplicit false

/-! # Teardown of a supervised process

`Containerd` and `Kubelet` keep one process each: `Run` creates a `procmgr.Component`, publishes the
function that cancels its context and lets the component start the process, up to `MaxRetries` times
again when it exits. `Teardown` cancels that context, sets the flag `stopping` and stops the process
whose handle it finds. The events of `process` are the steps of the goroutine of `Run`, of one call
of `Teardown` and of the process.

A cancelled context is the only thing that keeps a process from being started: the flag `stopping` is
read after a process has exited, never before one is started. `Teardown` cancels the context if `Run`
has published the function by then. If it has not, `Teardown` finds nothing to stop and returns, and
`Run` goes on and starts the process (`process_started_after_teardown`). That is the only way
(`teardown_final`), and it is always possible then (`teardown_overtaken`).
-/

namespace Heir.Worker.Teardown

/-- The runners that keep a process. -/
inductive Runner where
  | containerd
  | kubelet
  deriving DecidableEq, Repr

/-- `MaxRetries` of the component each of them creates. -/
def Runner.maxRetries : Runner → Nat
  | .containerd => 5
  | .kubelet => 5

/-- Where the goroutine of `Run` is. The number counts the attempts before this one. -/
inductive RunPhase where
  | launched
  /-- The component is published. -/
  | created
  /-- The cancel function is published. -/
  | entering
  | starting (n : Nat)
  /-- A process runs, its handle is not published. -/
  | started (n pid : Nat)
  | waiting (n : Nat)
  /-- `cmd.Wait` has returned. -/
  | exited (n : Nat)
  | failed (n : Nat)
  | backoff (n : Nat)
  | ended
  deriving DecidableEq, Repr

/-- Where the call of `Teardown` is. -/
inductive TeardownPhase where
  | idle
  | cancelling
  | readingComponent
  | locking
  | signalling (pid : Nat)
  | polling (pid : Nat)
  | returned
  deriving DecidableEq, Repr

structure State where
  run : RunPhase := .launched
  teardown : TeardownPhase := .idle
  /-- The fields of the runner are set. -/
  component : Bool := false
  cancel : Bool := false
  /-- The fields of the component. -/
  stopping : Bool := false
  proc : Option Nat := none
  /-- The context of the component was cancelled by the cancel function. -/
  runDone : Bool := false
  /-- The context of the worker is cancelled, and with it that of the component. -/
  ctxDone : Bool := false
  /-- The process that runs, and how many were started. -/
  running : Option Nat := none
  starts : Nat := 0
  deriving DecidableEq, Repr

inductive Event where
  | createComponent
  | setCancel
  /-- `retry.Do` looks at its context. -/
  | enterRetry
  /-- `cmd.Start` starts a process. -/
  | start
  | startFails
  | publishProc
  | waitReturns
  | readStopping
  /-- `retry.Do` gives up or waits. -/
  | retry
  | backoffOver
  | backoffCancelled
  | processExits
  | cancelWorker
  | readCancel
  | callCancel
  | readComponent
  | setStopping
  | sendTerm
  | poll
  | kill
  deriving DecidableEq, Repr

namespace State

/-- The context of the component is cancelled. -/
def closed (s : State) : Bool := s.runDone || s.ctxDone

def step (r : Runner) (s : State) : Event → Option State
  | .createComponent =>
      match s.run with
      | .launched => some { s with run := .created, component := true }
      | _ => none
  | .setCancel =>
      match s.run with
      | .created => some { s with run := .entering, cancel := true }
      | _ => none
  | .enterRetry =>
      match s.run with
      | .entering => some { s with run := if s.closed then .ended else .starting 0 }
      | _ => none
  | .start =>
      match s.run with
      | .starting n =>
          -- no process is started under a cancelled context
          if s.closed then none
          else some { s with
            run := .started n s.starts
            running := some s.starts
            starts := s.starts + 1 }
      | _ => none
  | .startFails =>
      match s.run with
      | .starting n => some { s with run := .failed n }
      | _ => none
  | .publishProc =>
      match s.run with
      | .started n pid => some { s with run := .waiting n, proc := some pid }
      | _ => none
  | .waitReturns =>
      match s.run with
      | .waiting n => if s.running = none then some { s with run := .exited n } else none
      | _ => none
  | .readStopping =>
      match s.run with
      | .exited n => some { s with run := if s.stopping then .ended else .failed n }
      | _ => none
  | .retry =>
      match s.run with
      | .failed n => some { s with run := if n = r.maxRetries then .ended else .backoff n }
      | _ => none
  | .backoffOver =>
      match s.run with
      | .backoff n => some { s with run := .starting (n + 1) }
      | _ => none
  | .backoffCancelled =>
      match s.run with
      | .backoff _ => if s.closed then some { s with run := .ended } else none
      | _ => none
  -- a process may exit at any time, killed by a cancelled context or by itself
  | .processExits => if s.running.isSome then some { s with running := none } else none
  | .cancelWorker => some { s with ctxDone := true }
  | .readCancel =>
      match s.teardown with
      | .idle => some { s with teardown := if s.cancel then .cancelling else .readingComponent }
      | _ => none
  | .callCancel =>
      match s.teardown with
      | .cancelling => some { s with teardown := .readingComponent, runDone := true }
      | _ => none
  | .readComponent =>
      match s.teardown with
      | .readingComponent =>
          some { s with teardown := if s.component then .locking else .returned }
      | _ => none
  | .setStopping =>
      match s.teardown with
      | .locking => some { s with stopping := true, teardown := s.proc.elim .returned .signalling }
      | _ => none
  | .sendTerm =>
      match s.teardown with
      | .signalling pid =>
          some { s with teardown := if s.running = some pid then .polling pid else .returned }
      | _ => none
  | .poll =>
      match s.teardown with
      | .polling pid =>
          some { s with teardown := if s.running = some pid then .polling pid else .returned }
      | _ => none
  | .kill =>
      match s.teardown with
      | .polling pid =>
          some { s with
            teardown := .returned
            running := if s.running = some pid then none else s.running }
      | _ => none

end State

/-- A runner, its process and one call of its `Teardown`. -/
def process (r : Runner) : Automaton State Event where
  init := {}
  step := State.step r

namespace State

/-! ## What a step does -/

/-- The step of every event, with the conditions under which it happens. -/
inductive Does (r : Runner) (s : State) : Event → State → Prop where
  | createComponent (hrun : s.run = .launched) :
      Does r s .createComponent { s with run := .created, component := true }
  | setCancel (hrun : s.run = .created) :
      Does r s .setCancel { s with run := .entering, cancel := true }
  | enterRetry (hrun : s.run = .entering) :
      Does r s .enterRetry { s with run := if s.closed then .ended else .starting 0 }
  | start {n : Nat} (hrun : s.run = .starting n) (hopen : s.closed = false) :
      Does r s .start { s with
        run := .started n s.starts
        running := some s.starts
        starts := s.starts + 1 }
  | startFails {n : Nat} (hrun : s.run = .starting n) : Does r s .startFails { s with run := .failed n }
  | publishProc {n pid : Nat} (hrun : s.run = .started n pid) :
      Does r s .publishProc { s with run := .waiting n, proc := some pid }
  | waitReturns {n : Nat} (hrun : s.run = .waiting n) (hnone : s.running = none) :
      Does r s .waitReturns { s with run := .exited n }
  | readStopping {n : Nat} (hrun : s.run = .exited n) :
      Does r s .readStopping { s with run := if s.stopping then .ended else .failed n }
  | retry {n : Nat} (hrun : s.run = .failed n) :
      Does r s .retry { s with run := if n = r.maxRetries then .ended else .backoff n }
  | backoffOver {n : Nat} (hrun : s.run = .backoff n) :
      Does r s .backoffOver { s with run := .starting (n + 1) }
  | backoffCancelled {n : Nat} (hrun : s.run = .backoff n) (hclosed : s.closed = true) :
      Does r s .backoffCancelled { s with run := .ended }
  | processExits (hrunning : s.running.isSome) : Does r s .processExits { s with running := none }
  | cancelWorker : Does r s .cancelWorker { s with ctxDone := true }
  | readCancel (htd : s.teardown = .idle) :
      Does r s .readCancel { s with
        teardown := if s.cancel then .cancelling else .readingComponent }
  | callCancel (htd : s.teardown = .cancelling) :
      Does r s .callCancel { s with teardown := .readingComponent, runDone := true }
  | readComponent (htd : s.teardown = .readingComponent) :
      Does r s .readComponent { s with teardown := if s.component then .locking else .returned }
  | setStopping (htd : s.teardown = .locking) :
      Does r s .setStopping { s with
        stopping := true
        teardown := s.proc.elim .returned .signalling }
  | sendTerm {pid : Nat} (htd : s.teardown = .signalling pid) :
      Does r s .sendTerm { s with
        teardown := if s.running = some pid then .polling pid else .returned }
  | poll {pid : Nat} (htd : s.teardown = .polling pid) :
      Does r s .poll { s with teardown := if s.running = some pid then .polling pid else .returned }
  | kill {pid : Nat} (htd : s.teardown = .polling pid) :
      Does r s .kill { s with
        teardown := .returned
        running := if s.running = some pid then none else s.running }

variable {e : Event} {r : Runner} {s s' : State}

theorem does_of_step (h : s.step r e = some s') : s.Does r e s' := by
  cases e with
  | start =>
      simp only [step] at h
      split at h
      · next hrun =>
          rw [Option.ite_none_left_eq_some, Bool.not_eq_true, Option.some.injEq] at h
          obtain ⟨hopen, rfl⟩ := h
          exact .start hrun hopen
      · cases h
  | waitReturns =>
      simp only [step] at h
      split at h
      · next hrun =>
          rw [Option.ite_none_right_eq_some, Option.some.injEq] at h
          obtain ⟨hnone, rfl⟩ := h
          exact .waitReturns hrun hnone
      · cases h
  | backoffCancelled =>
      simp only [step] at h
      split at h
      · next hrun =>
          rw [Option.ite_none_right_eq_some, Option.some.injEq] at h
          obtain ⟨hclosed, rfl⟩ := h
          exact .backoffCancelled hrun hclosed
      · cases h
  | processExits =>
      simp only [step, Option.ite_none_right_eq_some, Option.some.injEq] at h
      obtain ⟨hrunning, rfl⟩ := h
      exact .processExits hrunning
  | cancelWorker =>
      cases h
      exact .cancelWorker
  | _ =>
      -- every other event needs one phase and nothing else
      simp only [step] at h
      split at h
      · next hphase =>
          cases h
          constructor
          exact hphase
      · cases h

/-! ## After the cancellation -/

/-- `Teardown` has not yet passed the cancel function, or the context is cancelled. -/
def Closing (s : State) : Prop :=
  s.teardown = .idle ∨ s.teardown = .cancelling ∨ s.closed = true

/-- `Teardown` begins when the cancel function is published or the worker's context is cancelled. -/
def Published (s : State) (e : Event) : Prop :=
  e = .readCancel → s.cancel = true ∨ s.ctxDone = true

instance (s : State) (e : Event) : Decidable (s.Published e) :=
  inferInstanceAs (Decidable (_ → _))

theorem Does.closed (h : s.Does r e s') (hclosed : s.closed = true) : s'.closed = true := by
  cases h with
  | cancelWorker => exact Bool.or_true _
  | callCancel => rfl
  | _ => exact hclosed

/-- `Teardown` only leaves its first phases by their own steps. -/
theorem Does.teardown_eq (h : s.Does r e s') (htd : s.teardown = .idle ∨ s.teardown = .cancelling)
    (hread : e ≠ .readCancel) (hcall : e ≠ .callCancel) : s'.teardown = s.teardown := by
  have hnot : ∀ {p : TeardownPhase}, s.teardown = p → p ≠ .idle → p ≠ .cancelling → False := by
    intro p hp hidle hcancelling
    rw [hp] at htd
    exact htd.elim hidle hcancelling
  cases h with
  | readCancel => exact absurd rfl hread
  | callCancel => exact absurd rfl hcall
  | readComponent hp | setStopping hp => exact (hnot hp (by decide) (by decide)).elim
  | sendTerm hp | poll hp | kill hp => exact (hnot hp (by simp) (by simp)).elim
  | _ => rfl

theorem Closing.step (h : s.Closing) (hok : s.Published e) (hdoes : s.Does r e s') :
    s'.Closing := by
  by_cases hclosed : s.closed = true
  · exact .inr (.inr (hdoes.closed hclosed))
  · -- so far nothing is cancelled, and `Teardown` is in one of its first two phases
    have htd : s.teardown = .idle ∨ s.teardown = .cancelling :=
      h.imp_right fun h => h.resolve_right hclosed
    by_cases hread : e = .readCancel
    · subst hread
      cases hdoes with
      | readCancel hidle =>
          rcases hok rfl with hcancel | hctx
          · refine .inr (.inl ?_)
            dsimp only
            rw [if_pos hcancel]
          · refine absurd ?_ hclosed
            rw [State.closed, hctx, Bool.or_true]
    · by_cases hcall : e = .callCancel
      · subst hcall
        cases hdoes
        exact .inr (.inr rfl)
      · rw [Closing, hdoes.teardown_eq htd hread hcall]
        exact htd.imp_right .inl

theorem Closing.of_returned (h : s.Closing) (htd : s.teardown = .returned) : s.closed = true := by
  rcases h with hidle | hcancelling | hclosed
  · rw [htd] at hidle
    cases hidle
  · rw [htd] at hcancelling
    cases hcancelling
  · exact hclosed

theorem start_eq_none (h : s.closed = true) : s.step r .start = none := by
  simp only [step]
  split
  · rw [if_pos h]
  · rfl

theorem Does.returned (h : s.Does r e s') (htd : s.teardown = .returned) :
    s'.teardown = .returned := by
  have hnot : ∀ {p : TeardownPhase}, s.teardown = p → p ≠ .returned → s'.teardown = .returned := by
    intro p hp hreturned
    exact absurd (hp.symm.trans htd) hreturned
  cases h with
  | readCancel hp | callCancel hp | readComponent hp | setStopping hp => exact hnot hp (by decide)
  | sendTerm hp | poll hp | kill hp => exact hnot hp (by simp)
  | _ => exact htd

/-! ## Before the publication -/

/-- Until the cancel function is published it cancels nothing, there is no process, and there is a
component if `Run` has created it. -/
def Unpublished (s : State) : Prop :=
  s.cancel = false → s.teardown ≠ .cancelling ∧ s.proc = none ∧ s.runDone = false ∧
    (s.run = .launched ∧ s.component = false ∨ s.run = .created ∧ s.component = true)

theorem Unpublished.step (h : s.Unpublished) (hdoes : s.Does r e s') : s'.Unpublished := by
  intro hcancel
  -- no step takes the function back
  have hbefore : s.cancel = false := by
    cases hdoes with
    | setCancel => cases hcancel
    | _ => exact hcancel
  obtain ⟨htd, hproc, hdone, hphase⟩ := h hbefore
  have hnot : ∀ {p : RunPhase}, s.run = p → p ≠ .launched → p ≠ .created → False := by
    intro p hp hlaunched hcreated
    rw [hp] at hphase
    exact hphase.elim (fun h => hlaunched h.1) (fun h => hcreated h.1)
  cases hdoes with
  | createComponent => exact ⟨htd, hproc, hdone, .inr ⟨rfl, rfl⟩⟩
  | setCancel => cases hcancel
  | enterRetry hrun => exact (hnot hrun (by decide) (by decide)).elim
  | start hrun | startFails hrun | publishProc hrun | waitReturns hrun | readStopping hrun
  | retry hrun | backoffOver hrun | backoffCancelled hrun =>
      exact (hnot hrun (by simp) (by simp)).elim
  | processExits | cancelWorker => exact ⟨htd, hproc, hdone, hphase⟩
  | readCancel =>
      refine ⟨?_, hproc, hdone, hphase⟩
      simp [hbefore]
  | callCancel hp => exact absurd hp htd
  | readComponent =>
      refine ⟨?_, hproc, hdone, hphase⟩
      cases s.component <;> simp
  | setStopping =>
      refine ⟨?_, hproc, hdone, hphase⟩
      simp [hproc]
  | sendTerm | poll =>
      refine ⟨?_, hproc, hdone, hphase⟩
      dsimp only
      split <;> simp
  | kill =>
      refine ⟨?_, hproc, hdone, hphase⟩
      simp

theorem closing_of_trace {h : List Event} (hrun : ((process r).restrict Published).Trace h s) :
    s.Closing := by
  refine hrun.invariant (fun _ s => s.Closing) (.inl rfl) fun _ ih hstep => ?_
  obtain ⟨hok, hstep⟩ := Automaton.restrict_step.mp hstep
  exact ih.step hok (does_of_step hstep)

end State

/-- **Teardown.** As long as `Teardown` begins only after the cancel function is published or the
context of the worker is cancelled: once it has returned, no process is ever started. -/
theorem teardown_final (r : Runner) (h₁ h₂ : List Event) (s₁ s₂ : State)
    (hreturned : ((process r).restrict State.Published).Trace h₁ s₁)
    (htd : s₁.teardown = .returned)
    (hafter : ((process r).restrict State.Published).Trace (h₁ ++ h₂) s₂) : .start ∉ h₂ := by
  have hall : s₂.teardown = .returned ∧ .start ∉ h₂ := by
    induction h₂ using List.reverseRecOn generalizing s₂ with
    | nil =>
        rw [List.append_nil] at hafter
        rw [hafter.unique hreturned]
        exact ⟨htd, List.not_mem_nil⟩
    | append_singleton h e ih =>
        rw [← List.append_assoc] at hafter
        obtain ⟨s, hrun, hstep⟩ := hafter.snoc_inv
        obtain ⟨hret, hnone⟩ := ih s hrun
        obtain ⟨-, hstep⟩ := Automaton.restrict_step.mp hstep
        refine ⟨(State.does_of_step hstep).returned hret, ?_⟩
        rw [List.mem_append, List.mem_singleton, not_or]
        refine ⟨hnone, fun he => ?_⟩
        -- the context is cancelled in every state after the return
        have hclosed := (State.closing_of_trace hrun).of_returned hret
        rw [← he] at hstep
        have hstart : s.step r .start = some s₂ := hstep
        rw [State.start_eq_none hclosed] at hstart
        cases hstart
  exact hall.2

/-- A process is started, and `Teardown` stops it. -/
def stopped : List Event :=
  [.createComponent, .setCancel, .enterRetry, .start, .publishProc, .readCancel, .callCancel,
    .readComponent, .setStopping, .sendTerm, .processExits, .poll]

/-- The goroutine sees the flag and ends. -/
def ending : List Event := [.waitReturns, .readStopping]

theorem stopped_process_final : ∃ s₁ s₂,
    ((process .kubelet).restrict State.Published).Trace stopped s₁ ∧ s₁.teardown = .returned ∧
    ((process .kubelet).restrict State.Published).Trace (stopped ++ ending) s₂ ∧ s₂.run = .ended ∧
    .start ∉ ending := by
  obtain ⟨s₁, hrun₁, htd⟩ := Automaton.exists_trace ((process .kubelet).restrict State.Published)
    stopped (fun s => s.teardown = .returned) (by decide +kernel)
  obtain ⟨s₂, hrun₂, hended⟩ := Automaton.exists_trace ((process .kubelet).restrict State.Published)
    (stopped ++ ending) (fun s => s.run = .ended) (by decide +kernel)
  exact ⟨s₁, s₂, hrun₁, htd, hrun₂, hended, teardown_final .kubelet _ _ s₁ s₂ hrun₁ htd hrun₂⟩

/-- `Teardown` comes first and finds nothing. -/
def early : List Event := [.readCancel, .readComponent]

/-- `Run` starts its first process. -/
def starting : List Event := [.createComponent, .setCancel, .enterRetry, .start]

theorem process_started_after_teardown : ∃ s₁ s₂,
    (process .containerd).Trace early s₁ ∧ s₁.teardown = .returned ∧
    (process .containerd).Trace (early ++ starting) s₂ ∧ .start ∈ starting ∧
    s₂.running = some 0 := by
  obtain ⟨s₁, hrun₁, htd⟩ := Automaton.exists_trace (process .containerd) early
    (fun s => s.teardown = .returned) (by decide +kernel)
  obtain ⟨s₂, hrun₂, hrunning⟩ := Automaton.exists_trace (process .containerd) (early ++ starting)
    (fun s => s.running = some 0) (by decide +kernel)
  exact ⟨s₁, s₂, hrun₁, htd, hrun₂, by decide, hrunning⟩

/-- **Necessity.** Whenever `Teardown` begins before the cancel function is published and the
context of the worker is not cancelled, it can return before `Run` starts a process. -/
theorem teardown_overtaken (r : Runner) {h : List Event} {s : State} (hrun : (process r).Trace h s)
    (htd : s.teardown = .idle) (hcancel : s.cancel = false) (hctx : s.ctxDone = false) :
    ∃ h₁ h₂ s₁ s₂, (process r).Trace (h ++ h₁) s₁ ∧ s₁.teardown = .returned ∧
      (process r).Trace (h ++ h₁ ++ h₂) s₂ ∧ .start ∈ h₂ := by
  have hunpublished : s.Unpublished := by
    refine hrun.invariant (fun _ s => s.Unpublished) (fun _ => ?_) fun _ ih hstep => ?_
    · refine ⟨?_, rfl, rfl, .inl ⟨rfl, rfl⟩⟩
      change TeardownPhase.idle ≠ TeardownPhase.cancelling
      decide
    · exact ih.step (State.does_of_step hstep)
  obtain ⟨-, hproc, hdone, hphase⟩ := hunpublished hcancel
  obtain ⟨run, teardown, component, cancel, stopping, proc, runDone, ctxDone, running, starts⟩ := s
  dsimp only at htd hcancel hctx hproc hdone hphase
  subst htd hcancel hctx hproc hdone
  rcases hphase with ⟨rfl, rfl⟩ | ⟨rfl, rfl⟩
  · -- no component: `Teardown` returns at once
    have hreturns : [.readCancel, .readComponent].foldlM (process r).step
        { stopping, running, starts } =
          some { teardown := .returned, stopping, running, starts } := by
      simp [process, State.step]
    have hstarts : [.createComponent, .setCancel, .enterRetry, .start].foldlM (process r).step
        { teardown := .returned, stopping, running, starts } =
          some { run := .started 0 starts, teardown := .returned, component := true, cancel := true,
                 stopping, running := some starts, starts := starts + 1 } := by
      simp [process, State.step, State.closed]
    have hrun₁ := hrun.append hreturns
    have hrun₂ := hrun₁.append hstarts
    exact ⟨_, _, _, _, hrun₁, rfl, hrun₂, by simp⟩
  · -- a component without a process: `Teardown` sets the flag, which nobody reads
    have hreturns : [.readCancel, .readComponent, .setStopping].foldlM (process r).step
        { run := .created, component := true, stopping, running, starts } =
          some { run := .created, teardown := .returned, component := true, stopping := true,
                 running, starts } := by
      simp [process, State.step]
    have hstarts : [.setCancel, .enterRetry, .start].foldlM (process r).step
        { run := .created, teardown := .returned, component := true, stopping := true, running,
          starts } =
          some { run := .started 0 starts, teardown := .returned, component := true, cancel := true,
                 stopping := true, running := some starts, starts := starts + 1 } := by
      simp [process, State.step, State.closed]
    have hrun₁ := hrun.append hreturns
    have hrun₂ := hrun₁.append hstarts
    exact ⟨_, _, _, _, hrun₁, rfl, hrun₂, by simp⟩

end Heir.Worker.Teardown
