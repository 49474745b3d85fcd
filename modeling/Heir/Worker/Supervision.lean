import Heir.Lib.Automaton
import Heir.Lib.Channel

set_option autoImplicit false

/-! # Supervision of a worker's activities

`worker.Run` starts the proxy to the API server in one goroutine and every component in another, and
then waits in a `select` for the first of: an error of the proxy, a signal, an error of a component,
the end of its context. The events of `worker` are the steps of all these goroutines.

Two failures do not arrive. The channel `proxyErr` is declared and never made, so the goroutine of
the proxy blocks on it forever; and `Containerd.Run` logs the error of its process and returns nil
(`failures_not_delivered`). `failures_delivered` says that nothing else goes wrong: the channel of
the components never blocks a sender, so a failed kubelet always wakes the `select`.
-/

namespace Heir.Worker.Supervision

/-- The components `Run` starts. -/
inductive Runner where
  | containerd
  | kubelet
  | cni
  deriving DecidableEq, Repr

/-- The type of a runner as `%T` prints it. -/
def Runner.goType : Runner → String
  | .containerd => "*component.Containerd"
  | .kubelet => "*component.Kubelet"
  | .cni => "*component.Cni"

/-- What `Run` of a runner returns when the `Run` of its process has returned `process`. The CNI
plugins are no process. -/
def Runner.run : Runner → Option String → Option String
  | .containerd, _ => none
  | .kubelet, process => process
  | .cni, _ => none

/-- The list `runners`. -/
def runners (cniProvider : String) : List Runner :=
  [.containerd, .kubelet] ++ if ["flannel"].contains cniProvider then [.cni] else []

/-- Where a supervised goroutine is. -/
inductive Activity where
  | running
  /-- It has an error to send. -/
  | sending (err : String)
  | ended (failed : Bool)
  deriving DecidableEq, Repr

/-- The activity has ended with an error. -/
def Activity.failed : Activity → Bool
  | .running => false
  | .sending _ => true
  | .ended failed => failed

def Activity.isSending : Activity → Bool
  | .sending _ => true
  | _ => false

/-- The activity may still send an error. -/
def Activity.pending : Activity → Bool
  | .ended _ => false
  | _ => true

@[simp] theorem Activity.pending_running : Activity.running.pending = true := rfl

@[simp] theorem Activity.pending_sending (err : String) : (Activity.sending err).pending = true := rfl

@[simp] theorem Activity.pending_ended (failed : Bool) : (Activity.ended failed).pending = false := rfl

/-- What the goroutine of a runner does when the `Run` of its process has returned. -/
def Runner.after (r : Runner) (process : Option String) : Activity :=
  (r.run process).elim (.ended process.isSome) .sending

/-- The cases of the `select`. -/
inductive Case where
  | proxyErr
  | sigCh
  | errCh
  | done
  deriving DecidableEq, Repr

/-- Where `Run` is. -/
inductive Main where
  /-- Before the components are started. -/
  | provisioning
  | started
  | selecting
  | tearingDown (runErr : Option String)
  | returned
  deriving DecidableEq, Repr

/-- `Run` is past the `select`, or will not come to it. -/
def Main.left : Main → Bool
  | .tearingDown _ => true
  | .returned => true
  | _ => false

structure State where
  main : Main := .provisioning
  /-- The goroutine that calls `Link`. -/
  proxy : Activity := .running
  components : List (Runner × Activity) := []
  /-- `var proxyErr chan error`. -/
  proxyErr : Chan String := .nil
  errCh : Chan String := .nil
  sigCh : Chan Unit := .nil
  ctxDone : Bool := false
  deriving DecidableEq

inductive Event where
  /-- A step before the components are started fails, and `Run` returns its error. -/
  | abort
  /-- The components are started. -/
  | start (cniProvider : String)
  /-- `signal.Notify`; `Run` arrives at the `select`. -/
  | notify
  /-- `Link` returns, with an error or without. -/
  | linkReturns (err : Option String)
  | sendProxyErr
  /-- The process of a component gives up with an error, or a component without one returns. -/
  | runReturns (i : Nat) (process : Option String)
  | sendErr (i : Nat)
  | signal
  | cancel
  /-- The `select` takes a case that is ready. -/
  | choose (c : Case)
  | teardown

namespace State

def ready (s : State) : Case → Bool
  | .proxyErr => s.proxyErr.ready
  | .sigCh => s.sigCh.ready
  | .errCh => s.errCh.ready
  | .done => s.ctxDone

/-- A case of the `select`. Only the error of a component is returned. -/
def take (s : State) : Case → Option State
  | .proxyErr =>
      s.proxyErr.receive.map fun x => { s with proxyErr := x.2, main := .tearingDown none }
  | .sigCh => s.sigCh.receive.map fun x => { s with sigCh := x.2, main := .tearingDown none }
  | .errCh => s.errCh.receive.map fun x => { s with errCh := x.2, main := .tearingDown (some x.1) }
  | .done => if s.ctxDone then some { s with main := .tearingDown none } else none

def step (s : State) : Event → Option State
  | .abort => if s.main = .provisioning then some { s with main := .returned } else none
  | .start cniProvider =>
      if s.main = .provisioning then
        some { s with
          main := .started
          errCh := .make (runners cniProvider).length
          components := (runners cniProvider).map fun r => (r, .running) }
      else none
  | .notify =>
      if s.main = .started then some { s with main := .selecting, sigCh := .make 1 } else none
  | .linkReturns err =>
      if s.proxy = .running then
        some { s with proxy := err.elim (.ended false) .sending }
      else none
  | .sendProxyErr =>
      match s.proxy with
      | .sending err => (s.proxyErr.send err).map fun c => { s with proxyErr := c, proxy := .ended true }
      | _ => none
  | .runReturns i process =>
      match s.components[i]? with
      | some (r, .running) =>
          if r = .cni ∧ process.isSome then none
          else
            some { s with components := s.components.set i (r, r.after process) }
      | _ => none
  | .sendErr i =>
      match s.components[i]? with
      | some (r, .sending err) =>
          (s.errCh.send (r.goType ++ ": " ++ err)).map fun c =>
            { s with errCh := c, components := s.components.set i (r, .ended true) }
      | _ => none
  -- before `signal.Notify` a signal ends the process; one that comes while another is pending is lost
  | .signal =>
      if s.sigCh = .nil then none else some { s with sigCh := (s.sigCh.send ()).getD s.sigCh }
  | .cancel => some { s with ctxDone := true }
  | .choose c => if s.main = .selecting then s.take c else none
  | .teardown => if s.main.left then some { s with main := .returned } else none

end State

def worker : Automaton State Event where
  init := {}
  step := State.step

namespace State

/-! ## What is asked of the `select` -/

/-- The `select` can proceed. -/
def CaseReady (s : State) : Prop :=
  s.ready .proxyErr ∨ s.ready .sigCh ∨ s.ready .errCh ∨ s.ready .done

instance (s : State) : Decidable s.CaseReady := inferInstanceAs (Decidable (_ ∨ _ ∨ _ ∨ _))

/-- The proxy or a component has ended with an error. -/
def Failed (s : State) : Prop := s.proxy.failed ∨ s.components.any (fun x => x.2.failed)

instance (s : State) : Decidable s.Failed := inferInstanceAs (Decidable (_ ∨ _))

/-- A goroutine can send the error it has, and the `select` can proceed then. -/
def Deliverable (s : State) : Prop :=
  ∃ e s', (e = .sendProxyErr ∨ ∃ i, e = .sendErr i) ∧ s.step e = some s' ∧ s'.CaseReady

/-- No failure leaves `Run` in the `select` with nothing to come. -/
def Supervised (s : State) : Prop :=
  s.main = .selecting → s.Failed → s.CaseReady ∨ s.Deliverable

/-- `Run` has left the `select` or something will wake it. -/
def Alerted (s : State) : Prop :=
  s.main.left ∨ s.CaseReady ∨ s.components.any (fun x => x.2.isSending)

instance (s : State) : Decidable s.Alerted := inferInstanceAs (Decidable (_ ∨ _ ∨ _))

/-- The two failures that are not reported happen only when `Run` stops anyway. -/
def Heeded (s : State) : Event → Prop
  | .linkReturns (some _) => s.Alerted
  | .runReturns i (some _) => (s.components[i]?).map Prod.fst = some .containerd → s.Alerted
  | _ => True

instance (s : State) (e : Event) : Decidable (s.Heeded e) := by
  unfold Heeded
  split <;> infer_instance

/-! ## What a step does -/

/-- The step of every event, with the conditions under which it happens. -/
inductive Does (s : State) : Event → State → Prop where
  | abort (hmain : s.main = .provisioning) : Does s .abort { s with main := .returned }
  | start (cniProvider : String) (hmain : s.main = .provisioning) :
      Does s (.start cniProvider) { s with
        main := .started
        errCh := .make (runners cniProvider).length
        components := (runners cniProvider).map fun r => (r, .running) }
  | notify (hmain : s.main = .started) :
      Does s .notify { s with main := .selecting, sigCh := .make 1 }
  | linkReturns (err : Option String) (hproxy : s.proxy = .running) :
      Does s (.linkReturns err) { s with proxy := err.elim (.ended false) .sending }
  | sendProxyErr {err : String} {c : Chan String} (hproxy : s.proxy = .sending err)
      (hsend : s.proxyErr.send err = some c) :
      Does s .sendProxyErr { s with proxyErr := c, proxy := .ended true }
  | runReturns {i : Nat} {r : Runner} (process : Option String)
      (hr : s.components[i]? = some (r, .running)) (hprocess : ¬ (r = .cni ∧ process.isSome)) :
      Does s (.runReturns i process) { s with
        components := s.components.set i (r, r.after process) }
  | sendErr {i : Nat} {r : Runner} {err : String} {c : Chan String}
      (hr : s.components[i]? = some (r, .sending err))
      (hsend : s.errCh.send (r.goType ++ ": " ++ err) = some c) :
      Does s (.sendErr i) { s with errCh := c, components := s.components.set i (r, .ended true) }
  | signal (hsigCh : s.sigCh ≠ .nil) :
      Does s .signal { s with sigCh := (s.sigCh.send ()).getD s.sigCh }
  | cancel : Does s .cancel { s with ctxDone := true }
  | choose {c : Case} {s' : State} (hmain : s.main = .selecting) (htake : s.take c = some s') :
      Does s (.choose c) s'
  | teardown (hmain : s.main.left = true) : Does s .teardown { s with main := .returned }

variable {e : Event} {s s' : State}

theorem does_of_step (h : s.step e = some s') : s.Does e s' := by
  cases e with
  | cancel => cases h; exact .cancel
  | sendProxyErr =>
      simp only [step] at h
      split at h
      · next hproxy =>
          obtain ⟨c, hc, rfl⟩ := Option.map_eq_some_iff.mp h
          exact .sendProxyErr hproxy hc
      · cases h
  | runReturns i process =>
      simp only [step] at h
      split at h
      · next hr =>
          rw [Option.ite_none_left_eq_some, Option.some.injEq] at h
          obtain ⟨hprocess, rfl⟩ := h
          exact .runReturns process hr hprocess
      · cases h
  | sendErr i =>
      simp only [step] at h
      split at h
      · next hr =>
          obtain ⟨c, hc, rfl⟩ := Option.map_eq_some_iff.mp h
          exact .sendErr hr hc
      · cases h
  | signal =>
      simp only [step, Option.ite_none_left_eq_some, Option.some.injEq] at h
      obtain ⟨hsigCh, rfl⟩ := h
      exact .signal hsigCh
  | choose c =>
      simp only [step, Option.ite_none_right_eq_some] at h
      exact .choose h.1 h.2
  | abort =>
      simp only [step, Option.ite_none_right_eq_some, Option.some.injEq] at h
      obtain ⟨hmain, rfl⟩ := h
      exact .abort hmain
  | start cniProvider =>
      simp only [step, Option.ite_none_right_eq_some, Option.some.injEq] at h
      obtain ⟨hmain, rfl⟩ := h
      exact .start cniProvider hmain
  | notify =>
      simp only [step, Option.ite_none_right_eq_some, Option.some.injEq] at h
      obtain ⟨hmain, rfl⟩ := h
      exact .notify hmain
  | linkReturns err =>
      simp only [step, Option.ite_none_right_eq_some, Option.some.injEq] at h
      obtain ⟨hproxy, rfl⟩ := h
      exact .linkReturns err hproxy
  | teardown =>
      simp only [step, Option.ite_none_right_eq_some, Option.some.injEq] at h
      obtain ⟨hmain, rfl⟩ := h
      exact .teardown hmain

theorem left_of_take {c : Case} (h : s.take c = some s') : s'.main.left = true := by
  cases c with
  | proxyErr | sigCh | errCh =>
      obtain ⟨x, -, rfl⟩ := Option.map_eq_some_iff.mp h
      rfl
  | done =>
      simp only [take, Option.ite_none_right_eq_some, Option.some.injEq] at h
      obtain ⟨-, rfl⟩ := h
      rfl

/-! ## The invariant -/

/-- While `Run` has not left the `select`, every component can still send an error without blocking,
and something will wake `Run` if there was a failure. -/
structure Heard (s : State) : Prop where
  provisioning : s.main = .provisioning → s.components = [] ∧ s.errCh = .nil
  early : s.main = .provisioning ∨ s.main = .started → s.sigCh = .nil
  room : s.main.left = false → s.components.countP (fun x => x.2.pending) ≤ s.errCh.room
  alerted : s.Failed → s.Alerted

theorem CaseReady.mono (hs : s.CaseReady) (h : ∀ c, s.ready c = true → s'.ready c = true) :
    s'.CaseReady :=
  hs.imp (h _) (Or.imp (h _) (Or.imp (h _) (h _)))

/-- A component that does not have a property leaves it to the others when it changes. -/
theorem any_set_of_not {l : List (Runner × Activity)} {p : Runner × Activity → Bool} {i : Nat}
    {x : Runner × Activity} (hx : l[i]? = some x) (hp : p x = false) (hany : l.any p = true)
    (y : Runner × Activity) : (l.set i y).any p = true := by
  obtain ⟨a, ha, hpa⟩ := List.any_eq_true.mp hany
  obtain ⟨j, hj⟩ := List.mem_iff_getElem?.mp ha
  have hne : i ≠ j := by
    rintro rfl
    rw [hx] at hj
    cases hj
    rw [hp] at hpa
    cases hpa
  have hkept : (l.set i y)[j]? = some a := by rw [List.getElem?_set_ne hne, hj]
  exact List.any_eq_true.mpr ⟨a, List.mem_of_getElem? hkept, hpa⟩

/-- Whatever would wake `Run` is not taken away before `Run` has left the `select`. -/
theorem Alerted.step (hs : s.Heard) (ha : s.Alerted) (h : s.Does e s') : s'.Alerted := by
  cases h with
  | abort _ | teardown _ => exact Or.inl rfl
  | choose _ htake => exact Or.inl (left_of_take htake)
  | cancel => exact Or.inr (Or.inl (Or.inr (Or.inr (Or.inr rfl))))
  | sendProxyErr _ hsend => exact Or.inr (Or.inl (Or.inl (Chan.ready_of_send hsend)))
  | sendErr _ hsend => exact Or.inr (Or.inl (Or.inr (Or.inr (Or.inl (Chan.ready_of_send hsend)))))
  | linkReturns _ _ => exact ha
  | start _ hmain =>
      obtain ⟨hcomponents, herrCh⟩ := hs.provisioning hmain
      rcases ha with hleft | hready | hsending
      · simp [hmain, Main.left] at hleft
      · refine Or.inr (Or.inl (hready.mono fun c hc => ?_))
        cases c with
        | errCh => simp [ready, herrCh] at hc
        | proxyErr => exact hc
        | sigCh => exact hc
        | done => exact hc
      · simp [hcomponents] at hsending
  | notify hmain =>
      have hsigCh := hs.early (Or.inr hmain)
      rcases ha with hleft | hready | hsending
      · simp [hmain, Main.left] at hleft
      · refine Or.inr (Or.inl (hready.mono fun c hc => ?_))
        cases c with
        | sigCh => simp [ready, hsigCh] at hc
        | proxyErr => exact hc
        | errCh => exact hc
        | done => exact hc
      · exact Or.inr (Or.inr hsending)
  | runReturns process hr _ =>
      exact ha.imp id (Or.imp id fun hsending => any_set_of_not hr rfl hsending _)
  | signal _ =>
      refine ha.imp id (Or.imp (fun hready => hready.mono fun c hc => ?_) id)
      cases c with
      | sigCh =>
          cases hsend : s.sigCh.send () with
          | none => simpa [ready, hsend] using hc
          | some c => simpa [ready, hsend] using Chan.ready_of_send hsend
      | proxyErr => exact hc
      | errCh => exact hc
      | done => exact hc

/-- A component that reports its error wakes `Run`, and the others fail only when it is awake. -/
theorem alerted_of_runReturns (hs : s.Heard) {i : Nat} {r : Runner} {err : String}
    (hok : s.Heeded (.runReturns i (some err))) (hr : s.components[i]? = some (r, .running))
    (hprocess : ¬ (r = .cni ∧ (some err).isSome)) :
    ({ s with components := s.components.set i (r, r.after (some err)) } : State).Alerted := by
  cases r with
  | containerd => exact (hok (by rw [hr]; rfl)).step hs (.runReturns (some err) hr hprocess)
  | cni => exact absurd ⟨rfl, rfl⟩ hprocess
  | kubelet =>
      have hlt := (List.getElem?_eq_some_iff.mp hr).1
      refine Or.inr (Or.inr (List.any_eq_true.mpr ⟨_, List.mem_set hlt _, rfl⟩))

theorem Heard.alerted_step (hs : s.Heard) (hok : s.Heeded e) (h : s.Does e s')
    (hfailed : s'.Failed) : s'.Alerted := by
  -- a failure that was there before is enough
  suffices hcases : s.Failed ∨ s'.Alerted from
    hcases.elim (fun hold => (hs.alerted hold).step hs h) id
  cases h with
  | abort _ | notify _ | signal _ | cancel | teardown _ => exact Or.inl hfailed
  | choose _ htake => exact Or.inr (Or.inl (left_of_take htake))
  | start cniProvider _ =>
      refine Or.inl (hfailed.imp id fun hcomponents => ?_)
      simp [Activity.failed] at hcomponents
  | linkReturns err hproxy =>
      cases err with
      | some err => exact Or.inr (Alerted.step hs hok (.linkReturns (some err) hproxy))
      | none => exact Or.inl (hfailed.imp (fun hproxy => by cases hproxy) id)
  | sendProxyErr hproxy _ => exact Or.inl (Or.inl (by rw [hproxy]; rfl))
  | sendErr hr _ => exact Or.inl (Or.inr (List.any_eq_true.mpr ⟨_, List.mem_of_getElem? hr, rfl⟩))
  | @runReturns i r process hr hprocess =>
      cases process with
      | some err => exact Or.inr (alerted_of_runReturns hs hok hr hprocess)
      | none =>
          refine Or.inl (hfailed.imp id fun hcomponents => ?_)
          have hafter : (r.after none).failed = false := by cases r <;> rfl
          obtain ⟨hlt, hget⟩ := List.getElem?_eq_some_iff.mp hr
          have hback := any_set_of_not (List.getElem?_set_self hlt) hafter hcomponents (r, .running)
          rwa [List.set_set, ← hget, List.set_getElem_self] at hback

theorem Heard.room_step (hs : s.Heard) (h : s.Does e s') (hleft : s'.main.left = false) :
    s'.components.countP (fun x => x.2.pending) ≤ s'.errCh.room := by
  cases h with
  | abort _ | teardown _ => cases hleft
  | choose _ htake =>
      rw [left_of_take htake] at hleft
      cases hleft
  | notify hmain => exact hs.room (by rw [hmain]; rfl)
  | linkReturns _ _ | sendProxyErr _ _ | signal _ | cancel => exact hs.room hleft
  | start cniProvider _ =>
      rw [Chan.room_make]
      exact List.countP_le_length.trans_eq (List.length_map _)
  | runReturns process hr _ =>
      obtain ⟨hlt, hget⟩ := List.getElem?_eq_some_iff.mp hr
      have hroom := hs.room hleft
      have hpos : 0 < s.components.countP (fun x => x.2.pending) :=
        List.countP_pos_iff.mpr ⟨_, List.mem_of_getElem? hr, rfl⟩
      rw [List.countP_set hlt, hget]
      simp only [Activity.pending_running, if_true]
      split
      · omega
      · omega
  | sendErr hr hsend =>
      obtain ⟨hlt, hget⟩ := List.getElem?_eq_some_iff.mp hr
      have hroom := hs.room hleft
      have hsent := Chan.room_of_send hsend
      rw [List.countP_set hlt, hget]
      simp only [Activity.pending_sending, Activity.pending_ended, if_true, Bool.false_eq_true,
        if_false]
      omega

theorem Heard.provisioning_step (hs : s.Heard) (h : s.Does e s') (hmain : s'.main = .provisioning) :
    s'.components = [] ∧ s'.errCh = .nil := by
  cases h with
  | abort _ | start _ _ | notify _ | teardown _ => cases hmain
  | choose _ htake =>
      have hleft := left_of_take htake
      rw [hmain] at hleft
      cases hleft
  | linkReturns _ _ | sendProxyErr _ _ | signal _ | cancel => exact hs.provisioning hmain
  | runReturns _ hr _ | sendErr hr _ => simp [(hs.provisioning hmain).1] at hr

theorem Heard.early_step (hs : s.Heard) (h : s.Does e s')
    (hmain : s'.main = .provisioning ∨ s'.main = .started) : s'.sigCh = .nil := by
  cases h with
  | abort _ | notify _ | teardown _ => exact absurd hmain (by simp)
  | choose _ htake =>
      have hleft := left_of_take htake
      rcases hmain with hmain | hmain
      · rw [hmain] at hleft
        cases hleft
      · rw [hmain] at hleft
        cases hleft
  | start _ hbefore => exact hs.early (Or.inl hbefore)
  | signal hsigCh => exact absurd (hs.early hmain) hsigCh
  | linkReturns _ _ | sendProxyErr _ _ | cancel | runReturns _ _ _ | sendErr _ _ =>
      exact hs.early hmain

theorem Heard.step (hs : s.Heard) (hok : s.Heeded e) (h : s.Does e s') : s'.Heard :=
  ⟨hs.provisioning_step h, hs.early_step h, hs.room_step h, hs.alerted_step hok h⟩

theorem Heard.supervised (hs : s.Heard) : s.Supervised := by
  intro hmain hfailed
  rcases hs.alerted hfailed with hleft | hready | hsending
  · simp [hmain, Main.left] at hleft
  · exact Or.inl hready
  · obtain ⟨⟨r, activity⟩, hx, hsending⟩ := List.any_eq_true.mp hsending
    cases activity with
    | running | ended failed => cases hsending
    | sending err =>
        obtain ⟨i, hi⟩ := List.mem_iff_getElem?.mp hx
        have hpos : 0 < s.components.countP (fun x => x.2.pending) :=
          List.countP_pos_iff.mpr ⟨_, hx, rfl⟩
        have hroom := hs.room (by rw [hmain]; rfl)
        obtain ⟨c, hc⟩ := Chan.exists_send (hpos.trans_le hroom) (r.goType ++ ": " ++ err)
        refine Or.inr ⟨.sendErr i,
          { s with errCh := c, components := s.components.set i (r, .ended true) },
          Or.inr ⟨i, rfl⟩, ?_, Or.inr (Or.inr (Or.inl (Chan.ready_of_send hc)))⟩
        simp only [State.step, hi, hc, Option.map_some]

end State

open State

theorem heard_of_trace {h : List Event} {s : State} (hrun : (worker.restrict Heeded).Trace h s) :
    s.Heard := by
  refine hrun.invariant (fun _ s => s.Heard) ?_ fun _ hs hstep => ?_
  · exact ⟨fun _ => ⟨rfl, rfl⟩, fun _ => rfl, fun _ => Nat.le_refl 0,
      fun hfailed => absurd hfailed (by decide)⟩
  · obtain ⟨hok, hstep⟩ := Automaton.restrict_step.mp hstep
    exact hs.step hok (does_of_step hstep)

/-- **Supervision.** If the proxy and containerd fail only when `Run` stops anyway, no failure leaves
`Run` blocked in its `select`. -/
theorem failures_delivered {h : List Event} {s : State} (hrun : (worker.restrict Heeded).Trace h s) :
    s.Supervised :=
  (heard_of_trace hrun).supervised

/-- The kubelet gives up; then containerd does. -/
theorem kubelet_failure_delivered :
    ∃ s, (worker.restrict Heeded).Trace [.start "flannel", .notify,
        .runReturns 1 (some "exit status 1"), .runReturns 0 (some "exit status 2")] s ∧
      s.Failed ∧ s.Supervised := by
  obtain ⟨s, hrun, hfailed⟩ := Automaton.exists_trace (worker.restrict Heeded)
    [.start "flannel", .notify, .runReturns 1 (some "exit status 1"),
      .runReturns 0 (some "exit status 2")] (fun s => s.Failed) (by decide +kernel)
  exact ⟨s, hrun, hfailed, failures_delivered hrun⟩

/-- The proxy fails, and so does containerd: no case of the `select` is ready and no goroutine can
send. -/
theorem failures_not_delivered :
    ∃ s, worker.Trace [.start "flannel", .notify, .linkReturns (some "address in use"),
        .runReturns 0 (some "exit status 1")] s ∧
      s.main = .selecting ∧ s.proxy = .sending "address in use" ∧
        s.components[0]? = some (.containerd, .ended true) ∧ ¬ s.Supervised := by
  obtain ⟨s, hrun, rfl⟩ := Automaton.exists_trace worker [.start "flannel", .notify,
    .linkReturns (some "address in use"), .runReturns 0 (some "exit status 1")]
    (fun s => s = {
      main := .selecting
      proxy := .sending "address in use"
      components := [(.containerd, .ended true), (.kubelet, .running), (.cni, .running)]
      errCh := .make 3
      sigCh := .make 1 }) (by decide +kernel)
  refine ⟨_, hrun, rfl, rfl, rfl, fun hsupervised => ?_⟩
  rcases hsupervised rfl (by decide) with hready | ⟨e, s', he, hstep, -⟩
  · exact absurd hready (by decide)
  · rcases he with rfl | ⟨i, rfl⟩
    · cases hstep
    · -- nobody is sending
      cases does_of_step hstep with
      | sendErr hr _ =>
          have hmem := List.mem_of_getElem? hr
          simp at hmem

end Heir.Worker.Supervision
