import Mathlib.Tactic

set_option autoImplicit false

/-! # Automata

Many threads that share a state: every critical section is one event, and a trace is a sequence of
events of all threads in the order in which they happened. Unlike in `Lib/Interact.lean` no
thread is singled out, so what a thread does next has to be recorded in the state.

The step is a function, so a trace can be replayed (`replay`) and a closed statement about one
history is decided by computation (`exists_trace`).
-/

/-- A state, the events and what each does; `none` where the event cannot happen. -/
structure Automaton (σ ε : Type) where
  init : σ
  step : σ → ε → Option σ

namespace Automaton

variable {σ τ ε δ : Type} {A : Automaton σ ε}

/-- `A.Trace h s`: the events `h`, oldest first, lead to the state `s`. -/
inductive Trace (A : Automaton σ ε) : List ε → σ → Prop where
  | nil : Trace A [] A.init
  | snoc {h : List ε} {s s' : σ} {e : ε} (hrun : Trace A h s) (hstep : A.step s e = some s') :
      Trace A (h ++ [e]) s'

variable {h : List ε} {s s' : σ}

/-- **The invariant rule.** What holds at the start and is kept by every step from a state that can
be reached holds in every trace. -/
theorem Trace.invariant (I : List ε → σ → Prop) (hinit : I [] A.init)
    (hstep : ∀ {h s e s'}, A.Trace h s → I h s → A.step s e = some s' → I (h ++ [e]) s')
    (hrun : A.Trace h s) : I h s := by
  induction hrun with
  | nil => exact hinit
  | snoc hrun he ih => exact hstep hrun ih he

theorem Trace.append {l : List ε} (hrun : A.Trace h s) (hl : l.foldlM A.step s = some s') :
    A.Trace (h ++ l) s' := by
  induction l generalizing h s with
  | nil =>
      cases hl
      rw [List.append_nil]
      exact hrun
  | cons e l ih =>
      rw [List.foldlM_cons] at hl
      obtain ⟨s₁, hstep, hl⟩ := Option.bind_eq_some_iff.mp hl
      rw [← List.singleton_append, ← List.append_assoc]
      exact ih (hrun.snoc hstep) hl

theorem Trace.snoc_inv {e : ε} (hrun : A.Trace (h ++ [e]) s') :
    ∃ s, A.Trace h s ∧ A.step s e = some s' := by
  generalize hl : h ++ [e] = l at hrun
  cases hrun with
  | nil => exact absurd hl (by simp)
  | snoc hrun hstep =>
      obtain ⟨rfl, he⟩ := List.append_inj' hl rfl
      cases he
      exact ⟨_, hrun, hstep⟩

theorem Trace.unique (hrun : A.Trace h s) (hrun' : A.Trace h s') : s = s' := by
  induction hrun generalizing s' with
  | nil =>
      generalize hl : ([] : List ε) = l at hrun'
      cases hrun' with
      | nil => rfl
      | snoc => exact absurd hl (by simp)
  | snoc _ hstep ih =>
      obtain ⟨s₁, hrun₁, hstep₁⟩ := hrun'.snoc_inv
      rw [ih hrun₁, hstep₁] at hstep
      exact (Option.some_inj.mp hstep).symm

/-- **Simulation by a function.** If every step of `A` is a step of `B` or leaves the image of
the state alone, then the trace of `A` maps to one of `B`. -/
theorem Trace.project {B : Automaton τ δ} (f : σ → τ) (g : ε → Option δ) (hinit : f A.init = B.init)
    (hskip : ∀ {s e s'}, A.step s e = some s' → g e = none → f s' = f s)
    (hstep : ∀ {s e s' d}, A.step s e = some s' → g e = some d → B.step (f s) d = some (f s'))
    (hrun : A.Trace h s) : B.Trace (h.filterMap g) (f s) := by
  induction hrun with
  | nil => exact hinit ▸ .nil
  | @snoc h s s' e hrun he ih =>
      rw [List.filterMap_append]
      cases hg : g e with
      | none =>
          rw [List.filterMap_cons_none hg, List.filterMap_nil, List.append_nil, hskip he hg]
          exact ih
      | some d =>
          rw [List.filterMap_cons_some hg, List.filterMap_nil]
          exact ih.snoc (hstep he hg)

/-- The automaton with the events that do not meet a condition taken out. -/
def restrict (A : Automaton σ ε) (ok : σ → ε → Prop) [∀ s e, Decidable (ok s e)] :
    Automaton σ ε where
  init := A.init
  step := fun s e => if ok s e then A.step s e else none

theorem restrict_step {ok : σ → ε → Prop} [∀ s e, Decidable (ok s e)] {e : ε} :
    (A.restrict ok).step s e = some s' ↔ ok s e ∧ A.step s e = some s' := by
  simp only [restrict, Option.ite_none_right_eq_some]

/-- The state after a history, `none` if one of its events cannot happen. -/
def replay (A : Automaton σ ε) (h : List ε) : Option σ := h.foldlM A.step A.init

theorem trace_of_replay (hs : A.replay h = some s) : A.Trace h s :=
  Trace.append .nil hs

theorem exists_trace (A : Automaton σ ε) (h : List ε) (Q : σ → Prop) [DecidablePred Q]
    (hq : (A.replay h).any (fun s => decide (Q s)) = true) : ∃ s, A.Trace h s ∧ Q s := by
  obtain ⟨s, hs, hQ⟩ := (Option.any_eq_true _ _).mp hq
  exact ⟨s, trace_of_replay hs, of_decide_eq_true hQ⟩

end Automaton
