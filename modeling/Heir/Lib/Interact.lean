import Mathlib.Logic.Relation
import Mathlib.Tactic

set_option autoImplicit false

/-! # Programs that talk to a server

A program is a tree of calls: at each node it performs one call and continues with the
answer. What the calls do is not part of the program. A `Server` says which answers a call may
get in a given world and what world it leaves; it is a relation, so that a call may fail, may be
answered from random data or may read a clock.

Two meanings are given to a program:

* `Exec` runs it alone, one call after the other, and records the calls made;
* a `System` runs it again and again while other parties change the world between any two of
  its calls. `System.Run` is the set of states such a run reaches, restricted to runs whose
  steps all satisfy a given condition.

`Prog.Safe` is the weakest precondition of a program under that interference. It is a plain
recursion over the program, so it follows the program text; `System.run_safe` turns a proof
of it into an invariant of every run.
-/

namespace Interact

/-- The calls of a program and the type of their answers. -/
structure Sig where
  Op : Type
  Ans : Op → Type

/-- A program: a result, or a call and what to do with its answer. -/
inductive Prog (S : Sig) (α : Type) : Type where
  | ret (a : α) : Prog S α
  | call (op : S.Op) (k : S.Ans op → Prog S α) : Prog S α

variable {S : Sig} {α β γ W : Type}

namespace Prog

def bind : Prog S α → (α → Prog S β) → Prog S β
  | .ret a, f => f a
  | .call op k, f => .call op (fun x => (k x).bind f)

instance : Monad (Prog S) where
  pure := Prog.ret
  bind := Prog.bind

/-- The program that makes one call and returns its answer. -/
def perform (op : S.Op) : Prog S (S.Ans op) := .call op .ret

@[simp] theorem pure_eq (a : α) : (pure a : Prog S α) = .ret a := rfl

@[simp] theorem ret_bind (a : α) (f : α → Prog S β) : (Prog.ret a >>= f) = f a := rfl

@[simp] theorem call_bind (op : S.Op) (k : S.Ans op → Prog S α) (f : α → Prog S β) :
    (Prog.call op k >>= f) = .call op (fun x => k x >>= f) := rfl

@[simp] theorem perform_bind (op : S.Op) (f : S.Ans op → Prog S β) :
    (perform op >>= f) = .call op f := rfl

theorem bind_assoc (p : Prog S α) (f : α → Prog S β) (g : β → Prog S γ) :
    p >>= f >>= g = p >>= fun a => f a >>= g := by
  induction p with
  | ret a => rfl
  | call op k ih => exact congrArg (Prog.call op) (funext ih)

theorem bind_ret (p : Prog S α) : p >>= Prog.ret = p := by
  induction p with
  | ret a => rfl
  | call op k ih => exact congrArg (Prog.call op) (funext ih)

instance : LawfulMonad (Prog S) :=
  LawfulMonad.mk' (Prog S) bind_ret (fun _ _ => rfl) bind_assoc

/-- Every call the program can make satisfies `P`, as long as every answer is one that `ans`
allows for its call. -/
def All (ans : (op : S.Op) → S.Ans op → Prop) (P : S.Op → Prop) : Prog S α → Prop
  | .ret _ => True
  | .call op k => P op ∧ ∀ x, ans op x → (k x).All ans P

section All

variable {ans : (op : S.Op) → S.Ans op → Prop} {P Q : S.Op → Prop}

@[simp] theorem all_ret (a : α) : (Prog.ret a : Prog S α).All ans P := trivial

@[simp] theorem all_call (op : S.Op) (k : S.Ans op → Prog S α) :
    (Prog.call op k).All ans P ↔ P op ∧ ∀ x, ans op x → (k x).All ans P := Iff.rfl

/-- What holds of the results of a program, given allowed answers. -/
def Returns (ans : (op : S.Op) → S.Ans op → Prop) (R : α → Prop) : Prog S α → Prop
  | .ret a => R a
  | .call op k => ∀ x, ans op x → (k x).Returns ans R

variable {R : α → Prop} {p : Prog S α}

theorem All.bind {f : α → Prog S β} (hp : p.All ans P) (hr : p.Returns ans R)
    (hf : ∀ a, R a → (f a).All ans P) : (p >>= f).All ans P := by
  induction p with
  | ret a => exact hf a hr
  | call op k ih => exact ⟨hp.1, fun x hx => ih x (hp.2 x hx) (hr x hx)⟩

theorem Returns.bind {R' : β → Prop} {f : α → Prog S β} (hp : p.Returns ans R)
    (hf : ∀ a, R a → (f a).Returns ans R') : (p >>= f).Returns ans R' := by
  induction p with
  | ret a => exact hf a hp
  | call op k ih => exact fun x hx => ih x (hp x hx)

theorem Returns.mono {R' : α → Prop} (hp : p.Returns ans R) (h : ∀ a, R a → R' a) :
    p.Returns ans R' := by
  induction p with
  | ret a => exact h a hp
  | call op k ih => exact fun x hx => ih x (hp x hx)

theorem returns_true (p : Prog S α) : p.Returns ans (fun _ => True) := by
  induction p with
  | ret a => trivial
  | call op k ih => exact fun x _ => ih x

theorem All.mono (h : ∀ op, P op → Q op) (hp : p.All ans P) : p.All ans Q := by
  induction p with
  | ret a => trivial
  | call op k ih => exact ⟨h op hp.1, fun x hx => ih x (hp.2 x hx)⟩

theorem All.allow {ans' : (op : S.Op) → S.Ans op → Prop} (h : ∀ op x, ans' op x → ans op x)
    (hp : p.All ans P) : p.All ans' P := by
  induction p with
  | ret a => trivial
  | call op k ih => exact ⟨hp.1, fun x hx => ih x (hp.2 x (h op x hx))⟩

theorem Returns.allow {ans' : (op : S.Op) → S.Ans op → Prop} (h : ∀ op x, ans' op x → ans op x)
    (hp : p.Returns ans R) : p.Returns ans' R := by
  induction p with
  | ret a => exact hp
  | call op k ih => exact fun x hx => ih x (hp x (h op x hx))

end All

end Prog

/-! ## Running alone -/

/-- `srv op w x w'`: in the world `w` the call `op` may be answered `x`, leaving `w'`. -/
abbrev Server (S : Sig) (W : Type) : Type := (op : S.Op) → W → S.Ans op → W → Prop

/-- A call together with the answer it got. -/
abbrev Called (S : Sig) : Type := (op : S.Op) × S.Ans op

/-- `Exec srv p w t a w'`: run alone from `w`, the program `p` may make the calls `t`, return
`a` and leave `w'`. -/
inductive Exec (srv : Server S W) : Prog S α → W → List (Called S) → α → W → Prop where
  | ret (a : α) (w : W) : Exec srv (.ret a) w [] a w
  | call {op : S.Op} {k : S.Ans op → Prog S α} {w w' w'' : W} {x : S.Ans op}
      {t : List (Called S)} {a : α} :
      srv op w x w' → Exec srv (k x) w' t a w'' → Exec srv (.call op k) w (⟨op, x⟩ :: t) a w''

theorem Exec.ret_inv {srv : Server S W} {a b : α} {w w' : W} {t : List (Called S)}
    (h : Exec srv (.ret a) w t b w') : t = [] ∧ b = a ∧ w' = w := by
  cases h
  exact ⟨rfl, rfl, rfl⟩

theorem Exec.call_inv {srv : Server S W} {op : S.Op} {k : S.Ans op → Prog S α} {b : α} {w w' : W}
    {t : List (Called S)} (h : Exec srv (.call op k) w t b w') :
    ∃ x w₁ t₁, srv op w x w₁ ∧ t = ⟨op, x⟩ :: t₁ ∧ Exec srv (k x) w₁ t₁ b w' := by
  cases h with
  | call hs hk => exact ⟨_, _, _, hs, rfl, hk⟩

theorem Exec.bind {srv : Server S W} {p : Prog S α} {f : α → Prog S β} {a : α} {b : β}
    {w w₁ w' : W} {t₁ t₂ : List (Called S)}
    (hp : Exec srv p w t₁ a w₁) (hf : Exec srv (f a) w₁ t₂ b w') :
    Exec srv (p >>= f) w (t₁ ++ t₂) b w' := by
  induction hp with
  | ret a w => exact hf
  | call hs _ ih => exact .call hs (ih hf)

/-- Run a program alone against a server that has one answer to every call: the calls made, the
result and the world it leaves. -/
def Prog.eval (respond : (op : S.Op) → W → S.Ans op × W) :
    Prog S α → W → List (Called S) × α × W
  | .ret a, w => ([], a, w)
  | .call op k, w =>
      let r := (k (respond op w).1).eval respond (respond op w).2
      (⟨op, (respond op w).1⟩ :: r.1, r.2)

section Eval

variable {respond : (op : S.Op) → W → S.Ans op × W}

@[simp] theorem Prog.eval_ret (a : α) (w : W) :
    (Prog.ret a : Prog S α).eval respond w = ([], a, w) := rfl

theorem Prog.eval_call (op : S.Op) (k : S.Ans op → Prog S α) (w : W) :
    (Prog.call op k).eval respond w =
      (⟨op, (respond op w).1⟩ :: ((k (respond op w).1).eval respond (respond op w).2).1,
        ((k (respond op w).1).eval respond (respond op w).2).2) := rfl

theorem Prog.eval_bind (p : Prog S α) (f : α → Prog S β) (w : W) :
    (p >>= f).eval respond w =
      ((p.eval respond w).1 ++ ((f (p.eval respond w).2.1).eval respond (p.eval respond w).2.2).1,
        ((f (p.eval respond w).2.1).eval respond (p.eval respond w).2.2).2) := by
  induction p generalizing w with
  | ret a => rfl
  | call op k ih =>
      rw [call_bind, eval_call, eval_call, ih]
      rfl

end Eval

/-- The weakest precondition of a program that runs alone. -/
def Prog.wp (srv : Server S W) (post : α → W → Prop) : Prog S α → W → Prop
  | .ret a, w => post a w
  | .call op k, w => ∀ x w', srv op w x w' → (k x).wp srv post w'

section Wp

variable {srv : Server S W}

@[simp] theorem Prog.wp_ret (post : α → W → Prop) (a : α) (w : W) :
    (Prog.ret a : Prog S α).wp srv post w = post a w := rfl

@[simp] theorem Prog.wp_call (post : α → W → Prop) (op : S.Op) (k : S.Ans op → Prog S α) (w : W) :
    (Prog.call op k).wp srv post w = ∀ x w', srv op w x w' → (k x).wp srv post w' := rfl

variable {p : Prog S α} {w : W}

theorem Prog.wp_bind {post : β → W → Prop} {f : α → Prog S β} :
    (p >>= f).wp srv post w ↔ p.wp srv (fun a w => (f a).wp srv post w) w := by
  induction p generalizing w with
  | ret a => exact Iff.rfl
  | call op k ih => exact forall₂_congr fun x w' => imp_congr_right fun _ => ih x

theorem Prog.wp.mono {post post' : α → W → Prop} (h : p.wp srv post w)
    (hpost : ∀ a w, post a w → post' a w) : p.wp srv post' w := by
  induction p generalizing w with
  | ret a => exact hpost a w h
  | call op k ih => exact fun x w' hs => ih x (h x w' hs)

theorem Exec.wp {post : α → W → Prop} {w' : W} {t : List (Called S)} {a : α}
    (he : Exec srv p w t a w') (h : p.wp srv post w) : post a w' := by
  induction he with
  | ret a w => exact h
  | call hs _ ih => exact ih (h _ _ hs)

/-- A program all of whose calls keep `I` keeps it. -/
theorem Prog.wp_of_all {ans : (op : S.Op) → S.Ans op → Prop} {P : S.Op → Prop} {R : α → Prop}
    {I : W → Prop} (hp : p.All ans P) (hr : p.Returns ans R)
    (hcall : ∀ op w x w', P op → I w → srv op w x w' → ans op x ∧ I w') (hw : I w) :
    p.wp srv (fun a w' => I w' ∧ R a) w := by
  induction p generalizing w with
  | ret a => exact ⟨hw, hr⟩
  | call op k ih =>
      intro x w' hs
      obtain ⟨hx, hw'⟩ := hcall op w x w' hp.1 hw hs
      exact ih x (hp.2 x hx) (hr x hx) hw'

end Wp

/-! ## Running among others -/

/-- A program that is run again and again, the server it talks to, and what the other parties
may do to the world. `enter` and `leave` are the bookkeeping of the beginning and the end of
one pass of the program. -/
structure System (S : Sig) (α W : Type) where
  prog : Prog S α
  server : Server S W
  env : W → W → Prop
  enter : W → W
  leave : α → W → W

/-- The world, and the rest of the pass that is running, if one is. -/
structure State (S : Sig) (α W : Type) where
  world : W
  running : Option (Prog S α)

/-- What a step does: begin a pass, answer a call, end the pass, or a change by others. -/
inductive Label (S : Sig) (α W : Type) where
  | enter
  | call (op : S.Op) (x : S.Ans op)
  | leave (a : α)
  | env (w' : W)

namespace System

variable (M : System S α W)

inductive Step : State S α W → Label S α W → State S α W → Prop where
  | enter (w : W) : Step ⟨w, none⟩ .enter ⟨M.enter w, some M.prog⟩
  | call {op : S.Op} {k : S.Ans op → Prog S α} {w w' : W} {x : S.Ans op} :
      M.server op w x w' → Step ⟨w, some (.call op k)⟩ (.call op x) ⟨w', some (k x)⟩
  | leave (a : α) (w : W) : Step ⟨w, some (.ret a)⟩ (.leave a) ⟨M.leave a w, none⟩
  | env {w w' : W} {p : Option (Prog S α)} : M.env w w' → Step ⟨w, p⟩ (.env w') ⟨w', p⟩

/-- The states reached from `s₀` by steps that all satisfy `ok`, a condition on the world
before the step and on what the step does. -/
inductive Run (ok : W → Label S α W → Prop) (s₀ : State S α W) : State S α W → Prop where
  | refl : Run ok s₀ s₀
  | step {s s' : State S α W} {l : Label S α W} :
      Run ok s₀ s → M.Step s l s' → ok s.world l → Run ok s₀ s'

/-- Changes by others that satisfy `ok`, any number of them. -/
def Interfere (ok : W → Label S α W → Prop) : W → W → Prop :=
  Relation.ReflTransGen (fun w w' => M.env w w' ∧ ok w (.env w'))

/-- No change by others that satisfies `ok` breaks `A`. -/
def Stable (ok : W → Label S α W → Prop) (A : W → Prop) : Prop :=
  ∀ w w', M.env w w' → ok w (.env w') → A w → A w'

variable {M} {ok : W → Label S α W → Prop}

theorem Stable.interfere {A : W → Prop} (hA : M.Stable ok A) {w w' : W}
    (h : M.Interfere ok w w') (hw : A w) : A w' := by
  induction h with
  | refl => exact hw
  | tail _ hs ih => exact hA _ _ hs.1 hs.2 ih

theorem Run.trans {s₀ s₁ s₂ : State S α W} (h : M.Run ok s₀ s₁) (h' : M.Run ok s₁ s₂) :
    M.Run ok s₀ s₂ := by
  induction h' with
  | refl => exact h
  | step _ hs hok ih => exact .step ih hs hok

end System

/-! ## Weakest preconditions under interference -/

section Safe

variable (M : System S α W) (ok : W → Label S α W → Prop) (pre : S.Op → W → Prop)

/-- `p.Safe M ok pre post w`: from `w`, in every run of `p` whose steps satisfy `ok`, each call
`op` is made in a world with `pre op`, and `post` holds where `p` returns. -/
def Prog.Safe (post : β → W → Prop) : Prog S β → W → Prop
  | .ret a, w => ∀ w', M.Interfere ok w w' → post a w'
  | .call op k, w => ∀ w', M.Interfere ok w w' →
      pre op w' ∧ ∀ x w'', M.server op w' x w'' → ok w' (.call op x) →
        (k x).Safe post w''

variable {M ok pre}

variable {p : Prog S β} {post : β → W → Prop} {w : W}

theorem Prog.Safe.interfere {w' : W} (h : p.Safe M ok pre post w) (hw : M.Interfere ok w w') :
    p.Safe M ok pre post w' := by
  cases p with
  | ret a | call op k => exact fun w'' h' => h w'' (hw.trans h')

theorem Prog.Safe.mono {post' : β → W → Prop} (h : p.Safe M ok pre post w)
    (hpost : ∀ a w, post a w → post' a w) : p.Safe M ok pre post' w := by
  induction p generalizing w with
  | ret a => exact fun w' hw => hpost a w' (h w' hw)
  | call op k ih =>
      intro w' hw
      refine ⟨(h w' hw).1, fun x w'' hs hok => ?_⟩
      exact ih x ((h w' hw).2 x w'' hs hok)

/-- Sequencing: run `p` to a point from which the rest is safe. -/
theorem Prog.Safe.bind {post : γ → W → Prop} {f : β → Prog S γ}
    (h : p.Safe M ok pre (fun a w => (f a).Safe M ok pre post w) w) :
    (p >>= f).Safe M ok pre post w := by
  induction p generalizing w with
  | ret a => exact h w .refl
  | call op k ih =>
      intro w' hw
      refine ⟨(h w' hw).1, fun x w'' hs hok => ?_⟩
      exact ih x ((h w' hw).2 x w'' hs hok)

/-- The call rule: an assertion that others keep describes the world the call is made in. -/
theorem Prog.Safe.call {op : S.Op} {k : S.Ans op → Prog S β} (A : W → Prop) (hA : M.Stable ok A)
    (hw : A w) (h : ∀ w', A w' → pre op w' ∧ ∀ x w'', M.server op w' x w'' → ok w' (.call op x) →
      (k x).Safe M ok pre post w'') : (Prog.call op k).Safe M ok pre post w :=
  fun w' hi => h w' (hA.interfere hi hw)

theorem Prog.Safe.ret {a : β} (A : W → Prop) (hA : M.Stable ok A) (hw : A w)
    (h : ∀ w', A w' → post a w') : (Prog.ret a).Safe M ok pre post w :=
  fun w' hi => h w' (hA.interfere hi hw)

theorem Prog.Safe.of_all {ans : (op : S.Op) → S.Ans op → Prop} {P : S.Op → Prop} {A : W → Prop}
    (hp : p.All ans P) (hans : ∀ op w x w', A w → M.server op w x w' → ok w (.call op x) → ans op x)
    (hA : M.Stable ok A) (hpre : ∀ op w, P op → A w → pre op w)
    (hcall : ∀ op w x w', P op → A w → M.server op w x w' → ok w (.call op x) → A w') (hw : A w) :
    p.Safe M ok pre (fun _ w => A w) w := by
  induction p generalizing w with
  | ret a => exact .ret A hA hw (fun _ h => h)
  | call op k ih =>
      refine .call A hA hw (fun w' hw' => ⟨hpre op w' hp.1 hw', fun x w'' hs hok => ?_⟩)
      exact ih x (hp.2 x (hans op w' x w'' hw' hs hok)) (hcall op w' x w'' hp.1 hw' hs hok)

end Safe

/-- **The run rule.** If `I` holds at the start, others keep it, and a pass begun in `I` is
safe and ends in `I`, then in every state reached `I` holds between passes and the rest of a
running pass is safe. -/
theorem System.run_safe {M : System S α W} {ok : W → Label S α W → Prop}
    (pre : S.Op → W → Prop) (post : α → W → Prop) {I : W → Prop}
    (hI : M.Stable ok I)
    (henter : ∀ w, I w → ok w .enter → M.prog.Safe M ok pre post (M.enter w))
    (hleave : ∀ a w, post a w → ok w (.leave a) → I (M.leave a w))
    {s₀ s : State S α W} (h₀ : s₀.running = none) (hw₀ : I s₀.world) (hr : M.Run ok s₀ s) :
    (s.running = none → I s.world) ∧
      ∀ p, s.running = some p → p.Safe M ok pre post s.world := by
  induction hr with
  | refl =>
      refine ⟨fun _ => hw₀, fun p hp => ?_⟩
      rw [h₀] at hp
      cases hp
  | step _ hs hok ih =>
      cases hs with
      | enter w =>
          refine ⟨fun h => by simp at h, fun p hp => ?_⟩
          cases hp
          exact henter w (ih.1 rfl) hok
      | @call op k w w' x hx =>
          refine ⟨fun h => by simp at h, fun p hp => ?_⟩
          cases hp
          exact (ih.2 _ rfl w .refl).2 x w' hx hok
      | leave a w =>
          refine ⟨fun _ => hleave a w (ih.2 _ rfl w .refl) hok, fun p hp => ?_⟩
          cases hp
      | @env w w' p he =>
          refine ⟨fun h => hI w w' he hok (ih.1 h), fun q hq => ?_⟩
          exact (ih.2 q hq).interfere (.single ⟨he, hok⟩)

/-- **The invariant rule.** A program whose calls all keep `A`, run again and again among others who
keep it too: `A` holds in every state reached. -/
theorem System.run_of_all {M : System S α W} {ok : W → Label S α W → Prop}
    {ans : (op : S.Op) → S.Ans op → Prop} {P : S.Op → Prop} {A : W → Prop}
    (hp : M.prog.All ans P)
    (hans : ∀ op w x w', A w → M.server op w x w' → ok w (.call op x) → ans op x)
    (hA : M.Stable ok A)
    (hcall : ∀ op w x w', P op → A w → M.server op w x w' → ok w (.call op x) → A w')
    (henter : ∀ w, A w → A (M.enter w)) (hleave : ∀ a w, A w → A (M.leave a w))
    {s₀ s : State S α W} (h₀ : s₀.running = none) (hw₀ : A s₀.world) (hr : M.Run ok s₀ s) :
    A s.world := by
  have hsafe := System.run_safe (fun _ => A) (fun _ => A) hA
    (fun w hw _ => Prog.Safe.of_all hp hans hA (fun _ _ _ h => h) hcall (henter w hw))
    (fun a w hw _ => hleave a w hw) h₀ hw₀ hr
  cases hrunning : s.running with
  | none => exact hsafe.1 hrunning
  | some p =>
      cases p with
      | ret a => exact hsafe.2 _ hrunning s.world .refl
      | call op k => exact (hsafe.2 _ hrunning s.world .refl).1

/-! ## Programs that may fail -/

section Fallible

variable {ε : Type} {x : ExceptT ε (Prog S) β} {f : β → ExceptT ε (Prog S) γ}

theorem Prog.wp_run_bind {srv : Server S W} {post : Except ε γ → W → Prop} {w : W} :
    (x >>= f).run.wp srv post w ↔ x.run.wp srv (fun r w =>
      match r with
      | .ok b => (f b).run.wp srv post w
      | .error e => post (.error e) w) w := by
  rw [ExceptT.run_bind, Prog.wp_bind]
  constructor
  · intro h
    refine h.mono fun r w hr => ?_
    cases r <;> exact hr
  · intro h
    refine h.mono fun r w hr => ?_
    cases r <;> exact hr

theorem Prog.Safe.run_bind {M : System S α W} {ok : W → Label S α W → Prop}
    {pre : S.Op → W → Prop} {post : Except ε γ → W → Prop} {w : W}
    (h : x.run.Safe M ok pre (fun r w =>
      match r with
      | .ok b => (f b).run.Safe M ok pre post w
      | .error e => (Prog.ret (.error e)).Safe M ok pre post w) w) :
    (x >>= f).run.Safe M ok pre post w := by
  rw [ExceptT.run_bind]
  apply Prog.Safe.bind
  refine h.mono fun r w hr => ?_
  cases r <;> exact hr

end Fallible

/-! ## The calls of fallible programs -/

/-- A result with `R`, or a failure with `Q`. -/
def Outcome {ε : Type} (Q : ε → Prop) (R : β → Prop) : Except ε β → Prop
  | .ok b => R b
  | .error e => Q e

/-- As long as every answer is one that `ans` allows, the calls satisfy `P`, the results `R` and
the failures `Q`. -/
structure Calls {ε : Type} (ans : (op : S.Op) → S.Ans op → Prop) (P : S.Op → Prop) (Q : ε → Prop)
    (x : ExceptT ε (Prog S) β) (R : β → Prop) : Prop where
  all : x.run.All ans P
  returns : x.run.Returns ans (Outcome Q R)

namespace Calls

variable {ε : Type} {ans ans' : (op : S.Op) → S.Ans op → Prop} {P P' : S.Op → Prop} {Q Q' : ε → Prop}
  {x : ExceptT ε (Prog S) β} {f : β → ExceptT ε (Prog S) γ} {R R' : β → Prop} {T : γ → Prop}

theorem bind (hx : Calls ans P Q x R) (hf : ∀ b, R b → Calls ans P Q (f b) T) :
    Calls ans P Q (x >>= f) T := by
  constructor
  · rw [ExceptT.run_bind]
    refine hx.all.bind hx.returns fun r hr => ?_
    cases r with
    | ok b => exact (hf b hr).all
    | error e => trivial
  · rw [ExceptT.run_bind]
    refine hx.returns.bind fun r hr => ?_
    cases r with
    | ok b => exact (hf b hr).returns
    | error e => exact hr

theorem ret {b : β} (hb : R b) : Calls ans P Q (pure b : ExceptT ε (Prog S) β) R := ⟨trivial, hb⟩

theorem ofExcept {r : Except ε β} (h : Outcome Q R r) :
    Calls ans P Q (ExceptT.mk (Prog.ret r) : ExceptT ε (Prog S) β) R := ⟨trivial, h⟩

theorem call {op : S.Op} (h : P op) :
    Calls ans P Q (ExceptT.lift (Prog.perform op) : ExceptT ε (Prog S) (S.Ans op)) (ans op) :=
  ⟨⟨h, fun _ _ => trivial⟩, fun _ hx => hx⟩

theorem lift_run (hx : Calls ans P Q x R) :
    Calls ans P Q (ExceptT.lift x.run : ExceptT ε (Prog S) (Except ε β)) (Outcome Q R) where
  all := hx.all.bind (Prog.returns_true _) fun _ _ => trivial
  returns := hx.returns.bind fun _ hr => hr

theorem weaken (hx : Calls ans' P' Q' x R) (hans : ∀ op y, ans op y → ans' op y)
    (hP : ∀ op, P' op → P op) (hQ : ∀ e, Q' e → Q e) (hR : ∀ b, R b → R' b) :
    Calls ans P Q x R' where
  all := (hx.all.mono hP).allow hans
  returns := by
    refine (hx.returns.mono fun r hr => ?_).allow hans
    cases r with
    | ok b => exact hR b hr
    | error e => exact hQ e hr

/-- With a server that gives such answers, an assertion that such calls keep is kept. -/
theorem wp {srv : Server S W} {I : W → Prop} {w : W} (hx : Calls ans P Q x R)
    (hcall : ∀ op w y w', P op → I w → srv op w y w' → ans op y ∧ I w') (hw : I w) :
    x.run.wp srv (fun r w' => I w' ∧ Outcome Q R r) w :=
  Prog.wp_of_all hx.all hx.returns hcall hw

end Calls

/-! ## Triples for fallible programs -/

section Triple

variable {ε : Type} (M : System S α W) (ok : W → Label S α W → Prop) (pre : S.Op → W → Prop)

/-- Started where `A` holds, `p` makes each call in a world with `pre`, ends with a result `b` in a
world with `B b`, or fails in a world with `E`. -/
def Triple (A : W → Prop) (p : ExceptT ε (Prog S) β) (B : β → W → Prop) (E : W → Prop) : Prop :=
  ∀ w, A w → p.run.Safe M ok pre (fun r w =>
    match r with
    | .ok b => B b w
    | .error _ => E w) w

variable {M ok pre} {A : W → Prop} {B B' : β → W → Prop} {C : γ → W → Prop} {E : W → Prop}
  {p : ExceptT ε (Prog S) β} {f : β → ExceptT ε (Prog S) γ}

namespace Triple

theorem bind (hp : Triple M ok pre A p B E) (hE : M.Stable ok E)
    (hf : ∀ b, Triple M ok pre (B b) (f b) C E) : Triple M ok pre A (p >>= f) C E := by
  intro w hw
  refine Prog.Safe.run_bind (Prog.Safe.mono (hp w hw) fun r w hr => ?_)
  cases r with
  | ok b => exact hf b w hr
  | error e => exact .ret E hE hr (fun _ h => h)

theorem weaken (A' : W → Prop) (hp : Triple M ok pre A' p B E) (hA : ∀ w, A w → A' w)
    (hB : ∀ b w, B b w → B' b w) : Triple M ok pre A p B' E := by
  intro w hw
  refine Prog.Safe.mono (hp w (hA w hw)) fun r w hr => ?_
  cases r with
  | ok b => exact hB b w hr
  | error e => exact hr

theorem ret {b : β} (hA : M.Stable ok A) (h : ∀ w, A w → B b w) :
    Triple M ok pre A (pure b : ExceptT ε (Prog S) β) B E :=
  fun _ hw => .ret A hA hw h

theorem fail {e : ε} (hA : M.Stable ok A) (h : ∀ w, A w → E w) :
    Triple M ok pre A (ExceptT.mk (Prog.ret (.error e)) : ExceptT ε (Prog S) β) B E :=
  fun _ hw => .ret A hA hw h

/-- The call rule: `B x` describes the world right after the answer `x`. -/
theorem call_bind {op : S.Op} {g : S.Ans op → ExceptT ε (Prog S) γ} {B : S.Ans op → W → Prop}
    (hA : M.Stable ok A) (hpre : ∀ w, A w → pre op w)
    (hcall : ∀ w x w', A w → M.server op w x w' → ok w (.call op x) → B x w')
    (hg : ∀ x, Triple M ok pre (B x) (g x) C E) :
    Triple M ok pre A (ExceptT.lift (Prog.perform op) >>= g) C E := by
  intro w hw
  exact .call A hA hw fun w' hw' => ⟨hpre w' hw', fun x w'' hs hok =>
    hg x w'' (hcall w' x w'' hw' hs hok)⟩

theorem assume {P : Prop} (h : P → Triple M ok pre A p B E) :
    Triple M ok pre (fun w => P ∧ A w) p B E :=
  fun w hw => h hw.1 w hw.2

/-- A program whose failure is handled: it fails in a world with `D`. -/
theorem lift_run_bind {D : W → Prop} {g : Except ε β → ExceptT ε (Prog S) γ}
    (hp : Triple M ok pre A p B D) (hok : ∀ b, Triple M ok pre (B b) (g (.ok b)) C E)
    (herror : ∀ err, Triple M ok pre D (g (.error err)) C E) :
    Triple M ok pre A (ExceptT.lift p.run >>= g) C E := by
  intro w hw
  rw [ExceptT.run_bind_lift]
  refine Prog.Safe.bind (Prog.Safe.mono (hp w hw) fun r w hr => ?_)
  cases r with
  | ok b => exact hok b w hr
  | error err => exact herror err w hr

theorem of_all {ans : (op : S.Op) → S.Ans op → Prop} {P : S.Op → Prop}
    (hp : p.run.All ans P)
    (hans : ∀ op w x w', A w → M.server op w x w' → ok w (.call op x) → ans op x)
    (hA : M.Stable ok A) (hpre : ∀ op w, P op → A w → pre op w)
    (hcall : ∀ op w x w', P op → A w → M.server op w x w' → ok w (.call op x) → A w')
    (hE : ∀ w, A w → E w) : Triple M ok pre A p (fun _ => A) E := by
  intro w hw
  refine Prog.Safe.mono (Prog.Safe.of_all hp hans hA hpre hcall hw) fun r w hr => ?_
  cases r with
  | ok b => exact hr
  | error e => exact hE w hr

end Triple

end Triple

/-! ## Control flow -/

/-- The control flow of a program: from phase to phase by a call and its answer, or without a
call. -/
structure Flow (S : Sig) (Ph : Type) where
  move : Ph → (op : S.Op) → S.Ans op → Ph → Prop
  skip : Ph → Ph → Prop

section Follows

variable {Ph : Type} (F : Flow S Ph)

/-- From the phase `p` on, the program makes its calls along the flow, and ends with `fin`. -/
def Prog.Follows (fin : β → Ph → Prop) : Prog S β → Ph → Prop
  | .ret b, p => ∃ q, Relation.ReflTransGen F.skip p q ∧ fin b q
  | .call op k, p => ∃ q, Relation.ReflTransGen F.skip p q ∧
      ∀ x, ∃ q', F.move q op x q' ∧ (k x).Follows fin q'

variable {F}

variable {fin : β → Ph → Prop} {p : Prog S β} {ph : Ph}

theorem Prog.Follows.skip {ph' : Ph} (hs : F.skip ph ph') (h : p.Follows F fin ph') :
    p.Follows F fin ph := by
  cases p with
  | ret b =>
      obtain ⟨q, hq, hfin⟩ := h
      exact ⟨q, .head hs hq, hfin⟩
  | call op k =>
      obtain ⟨q, hq, hk⟩ := h
      exact ⟨q, .head hs hq, hk⟩

theorem Prog.Follows.skips {ph' : Ph} (hs : Relation.ReflTransGen F.skip ph ph')
    (h : p.Follows F fin ph') : p.Follows F fin ph := by
  induction hs using Relation.ReflTransGen.head_induction_on with
  | refl => exact h
  | head h' _ ih => exact .skip h' ih

theorem Prog.Follows.bind {fin' : γ → Ph → Prop} {f : β → Prog S γ} (hp : p.Follows F fin ph)
    (hf : ∀ b q, fin b q → (f b).Follows F fin' q) : (p >>= f).Follows F fin' ph := by
  induction p generalizing ph with
  | ret b =>
      obtain ⟨q, hq, hb⟩ := hp
      exact .skips hq (hf b q hb)
  | call op k ih =>
      obtain ⟨q, hq, hk⟩ := hp
      refine ⟨q, hq, fun x => ?_⟩
      obtain ⟨q', hm, hx⟩ := hk x
      exact ⟨q', hm, ih x hx⟩

theorem Prog.Follows.mono {fin' : β → Ph → Prop} (hp : p.Follows F fin ph)
    (h : ∀ b q, fin b q → fin' b q) : p.Follows F fin' ph := by
  induction p generalizing ph with
  | ret b =>
      obtain ⟨q, hq, hb⟩ := hp
      exact ⟨q, hq, h b q hb⟩
  | call op k ih =>
      obtain ⟨q, hq, hk⟩ := hp
      refine ⟨q, hq, fun x => ?_⟩
      obtain ⟨q', hm, hx⟩ := hk x
      exact ⟨q', hm, ih x hx⟩

/-- An assertion that the decisions between two calls carry along the flow. -/
theorem skips_keep {H : Ph → W → Prop} (hskip : ∀ ph ph' w, F.skip ph ph' → H ph w → H ph' w)
    {ph' : Ph} {w : W} (hs : Relation.ReflTransGen F.skip ph ph') (hw : H ph w) : H ph' w := by
  induction hs with
  | refl => exact hw
  | tail _ h' ih => exact hskip _ _ w h' ih

/-- **The flow rule.** Let the program of a system follow a flow, and let an assertion for each phase
be kept by others and carried along by the calls. Let `I` hold between passes: it gives the
assertion of the first phase, and that of a last phase gives `I` back. Then in every state
reached `I` holds between passes, and within a pass the assertion of its phase does. -/
theorem System.run_flow {M : System S α W} {ok : W → Label S α W → Prop} {H : Ph → W → Prop}
    {I : W → Prop} {fin : α → Ph → Prop} {first : Ph} (hprog : M.prog.Follows F fin first)
    (hI : M.Stable ok I) (hstable : ∀ ph, M.Stable ok (H ph))
    (hskip : ∀ ph ph' w, F.skip ph ph' → H ph w → H ph' w)
    (hmove : ∀ ph op x ph' w w', F.move ph op x ph' → H ph w → M.server op w x w' →
      ok w (.call op x) → H ph' w')
    (henter : ∀ w, I w → H first (M.enter w))
    (hleave : ∀ a q w, fin a q → H q w → I (M.leave a w))
    {s₀ s : State S α W} (h₀ : s₀.running = none) (hw₀ : I s₀.world) (hr : M.Run ok s₀ s) :
    (s.running = none → I s.world) ∧
    (∀ a, s.running = some (.ret a) → ∃ q, fin a q ∧ H q s.world) ∧
    (∀ op k, s.running = some (.call op k) →
      ∃ q, (∀ x, ∃ q', F.move q op x q') ∧ H q s.world) := by
  -- within a pass, what is left of the program follows the flow from the present phase
  have hinv : (s.running = none → I s.world) ∧
      ∀ p, s.running = some p → ∃ ph, p.Follows F fin ph ∧ H ph s.world := by
    induction hr with
    | refl =>
        refine ⟨fun _ => hw₀, fun p hp => ?_⟩
        rw [h₀] at hp
        cases hp
    | step _ hs hok ih =>
        cases hs with
        | enter w =>
            refine ⟨fun h => by simp at h, fun p hp => ?_⟩
            cases hp
            exact ⟨first, hprog, henter w (ih.1 rfl)⟩
        | @call op k w w' x hx =>
            refine ⟨fun h => by simp at h, fun p hp => ?_⟩
            cases hp
            obtain ⟨ph, ⟨q, hq, hk⟩, hph⟩ := ih.2 _ rfl
            obtain ⟨q', hm, hx'⟩ := hk x
            exact ⟨q', hx', hmove q op x q' w w' hm (skips_keep hskip hq hph) hx hok⟩
        | leave a w =>
            refine ⟨fun _ => ?_, fun p hp => by simp at hp⟩
            obtain ⟨ph, ⟨q, hq, hfin⟩, hph⟩ := ih.2 _ rfl
            exact hleave a q w hfin (skips_keep hskip hq hph)
        | env henv =>
            refine ⟨fun h => hI _ _ henv hok (ih.1 h), fun p hp => ?_⟩
            obtain ⟨ph, hp', hph⟩ := ih.2 p hp
            exact ⟨ph, hp', hstable ph _ _ henv hok hph⟩
  refine ⟨hinv.1, fun a ha => ?_, fun op k hk => ?_⟩
  · obtain ⟨ph, ⟨q, hq, hfin⟩, hph⟩ := hinv.2 _ ha
    exact ⟨q, hfin, skips_keep hskip hq hph⟩
  · obtain ⟨ph, ⟨q, hq, hmoves⟩, hph⟩ := hinv.2 _ hk
    exact ⟨q, fun x => (hmoves x).imp fun _ h => h.1, skips_keep hskip hq hph⟩

/-- The flow rule for properties of the world that hold between passes and in every phase. -/
theorem System.run_flow_world {M : System S α W} {ok : W → Label S α W → Prop}
    {H : Ph → W → Prop} {I : W → Prop} {fin : α → Ph → Prop} {first : Ph}
    (hprog : M.prog.Follows F fin first) (hI : M.Stable ok I) (hstable : ∀ ph, M.Stable ok (H ph))
    (hskip : ∀ ph ph' w, F.skip ph ph' → H ph w → H ph' w)
    (hmove : ∀ ph op x ph' w w', F.move ph op x ph' → H ph w → M.server op w x w' →
      ok w (.call op x) → H ph' w')
    (henter : ∀ w, I w → H first (M.enter w))
    (hleave : ∀ a q w, fin a q → H q w → I (M.leave a w))
    {s₀ s : State S α W} (h₀ : s₀.running = none) (hw₀ : I s₀.world) (hr : M.Run ok s₀ s) :
    I s.world ∨ ∃ q, H q s.world := by
  obtain ⟨hidle, hreturn, hcall⟩ :=
    System.run_flow hprog hI hstable hskip hmove henter hleave h₀ hw₀ hr
  cases hrunning : s.running with
  | none => exact Or.inl (hidle hrunning)
  | some p =>
      cases p with
      | ret a => exact Or.inr ((hreturn a hrunning).imp fun _ h => h.2)
      | call op k => exact Or.inr ((hcall op k hrunning).imp fun _ h => h.2)

variable {ε : Type}

/-- A fallible program follows the flow: its results satisfy `B`, and it fails in the phase `e`. -/
def FollowsTo (F : Flow S Ph) (e : Ph) (x : ExceptT ε (Prog S) β) (B : β → Ph → Prop) (ph : Ph) :
    Prop :=
  x.run.Follows F (fun r q =>
    match r with
    | .ok b => B b q
    | .error _ => q = e) ph

namespace FollowsTo

variable {e ph : Ph} {B : β → Ph → Prop} {C : γ → Ph → Prop}

theorem bind {x : ExceptT ε (Prog S) β} {f : β → ExceptT ε (Prog S) γ}
    (hx : FollowsTo F e x B ph) (hf : ∀ b q, B b q → FollowsTo F e (f b) C q) :
    FollowsTo F e (x >>= f) C ph := by
  rw [FollowsTo, ExceptT.run_bind]
  refine Prog.Follows.bind hx fun r q hr => ?_
  cases r with
  | ok b => exact hf b q hr
  | error err => exact ⟨q, .refl, hr⟩

theorem ret {b : β} (h : B b ph) : FollowsTo F e (pure b : ExceptT ε (Prog S) β) B ph :=
  ⟨ph, .refl, h⟩

theorem fail {err : ε} (h : ph = e) :
    FollowsTo F e (ExceptT.mk (Prog.ret (.error err)) : ExceptT ε (Prog S) β) B ph :=
  ⟨ph, .refl, h⟩

theorem skip {x : ExceptT ε (Prog S) β} {ph' : Ph} (hs : F.skip ph ph')
    (h : FollowsTo F e x B ph') : FollowsTo F e x B ph :=
  Prog.Follows.skip hs h

theorem call_bind {op : S.Op} {f : S.Ans op → ExceptT ε (Prog S) γ}
    (h : ∀ x, ∃ q, F.move ph op x q ∧ FollowsTo F e (f x) C q) :
    FollowsTo F e (ExceptT.lift (Prog.perform op) >>= f) C ph :=
  ⟨ph, .refl, h⟩

theorem lift_run {e' : Ph} {x : ExceptT ε (Prog S) β} (hx : FollowsTo F e' x B ph) :
    FollowsTo F e (ExceptT.lift x.run : ExceptT ε (Prog S) (Except ε β)) (fun r q =>
      match r with
      | .ok b => B b q
      | .error _ => q = e') ph :=
  Prog.Follows.bind hx fun _ q hr => ⟨q, .refl, hr⟩

end FollowsTo

end Follows

/-! ## Systems that can be run -/

/-- A system given by functions. `respond op c w` is the answer the server gives in the world
`w` when the choices it has are resolved by `c`, and `act e w` is the change `e` of the other
parties; `none` says that the choice or the change is not possible there. -/
structure Machine (S : Sig) (α W C E : Type) where
  prog : Prog S α
  respond : (op : S.Op) → C → W → Option (S.Ans op × W)
  act : E → W → Option W
  enter : W → W
  leave : α → W → W

namespace Machine

variable {C E : Type}

/-- The server of a table of responses: some choice gives the answer. -/
def serve (respond : (op : S.Op) → C → W → Option (S.Ans op × W)) : Server S W :=
  fun op w x w' => ∃ c, respond op c w = some (x, w')

/-- Answer the first calls of a program as the choices say; what is left of it, and the world. -/
def advance (respond : (op : S.Op) → C → W → Option (S.Ans op × W)) :
    Prog S α → List C → W → Option (Prog S α × W)
  | p, [], w => some (p, w)
  | .call op k, c :: cs, w =>
      match respond op c w with
      | some (x, w') => advance respond (k x) cs w'
      | none => none
  | .ret _, _ :: _, _ => none

theorem advance_exec {respond : (op : S.Op) → C → W → Option (S.Ans op × W)} {p q : Prog S α}
    {cs : List C} {w w' w'' : W} {t : List (Called S)} {a : α}
    (h : advance respond p cs w = some (q, w')) (he : Exec (serve respond) q w' t a w'') :
    ∃ t', Exec (serve respond) p w t' a w'' := by
  induction cs generalizing p w with
  | nil =>
      simp only [advance, Option.some.injEq, Prod.mk.injEq] at h
      obtain ⟨rfl, rfl⟩ := h
      exact ⟨t, he⟩
  | cons c cs ih =>
      cases p with
      | ret b => simp [advance] at h
      | call op k =>
          simp only [advance] at h
          split at h
          · rename_i x w₁ hx
            obtain ⟨t', ht⟩ := ih h
            exact ⟨_, .call ⟨c, hx⟩ ht⟩
          · cases h

def toSystem (M : Machine S α W C E) : System S α W where
  prog := M.prog
  server := serve M.respond
  env := fun w w' => ∃ e, M.act e w = some w'
  enter := M.enter
  leave := M.leave

/-- One step of a schedule. -/
inductive Act (C E : Type) where
  | enter
  | call (c : C)
  | leave
  | env (e : E)

variable (M : Machine S α W C E) (ok : W → Label S α W → Prop) [∀ w l, Decidable (ok w l)]

/-- The state after one step of a schedule, if the step is possible and satisfies `ok`. -/
def next : State S α W → Act C E → Option (State S α W)
  | ⟨w, none⟩, .enter => if ok w .enter then some ⟨M.enter w, some M.prog⟩ else none
  | ⟨w, some (.call op k)⟩, .call c =>
      match M.respond op c w with
      | some (x, w') => if ok w (.call op x) then some ⟨w', some (k x)⟩ else none
      | none => none
  | ⟨w, some (.ret a)⟩, .leave => if ok w (.leave a) then some ⟨M.leave a w, none⟩ else none
  | ⟨w, p⟩, .env e =>
      match M.act e w with
      | some w' => if ok w (.env w') then some ⟨w', p⟩ else none
      | none => none
  | _, _ => none

/-- The state after a whole schedule. -/
def replay (s : State S α W) : List (Act C E) → Option (State S α W)
  | [] => some s
  | a :: as => (M.next ok s a).bind (fun s' => replay s' as)

variable {M ok}

theorem next_step {s s' : State S α W} {a : Act C E} (h : M.next ok s a = some s') :
    ∃ l, M.toSystem.Step s l s' ∧ ok s.world l := by
  obtain ⟨w, p⟩ := s
  cases a with
  | enter =>
      cases p with
      | none =>
          simp only [next, Option.ite_none_right_eq_some, Option.some.injEq] at h
          obtain ⟨hok, rfl⟩ := h
          exact ⟨_, .enter w, hok⟩
      | some p => cases p <;> simp [next] at h
  | call c =>
      match p, h with
      | none, h => simp [next] at h
      | some (.ret a), h => simp [next] at h
      | some (.call op k), h =>
          simp only [next] at h
          split at h
          · rename_i x w' hx
            simp only [Option.ite_none_right_eq_some, Option.some.injEq] at h
            obtain ⟨hok, rfl⟩ := h
            exact ⟨_, .call ⟨c, hx⟩, hok⟩
          · cases h
  | leave =>
      match p, h with
      | none, h => simp [next] at h
      | some (.call op k), h => simp [next] at h
      | some (.ret a), h =>
          simp only [next, Option.ite_none_right_eq_some, Option.some.injEq] at h
          obtain ⟨hok, rfl⟩ := h
          exact ⟨_, .leave a w, hok⟩
  | env e =>
      have h' : (match M.act e w with
          | some w' => if ok w (.env w') then some (⟨w', p⟩ : State S α W) else none
          | none => none) = some s' := by
        cases p with
        | none => exact h
        | some p => cases p <;> exact h
      split at h'
      · rename_i w' hw
        simp only [Option.ite_none_right_eq_some, Option.some.injEq] at h'
        obtain ⟨hok, rfl⟩ := h'
        exact ⟨_, .env ⟨e, hw⟩, hok⟩
      · cases h'

theorem replay_run {s₀ s s' : State S α W} (hr : M.toSystem.Run ok s₀ s) {as : List (Act C E)}
    (h : M.replay ok s as = some s') : M.toSystem.Run ok s₀ s' := by
  induction as generalizing s with
  | nil =>
      cases h
      exact hr
  | cons a as ih =>
      obtain ⟨s₁, h₁, h₂⟩ := Option.bind_eq_some_iff.mp h
      obtain ⟨l, hs, hok⟩ := next_step h₁
      exact ih (.step hr hs hok) h₂

/-- A schedule that can be replayed to a state with `Q` shows that a run reaches one. -/
theorem exists_run (M : Machine S α W C E) (ok : W → Label S α W → Prop)
    [∀ w l, Decidable (ok w l)] (s₀ : State S α W) (as : List (Act C E)) (Q : State S α W → Bool)
    (h : (M.replay ok s₀ as).any Q = true) : ∃ s, M.toSystem.Run ok s₀ s ∧ Q s = true := by
  cases hs : M.replay ok s₀ as with
  | none => simp [hs] at h
  | some s => exact ⟨s, replay_run .refl hs, by simpa [hs] using h⟩

theorem exists_run_run (M : Machine S α W C E) (ok : W → Label S α W → Prop)
    [∀ w l, Decidable (ok w l)] (s₀ : State S α W) (as bs : List (Act C E))
    (Q : State S α W → State S α W → Bool)
    (h : (M.replay ok s₀ as).any (fun s => (M.replay ok s bs).any (Q s)) = true) :
    ∃ s s', M.toSystem.Run ok s₀ s ∧ M.toSystem.Run ok s s' ∧ Q s s' = true := by
  cases hs : M.replay ok s₀ as with
  | none => simp [hs] at h
  | some s =>
      rw [hs, Option.any_some] at h
      obtain ⟨s', hrun, hQ⟩ := exists_run M ok s bs (Q s) h
      exact ⟨s, s', replay_run .refl hs, hrun, hQ⟩

/-- The machine in which others do only some of the things they might do. -/
def restrict (M : Machine S α W C E) (allow : E → Bool) : Machine S α W C E :=
  { M with act := fun e w => if allow e then M.act e w else none }

/-- To check the acts of others against a condition, it suffices to know which acts there are. -/
theorem run_of_restrict {M : Machine S α W C E} {allow : E → Bool} {ok : W → Label S α W → Prop}
    (hself : ∀ w l, (∀ w', l ≠ .env w') → ok w l)
    (hothers : ∀ e w w', allow e = true → M.act e w = some w' → ok w (.env w'))
    {s₀ s : State S α W} (h : (M.restrict allow).toSystem.Run (fun _ _ => True) s₀ s) :
    M.toSystem.Run ok s₀ s := by
  induction h with
  | refl => exact .refl
  | step _ hs _ ih =>
      cases hs with
      | enter w => exact .step ih (.enter w) (hself _ _ fun _ => by simp)
      | call hx => exact .step ih (.call hx) (hself _ _ fun _ => by simp)
      | leave a w => exact .step ih (.leave a w) (hself _ _ fun _ => by simp)
      | env henv =>
          obtain ⟨e, he⟩ := henv
          have he' : (if allow e then M.act e _ else none) = some _ := he
          split at he'
          · rename_i hallow
            exact .step ih (.env ⟨e, he'⟩) (hothers e _ _ hallow he')
          · cases he'

end Machine

end Interact
