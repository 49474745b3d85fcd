import Heir.Lib.Interact

set_option autoImplicit false

/-! # What a program may do

`Prog.wp` says what holds at the end of every run of a program. `Prog.may` says that some run ends
with a given assertion: each call is answered by one of the answers the server has for it. It is
used to show that a program can succeed, so that a statement about its successful runs is not
about no run at all.
-/

namespace Interact

variable {S : Sig} {α β γ W ε : Type} {srv : Server S W}

/-- Some run of the program alone ends with `post`. -/
def Prog.may (srv : Server S W) (post : α → W → Prop) : Prog S α → W → Prop
  | .ret a, w => post a w
  | .call op k, w => ∃ x w', srv op w x w' ∧ (k x).may srv post w'

namespace Prog

@[simp] theorem may_ret (post : α → W → Prop) (a : α) (w : W) :
    (Prog.ret a : Prog S α).may srv post w ↔ post a w := Iff.rfl

variable {p : Prog S α} {post : α → W → Prop} {w : W}

theorem may_call {op : S.Op} {k : S.Ans op → Prog S α} (x : S.Ans op) (w' : W) (hs : srv op w x w')
    (hk : (k x).may srv post w') : (Prog.call op k).may srv post w :=
  ⟨x, w', hs, hk⟩

theorem may.exec (h : p.may srv post w) : ∃ t a w', Exec srv p w t a w' ∧ post a w' := by
  induction p generalizing w with
  | ret a => exact ⟨[], a, w, .ret a w, h⟩
  | call op k ih =>
      obtain ⟨x, w₁, hs, hk⟩ := h
      obtain ⟨t, a, w', he, hpost⟩ := ih x hk
      exact ⟨⟨op, x⟩ :: t, a, w', .call hs he, hpost⟩

theorem may_bind {post : β → W → Prop} {f : α → Prog S β} :
    (p >>= f).may srv post w ↔ p.may srv (fun a w => (f a).may srv post w) w := by
  induction p generalizing w with
  | ret a => exact Iff.rfl
  | call op k ih =>
      constructor
      · rintro ⟨x, w', hs, hk⟩
        exact ⟨x, w', hs, (ih x).mp hk⟩
      · rintro ⟨x, w', hs, hk⟩
        exact ⟨x, w', hs, (ih x).mpr hk⟩

theorem may.mono {post' : α → W → Prop} (h : p.may srv post w)
    (hpost : ∀ a w, post a w → post' a w) : p.may srv post' w := by
  induction p generalizing w with
  | ret a => exact hpost a w h
  | call op k ih =>
      obtain ⟨x, w', hs, hk⟩ := h
      exact ⟨x, w', hs, ih x hk⟩

/-- What every run satisfies, the run that there is satisfies too. -/
theorem may.and_wp {post' : α → W → Prop} (h : p.may srv post w) (hwp : p.wp srv post' w) :
    p.may srv (fun a w => post a w ∧ post' a w) w := by
  induction p generalizing w with
  | ret a => exact ⟨h, hwp⟩
  | call op k ih =>
      obtain ⟨x, w', hs, hk⟩ := h
      exact ⟨x, w', hs, ih x hk (hwp x w' hs)⟩

end Prog

/-! ## Success of fallible programs -/

/-- Some run of the fallible program ends with a result that satisfies `post`. -/
def Succeeds (srv : Server S W) (x : ExceptT ε (Prog S) β) (post : β → W → Prop) (w : W) : Prop :=
  x.run.may srv (fun r w' => ∃ b, r = .ok b ∧ post b w') w

namespace Succeeds

variable {x : ExceptT ε (Prog S) β} {f : β → ExceptT ε (Prog S) γ} {post post' : β → W → Prop}
  {post₂ : γ → W → Prop} {w : W}

theorem ret {b : β} (h : post b w) : Succeeds srv (pure b : ExceptT ε (Prog S) β) post w :=
  ⟨b, rfl, h⟩

theorem may_bind {post : Except ε γ → W → Prop}
    (hx : Succeeds srv x (fun b w' => (f b).run.may srv post w') w) :
    (x >>= f).run.may srv post w := by
  rw [ExceptT.run_bind, Prog.may_bind]
  refine Prog.may.mono hx fun r w' hr => ?_
  obtain ⟨b, rfl, hb⟩ := hr
  exact hb

theorem bind (hx : Succeeds srv x (fun b w' => Succeeds srv (f b) post₂ w') w) :
    Succeeds srv (x >>= f) post₂ w :=
  may_bind hx

theorem mono (hx : Succeeds srv x post w) (h : ∀ b w, post b w → post' b w) :
    Succeeds srv x post' w := by
  refine Prog.may.mono hx fun r w' hr => ?_
  obtain ⟨b, hb, hpost⟩ := hr
  exact ⟨b, hb, h b w' hpost⟩

theorem call_bind {op : S.Op} {g : S.Ans op → ExceptT ε (Prog S) γ} (y : S.Ans op) (w' : W)
    (hs : srv op w y w') (hg : Succeeds srv (g y) post₂ w') :
    Succeeds srv (ExceptT.lift (Prog.perform op) >>= g) post₂ w :=
  Prog.may_call y w' hs hg

theorem lift_run_bind {g : Except ε β → ExceptT ε (Prog S) γ}
    (hx : Succeeds srv x (fun b w' => Succeeds srv (g (.ok b)) post₂ w') w) :
    Succeeds srv (ExceptT.lift x.run >>= g) post₂ w := by
  rw [Succeeds, ExceptT.run_bind_lift, Prog.may_bind]
  refine Prog.may.mono hx fun r w' hr => ?_
  obtain ⟨b, rfl, hb⟩ := hr
  exact hb

theorem exec (hx : Succeeds srv x post w) :
    ∃ t b w', Exec srv x.run w t (.ok b) w' ∧ post b w' := by
  obtain ⟨t, r, w', he, b, rfl, hpost⟩ := Prog.may.exec hx
  exact ⟨t, b, w', he, hpost⟩

/-- What every successful run satisfies, the one that there is satisfies too. -/
theorem and_wp (hx : Succeeds srv x post w)
    (hwp : x.run.wp srv (fun r w' => ∀ b, r = .ok b → post' b w') w) :
    Succeeds srv x (fun b w' => post b w' ∧ post' b w') w := by
  refine Prog.may.mono (Prog.may.and_wp hx hwp) fun r w' hr => ?_
  obtain ⟨⟨b, hb, hpost⟩, hall⟩ := hr
  exact ⟨b, hb, hpost, hall b hb⟩

end Succeeds

end Interact
