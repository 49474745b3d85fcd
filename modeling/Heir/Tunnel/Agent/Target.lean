import Heir.Tunnel.Agent.World

set_option autoImplicit false

/-! # The target of the connection manager

Two properties of the number of tunnels that the manager aims at. It never sleeps through the loss of
a tunnel (`no_lost_wakeup`): a goroutine sends its message after it has removed its tunnel, and a full
channel wakes the manager as well as one more message would. But the target can be out of date
(`target_fresh`): an identity that comes with a tunnel to an instance that is tracked already is
thrown away together with the tunnel.
-/

namespace Heir.Tunnel.Agent

open Heir.Core Interact Function

/-! ## Waking up -/

/-- The manager sleeps although there is a tunnel to open, and nothing is on its way to wake it. -/
def LostWakeup (s : State sig (Except Fault Unit) World) : Prop :=
  (∃ k, s.running = some (.call .select k)) ∧
  (s.world.conn.tracker.size : Int) < s.world.conn.target ∧ s.world.conn.disconnected = [] ∧
  ∀ tunnel g, s.world.goroutines tunnel = some g → g.stage ≠ .untracked

/-- There are enough tunnels, or there is a message, or one is about to be sent. -/
def Alert (w : World) : Prop :=
  w.conn.target ≤ w.conn.tracker.size ∨ w.conn.disconnected ≠ [] ∨
    ∃ tunnel g, w.goroutines tunnel = some g ∧ g.stage = .untracked

/-- What holds in each phase of a round. -/
def Waking : Phase → World → Prop
  | .sampled current target => fun w => target ≤ current → Alert w
  | .idle => Alert
  | _ => fun _ => True

/-- After a send there is a message, whether or not the channel was full. -/
theorem notify_nonempty (conn : ConnState) (identity : PlaneTunnelIdentity) :
    (conn.notify identity).disconnected ≠ [] := by
  rw [ConnState.notify]
  split
  · simp
  · rename_i hfull
    intro hnil
    exact hfull (by rw [hnil]; decide)

variable {ph ph' : Phase} {w w' : World}

theorem Alert.outside (h : Alert w) (ho : Outside w w') : Alert w' := by
  -- the step of a goroutine that is not between its deletion and its send
  have hkeep : ∀ {tunnel : TunnelId} {g g' : Goroutine}, w.goroutines tunnel = some g →
      g.stage ≠ .untracked →
      (∃ t f, w.goroutines t = some f ∧ f.stage = .untracked) →
      ∃ t f, update w.goroutines tunnel (some g') t = some f ∧ f.stage = .untracked := by
    rintro tunnel g g' hg hstage ⟨t, f, hf, huntracked⟩
    refine ⟨t, f, ?_, huntracked⟩
    rw [update_of_ne]
    · exact hf
    · rintro rfl
      rw [hg] at hf
      cases hf
      exact hstage huntracked
  cases ho with
  | other _ _ => exact h
  | leave hg hstage | close hg hstage => exact h.imp id (Or.imp id (hkeep hg (by simp [hstage])))
  | @untrack tunnel g _ _ =>
      exact Or.inr (Or.inr ⟨tunnel, { g with stage := .untracked }, by simp, rfl⟩)
  | notify _ _ => exact Or.inr (Or.inl (notify_nonempty _ _))

theorem waking_outside (h : Waking ph w) (ho : Outside w w') : Waking ph w' := by
  cases ph with
  | sampled current target => exact fun henough => (h henough).outside ho
  | idle => exact Alert.outside h ho
  | _ => trivial

theorem waking_skip (hskip : Skip ph ph') (h : Waking ph w) : Waking ph' w := by
  cases hskip with
  | enough henough => exact h henough
  | _ => trivial

/-- The manager looks at the tracker before it goes to sleep. -/
theorem waking_move {op : Call} {x : op.Answer} (hmove : Move ph op x ph') (hs : server op w x w') :
    Waking ph' w' := by
  cases hmove with
  | sample x =>
      obtain rfl := server_sample hs
      obtain rfl := server_idle hs trivial
      exact fun henough => Or.inl henough
  | _ => trivial

section

variable (libs : Libs)

/-- **No wake-up is lost**, whatever the servers report and however the goroutines and the manager
interleave. -/
theorem no_lost_wakeup {s : State sig (Except Fault Unit) World}
    (hrun : (agent libs).toSystem.Run (fun _ _ => True) initial s) : ¬ LostWakeup s := by
  have hstable : ∀ ph, (agent libs).toSystem.Stable (fun _ _ => True) (Waking ph) :=
    fun ph w w' ⟨e, he⟩ _ hw => waking_outside hw (outside_of_act he)
  obtain ⟨-, -, hcall⟩ := System.run_flow (I := fun _ => True) (agent_follows libs)
    (fun _ _ _ _ _ => trivial) hstable (fun _ _ _ hskip h => waking_skip hskip h)
    (fun _ _ _ _ _ _ hmove _ hs _ => waking_move hmove hs) (fun _ _ => trivial)
    (fun _ _ _ _ _ => trivial) rfl trivial hrun
  rintro ⟨⟨k, hselect⟩, hlack, hempty, hnone⟩
  obtain ⟨q, hmoves, hq⟩ := hcall _ k hselect
  obtain ⟨q', hmove⟩ := hmoves .refresh
  cases hmove with
  | refresh =>
      rcases hq with henough | hmessage | ⟨tunnel, g, hg, hstage⟩
      · exact absurd hlack (not_lt.mpr henough)
      · exact hmessage hempty
      · exact hnone tunnel g hg hstage

end

/-- The manager sleeps. -/
def sleeping {α : Type} : Option (Prog sig α) → Bool
  | some (.call .select _) => true
  | _ => false

theorem exists_of_sleeping {α : Type} {p : Option (Prog sig α)} (h : sleeping p = true) :
    ∃ k, p = some (.call .select k) := by
  unfold sleeping at h
  split at h
  · next k => exact ⟨k, rfl⟩
  · cases h

/-- A tunnel is lost while the manager sleeps: its goroutine is about to send. -/
theorem lost_tunnel_wakes :
    ∃ s, (agent sampleLibs).toSystem.Run (fun _ _ => True) initial s ∧ ¬ LostWakeup s ∧
      (s.world.conn.tracker.size : Int) < s.world.conn.target ∧
      ∃ k, s.running = some (.call .select k) := by
  obtain ⟨s, hrun, hs⟩ := Machine.exists_run (agent sampleLibs) (fun _ _ => True) initial
    (connectRound 7 1 ++ [.enter, .call .serve, .env (.lose 0), .env (.advance 0),
      .env (.advance 0), .env (.advance 0)])
    (fun s => decide ((s.world.conn.tracker.size : Int) < s.world.conn.target) &&
      sleeping s.running) (by decide +kernel)
  rw [Bool.and_eq_true, decide_eq_true_eq] at hs
  obtain ⟨hlack, hselect⟩ := hs
  exact ⟨s, hrun, no_lost_wakeup sampleLibs hrun, hlack, exists_of_sleeping hselect⟩

/-! ## Knowing the number of instances -/

/-- The target is the number of instances in the identity that was fetched last. -/
def Fresh (w : World) : Prop :=
  ∀ identity, w.lastFetched = some identity → w.conn.target = identity.numberOfInstances

/-- A tunnel to an instance that is tracked already comes with the number of instances that is the
target already. -/
def DuplicateAgrees (w : World) : Label sig (Except Fault Unit) World → Prop
  | .call (.track _ identity) _ => (w.conn.tracker[identity.id]?).isSome = true →
      identity.numberOfInstances = w.conn.target
  | _ => True

/-- What holds in each phase of a round: an identity that has just been fetched is not yet taken
account of. -/
def Knowing : Phase → World → Prop
  | .fetched _ identity => fun w => w.lastFetched = some identity
  | _ => Fresh

theorem Fresh.of_fetched {identity : PlaneTunnelIdentity} (hlast : w.lastFetched = some identity)
    (htarget : w.conn.target = identity.numberOfInstances) : Fresh w := by
  intro other hother
  rw [hlast] at hother
  cases hother
  exact htarget

theorem Fresh.outside (h : Fresh w) (ho : Outside w w') : Fresh w' := by
  intro identity hlast
  rw [ho.lastFetched_eq] at hlast
  rw [ho.target_eq]
  exact h identity hlast

theorem knowing_outside (h : Knowing ph w) (ho : Outside w w') : Knowing ph w' := by
  cases ph with
  | fetched u identity => exact ho.lastFetched_eq.trans h
  | _ =>
      exact Fresh.outside h ho

theorem knowing_skip (hskip : Skip ph ph') (h : Knowing ph w) : Knowing ph' w := by
  cases hskip <;> exact h

theorem knowing_move {op : Call} {x : op.Answer} (hmove : Move ph op x ph') (h : Knowing ph w)
    (hs : server op w x w') (hok : DuplicateAgrees w (.call op x)) : Knowing ph' w' := by
  cases hmove with
  | cancelled | disconnected | refresh =>
      rcases server_select hs with rfl | ⟨id, rest, -, rfl⟩
      · exact h
      · exact h
  | client | clientFailed =>
      rcases server_client hs with ⟨-, rfl⟩ | ⟨-, rfl⟩
      · exact h
      · exact h
  | closeTunnel =>
      obtain rfl := server_closeTunnel hs
      exact h
  | received =>
      obtain rfl := server_received hs
      rfl
  | setTarget identity =>
      obtain rfl := server_setTarget hs
      exact .of_fetched h rfl
  | track tunnel identity =>
      rcases server_track hs with ⟨-, -, rfl⟩ | ⟨-, ⟨e, hx⟩, -⟩
      · exact .of_fetched h rfl
      · cases hx
  | drop tunnel identity e =>
      rcases server_track hs with ⟨-, hx, -⟩ | ⟨⟨mc, hmc⟩, -, rfl⟩
      · cases hx
      · -- the target stays as it is, whatever the new identity says
        have hagrees := hok (Option.isSome_iff_exists.mpr ⟨mc, hmc⟩)
        exact .of_fetched h hagrees.symm
  | _ =>
      obtain rfl := server_idle hs trivial
      exact h

/-- The manager is at the head of its loop. -/
def AtHead (libs : Libs)
    (s : State sig (Except Fault Unit) World) : Prop :=
  s.running = none ∨ s.running = some (connectionManager libs).run

/-- **The target is fresh**: in every run in which duplicate tunnels come with nothing new, whenever
the manager is at the head of its loop, the target is the number of instances that it has heard of
last. -/
theorem target_fresh (libs : Libs)
    {s : State sig (Except Fault Unit) World}
    (hrun : (agent libs).toSystem.Run DuplicateAgrees initial s)
    (hhead : AtHead libs s) : Fresh s.world := by
  have hstable : ∀ ph, (agent libs).toSystem.Stable DuplicateAgrees (Knowing ph) :=
    fun ph w w' ⟨e, he⟩ _ hw => knowing_outside hw (outside_of_act he)
  obtain ⟨hidle, -, hcall⟩ := System.run_flow (I := Fresh) (agent_follows libs)
    (hstable .head) hstable (fun _ _ _ hskip h => knowing_skip hskip h)
    (fun _ _ _ _ _ _ hmove h hs hok => knowing_move hmove h hs hok) (fun _ h => h)
    (fun a q w hq hw => by cases a <;> cases hq <;> exact hw)
    rfl (fun _ hlast => by cases hlast) hrun
  rcases hhead with hnone | hsome
  · exact hidle hnone
  · obtain ⟨q, hmoves, hq⟩ := hcall .sample _ hsome
    obtain ⟨q', hmove⟩ := hmoves (0, 0)
    cases hmove with
    | sample | report => exact hq

instance (w : World) (l : Label sig (Except Fault Unit) World) : Decidable (DuplicateAgrees w l) := by
  cases l
  case call op x => cases op <;> (unfold DuplicateAgrees; infer_instance)
  all_goals exact .isTrue trivial

/-- The manager is between two rounds, has as many tunnels as the identity says that it has heard of
last, and has this target. -/
def settledAt (target : Int) (s : State sig (Except Fault Unit) World) : Bool :=
  s.running.isNone && decide (s.world.conn.target = target) &&
    s.world.lastFetched.any (fun identity =>
      decide ((s.world.conn.tracker.size : Int) = identity.numberOfInstances))

/-- An agent connects to two instances, and hears of one of them twice. -/
theorem two_instances_fresh :
    ∃ s, (agent sampleLibs).toSystem.Run DuplicateAgrees initial s ∧ settledAt 2 s = true ∧
      Fresh s.world := by
  obtain ⟨s, hrun, hs⟩ := Machine.exists_run (agent sampleLibs) DuplicateAgrees initial
    (connectRound 7 2 ++ [.enter, .call .serve, .call .serve] ++ attempt 7 2 ++ [.call .serve] ++
      attempt 8 2 ++ [.call .serve, .leave])
    (settledAt 2) (by decide +kernel)
  have hnone : s.running = none := by
    simp only [settledAt, Bool.and_eq_true, Option.isNone_iff_eq_none] at hs
    exact hs.1.1
  exact ⟨s, hrun, hs, target_fresh sampleLibs hrun (Or.inl hnone)⟩

/-- **The target is out of date**: the agent has a tunnel to one of two instances when the other one
goes away. All attempts of the next round reach the instance it has a tunnel to already, which says
that it is the only one; the target is still two. -/
theorem target_out_of_date :
    ∃ s, (agent sampleLibs).toSystem.Run (fun _ _ => True) initial s ∧
      AtHead sampleLibs s ∧ settledAt 2 s = true ∧ s.world.conn.tracker.size = 1 ∧
      ¬ Fresh s.world := by
  obtain ⟨s, hrun, hs⟩ := Machine.exists_run (agent sampleLibs) (fun _ _ => True) initial
    (connectRound 7 2 ++ [.enter, .call .serve, .call .serve] ++ attempt 7 1 ++ [.call .serve] ++
      attempt 7 1 ++ [.call .serve] ++ attempt 7 1 ++ [.call .serve] ++ attempt 7 1 ++
      [.call .serve, .leave])
    (fun s => settledAt 2 s && decide (s.world.conn.tracker.size = 1)) (by decide +kernel)
  rw [Bool.and_eq_true, decide_eq_true_eq] at hs
  obtain ⟨hsettled, hsize⟩ := hs
  refine ⟨s, hrun, Or.inl ?_, hsettled, hsize, fun hfresh => ?_⟩
  all_goals
    simp only [settledAt, Bool.and_eq_true, Option.isNone_iff_eq_none, decide_eq_true_eq,
      Option.any_eq_true] at hsettled
    obtain ⟨⟨hnone, htarget⟩, identity, hlast, hnumber⟩ := hsettled
  · exact hnone
  · have heq := hfresh identity hlast
    rw [htarget, ← hnumber, hsize] at heq
    cases heq

end Heir.Tunnel.Agent
