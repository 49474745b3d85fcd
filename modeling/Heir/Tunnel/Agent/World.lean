import Heir.Tunnel.Agent.Flow
import Mathlib.Logic.Function.Basic

set_option autoImplicit false

/-! # The agent and its tunnels

The state that the connection manager shares with the goroutines that serve its tunnels. A goroutine
serves its tunnel until that is lost or the context ends; then it closes the tunnel, removes it from
the tracker and notifies the manager, each in a step of its own. These steps, and the loss of
tunnels, can come between any two calls of the manager. Servers may report any identity, and any call
that reaches out to one may fail.
-/

namespace Heir.Tunnel.Agent

open Heir.Core Interact Function

/-! ## Worlds -/

/-- How far a serving goroutine has come. -/
inductive Stage where
  | serving
  /-- It has left the loop around `Serve`. -/
  | leaving
  | closed
  | untracked
  | finished
  deriving DecidableEq, Repr

structure Goroutine where
  identity : PlaneTunnelIdentity
  stage : Stage
  deriving DecidableEq, Repr

/-- The goroutine has not yet removed its tunnel from the tracker. -/
def Goroutine.Pending (g : Goroutine) : Prop := g.stage ≠ .untracked ∧ g.stage ≠ .finished

instance (g : Goroutine) : Decidable g.Pending := inferInstanceAs (Decidable (_ ∧ _))

structure World where
  conn : ConnState := {}
  /-- The number of tunnels that were ever opened. -/
  opened : Nat := 0
  /-- The agent has closed the tunnel. -/
  closed : TunnelId → Bool := fun _ => false
  /-- The tunnel was lost. -/
  lost : TunnelId → Bool := fun _ => false
  goroutines : TunnelId → Option Goroutine := fun _ => none
  cancelled : Bool := false
  /-- `connectionManager` has returned. -/
  stopped : Bool := false
  /-- The tunnels that `connect` has returned. -/
  returned : TunnelId → Bool := fun _ => false
  /-- The identity that was fetched last. -/
  lastFetched : Option PlaneTunnelIdentity := none
  /-- The largest target so far. -/
  maxTarget : Int := 1

/-- `tunnel.IsClosed()`. -/
def World.isClosed (w : World) (tunnel : TunnelId) : Bool := w.closed tunnel || w.lost tunnel

/-- Another target. -/
def World.withConn (w : World) (conn : ConnState) : World :=
  { w with conn := conn, maxTarget := max w.maxTarget conn.target }

/-! ## Answers -/

/-- The resolution of what an answer leaves open. -/
inductive Choice where
  | serve
  | fail (text : String)
  | done
  | refresh
  | payload (b : Bytes)
  | pick (i : Nat)

def canceled : GoError := errorf "context canceled"

/-- The critical section of `establishNewConnection`, and the return from `connect` right before it,
which touches nothing that is shared. -/
def serveTrack (w : World) (tunnel : TunnelId) (identity : PlaneTunnelIdentity) :
    Except GoError Unit × World :=
  let w := { w with returned := update w.returned tunnel true }
  match w.conn.track tunnel identity with
  | .error e => (.error e, { w with closed := update w.closed tunnel true })
  | .ok conn => (.ok (), { w.withConn conn with
      goroutines := update w.goroutines tunnel (some ⟨identity, .serving⟩) })

/-- The answer to a call, and the world after it. -/
@[simp] def respond : (op : Call) → Choice → World → Option (op.Answer × World)
  | .sample, .serve, w => if w.stopped then none else some (w.conn.sample, w)
  | .select, .done, w => if w.cancelled then some (.done canceled, w) else none
  | .select, .serve, w =>
      match w.conn.disconnected with
      | [] => none
      | id :: rest => some (.disconnected id, { w with conn.disconnected := rest })
  | .select, .refresh, w => some (.refresh, w)
  | .ctxErr, .serve, w => some (if w.cancelled then some canceled else none, w)
  | .retryDelay, .serve, w => some (none, w)
  | .retryDelay, .done, w => if w.cancelled then some (some canceled, w) else none
  | .dial, .serve, w => some (.ok (), w)
  | .dial, .fail t, w => some (.error (errorf t), w)
  | .client, .serve, w => some (.ok w.opened, { w with opened := w.opened + 1 })
  | .client, .fail t, w => some (.error (errorf t), w)
  | .closeConn, .serve, w => some ((), w)
  | .closeTunnel tunnel, .serve, w => some ((), { w with closed := update w.closed tunnel true })
  | .dialUpstream _ _, .serve, w => some (.ok (), w)
  | .dialUpstream _ _, .fail t, w => some (.error (errorf t), w)
  | .readAll _, .payload b, w => some (.ok b, w)
  | .readAll _, .fail t, w => some (.error (errorf t), w)
  | .received identity, .serve, w => some ((), { w with lastFetched := some identity })
  | .track tunnel identity, .serve, w => some (serveTrack w tunnel identity)
  | .conns, .serve, w => some (w.conn.tracker.toList.map Prod.snd, w)
  | .randIntN n, .pick i, w => if h : i < n then some (⟨i, h⟩, w) else none
  | .setTarget identity, .serve, w => some ((), w.withConn (w.conn.setTarget identity))
  | _, _, _ => none

abbrev server : Server sig World := Machine.serve (S := sig) respond

/-! ## The goroutines -/

/-- What happens besides the manager's own calls. -/
inductive Event where
  | lose (tunnel : TunnelId)
  | cancel
  /-- The goroutine of the tunnel takes its next step. -/
  | advance (tunnel : TunnelId)

/-- One step of a serving goroutine. While the tunnel is open and the context has not ended, the loop
around `Serve` goes on. -/
def advance (w : World) (tunnel : TunnelId) (g : Goroutine) : Option World :=
  let goTo (stage : Stage) : World :=
    { w with goroutines := update w.goroutines tunnel (some { g with stage := stage }) }
  match g.stage with
  | .serving => if w.isClosed tunnel || w.cancelled then some (goTo .leaving) else none
  | .leaving => some { goTo .closed with closed := update w.closed tunnel true }
  | .closed => some { goTo .untracked with conn := w.conn.untrack g.identity }
  | .untracked => some { goTo .finished with conn := w.conn.notify g.identity }
  | .finished => none

def act : Event → World → Option World
  | .lose tunnel, w => if tunnel < w.opened then
      some { w with lost := update w.lost tunnel true } else none
  | .cancel, w => some { w with cancelled := true }
  | .advance tunnel, w => (w.goroutines tunnel).bind (advance w tunnel)

/-- What the goroutines do to the shared state, step by step. -/
inductive Outside (w : World) : World → Prop where
  | other (lost : TunnelId → Bool) (cancelled : Bool) :
      Outside w { w with lost := lost, cancelled := cancelled }
  | leave {tunnel : TunnelId} {g : Goroutine} : w.goroutines tunnel = some g → g.stage = .serving →
      Outside w { w with
        goroutines := update w.goroutines tunnel (some { g with stage := .leaving }) }
  | close {tunnel : TunnelId} {g : Goroutine} : w.goroutines tunnel = some g → g.stage = .leaving →
      Outside w { w with
        goroutines := update w.goroutines tunnel (some { g with stage := .closed })
        closed := update w.closed tunnel true }
  | untrack {tunnel : TunnelId} {g : Goroutine} : w.goroutines tunnel = some g →
      g.stage = .closed → Outside w { w with
        goroutines := update w.goroutines tunnel (some { g with stage := .untracked })
        conn := w.conn.untrack g.identity }
  | notify {tunnel : TunnelId} {g : Goroutine} : w.goroutines tunnel = some g →
      g.stage = .untracked → Outside w { w with
        goroutines := update w.goroutines tunnel (some { g with stage := .finished })
        conn := w.conn.notify g.identity }

theorem outside_of_act {e : Event} {w w' : World} (h : act e w = some w') : Outside w w' := by
  cases e with
  | lose tunnel =>
      rw [act] at h
      split at h
      · cases h
        exact .other _ _
      · cases h
  | cancel =>
      cases h
      exact .other _ _
  | advance tunnel =>
      obtain ⟨g, hg, h⟩ := Option.bind_eq_some_iff.mp h
      rw [advance] at h
      split at h
      · rename_i hstage
        split at h
        · cases h
          exact .leave hg hstage
        · cases h
      · rename_i hstage
        cases h
        exact .close hg hstage
      · rename_i hstage
        cases h
        exact .untrack hg hstage
      · rename_i hstage
        cases h
        exact .notify hg hstage
      · cases h

section Outside

variable {w w' : World}

theorem Outside.target_eq (h : Outside w w') : w'.conn.target = w.conn.target := by
  cases h with
  | other | leave | close | untrack => rfl
  | notify =>
      dsimp only [ConnState.notify]
      split <;> rfl

theorem Outside.lastFetched_eq (h : Outside w w') : w'.lastFetched = w.lastFetched := by
  cases h <;> rfl

end Outside

/-! ## What a call can do -/

/-- The calls that change nothing. -/
def Call.Idle : Call → Prop
  | .sample | .ctxErr | .retryDelay | .dial | .closeConn | .dialUpstream _ _ | .readAll _ | .conns
  | .randIntN _ => True
  | .select | .client | .closeTunnel _ | .received _ | .track _ _ | .setTarget _ => False

section Server

variable {w w' : World}

theorem server_idle {op : Call} {x : op.Answer} (h : server op w x w') (hop : op.Idle) :
    w' = w := by
  obtain ⟨ch, h⟩ := h
  cases op <;> first | exact False.elim hop | skip
  all_goals cases ch <;> simp only [respond, reduceCtorEq] at h
  all_goals first | (cases h; rfl) | (split at h <;> cases h; rfl)

theorem server_sample {x : Int × Int} (h : server .sample w x w') :
    x = (↑w.conn.tracker.size, w.conn.target) := by
  obtain ⟨ch, h⟩ := h
  cases ch <;> simp only [respond, reduceCtorEq] at h
  split at h
  · cases h
  · cases h
    rfl

/-- The manager wakes up for a reason that is there. -/
theorem server_select {x : Wake} (h : server .select w x w') :
    w' = w ∨ ∃ id rest, w.conn.disconnected = id :: rest ∧
      w' = { w with conn.disconnected := rest } := by
  obtain ⟨ch, h⟩ := h
  cases ch <;> simp only [respond, reduceCtorEq] at h
  · split at h
    · cases h
    · rename_i id rest heq
      cases h
      exact Or.inr ⟨id, rest, heq, rfl⟩
  · split at h
    · cases h
      exact Or.inl rfl
    · cases h
  · cases h
    exact Or.inl rfl

theorem server_client {x : Except GoError TunnelId} (h : server .client w x w') :
    (x = .ok w.opened ∧ w' = { w with opened := w.opened + 1 }) ∨ ((∃ e, x = .error e) ∧ w' = w) := by
  obtain ⟨ch, h⟩ := h
  cases ch <;> simp only [respond, reduceCtorEq] at h
  · cases h
    exact Or.inl ⟨rfl, rfl⟩
  · cases h
    exact Or.inr ⟨⟨_, rfl⟩, rfl⟩

theorem server_closeTunnel {tunnel : TunnelId} {x : Unit} (h : server (.closeTunnel tunnel) w x w') :
    w' = { w with closed := update w.closed tunnel true } := by
  obtain ⟨ch, h⟩ := h
  cases ch <;> simp only [respond, reduceCtorEq] at h
  cases h
  rfl

theorem server_received {identity : PlaneTunnelIdentity} {x : Unit}
    (h : server (.received identity) w x w') : w' = { w with lastFetched := some identity } := by
  obtain ⟨ch, h⟩ := h
  cases ch <;> simp only [respond, reduceCtorEq] at h
  cases h
  rfl

/-- The tunnel is tracked, or one to the same instance is and the new one is closed. -/
theorem server_track {tunnel : TunnelId} {identity : PlaneTunnelIdentity} {x : Except GoError Unit}
    (h : server (.track tunnel identity) w x w') :
    (w.conn.tracker[identity.id]? = none ∧ x = .ok () ∧ w' = { w with
      returned := update w.returned tunnel true
      conn := { w.conn with
        tracker := w.conn.tracker.insert identity.id ⟨tunnel, identity⟩
        target := identity.numberOfInstances }
      maxTarget := max w.maxTarget identity.numberOfInstances
      goroutines := update w.goroutines tunnel (some ⟨identity, .serving⟩) }) ∨
    ((∃ mc, w.conn.tracker[identity.id]? = some mc) ∧ (∃ e, x = .error e) ∧ w' = { w with
      returned := update w.returned tunnel true
      closed := update w.closed tunnel true }) := by
  obtain ⟨ch, h⟩ := h
  cases ch <;> simp only [respond, reduceCtorEq] at h
  cases hmc : w.conn.tracker[identity.id]? with
  | none =>
      simp only [serveTrack, ConnState.track, hmc, World.withConn] at h
      cases h
      exact Or.inl ⟨rfl, rfl, rfl⟩
  | some mc =>
      simp only [serveTrack, ConnState.track, hmc] at h
      cases h
      exact Or.inr ⟨⟨mc, rfl⟩, ⟨_, rfl⟩, rfl⟩

theorem server_setTarget {identity : PlaneTunnelIdentity} {x : Unit}
    (h : server (.setTarget identity) w x w') : w' = { w with
      conn.target := identity.numberOfInstances
      maxTarget := max w.maxTarget identity.numberOfInstances } := by
  obtain ⟨ch, h⟩ := h
  cases ch <;> simp only [respond, reduceCtorEq] at h
  by_cases heq : identity.numberOfInstances = w.conn.target
  · simp only [World.withConn, ConnState.setTarget, heq, ne_eq, not_true, if_false] at h
    cases h
    rw [heq]
  · simp only [World.withConn, ConnState.setTarget, heq, ne_eq, not_false_eq_true, if_true] at h
    cases h
    rfl

end Server

/-! ## The agent -/

def agent (libs : Libs) :
    Machine sig (Except Fault Unit) World Choice Event where
  prog := (connectionManager libs).run
  respond := respond
  act := act
  enter := id
  leave := fun r w =>
    match r with
    | .ok _ => w
    | .error _ => { w with stopped := true }

/-- The agent as `New` makes it. -/
def initial : State sig (Except Fault Unit) World := ⟨{}, none⟩

/-- The last phase of a round. -/
def Ends : Except Fault Unit → Phase → Prop
  | .ok _, q => q = .done
  | .error _, q => q = .stopped

theorem agent_follows (libs : Libs) :
    (agent libs).toSystem.prog.Follows flow Ends .head :=
  (connectionManager_follows libs).mono fun a q h => by cases a <;> exact h

/-! ## Servers to try things on -/

/-- A payload that consists of the number of the instance and the number of instances. -/
def sampleUnmarshal : Bytes → Except GoError PlaneTunnelIdentity
  | [i, n] => .ok ⟨toString i.toNat, n.toNat⟩
  | _ => .error (errorf "unexpected end of JSON input")

/-- After the failure of an attempt: the end, or a wait and what comes then. -/
def retryAfter (e : Fault) (rest : Go Unit) : Nat → Go Unit
  | 0 => Go.ofResult (.error e)
  | _ + 1 => do
      match ← call .retryDelay with
      | some e => Go.fail e
      | none => rest

def retryFrom (f : Go Unit) : Nat → Go Unit
  | 0 => Go.fail (errorf "no attempts")
  | n + 1 => do
      match ← Go.attempt f with
      | .ok _ => return ()
      | .error e => retryAfter e (retryFrom f n) n

theorem retries_retryFrom (f : Go Unit) (n : Nat) : Retries f n (retryFrom f n) := by
  induction n with
  | zero => exact .exhausted _
  | succ n ih =>
      refine .attempt (fun _ => rfl) fun e => ?_
      cases n with
      | zero => exact .exhausted e
      | succ n => exact .delay (fun _ => rfl) ih

/-- A context that is looked at before the first attempt, and waits after the others. -/
def sampleLibs : Libs where
  unmarshal := sampleUnmarshal
  retryDo := fun f attempts => do
    match ← call .ctxErr with
    | some e => Go.fail e
    | none => retryFrom f attempts
  retries := fun f attempts _ => .context (fun _ => rfl) (retries_retryFrom f attempts)

/-- The answers in an attempt to connect, from a server that reports this identity. -/
def attempt (i n : UInt8) : List (Machine.Act Choice Event) :=
  [.call .serve, .call .serve, .call .serve, .call (.payload [i, n]), .call .serve, .call .serve]

/-- A round that opens a tunnel at the first attempt. -/
def connectRound (i n : UInt8) : List (Machine.Act Choice Event) :=
  [.enter, .call .serve, .call .serve] ++ attempt i n ++ [.call .serve, .leave]

end Heir.Tunnel.Agent
