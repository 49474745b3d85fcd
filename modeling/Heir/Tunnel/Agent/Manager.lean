import Heir.Api.Core
import Heir.Api.Go
import Heir.Lib.GoMap

set_option autoImplicit false

/-! # The connections of the plane tunnel agent

The agent of a node keeps a tunnel to every instance of the plane tunnel server. All instances are
dialled at one address, so the agent learns from the identity that an instance reports which one it
has reached, and how many there are. `connectionManager` opens tunnels until it has as many as there
are instances; each tunnel is served by a goroutine of its own, which removes the tunnel from the
tracker when it is lost.

The functions of the manager are programs over the calls listed below. A critical section of the
source is one call, whose effect on the shared state is a function of its own (`ConnState.sample`,
`ConnState.track`, …). Log lines are left out, except for the one that says that an identity was
received.
-/

namespace Heir.Tunnel.Agent

open Heir.Core Interact

/-! ## The shared state -/

structure PlaneTunnelIdentity where
  id : String
  numberOfInstances : Int
  deriving DecidableEq, Repr

/-- A tunnel, by the order in which they were opened. -/
abbrev TunnelId : Type := Nat

structure ManagedConn where
  tunnel : TunnelId
  identity : PlaneTunnelIdentity
  deriving DecidableEq, Repr

structure ConnState where
  tracker : GoMap ManagedConn := ∅
  /-- The messages in the channel, the oldest one first. -/
  disconnected : List String := []
  target : Int := 1

/-- The capacity of the channel `disconnected`. -/
def disconnectedCapacity : Nat := 16

namespace ConnState

variable (conn : ConnState)

/-- `len(a.conn.tracker)` and `a.conn.target`. -/
def sample : Int × Int := (conn.tracker.size, conn.target)

/-- What `establishNewConnection` does with a new tunnel while it holds the lock. -/
def track (tunnel : TunnelId) (identity : PlaneTunnelIdentity) : Except GoError ConnState :=
  match conn.tracker[identity.id]? with
  | some _ => .error (errorf ("already connected to plane tunnel instance " ++ identity.id))
  | none => .ok { conn with
      tracker := conn.tracker.insert identity.id ⟨tunnel, identity⟩
      target := identity.numberOfInstances }

/-- What a serving goroutine does while it holds the lock. -/
def untrack (identity : PlaneTunnelIdentity) : ConnState :=
  { conn with tracker := conn.tracker.erase identity.id }

/-- The send that is given up when the channel is full. -/
def notify (identity : PlaneTunnelIdentity) : ConnState :=
  if conn.disconnected.length < disconnectedCapacity then
    { conn with disconnected := conn.disconnected ++ [identity.id] }
  else conn

/-- What `refreshTarget` does with an identity while it holds the lock. -/
def setTarget (identity : PlaneTunnelIdentity) : ConnState :=
  if identity.numberOfInstances ≠ conn.target then
    { conn with target := identity.numberOfInstances }
  else conn

end ConnState

/-! ## Calls -/

/-- What the manager waits for when it has enough tunnels. -/
inductive Wake where
  | done (e : GoError)
  | disconnected (id : String)
  | refresh

inductive Call where
  | sample
  | select
  | ctxErr
  /-- The wait between two attempts, which the context cuts short. -/
  | retryDelay
  | dial
  /-- `outbound.Client` and `outbound.NewTunnel`. -/
  | client
  | closeConn
  | closeTunnel (tunnel : TunnelId)
  | dialUpstream (tunnel : TunnelId) (upstream : Nat)
  | readAll (tunnel : TunnelId)
  /-- The log line "plane tunnel identity received". -/
  | received (identity : PlaneTunnelIdentity)
  | track (tunnel : TunnelId) (identity : PlaneTunnelIdentity)
  | conns
  | randIntN (n : Nat)
  | setTarget (identity : PlaneTunnelIdentity)

abbrev Call.Answer : Call → Type
  | .sample => Int × Int
  | .select => Wake
  | .ctxErr => Option GoError
  | .retryDelay => Option GoError
  | .dial => Except GoError Unit
  | .client => Except GoError TunnelId
  | .closeConn => Unit
  | .closeTunnel _ => Unit
  | .dialUpstream _ _ => Except GoError Unit
  | .readAll _ => Except GoError Bytes
  | .received _ => Unit
  | .track _ _ => Except GoError Unit
  | .conns => List ManagedConn
  | .randIntN n => Fin n
  | .setTarget _ => Unit

abbrev sig : Sig := ⟨Call, Call.Answer⟩

abbrev Go (α : Type) : Type := GoProg sig α

/-- Make a call. -/
def call (c : Call) : Go c.Answer := ExceptT.lift (Prog.perform (S := sig) c)

/-! ## Libraries -/

/-- What the documentation of `retry.Do` says of a call with a context and `n` attempts. -/
inductive Retries (f : Go Unit) : Nat → Go Unit → Prop where
  /-- There is no attempt left. -/
  | exhausted (e : Fault) : Retries f 0 (Go.ofResult (.error e))
  /-- An attempt. If it returns nil, then that is the end. -/
  | attempt {n : Nat} {next : Except Fault Unit → Go Unit} (hok : ∀ u, next (.ok u) = pure ())
      (herror : ∀ e, Retries f n (next (.error e))) : Retries f (n + 1) (Go.attempt f >>= next)
  /-- Before an attempt the context may be looked at. If it is done, then that is the end. -/
  | context {n : Nat} {next : Option GoError → Go Unit} (hdone : ∀ e, next (some e) = Go.fail e)
      (hnone : Retries f n (next none)) : Retries f n (call .ctxErr >>= next)
  /-- The wait before an attempt. -/
  | delay {n : Nat} {next : Option GoError → Go Unit} (hdone : ∀ e, next (some e) = Go.fail e)
      (hnone : Retries f n (next none)) : Retries f n (call .retryDelay >>= next)

structure Libs where
  /-- `json.Unmarshal`. -/
  unmarshal : Bytes → Except GoError PlaneTunnelIdentity
  /-- `retry.Do` with the option `retry.Attempts`. -/
  retryDo : (f : Go Unit) → (attempts : Nat) → Go Unit
  retries : ∀ f attempts, 0 < attempts → Retries f attempts (retryDo f attempts)

/-! ## The functions -/

def identityUpstreamID : Nat := 0

section

variable (libs : Libs)

def fetchIdentity (tunnel : TunnelId) : Go PlaneTunnelIdentity := do
  match ← call (.dialUpstream tunnel identityUpstreamID) with
  | .error e => Go.fail (e.wrap "failed to dial identity upstream")
  | .ok _ =>
      match ← call (.readAll tunnel) with
      | .error e => Go.fail (e.wrap "failed to read identity response")
      | .ok b =>
          match libs.unmarshal b with
          | .error e => Go.fail (e.wrap "failed to unmarshal identity")
          | .ok identity =>
              let _ ← call (.received identity)
              return identity

def connect : Go (TunnelId × PlaneTunnelIdentity) := do
  match ← call .dial with
  | .error e => Go.fail (e.wrap "failed to dial tunnel server")
  | .ok _ =>
      match ← call .client with
      | .error e =>
          let _ ← call .closeConn
          Go.fail (e.wrap "failed to create outbound session")
      | .ok tunnel =>
          match ← Go.attempt (fetchIdentity libs tunnel) with
          | .error e =>
              let _ ← call (.closeTunnel tunnel)
              Go.ofResult (.error e)
          | .ok identity => return (tunnel, identity)

/-- One attempt of `establishNewConnection`. -/
def attemptConnection : Go Unit := do
  let (tunnel, identity) ← connect libs
  Go.ofExcept (← call (.track tunnel identity))

def establishNewConnection : Go Unit := libs.retryDo (attemptConnection libs) 4

/-- `refreshTarget`: an error is only logged. -/
def refreshTarget : Go Unit := do
  let conns ← call .conns
  if conns.length = 0 then return ()
  else
    let mc := conns.get (← call (.randIntN conns.length))
    match ← Go.attempt (fetchIdentity libs mc.tunnel) with
    | .error _ => return ()
    | .ok identity =>
        let _ ← call (.setTarget identity)
        return ()

/-- One round of the loop of `connectionManager`. It ends with an error when the function returns. -/
def connectionManager : Go Unit := do
  let (current, target) ← call .sample
  if current ≥ target then
    match ← call .select with
    | .done e => Go.fail e
    | .disconnected _ => return ()
    | .refresh => refreshTarget libs
  else
    match ← Go.attempt (establishNewConnection libs) with
    | .error _ =>
        match ← call .ctxErr with
        | some e => Go.fail e
        | none => return ()
    | .ok _ =>
        -- only for a log line
        let _ ← call .sample
        return ()

end

end Heir.Tunnel.Agent
