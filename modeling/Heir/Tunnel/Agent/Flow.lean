import Heir.Tunnel.Agent.Manager

set_option autoImplicit false

/-! # The control flow of the connection manager

A round of `connectionManager` as a transition system: the phases say what the manager has seen, and
which tunnel it holds. `connectionManager_follows` says that the program makes no other calls.
-/

namespace Heir.Tunnel.Agent

open Heir.Core Interact

/-- What an identity is fetched for. -/
inductive Use where
  | refresh
  | attempt (tunnel : TunnelId)

inductive Phase where
  | head
  | sampled (current target : Int)
  -- waiting
  | idle
  | woken
  | picking (conns : List ManagedConn)
  -- fetching an identity
  | fetching (u : Use)
  | reading (u : Use)
  | read (u : Use) (identity : PlaneTunnelIdentity)
  | fetched (u : Use) (identity : PlaneTunnelIdentity)
  | unfetched (u : Use)
  -- connecting
  | trying
  | dialed
  | refused
  | missed
  | lacking
  | established
  | done
  | stopped

/-- The calls of a round. -/
inductive Move : Phase → (op : Call) → op.Answer → Phase → Prop where
  | sample (x : Int × Int) : Move .head .sample x (.sampled x.1 x.2)
  -- waiting
  | cancelled (e : GoError) : Move .idle .select (.done e) .stopped
  | disconnected (id : String) : Move .idle .select (.disconnected id) .done
  | refresh : Move .idle .select .refresh .woken
  | conns (conns : List ManagedConn) : Move .woken .conns conns (.picking conns)
  | pick (conns : List ManagedConn) (i : Fin conns.length) :
      Move (.picking conns) (.randIntN conns.length) i (.fetching .refresh)
  -- fetching an identity
  | dialUpstream (u : Use) (tunnel : TunnelId) :
      Move (.fetching u) (.dialUpstream tunnel identityUpstreamID) (.ok ()) (.reading u)
  | dialUpstreamFailed (u : Use) (tunnel : TunnelId) (e : GoError) :
      Move (.fetching u) (.dialUpstream tunnel identityUpstreamID) (.error e) (.unfetched u)
  | readAll (u : Use) (tunnel : TunnelId) (b : Bytes) (identity : PlaneTunnelIdentity) :
      Move (.reading u) (.readAll tunnel) (.ok b) (.read u identity)
  | readAllFailed (u : Use) (tunnel : TunnelId) (x : Except GoError Bytes) :
      Move (.reading u) (.readAll tunnel) x (.unfetched u)
  | received (u : Use) (identity : PlaneTunnelIdentity) (x : Unit) :
      Move (.read u identity) (.received identity) x (.fetched u identity)
  | setTarget (identity : PlaneTunnelIdentity) (x : Unit) :
      Move (.fetched .refresh identity) (.setTarget identity) x .done
  -- connecting
  | context (x : Option GoError) : Move .missed .ctxErr x .missed
  | delay (x : Option GoError) : Move .missed .retryDelay x .missed
  | dial : Move .trying .dial (.ok ()) .dialed
  | dialFailed (e : GoError) : Move .trying .dial (.error e) .missed
  | client (tunnel : TunnelId) : Move .dialed .client (.ok tunnel) (.fetching (.attempt tunnel))
  | clientFailed (e : GoError) : Move .dialed .client (.error e) .refused
  | closeConn (x : Unit) : Move .refused .closeConn x .missed
  | closeTunnel (tunnel : TunnelId) (x : Unit) :
      Move (.unfetched (.attempt tunnel)) (.closeTunnel tunnel) x .missed
  | track (tunnel : TunnelId) (identity : PlaneTunnelIdentity) :
      Move (.fetched (.attempt tunnel) identity) (.track tunnel identity) (.ok ()) .established
  | drop (tunnel : TunnelId) (identity : PlaneTunnelIdentity) (e : GoError) :
      Move (.fetched (.attempt tunnel) identity) (.track tunnel identity) (.error e) .missed
  | resume : Move .lacking .ctxErr none .done
  | resumeCancelled (e : GoError) : Move .lacking .ctxErr (some e) .stopped
  | report (x : Int × Int) : Move .established .sample x .done

/-- The decisions between two calls. -/
inductive Skip : Phase → Phase → Prop where
  | enough {current target : Int} : target ≤ current → Skip (.sampled current target) .idle
  | lack {current target : Int} : current < target → Skip (.sampled current target) .missed
  | empty : Skip (.picking []) .done
  | unrefreshed : Skip (.unfetched .refresh) .done
  | attempt : Skip .missed .trying
  | giveUp : Skip .missed .lacking

def flow : Flow sig Phase := ⟨Move, Skip⟩

/-! ## The program follows the flow -/

/-- From the phase `ph` on, the function follows the flow; its results satisfy `B`, and it fails in
the phase `e`. -/
abbrev Along {α : Type} (e : Phase) (p : Go α) (B : α → Phase → Prop) (ph : Phase) : Prop :=
  FollowsTo flow e p B ph

section

variable (libs : Libs)

theorem fetchIdentity_along (u : Use) (tunnel : TunnelId) :
    Along (.unfetched u) (fetchIdentity libs tunnel)
      (fun identity q => q = .fetched u identity) (.fetching u) := by
  refine FollowsTo.call_bind fun x => ?_
  cases x with
  | error e => exact ⟨_, .dialUpstreamFailed u tunnel e, FollowsTo.fail rfl⟩
  | ok _ =>
      refine ⟨_, .dialUpstream u tunnel, FollowsTo.call_bind fun y => ?_⟩
      cases y with
      | error e => exact ⟨_, .readAllFailed u tunnel _, FollowsTo.fail rfl⟩
      | ok b =>
          dsimp only
          cases libs.unmarshal b with
          | error e => exact ⟨_, .readAllFailed u tunnel _, FollowsTo.fail rfl⟩
          | ok identity =>
              refine ⟨_, .readAll u tunnel b identity, FollowsTo.call_bind fun z => ?_⟩
              exact ⟨_, .received u identity z, FollowsTo.ret rfl⟩

theorem connect_along :
    Along .missed (connect libs)
      (fun r q => q = .fetched (.attempt r.1) r.2) .trying := by
  refine FollowsTo.call_bind fun x => ?_
  cases x with
  | error e => exact ⟨_, .dialFailed e, FollowsTo.fail rfl⟩
  | ok _ =>
      refine ⟨_, .dial, FollowsTo.call_bind fun y => ?_⟩
      cases y with
      | error e =>
          refine ⟨_, .clientFailed e, FollowsTo.call_bind fun z => ?_⟩
          exact ⟨_, .closeConn z, FollowsTo.fail rfl⟩
      | ok tunnel =>
          refine ⟨_, .client tunnel, ?_⟩
          refine FollowsTo.bind (fetchIdentity_along libs (.attempt tunnel) tunnel).lift_run
            fun r q hq => ?_
          cases r with
          | error e =>
              obtain rfl := hq
              refine FollowsTo.call_bind fun z => ?_
              exact ⟨_, .closeTunnel tunnel z, FollowsTo.fail rfl⟩
          | ok identity =>
              obtain rfl := hq
              exact FollowsTo.ret rfl

theorem attemptConnection_along :
    Along .missed (attemptConnection libs) (fun _ q => q = .established) .trying := by
  refine FollowsTo.bind (connect_along libs) fun r q hq => ?_
  subst hq
  refine FollowsTo.call_bind fun x => ?_
  cases x with
  | ok _ => exact ⟨_, .track r.1 r.2, FollowsTo.ret rfl⟩
  | error e => exact ⟨_, .drop r.1 r.2 e, FollowsTo.fail rfl⟩

/-- Each attempt starts from the same phase, so whoever retries follows the flow, however many
attempts there are. -/
theorem Retries.along {f p : Go Unit} {n : Nat} (h : Retries f n p)
    (hf : Along .missed f (fun _ q => q = .established) .trying) :
    Along .lacking p (fun _ q => q = .established) .missed := by
  have hgiveUp : ∀ e, Along .lacking (Go.fail e) (fun (_ : Unit) q => q = .established) .missed :=
    fun _ => FollowsTo.skip Skip.giveUp (FollowsTo.fail rfl)
  induction h with
  | exhausted e => exact FollowsTo.skip Skip.giveUp (FollowsTo.fail rfl)
  | attempt hok _ ih =>
      refine FollowsTo.skip Skip.attempt (FollowsTo.bind hf.lift_run fun r q hq => ?_)
      cases r with
      | ok u =>
          rw [hok]
          exact FollowsTo.ret hq
      | error e =>
          obtain rfl := hq
          exact ih e
  | context hdone _ ih =>
      refine FollowsTo.call_bind fun x => ⟨_, .context x, ?_⟩
      cases x with
      | none => exact ih
      | some e => exact hdone e ▸ hgiveUp e
  | delay hdone _ ih =>
      refine FollowsTo.call_bind fun x => ⟨_, .delay x, ?_⟩
      cases x with
      | none => exact ih
      | some e => exact hdone e ▸ hgiveUp e

theorem establishNewConnection_along :
    Along .lacking (establishNewConnection libs) (fun _ q => q = .established) .missed :=
  (libs.retries _ 4 (by decide)).along (attemptConnection_along libs)

theorem refreshTarget_along :
    Along .stopped (refreshTarget libs) (fun _ q => q = .done) .woken := by
  refine FollowsTo.call_bind fun conns => ⟨_, .conns conns, ?_⟩
  split
  · rename_i hlen
    obtain rfl := List.eq_nil_of_length_eq_zero hlen
    exact FollowsTo.skip Skip.empty (FollowsTo.ret rfl)
  · refine FollowsTo.call_bind fun i => ⟨_, .pick conns i, ?_⟩
    refine FollowsTo.bind (fetchIdentity_along libs .refresh _).lift_run fun r q hq => ?_
    cases r with
    | error e =>
        obtain rfl := hq
        exact FollowsTo.skip Skip.unrefreshed (FollowsTo.ret rfl)
    | ok identity =>
        obtain rfl := hq
        refine FollowsTo.call_bind fun x => ?_
        exact ⟨_, .setTarget identity x, FollowsTo.ret rfl⟩

/-- **A round of the connection manager follows the flow.** -/
theorem connectionManager_follows :
    Along .stopped (connectionManager libs) (fun _ q => q = .done) .head := by
  refine FollowsTo.call_bind fun x => ⟨_, .sample x, ?_⟩
  obtain ⟨current, target⟩ := x
  dsimp only
  split
  · rename_i henough
    refine FollowsTo.skip (Skip.enough henough) (FollowsTo.call_bind fun y => ?_)
    cases y with
    | done e => exact ⟨_, .cancelled e, FollowsTo.fail rfl⟩
    | disconnected id => exact ⟨_, .disconnected id, FollowsTo.ret rfl⟩
    | refresh => exact ⟨_, .refresh, refreshTarget_along libs⟩
  · rename_i hlack
    refine FollowsTo.skip (Skip.lack (not_le.mp hlack)) ?_
    refine FollowsTo.bind (establishNewConnection_along libs).lift_run fun r q hq => ?_
    cases r with
    | error e =>
        obtain rfl := hq
        refine FollowsTo.call_bind fun y => ?_
        cases y with
        | some e' => exact ⟨_, .resumeCancelled e', FollowsTo.fail rfl⟩
        | none => exact ⟨_, .resume, FollowsTo.ret rfl⟩
    | ok _ =>
        obtain rfl := hq
        exact FollowsTo.call_bind fun y => ⟨_, .report y, FollowsTo.ret rfl⟩

end

end Heir.Tunnel.Agent
