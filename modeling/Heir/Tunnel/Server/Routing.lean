import Heir.Lib.GoString
import Heir.Tunnel.Server.Registry

set_option autoImplicit false

/-! # From the certificate of a node to the stream of a request

Two listeners share the broker. The one for nodes (`pkg/tunnel/server/tunnel.go`) files a connection
under the name in its client certificate. The one for the API server
(`pkg/tunnel/server/egress_selector`) takes the name from the target of a CONNECT request and opens
a stream on a tunnel filed under it.

`routing_isolated` follows a stream back through both: it runs on a connection whose certificate
carries the name the request asked for.
-/

namespace Heir.TunnelServer

/-! ## The listener for nodes -/

structure Certificate where
  commonName : String
  deriving DecidableEq

/-- An accepted connection: whether it is a TLS connection, whether its handshake succeeds and, if
so, the verified certificates of the client. -/
structure NetConn where
  isTLS : Bool := true
  handshake : Bool := true
  peerCertificates : List Certificate
  deriving DecidableEq

/-- Why a connection is closed. -/
inductive Drop where
  | notTLS
  | handshake
  | noCertificate
  | nodeName (err : String)
  deriving DecidableEq

def systemNode : String := "system:node:"

def extractNodeName (cn : String) : Except String String :=
  if !GoString.startsWith cn systemNode then
    .error "common name on client certificate does not match expected system:node:<node-name> format"
  else
    let nodeName := GoString.trimStart cn systemNode
    if nodeName = "" then .error "node name is empty" else .ok nodeName

/-- `handle` up to its call of `Register`, with the name it passes. -/
def handle (conn : NetConn) : Except Drop String :=
  if !conn.isTLS then .error .notTLS
  else if !conn.handshake then .error .handshake
  else
    match conn.peerCertificates with
    | [] => .error .noCertificate
    | cert :: _ =>
        match extractNodeName cert.commonName with
        | .error err => .error (.nodeName err)
        | .ok nodeName => .ok nodeName

theorem extractNodeName_eq_ok (cn nodeName : String) :
    extractNodeName cn = .ok nodeName ↔ cn = systemNode ++ nodeName ∧ nodeName ≠ "" := by
  unfold extractNodeName
  by_cases hstart : GoString.startsWith cn systemNode = true
  · obtain ⟨r, rfl⟩ := (GoString.startsWith_iff _ _).mp hstart
    simp only [hstart, Bool.not_true, Bool.false_eq_true, if_false, GoString.trimStart_append,
      String.append_right_inj]
    split
    · next hr => simp [hr]
    · next hr =>
        simp only [Except.ok.injEq]
        exact ⟨fun h => ⟨h, h ▸ hr⟩, fun h => h.1⟩
  · have hne : cn ≠ systemNode ++ nodeName := fun h =>
      hstart ((GoString.startsWith_iff _ _).mpr ⟨nodeName, h⟩)
    simp [hstart, hne]

/-- The connection is verified and its certificate names the node. -/
def Names (conn : NetConn) (nodeName : String) : Prop :=
  conn.isTLS = true ∧ conn.handshake = true ∧
    conn.peerCertificates.head?.map Certificate.commonName = some (systemNode ++ nodeName) ∧
    nodeName ≠ ""

theorem Names.unique {conn : NetConn} {n m : String} (hn : Names conn n) (hm : Names conn m) :
    n = m := by
  have heq := hn.2.2.1.symm.trans hm.2.2.1
  rwa [Option.some.injEq, String.append_right_inj] at heq

theorem handle_eq_ok (conn : NetConn) (nodeName : String) :
    handle conn = .ok nodeName ↔ Names conn nodeName := by
  unfold handle Names
  cases conn.isTLS with
  | false => simp
  | true =>
      cases conn.handshake with
      | false => simp
      | true =>
          cases conn.peerCertificates with
          | nil => simp
          | cons cert rest =>
              simp only [Bool.not_true, Bool.false_eq_true, if_false, true_and, List.head?_cons,
                Option.map_some, Option.some.injEq]
              rw [← extractNodeName_eq_ok]
              cases extractNodeName cert.commonName with
              | error err => simp
              | ok n => simp

end Heir.TunnelServer

namespace Heir.EgressSelector

open Heir.TunnelServer

/-! ## The listener for the API server -/

/-- A request and what becomes of the attempt to take over its connection. -/
structure Request where
  method : String := "CONNECT"
  host : String
  hijacker : Bool := true
  hijack : Bool := true
  deriving DecidableEq

/-- The answers other than the established connection. -/
inductive Response where
  | methodNotAllowed
  | hijackingNotSupported
  | hijackFailed
  | badGateway
  deriving DecidableEq

/-- The node a request is for: the host of the target, or all of it if it cannot be split. -/
def hostPart (host : String) : String :=
  match GoString.splitHostPort host with
  | .ok (nodeName, _) => nodeName
  | .error _ => host

/-- `handle` up to its call of `Dial`, with the name it passes. -/
def handle (r : Request) : Except Response String :=
  if r.method ≠ "CONNECT" then .error .methodNotAllowed
  else if !r.hijacker then .error .hijackingNotSupported
  else if !r.hijack then .error .hijackFailed
  else .ok (hostPart r.host)

theorem eq_hostPart_of_handle {r : Request} {nodeName : String} (h : handle r = .ok nodeName) :
    nodeName = hostPart r.host := by
  unfold handle at h
  split at h
  · cases h
  · split at h
    · cases h
    · split at h
      · cases h
      · cases h
        rfl

/-! ## Both listeners over one broker -/

structure World where
  registry : State NetConn := {}
  /-- The requests for which `Pick` has returned a tunnel and whose stream is being opened. -/
  dialing : List (Request × Tunnel NetConn) := []
  /-- The open streams. -/
  streams : List (Request × Tunnel NetConn) := []
  /-- The answers given. -/
  responses : List (Request × Response) := []

inductive Action where
  /-- A node connects and `handle` of the tunnel server comes to `Register`, if at all. -/
  | accept (conn : NetConn) (id : String) (sessionFails : Bool)
  /-- Any step of the broker that is not the start of `Register` or a call of `Pick`. -/
  | broker (e : Event NetConn)
  /-- A request arrives and `Dial` picks a tunnel. -/
  | request (r : Request) (dies : Nat → String → Bool)
  /-- The tunnel's own `Dial` returns. -/
  | dialed (r : Request) (t : Tunnel NetConn) (ok : Bool)

/-- The steps of the broker that the listeners do not take themselves. -/
def internal : Event NetConn → Bool
  | .start _ _ _ _ => false
  | .pick _ _ => false
  | _ => true

def World.respond (w : World) (r : Request) (a : Response) : World :=
  { w with responses := (r, a) :: w.responses }

def World.step (w : World) : Action → Option World
  | .accept conn id sessionFails =>
      match TunnelServer.handle conn with
      | .error _ => some w
      | .ok nodeName =>
          (w.registry.step (.start nodeName conn id sessionFails)).map
            fun s => { w with registry := s }
  | .broker e =>
      if internal e then (w.registry.step e).map fun s => { w with registry := s } else none
  | .request r dies =>
      match handle r with
      | .error a => some (w.respond r a)
      | .ok nodeName =>
          (w.registry.step (.pick nodeName dies)).map fun s =>
            match (w.registry.broker.pick (w.registry.isClosed dies) nodeName).1 with
            | none => { w with registry := s }.respond r .badGateway
            | some t => { w with registry := s, dialing := (r, t) :: w.dialing }
  | .dialed r t ok =>
      if (r, t) ∈ w.dialing then
        let w := { w with dialing := w.dialing.erase (r, t) }
        some (if ok then { w with streams := (r, t) :: w.streams } else w.respond r .badGateway)
      else none

def routing : Automaton World Action where
  init := {}
  step := World.step

/-! ## Following a stream back -/

/-- The step of the broker that an action takes. -/
def Action.event : Action → Option (Event NetConn)
  | .accept conn id sessionFails =>
      match TunnelServer.handle conn with
      | .error _ => none
      | .ok nodeName => some (.start nodeName conn id sessionFails)
  | .broker e => if internal e then some e else none
  | .request r dies =>
      match handle r with
      | .error _ => none
      | .ok nodeName => some (.pick nodeName dies)
  | .dialed _ _ _ => none

/-- What an action can do to the requests. -/
inductive Progress (w w' : World) : Action → Prop where
  | quiet (a : Action) (hdialing : w'.dialing = w.dialing) (hstreams : w'.streams = w.streams) :
      Progress w w' a
  | picked (r : Request) (dies : Nat → String → Bool) (t : Tunnel NetConn)
      (hmem : t ∈ w.registry.broker.listed (hostPart r.host))
      (hdialing : w'.dialing = (r, t) :: w.dialing) (hstreams : w'.streams = w.streams) :
      Progress w w' (.request r dies)
  | opened (r : Request) (t : Tunnel NetConn) (ok : Bool) (hmem : (r, t) ∈ w.dialing)
      (hdialing : w'.dialing = w.dialing.erase (r, t))
      (hstreams : w'.streams = w.streams ∨ w'.streams = (r, t) :: w.streams) :
      Progress w w' (.dialed r t ok)

variable {a : Action} {h : List Action} {n : String} {w : World}

theorem step_progress {w' : World} (h : w.step a = some w') : Progress w w' a := by
  cases a with
  | accept conn id sessionFails =>
      simp only [World.step] at h
      split at h
      · cases h
        exact .quiet _ rfl rfl
      · obtain ⟨s, -, rfl⟩ := Option.map_eq_some_iff.mp h
        exact .quiet _ rfl rfl
  | broker e =>
      simp only [World.step, Option.ite_none_right_eq_some] at h
      obtain ⟨s, -, rfl⟩ := Option.map_eq_some_iff.mp h.2
      exact .quiet _ rfl rfl
  | request r dies =>
      simp only [World.step] at h
      split at h
      · cases h
        exact .quiet _ rfl rfl
      · next nodeName hname =>
          obtain rfl := eq_hostPart_of_handle hname
          obtain ⟨s, -, hw⟩ := Option.map_eq_some_iff.mp h
          split at hw
          · subst hw
            exact .quiet _ rfl rfl
          · next t ht =>
              subst hw
              exact .picked r dies t (Broker.pick_mem ht).1 rfl rfl
  | dialed r t ok =>
      simp only [World.step, Option.ite_none_right_eq_some] at h
      obtain ⟨hmem, h⟩ := h
      cases h
      cases ok with
      | true => exact .opened r t true hmem rfl (Or.inr rfl)
      | false => exact .opened r t false hmem rfl (Or.inl rfl)

theorem step_registry {w' : World} (h : w.step a = some w') :
    match a.event with
    | none => w'.registry = w.registry
    | some e => w.registry.step e = some w'.registry := by
  cases a with
  | accept conn id sessionFails =>
      simp only [World.step] at h
      simp only [Action.event]
      split at h
      · cases h
        rfl
      · obtain ⟨s, hs, rfl⟩ := Option.map_eq_some_iff.mp h
        exact hs
  | broker e =>
      simp only [World.step, Option.ite_none_right_eq_some] at h
      obtain ⟨s, hs, rfl⟩ := Option.map_eq_some_iff.mp h.2
      simp only [Action.event, h.1, if_true]
      exact hs
  | request r dies =>
      cases hname : handle r with
      | error a =>
          simp only [World.step, hname] at h
          cases h
          simp only [Action.event, hname]
          rfl
      | ok n =>
          simp only [World.step, hname] at h
          obtain ⟨s, hs, rfl⟩ := Option.map_eq_some_iff.mp h
          simp only [Action.event, hname]
          cases (w.registry.broker.pick (w.registry.isClosed dies) n).1 with
          | none => exact hs
          | some t => exact hs
  | dialed r t ok =>
      simp only [World.step, Option.ite_none_right_eq_some] at h
      obtain ⟨-, h⟩ := h
      cases h
      cases ok <;> rfl

theorem registry_of_trace (hrun : routing.Trace h w) :
    (registry NetConn).Trace (h.filterMap Action.event) w.registry := by
  refine hrun.project World.registry Action.event rfl (fun {w a w'} ha hnone => ?_)
    (fun {w a w' e} ha hsome => ?_)
  · have hstep := step_registry ha
    rw [hnone] at hstep
    exact hstep
  · have hstep := step_registry ha
    rw [hsome] at hstep
    exact hstep

theorem event_eq_start {id : String} {conn : NetConn} {fails : Bool}
    (h : a.event = some (.start n conn id fails)) :
    a = .accept conn id fails ∧ TunnelServer.handle conn = .ok n := by
  cases a with
  | accept conn' id' fails' =>
      simp only [Action.event] at h
      split at h
      · cases h
      · next hname =>
          cases h
          exact ⟨rfl, hname⟩
  | broker e =>
      simp only [Action.event, Option.ite_none_right_eq_some, Option.some.injEq] at h
      obtain ⟨hinternal, rfl⟩ := h
      cases hinternal
  | request r dies =>
      simp only [Action.event] at h
      split at h <;> cases h
  | dialed r t ok => cases h

theorem event_eq_register {t : Tunnel NetConn} (h : a.event = some (.register n t)) :
    a = .broker (.register n t) := by
  cases a with
  | accept conn id fails =>
      simp only [Action.event] at h
      split at h <;> cases h
  | broker e =>
      simp only [Action.event, Option.ite_none_right_eq_some, Option.some.injEq] at h
      rw [h.2]
  | request r dies =>
      simp only [Action.event] at h
      split at h <;> cases h
  | dialed r t ok => cases h

/-- In the history `h` the tunnel was registered for the node by a connection of that node. -/
structure RegisteredBy (h : List Action) (t : Tunnel NetConn) (nodeName : String) : Prop where
  accepted : .accept t.cnn t.id false ∈ h
  registered : .broker (.register nodeName t) ∈ h
  names : Names t.cnn nodeName

theorem RegisteredBy.snoc {t : Tunnel NetConn} (hreg : RegisteredBy h t n) (a : Action) :
    RegisteredBy (h ++ [a]) t n where
  accepted := List.mem_append_left _ hreg.accepted
  registered := List.mem_append_left _ hreg.registered
  names := hreg.names

theorem registeredBy_of_listed (hrun : routing.Trace h w) {t : Tunnel NetConn}
    (ht : t ∈ w.registry.broker.listed n) : RegisteredBy h t n := by
  have hregistry := registry_of_trace hrun
  have hstarted := started_of_trace hregistry n t (Or.inl ht)
  have hregistered := ((listed_of_trace hregistry n t).mp ht).mem
  obtain ⟨a, ha, hstart⟩ := List.mem_filterMap.mp hstarted
  obtain ⟨b, hb, hregister⟩ := List.mem_filterMap.mp hregistered
  obtain ⟨rfl, hname⟩ := event_eq_start hstart
  obtain rfl := event_eq_register hregister
  exact ⟨ha, hb, (handle_eq_ok _ _).mp hname⟩

/-- Whatever is dialed or open for a request belongs to the node the request is for. -/
theorem registeredBy_of_trace (hrun : routing.Trace h w) :
    ∀ r t, (r, t) ∈ w.dialing ∨ (r, t) ∈ w.streams → RegisteredBy h t (hostPart r.host) := by
  refine hrun.invariant
    (fun h w => ∀ r t, (r, t) ∈ w.dialing ∨ (r, t) ∈ w.streams → RegisteredBy h t (hostPart r.host))
    (fun r t ht => ?_) fun {h w a w'} hrun hw ha r t ht => ?_
  · rcases ht with ht | ht <;> cases ht
  · cases step_progress ha with
    | quiet _ hdialing hstreams =>
        rw [hdialing, hstreams] at ht
        exact (hw r t ht).snoc a
    | picked r' dies t' hmem hdialing hstreams =>
        rw [hdialing, hstreams, List.mem_cons, Prod.mk.injEq, or_assoc] at ht
        rcases ht with ⟨rfl, rfl⟩ | ht
        · exact (registeredBy_of_listed hrun hmem).snoc _
        · exact (hw r t ht).snoc _
    | opened r' t' ok hmem hdialing hstreams =>
        rw [hdialing] at ht
        rcases ht with ht | ht
        · exact (hw r t (Or.inl (List.mem_of_mem_erase ht))).snoc _
        · rcases hstreams with hstreams | hstreams
          · exact (hw r t (Or.inr (hstreams ▸ ht))).snoc _
          · rw [hstreams, List.mem_cons, Prod.mk.injEq] at ht
            rcases ht with ⟨rfl, rfl⟩ | ht
            · exact (hw r t (Or.inl hmem)).snoc _
            · exact (hw r t (Or.inr ht)).snoc _

/-- **Routing is isolated.** A stream that is open for a request runs on a tunnel that was registered
by a connection with a verified certificate for `system:node:` and the host part of the target,
which is not empty. So a node with another name never gets to see it. -/
theorem routing_isolated {h : List Action} {w : World} (hrun : routing.Trace h w) {r : Request}
    {t : Tunnel NetConn} (hopen : (r, t) ∈ w.streams) :
    RegisteredBy h t (hostPart r.host) ∧
      ∀ nodeName, Names t.cnn nodeName → nodeName = hostPart r.host := by
  have hreg := registeredBy_of_trace hrun r t (Or.inr hopen)
  exact ⟨hreg, fun _ hname => hname.unique hreg.names⟩

/-- The connection of the node `name`. -/
def nodeConn (name : String) : NetConn := { peerCertificates := [⟨systemNode ++ name⟩] }

/-- Two nodes connect and a request for one of them is served. -/
def twoNodes : List Action :=
  [.accept (nodeConn "a") "id-A" false, .accept (nodeConn "b") "id-B" false,
    .broker (.register "a" ⟨"id-A", nodeConn "a"⟩), .broker (.register "b" ⟨"id-B", nodeConn "b"⟩),
    .request { host := "b:10250" } (fun _ _ => false),
    .dialed { host := "b:10250" } ⟨"id-B", nodeConn "b"⟩ true]

theorem two_nodes_isolated : ∃ w, routing.Trace twoNodes w ∧
    ({ host := "b:10250" }, ⟨"id-B", nodeConn "b"⟩) ∈ w.streams ∧
    RegisteredBy twoNodes ⟨"id-B", nodeConn "b"⟩ (hostPart "b:10250") := by
  obtain ⟨w, hrun, hopen⟩ := routing.exists_trace twoNodes
    (fun w => ({ host := "b:10250" }, ⟨"id-B", nodeConn "b"⟩) ∈ w.streams) (by decide +kernel)
  exact ⟨w, hrun, hopen, (routing_isolated hrun hopen).1⟩

end Heir.EgressSelector
