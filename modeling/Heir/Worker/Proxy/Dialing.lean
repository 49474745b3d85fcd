import Heir.Api.Meta
import Heir.Lib.GoString
import Heir.Lib.Interact
import Heir.Worker.Proxy.Links

set_option autoImplicit false

/-! # Connections through the proxy

A listener hands every connection it accepts to the function that `Downstream.Run` gives to the TCP
proxy. The function loads the link of the downstream, copies the endpoints of the upstream under the
lock of the upstream and dials them in order. Between these steps the manager goes on: the downstream
may be linked elsewhere, the upstream updated or removed.

A connection changes nothing that the manager or another connection sees. One connection at a time,
with the events of the manager in between, is therefore the general case.
-/

namespace Heir.Worker.Proxy

open Interact

def Endpoint.addr (e : Endpoint) : String := GoString.joinHostPort e.host (toString e.port)

/-- `Upstream.Update`. It takes the lock of the upstream, not that of the manager. -/
def State.update (s : State) (u : Nat) (endpoints : List Endpoint) : State :=
  { s with upstreamObjects := s.upstreamObjects.modify u ({ · with endpoints }) }

namespace Dialing

/-! ## The functions -/

inductive Call where
  /-- `d.upstream.Load()`. -/
  | loadUpstream (ds : Nat)
  /-- Reads an upstream under its lock. -/
  | copyEndpoints (u : Nat)
  /-- `dialer.DialContext`. A connection is the number of the dial that made it. -/
  | dial (addr : String)

abbrev Call.Answer : Call → Type
  | .loadUpstream _ => Option Nat
  | .copyEndpoints _ => Upstream
  | .dial _ => Except GoError Nat

abbrev sig : Sig := ⟨Call, Call.Answer⟩

section Functions

variable (isPrint : Char → Bool)

def noUpstream (downstreamName : String) : GoError :=
  errorf ("downstream " ++ GoString.quote isPrint downstreamName ++ ": no upstream linked")

def noEndpoints (upstreamName : String) : GoError :=
  errorf ("upstream " ++ GoString.quote isPrint upstreamName ++ ": no endpoints configured")

def exhausted (upstreamName : String) (lastErr : Option GoError) : GoError :=
  let context := "upstream " ++ GoString.quote isPrint upstreamName ++ ": all endpoints exhausted"
  match lastErr with
  | some err => err.wrap context
  | none => errorf (context ++ ": %!w(<nil>)")

/-- The loop of `Upstream.DialContext`. -/
def dialEach (name : String) : Option GoError → List Endpoint → Prog sig (Except GoError Nat)
  | lastErr, [] => .ret (.error (exhausted isPrint name lastErr))
  | _, ep :: eps => do
      match ← Prog.perform (S := sig) (.dial ep.addr) with
      | .ok conn => .ret (.ok conn)
      | .error err => dialEach name (some err) eps

def dialContext (u : Nat) : Prog sig (Except GoError Nat) := do
  let up ← Prog.perform (S := sig) (.copyEndpoints u)
  if up.endpoints.length = 0 then .ret (.error (noEndpoints isPrint up.name))
  else dialEach isPrint up.name none up.endpoints

/-- The function that `Downstream.Run` gives to the TCP proxy. -/
def dialUpstream (ds : Nat) (name : String) : Prog sig (Except GoError Nat) := do
  match ← Prog.perform (S := sig) (.loadUpstream ds) with
  | none => .ret (.error (noUpstream isPrint name))
  | some u => dialContext isPrint u

end Functions

/-! ## The manager around it -/

/-- One dial, and the error if there was one. -/
structure Dial where
  addr : String
  err : Option GoError := none
  deriving DecidableEq

structure World where
  manager : State := {}
  /-- The manager when the connection was accepted. -/
  accepted : State := {}
  /-- The dials for the connection. -/
  dials : List Dial := []

/-- What is done elsewhere. -/
inductive Act where
  | manager (e : Event)
  | update (u : Nat) (endpoints : List Endpoint)

/-- The choice is the error of a dial, if there is one. -/
def respond : (op : Call) → Option GoError → World → Option (op.Answer × World)
  | .loadUpstream ds, _, w => some (w.manager.loadUpstream ds, w)
  | .copyEndpoints u, _, w => (w.manager.upstreamObjects[u]?).map (·, w)
  | .dial addr, some err, w => some (.error err, { w with dials := w.dials ++ [⟨addr, some err⟩] })
  | .dial addr, none, w => some (.ok w.dials.length, { w with dials := w.dials ++ [⟨addr, none⟩] })

def act : Act → World → Option World
  | .manager e, w => (w.manager.step e).map fun m => { w with manager := m }
  | .update u endpoints, w => some { w with manager := w.manager.update u endpoints }

/-- The connections of a downstream, one after the other. -/
def machine (isPrint : Char → Bool) (ds : Nat) (name : String) :
    Machine sig (Except GoError Nat) World (Option GoError) Act where
  prog := dialUpstream isPrint ds name
  respond := respond
  act := act
  enter := fun w => { w with accepted := w.manager, dials := [] }
  leave := fun _ w => w

/-- A run of the downstream has its listener open. -/
def Listening (ds : Nat) (m : State) : Prop :=
  ∃ run ∈ m.runs, run.downstream = ds ∧ run.stage = .running

/-- A connection is accepted only while a listener is open. -/
def accepts (ds : Nat) (w : World) : Label sig (Except GoError Nat) World → Prop
  | .enter => Listening ds w.manager
  | _ => True

instance (ds : Nat) (m : State) : Decidable (Listening ds m) :=
  inferInstanceAs (Decidable (∃ run ∈ m.runs, run.downstream = ds ∧ run.stage = .running))

instance (ds : Nat) (w : World) (l : Label sig (Except GoError Nat) World) :
    Decidable (accepts ds w l) := by
  cases l <;> unfold accepts <;> infer_instance

/-! ## What a connection sees -/

/-- Something is done elsewhere. -/
def Changes (m m' : State) : Prop :=
  (∃ e, m.step e = some m') ∨ ∃ u endpoints, m' = m.update u endpoints

/-- The manager gets from one state to the other. -/
def Later : State → State → Prop := Relation.ReflTransGen Changes

/-- A connection accepted at `m₀` loads the link of its downstream at `m₁` and copies the endpoints at
`m₂`. -/
structure Route (ds : Nat) (m₀ m₁ m₂ : State) (u : Nat) (x : Upstream) : Prop where
  loaded : Later m₀ m₁
  copied : Later m₁ m₂
  link : m₁.loadUpstream ds = some u
  /-- As long as the downstream is registered, so is the upstream it leads to. -/
  registered : ∀ name : String, m₁.downstreams[name]? = some ds →
    ∃ uname : String, m₁.upstreams[uname]? = some u
  upstream : m₂.upstreamObjects[u]? = some x

/-- The endpoints were dialled, in this order, and none could be reached. -/
def Failed (eps : List Endpoint) (dials : List Dial) : Prop :=
  dials.map Dial.addr = eps.map Endpoint.addr ∧ ∀ d ∈ dials, d.err.isSome

/-- What the copy of an upstream leads to. The first endpoint that can be reached is taken; the ones
before it were tried and the ones after it were not. -/
def Settled (isPrint : Char → Bool) (x : Upstream) (dials : List Dial) : Except GoError Nat → Prop
  | .ok conn => ∃ before ep after failed, x.endpoints = before ++ ep :: after ∧ Failed before failed ∧
      dials = failed ++ [⟨ep.addr, none⟩] ∧ conn = failed.length
  | .error e =>
      x.endpoints = [] ∧ dials = [] ∧ e = noEndpoints isPrint x.name ∨
      x.endpoints ≠ [] ∧ Failed x.endpoints dials ∧
        e = exhausted isPrint x.name (dials.getLast?.bind Dial.err)

/-- What becomes of a connection. -/
def Outcome (isPrint : Char → Bool) (ds : Nat) (name : String) (w : World) (r : Except GoError Nat) :
    Prop :=
  (∃ m₁, Later w.accepted m₁ ∧ Later m₁ w.manager ∧ m₁.loadUpstream ds = none ∧ w.dials = [] ∧
    r = .error (noUpstream isPrint name)) ∨
  ∃ m₁ m₂ u x, Route ds w.accepted m₁ m₂ u x ∧ Later m₂ w.manager ∧ Settled isPrint x w.dials r

/-! ## The manager in the meantime -/

theorem changes_of_act {a : Act} {w w' : World} (h : act a w = some w') :
    Changes w.manager w'.manager ∧ w'.accepted = w.accepted ∧ w'.dials = w.dials := by
  cases a with
  | manager e =>
      obtain ⟨m, hm, rfl⟩ := Option.map_eq_some_iff.mp h
      exact ⟨.inl ⟨e, hm⟩, rfl, rfl⟩
  | update u endpoints =>
      cases h
      exact ⟨.inr ⟨u, endpoints, rfl⟩, rfl, rfl⟩

theorem linked_of_changes {m m' : State} (hm : m.Linked) (h : Changes m m') : m'.Linked := by
  rcases h with ⟨e, he⟩ | ⟨u, endpoints, rfl⟩
  · exact hm.step he
  · refine ⟨fun n u' hu' => ?_, hm.valid, hm.linked⟩
    exact (State.upstreamName_modify m u u' endpoints).trans (hm.named n u' hu')

/-! ## A connection -/

section Connection

variable {isPrint : Char → Bool} {ds : Nat} {name : String}

/-- What is done elsewhere keeps every assertion that is kept when the manager moves on. -/
theorem stable_of_changes {A : World → Prop}
    (h : ∀ w m, Changes w.manager m → A w → A { w with manager := m }) :
    (machine isPrint ds name).toSystem.Stable (accepts ds) A := by
  rintro w w' ⟨a, ha⟩ - hw
  obtain ⟨hchanges, haccepted, hdials⟩ := changes_of_act ha
  have hw' : w' = { w with manager := w'.manager } := by
    cases w'
    simp_all
  rw [hw']
  exact h w w'.manager hchanges hw

/-- Before the link is loaded. -/
structure Begun (w : World) : Prop where
  linked : w.manager.Linked
  later : Later w.accepted w.manager
  dials : w.dials = []

theorem begun_stable : (machine isPrint ds name).toSystem.Stable (accepts ds) Begun :=
  stable_of_changes fun _ _ h hw => ⟨linked_of_changes hw.linked h, hw.later.tail h, hw.dials⟩

/-- Where a dial of a connection goes. -/
def Through (ds : Nat) (w : World) : Call → Prop
  | .dial addr => ∃ m₁ m₂ u x, Route ds w.accepted m₁ m₂ u x ∧ Later m₂ w.manager ∧
      ∃ ep ∈ x.endpoints, ep.addr = addr
  | .loadUpstream _ | .copyEndpoints _ => True

/-- At the end of a connection. -/
def Ended (isPrint : Char → Bool) (ds : Nat) (name : String) (r : Except GoError Nat) (w : World) :
    Prop :=
  w.manager.Linked ∧ Outcome isPrint ds name w r

/-- From this world on, the rest of a connection comes to one of its outcomes. -/
abbrev Ends (isPrint : Char → Bool) (ds : Nat) (name : String) (p : Prog sig (Except GoError Nat))
    (w : World) : Prop :=
  p.Safe (machine isPrint ds name).toSystem (accepts ds)
    (fun op w => w.manager.Linked ∧ Through ds w op) (Ended isPrint ds name) w

end Connection

/-! ## Results -/

/-- The result of a connection that has come to its end. -/
def returned : Option (Prog sig (Except GoError Nat)) → Option (Except GoError Nat)
  | some (.ret r) => some r
  | _ => none

end Dialing

end Heir.Worker.Proxy
