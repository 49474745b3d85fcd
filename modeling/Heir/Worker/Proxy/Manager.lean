import Heir.Lib.Automaton
import Heir.Lib.GoMap
import Heir.Lib.Slice

set_option autoImplicit false

/-! # The proxy manager of a worker

The manager files upstreams (pools of endpoints) and downstreams (listeners) under names and links
them. Both are shared by pointer: an object is its place in the list of all objects of its kind made
so far, so that an upstream that was removed and one added later under the same name differ.

A call of `Link` that starts a downstream files a handle and runs the downstream outside the lock.
When the run has returned, a deferred function closes the channel `done` of the handle, takes the
lock and deletes the handle of that *name*. `RemoveDownstream` and `Close` wait for `done` only.

Every critical section is one event of `manager`. A downstream loads its link without the lock; the
link is an atomic pointer.
-/

namespace Heir.Worker.Proxy

structure Endpoint where
  host : String
  port : Int
  deriving DecidableEq, Repr

structure Upstream where
  name : String
  endpoints : List Endpoint
  deriving DecidableEq

structure Downstream where
  name : String
  listenAddr : String
  /-- The linked upstream. -/
  upstream : Option Nat := none
  deriving DecidableEq

/-- How far a call of `Link` is that has filed a handle. -/
inductive Stage where
  /-- `ds.Run` has not returned. -/
  | running
  | returned
  /-- `done` is closed, the handle not deleted yet. -/
  | signalled
  | finished
  deriving DecidableEq

/-- A call of `Link` that has filed a handle, and the handle. -/
structure Run where
  downstreamName : String
  downstream : Nat
  /-- `cancel` of the handle was called. -/
  cancelled : Bool := false
  stage : Stage := .running
  deriving DecidableEq

inductive LinkError where
  | downstreamNotFound (downstreamName : String)
  | upstreamNotFound (upstreamName : String)
  | alreadyRunning (downstreamName : String)
  deriving DecidableEq

structure State where
  upstreamObjects : List Upstream := []
  downstreamObjects : List Downstream := []
  upstreams : GoMap Nat := ∅
  downstreams : GoMap Nat := ∅
  handles : GoMap Nat := ∅
  runs : List Run := []
  /-- The context of the manager is done, and with it the context of every run. -/
  ctxDone : Bool := false
  /-- The calls of `Close` that have cancelled the context and do not hold the lock yet. -/
  closing : Nat := 0
  /-- The handles that calls of `RemoveDownstream` and `Close` wait for. -/
  waiting : List (List Nat) := []

namespace State

/-- What a downstream points to. -/
def target (objects : List Downstream) (ds : Nat) : Option Nat :=
  (objects[ds]?).bind Downstream.upstream

/-- The upstream that a downstream would dial through now. -/
def loadUpstream (s : State) (ds : Nat) : Option Nat := target s.downstreamObjects ds

def upstreamName (s : State) (u : Nat) : Option String :=
  (s.upstreamObjects[u]?).map Upstream.name

/-! ## The operations -/

def addUpstream (s : State) (name : String) (endpoints : List Endpoint) : State :=
  match s.upstreams[name]? with
  | some u => { s with upstreamObjects := s.upstreamObjects.modify u ({ · with endpoints }) }
  | none =>
      { s with
        upstreamObjects := s.upstreamObjects ++ [{ name, endpoints }]
        upstreams := s.upstreams.insert name s.upstreamObjects.length }

/-- The body of the loop in `RemoveUpstream`. -/
def unlinkFrom (upstreams : List Upstream) (name : String) (objects : List Downstream) (ds : Nat) :
    List Downstream :=
  objects.modify ds fun d =>
    if (d.upstream.bind fun u => upstreams[u]?).any (·.name == name) then { d with upstream := none }
    else d

def removeUpstream (s : State) (name : String) (order : GoMap.RangeOrder Nat) : State :=
  if s.upstreams[name]?.isNone then s
  else
    { s with
      upstreams := s.upstreams.erase name
      downstreamObjects := ((order.visit s.downstreams).map Prod.snd).foldl
        (unlinkFrom s.upstreamObjects name) s.downstreamObjects }

def addDownstream (s : State) (name listenAddr : String) : State :=
  if s.downstreams[name]?.isSome then s
  else
    { s with
      downstreamObjects := s.downstreamObjects ++ [{ name, listenAddr }]
      downstreams := s.downstreams.insert name s.downstreamObjects.length }

/-- Up to the point where the lock is released. -/
def removeDownstream (s : State) (name : String) : State :=
  let h := s.handles[name]?
  { s with
    runs := match h with
      | some r => s.runs.modify r ({ · with cancelled := true })
      | none => s.runs
    handles := s.handles.erase name
    downstreams := s.downstreams.erase name
    waiting := s.waiting ++ [h.toList] }

def setUpstream (s : State) (ds : Nat) (u : Option Nat) : State :=
  { s with downstreamObjects := s.downstreamObjects.modify ds ({ · with upstream := u }) }

/-- Up to the point where the lock is released and `ds.Run` is called. The downstream is linked
before the handles are looked at. -/
def link (s : State) (downstreamName upstreamName : String) : Except LinkError Nat × State :=
  match s.downstreams[downstreamName]? with
  | none => (.error (.downstreamNotFound downstreamName), s)
  | some ds =>
      match s.upstreams[upstreamName]? with
      | none => (.error (.upstreamNotFound upstreamName), s)
      | some u =>
          let s := s.setUpstream ds (some u)
          if s.handles[downstreamName]?.isSome then (.error (.alreadyRunning downstreamName), s)
          else
            (.ok s.runs.length,
              { s with
                runs := s.runs ++ [{ downstreamName, downstream := ds }]
                handles := s.handles.insert downstreamName s.runs.length })

def unlink (s : State) (downstreamName : String) : Except LinkError Unit × State :=
  match s.downstreams[downstreamName]? with
  | none => (.error (.downstreamNotFound downstreamName), s)
  | some ds => (.ok (), s.setUpstream ds none)

/-- The critical section of `Close`. -/
def close (s : State) (order : GoMap.RangeOrder Nat) : State :=
  { s with
    handles := ∅
    closing := s.closing - 1
    waiting := s.waiting ++ [(order.visit s.handles).map Prod.snd] }

/-- A call of `Link` goes from one stage to the next. -/
def advance (s : State) (r : Nat) (here next : Stage) : Option State :=
  (s.runs[r]?).bind fun run =>
    if run.stage = here then some { s with runs := s.runs.set r { run with stage := next } } else none

/-- The critical section of the deferred function in `Link`. -/
def cleanUp (s : State) (r : Nat) : Option State :=
  (s.runs[r]?).bind fun run =>
    (s.advance r .signalled .finished).map fun s' =>
      { s' with handles := s'.handles.erase run.downstreamName }

theorem advance_eq_some {s s' : State} {r : Nat} {here next : Stage} :
    s.advance r here next = some s' ↔ ∃ run, s.runs[r]? = some run ∧ run.stage = here ∧
      s' = { s with runs := s.runs.set r { run with stage := next } } := by
  simp only [advance, Option.bind_eq_some_iff, Option.ite_none_right_eq_some, Option.some.injEq,
    @eq_comm _ _ s']

theorem cleanUp_eq_some {s s' : State} {r : Nat} :
    s.cleanUp r = some s' ↔ ∃ run, s.runs[r]? = some run ∧ run.stage = .signalled ∧
      s' = { s with
        runs := s.runs.set r { run with stage := .finished }
        handles := s.handles.erase run.downstreamName } := by
  simp only [cleanUp, Option.bind_eq_some_iff, Option.map_eq_some_iff, advance_eq_some]
  constructor
  · rintro ⟨run, hrun, _, ⟨run', hrun', hstage, rfl⟩, rfl⟩
    rw [hrun] at hrun'
    cases hrun'
    exact ⟨run, hrun, hstage, rfl⟩
  · rintro ⟨run, hrun, hstage, rfl⟩
    exact ⟨run, hrun, _, ⟨run, hrun, hstage, rfl⟩, rfl⟩

/-- The channel `done` of a handle is closed. -/
def isDone (s : State) (r : Nat) : Bool :=
  (s.runs[r]?).any fun run => run.stage = .signalled ∨ run.stage = .finished

end State

inductive Event where
  | addUpstream (name : String) (endpoints : List Endpoint)
  | removeUpstream (name : String) (order : GoMap.RangeOrder Nat)
  | addDownstream (name listenAddr : String)
  | removeDownstream (name : String)
  | link (downstreamName upstreamName : String)
  | unlink (downstreamName : String)
  /-- `Close` is called and cancels the context. -/
  | callClose
  | close (order : GoMap.RangeOrder Nat)
  /-- The context `NewManager` was called with is done. -/
  | cancel
  /-- `ds.Run` returns, because it could not listen or because its context is done. -/
  | return (r : Nat)
  | signal (r : Nat)
  | cleanUp (r : Nat)
  /-- A call of `RemoveDownstream` or `Close` has seen all the handles it waits for. -/
  | resume (i : Nat)

namespace State

def step (s : State) : Event → Option State
  | .addUpstream name endpoints => some (s.addUpstream name endpoints)
  | .removeUpstream name order => some (s.removeUpstream name order)
  | .addDownstream name listenAddr => some (s.addDownstream name listenAddr)
  | .removeDownstream name => some (s.removeDownstream name)
  | .link downstreamName upstreamName => some (s.link downstreamName upstreamName).2
  | .unlink downstreamName => some (s.unlink downstreamName).2
  | .callClose => some { s with ctxDone := true, closing := s.closing + 1 }
  | .close order => if s.closing = 0 then none else some (s.close order)
  | .cancel => some { s with ctxDone := true }
  | .return r => s.advance r .running .returned
  | .signal r => s.advance r .returned .signalled
  | .cleanUp r => s.cleanUp r
  | .resume i =>
      (s.waiting[i]?).bind fun handles =>
        if handles.all s.isDone then some { s with waiting := s.waiting.eraseIdx i } else none

end State

/-- The manager, its callers and the runs it has started. -/
def manager : Automaton State Event where
  init := {}
  step := State.step

end Heir.Worker.Proxy
