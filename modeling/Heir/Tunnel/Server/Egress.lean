import Heir.Lib.Automaton

set_option autoImplicit false

/-! # The egress relay

An accepted CONNECT request is relayed by two goroutines of `splice`, one for each direction: it
copies what it reads from one connection to the other until the end of the stream, and then closes
the sending side of the other one. A connection whose type has no method `CloseWrite` is closed
completely instead. That is what happens to the client's connection: it is wrapped in
`hijackedConn`, which embeds the interface `net.Conn` and so has only the methods of that.

Once the client's connection is closed nothing more is read from it, apart from what the HTTP server
had buffered. So what the client sends is lost when the tunnel ends its direction first
(`request_truncated`). Under the condition that the end of the tunnel's stream is seen only when
the client has ended its own and all of it has been read, nothing is ever lost.

No read or write fails here unless this side has closed the connection itself.
-/

namespace Heir.EgressSelector.Relay

/-! ## Connections -/

/-- A `net.Conn`, with what the type assertion in `closeWrite` looks for. -/
structure NetConn where
  hasCloseWrite : Bool

/-- `&hijackedConn{Conn: conn, r: bufrw.Reader}`. -/
def hijackedConn (_conn : NetConn) : NetConn := { hasCloseWrite := false }

/-- The two ends of the relay. -/
inductive End where
  | client
  | tunnel
  deriving DecidableEq, Repr

def End.other : End → End
  | .client => .tunnel
  | .tunnel => .client

/-! ## States -/

/-- The direction from one end to the other one. -/
structure Lane where
  /-- What the endpoint has sent, and whether it has ended its sending side. -/
  sent : List UInt8 := []
  ended : Bool := false
  /-- What the HTTP server had read when the connection was taken over. -/
  buffered : List UInt8 := []
  /-- What has not been read from the connection. -/
  unread : List UInt8 := []
  /-- What `io.Copy` has read and not written. -/
  held : List UInt8 := []
  delivered : List UInt8 := []
  /-- The goroutine has returned. -/
  done : Bool := false
  deriving DecidableEq, Repr

structure State where
  client : Lane
  tunnel : Lane
  clientClosed : Bool := false
  tunnelClosed : Bool := false
  deriving DecidableEq, Repr

namespace State

/-- The direction that begins at an end. -/
def lane (s : State) : End → Lane
  | .client => s.client
  | .tunnel => s.tunnel

def setLane (s : State) (e : End) (l : Lane) : State :=
  match e with
  | .client => { s with client := l }
  | .tunnel => { s with tunnel := l }

/-- This side has closed the connection to an end. -/
def closed (s : State) : End → Bool
  | .client => s.clientClosed
  | .tunnel => s.tunnelClosed

def close (s : State) (e : End) : State :=
  match e with
  | .client => { s with clientClosed := true }
  | .tunnel => { s with tunnelClosed := true }

def closeBoth (s : State) : State := (s.close .client).close .tunnel

end State

/-! ## Events -/

inductive Event where
  /-- The endpoint sends a byte. -/
  | send (e : End) (b : UInt8)
  /-- The endpoint ends its sending side. -/
  | finish (e : End)
  /-- `io.Copy` reads from the end, at most `n` bytes. -/
  | read (e : End) (n : Nat)
  /-- `io.Copy` writes to the other end what it has read. -/
  | write (e : End)
  /-- `io.Copy` has seen the end of the stream; `closeWrite`, and the goroutine returns. -/
  | eof (e : End)
  /-- `io.Copy` fails on a closed connection; the goroutine closes both and returns. -/
  | fail (e : End)
  /-- Both goroutines have returned; both connections are closed. -/
  | finalClose
  deriving DecidableEq, Repr

/-- `Read`: `hijackedConn` hands out what was buffered first. A closed connection has nothing. -/
def Lane.read (l : Lane) (closed : Bool) (n : Nat) : Option Lane :=
  if l.buffered ≠ [] then
    some { l with held := l.buffered.take n, buffered := l.buffered.drop n }
  else if closed = false ∧ l.unread ≠ [] then
    some { l with held := l.unread.take n, unread := l.unread.drop n }
  else none

/-- The goroutine of the direction is about to read. -/
def Lane.Reading (l : Lane) : Prop := l.done = false ∧ l.held = []

/-- The goroutine of the direction is about to write. -/
def Lane.Writing (l : Lane) : Prop := l.done = false ∧ l.held ≠ []

instance (l : Lane) : Decidable l.Reading := inferInstanceAs (Decidable (_ ∧ _))

instance (l : Lane) : Decidable l.Writing := inferInstanceAs (Decidable (_ ∧ _))

section Splice

variable (conn : End → NetConn)

/-- `closeWrite`: only the sending side, if the connection can do that. -/
def closeWrite (s : State) (e : End) : State :=
  if (conn e).hasCloseWrite then s else s.close e

def step (s : State) : Event → Option State
  | .send e b =>
      let l := s.lane e
      if l.ended then none
      else some (s.setLane e { l with sent := l.sent ++ [b], unread := l.unread ++ [b] })
  | .finish e =>
      let l := s.lane e
      if l.ended then none else some (s.setLane e { l with ended := true })
  | .read e n =>
      let l := s.lane e
      if l.Reading ∧ 0 < n then (l.read (s.closed e) n).map (s.setLane e) else none
  | .write e =>
      let l := s.lane e
      if l.Writing ∧ s.closed e.other = false then
        some (s.setLane e { l with delivered := l.delivered ++ l.held, held := [] })
      else none
  | .eof e =>
      let l := s.lane e
      if l.Reading ∧ l.ended ∧ l.buffered = [] ∧ l.unread = [] ∧ s.closed e = false then
        some (closeWrite conn (s.setLane e { l with done := true }) e.other)
      else none
  | .fail e =>
      let l := s.lane e
      if l.Reading ∧ l.buffered = [] ∧ s.closed e ∨ l.Writing ∧ s.closed e.other then
        some (s.setLane e { l with done := true }).closeBoth
      else none
  | .finalClose => if s.client.done ∧ s.tunnel.done then some s.closeBoth else none

/-- `splice`, with what the HTTP server had already read from the client. -/
def splice (buffered : List UInt8) : Automaton State Event where
  init := { client := { sent := buffered, buffered := buffered }, tunnel := {} }
  step := step conn

end Splice

/-- The connections that `handle` hands to `splice`. -/
def handled (client tunnel : NetConn) : End → NetConn
  | .client => hijackedConn client
  | .tunnel => tunnel

/-! ## What is relayed -/

/-- What is delivered is what was sent, in order and without gaps; and a goroutine returns only when
its endpoint has ended the sending side and all of it has been delivered. -/
structure Faithful (s : State) : Prop where
  inOrder : ∀ e, (s.lane e).delivered <+: (s.lane e).sent
  complete : ∀ e, (s.lane e).done = true → (s.lane e).ended = true ∧
    (s.lane e).delivered = (s.lane e).sent

/-- The end of the tunnel's stream is seen only when the client has ended its own stream and all of
it has been read from the connection; or the client's connection can be closed by halves. -/
def Orderly (conn : End → NetConn) (s : State) : Event → Prop
  | .eof .tunnel =>
      (conn .client).hasCloseWrite = true ∨ s.client.ended = true ∧ s.client.unread = []
  | _ => True

instance (conn : End → NetConn) (s : State) (ev : Event) : Decidable (Orderly conn s ev) :=
  match ev with
  | .eof .tunnel => inferInstanceAs (Decidable (_ ∨ _))
  | .eof .client | .send _ _ | .finish _ | .read _ _ | .write _ | .fail _ | .finalClose =>
      inferInstanceAs (Decidable True)

/-- The goroutine whose step an event is. -/
def Event.goroutine : Event → Option End
  | .read e _ | .write e | .eof e | .fail e => some e
  | .send _ _ | .finish _ | .finalClose => none

/-- The goroutine that reads from an end has a next step. -/
def Proceeds (conn : End → NetConn) (s : State) (e : End) : Prop :=
  ∃ ev s', ev.goroutine = some e ∧ step conn s ev = some s'

/-! ## One direction -/

namespace Lane

/-- Nothing that was sent is missing, and a goroutine that has returned has left nothing. -/
structure Sound (l : Lane) : Prop where
  intact : l.delivered ++ l.held ++ l.buffered ++ l.unread = l.sent
  drained : l.done = true → l.ended = true ∧ l.held = [] ∧ l.buffered = [] ∧ l.unread = []

/-- What has come to an end in `l` has in `l'`. -/
structure Later (l l' : Lane) : Prop where
  done : l.done = true → l'.done = true
  ended : l.ended = true → l'.ended = true
  unread : l.ended = true → l.unread = [] → l'.unread = []

variable {l l' : Lane}

theorem Sound.send (h : l.Sound) (hopen : l.ended = false) (b : UInt8) :
    Sound { l with sent := l.sent ++ [b], unread := l.unread ++ [b] } where
  intact := by rw [← h.intact]; simp only [List.append_assoc]
  drained := fun hdone => by
    have hended := (h.drained hdone).1
    rw [hopen] at hended
    cases hended

theorem Sound.finish (h : l.Sound) : Sound { l with ended := true } where
  intact := h.intact
  drained := fun hdone => ⟨rfl, (h.drained hdone).2⟩

/-- What a read does: it moves the front of the buffer or of the connection. -/
theorem read_eq_some {closed : Bool} {n : Nat} (h : l.read closed n = some l') :
    l' = { l with held := l.buffered.take n, buffered := l.buffered.drop n } ∨
    l.buffered = [] ∧ l' = { l with held := l.unread.take n, unread := l.unread.drop n } := by
  unfold read at h
  by_cases hbuffered : l.buffered = []
  · rw [if_neg (not_not_intro hbuffered)] at h
    obtain ⟨-, heq⟩ := Option.ite_none_right_eq_some.mp h
    exact .inr ⟨hbuffered, (Option.some.inj heq).symm⟩
  · rw [if_pos hbuffered] at h
    exact .inl (Option.some.inj h).symm

theorem Sound.read (h : l.Sound) (hreading : l.Reading) {closed : Bool} {n : Nat}
    (hread : l.read closed n = some l') : l'.Sound := by
  obtain ⟨hdone, hheld⟩ := hreading
  have hintact := h.intact
  rw [hheld, List.append_nil] at hintact
  obtain rfl | ⟨hbuffered, rfl⟩ := read_eq_some hread
  · refine ⟨?_, fun hd => absurd hd (by simp [hdone])⟩
    calc l.delivered ++ l.buffered.take n ++ l.buffered.drop n ++ l.unread
        = l.delivered ++ l.buffered ++ l.unread := by
          rw [List.append_assoc l.delivered, List.take_append_drop]
      _ = l.sent := hintact
  · refine ⟨?_, fun hd => absurd hd (by simp [hdone])⟩
    rw [hbuffered, List.append_nil] at hintact
    calc l.delivered ++ l.unread.take n ++ l.buffered ++ l.unread.drop n
        = l.delivered ++ l.unread := by
          rw [hbuffered, List.append_nil, List.append_assoc, List.take_append_drop]
      _ = l.sent := hintact

theorem Later.read {closed : Bool} {n : Nat} (hread : l.read closed n = some l') :
    l.Later l' := by
  obtain rfl | ⟨-, rfl⟩ := read_eq_some hread
  · exact ⟨id, id, fun _ => id⟩
  · exact ⟨id, id, fun _ hunread => by rw [hunread, List.drop_nil]⟩

theorem Sound.write (h : l.Sound) (hwriting : l.Writing) :
    Sound { l with delivered := l.delivered ++ l.held, held := [] } where
  intact := by simpa only [List.append_nil] using h.intact
  drained := fun hdone => absurd hdone (by simp [hwriting.1])

theorem Sound.finished (h : l.Sound) (hended : l.ended = true) (hheld : l.held = [])
    (hbuffered : l.buffered = []) (hunread : l.unread = []) :
    Sound { l with done := true } where
  intact := h.intact
  drained := fun _ => ⟨hended, hheld, hbuffered, hunread⟩

theorem later_finished : l.Later { l with done := true } := ⟨fun _ => rfl, id, fun _ => id⟩

end Lane

/-! ## The invariant -/

structure Invariant (s : State) : Prop where
  lanes : ∀ e, (s.lane e).Sound
  /-- The client's connection is closed only when nothing is on its way on it. -/
  clientClosed : s.clientClosed = true →
    s.tunnel.done = true ∧ s.client.ended = true ∧ s.client.unread = []
  tunnelClosed : s.tunnelClosed = true → s.client.done = true ∧ s.tunnel.done = true

namespace Invariant

variable {s : State}

theorem setLane (h : Invariant s) {e : End} {l : Lane} (hsound : l.Sound)
    (hlater : (s.lane e).Later l) : Invariant (s.setLane e l) := by
  cases e with
  | client =>
      refine ⟨fun e => ?_, fun hclosed => ?_, fun hclosed => ?_⟩
      · cases e with
        | client => exact hsound
        | tunnel => exact h.lanes .tunnel
      · obtain ⟨hdone, hended, hunread⟩ := h.clientClosed hclosed
        exact ⟨hdone, hlater.ended hended, hlater.unread hended hunread⟩
      · exact ⟨hlater.done (h.tunnelClosed hclosed).1, (h.tunnelClosed hclosed).2⟩
  | tunnel =>
      refine ⟨fun e => ?_, fun hclosed => ?_, fun hclosed => ?_⟩
      · cases e with
        | client => exact h.lanes .client
        | tunnel => exact hsound
      · exact ⟨hlater.done (h.clientClosed hclosed).1, (h.clientClosed hclosed).2⟩
      · exact ⟨(h.tunnelClosed hclosed).1, hlater.done (h.tunnelClosed hclosed).2⟩

theorem closeClient (h : Invariant s) (hdone : s.tunnel.done = true)
    (hended : s.client.ended = true) (hunread : s.client.unread = []) :
    Invariant (s.close .client) where
  lanes := fun e => by cases e with
    | client => exact h.lanes .client
    | tunnel => exact h.lanes .tunnel
  clientClosed := fun _ => ⟨hdone, hended, hunread⟩
  tunnelClosed := h.tunnelClosed

theorem closeBoth (h : Invariant s) (hclient : s.client.done = true)
    (htunnel : s.tunnel.done = true) : Invariant s.closeBoth where
  lanes := fun e => by cases e with
    | client => exact h.lanes .client
    | tunnel => exact h.lanes .tunnel
  clientClosed := fun _ =>
    have hdrained := (h.lanes .client).drained hclient
    ⟨htunnel, hdrained.1, hdrained.2.2.2⟩
  tunnelClosed := fun _ => ⟨hclient, htunnel⟩

/-- The goroutine that writes to the client never finds a connection closed: the client's is closed
by itself, and the tunnel's after both have returned. -/
theorem not_closed_of_tunnel (h : Invariant s) (hdone : s.tunnel.done = false) (e : End) :
    s.closed e = false := by
  by_contra hclosed
  have hclosed := Bool.eq_true_of_not_eq_false hclosed
  have htunnel : s.tunnel.done = true := by
    cases e with
    | client => exact (h.clientClosed hclosed).1
    | tunnel => exact (h.tunnelClosed hclosed).2
  rw [hdone] at htunnel
  cases htunnel

/-- The goroutine that writes to the tunnel never finds that one closed. -/
theorem not_tunnelClosed (h : Invariant s) (hdone : s.client.done = false) :
    s.tunnelClosed = false := by
  by_contra hclosed
  have hclient := (h.tunnelClosed (Bool.eq_true_of_not_eq_false hclosed)).1
  rw [hdone] at hclient
  cases hclient

end Invariant

/-! ## A step -/

section Step

variable {conn : End → NetConn} {s s' : State}

theorem closeWrite_half {e : End} (h : (conn e).hasCloseWrite = true) :
    closeWrite conn s e = s := if_pos h

theorem closeWrite_full {e : End} (h : ¬ (conn e).hasCloseWrite = true) :
    closeWrite conn s e = s.close e := if_neg h

/-- The end of a stream: the sending side of the other connection is closed. -/
theorem Invariant.eof (h : Invariant s) (htunnel : (conn .tunnel).hasCloseWrite = true) {e : End}
    (hok : Orderly conn s (.eof e)) (hstep : step conn s (.eof e) = some s') : Invariant s' := by
  obtain ⟨⟨hreading, hended, hbuffered, hunread, -⟩, heq⟩ :=
    Option.ite_none_right_eq_some.mp hstep
  cases heq
  have hset := h.setLane ((h.lanes e).finished hended hreading.2 hbuffered hunread)
    Lane.later_finished
  cases e with
  | client =>
      rw [show End.client.other = .tunnel from rfl, closeWrite_half htunnel]
      exact hset
  | tunnel =>
      rw [show End.tunnel.other = .client from rfl]
      by_cases hclient : (conn .client).hasCloseWrite = true
      · rw [closeWrite_half hclient]
        exact hset
      · rw [closeWrite_full hclient]
        obtain hhalf | ⟨hcended, hcunread⟩ := hok
        · exact absurd hhalf hclient
        · exact hset.closeClient rfl hcended hcunread

/-- Only the goroutine that reads from the client can fail, and then everything has been read. -/
theorem Invariant.fail (h : Invariant s) {e : End} (hstep : step conn s (.fail e) = some s') :
    Invariant s' := by
  obtain ⟨hcase, heq⟩ := Option.ite_none_right_eq_some.mp hstep
  cases heq
  cases e with
  | tunnel =>
      exfalso
      obtain ⟨hreading, -, hclosed⟩ | ⟨hwriting, hclosed⟩ := hcase
      · rw [h.not_closed_of_tunnel hreading.1] at hclosed
        cases hclosed
      · rw [h.not_closed_of_tunnel hwriting.1] at hclosed
        cases hclosed
  | client =>
      obtain ⟨hreading, hbuffered, hclosed⟩ | ⟨hwriting, hclosed⟩ := hcase
      · obtain ⟨htunnel, hended, hunread⟩ := h.clientClosed hclosed
        have hset := h.setLane ((h.lanes .client).finished hended hreading.2 hbuffered hunread)
          Lane.later_finished
        exact hset.closeBoth rfl htunnel
      · exfalso
        have hopen : s.closed .tunnel = false := h.not_tunnelClosed hwriting.1
        rw [show End.client.other = .tunnel from rfl, hopen] at hclosed
        cases hclosed

theorem Invariant.step (h : Invariant s) (htunnel : (conn .tunnel).hasCloseWrite = true)
    {ev : Event} (hok : Orderly conn s ev) (hstep : step conn s ev = some s') : Invariant s' := by
  cases ev with
  | send e b =>
      obtain ⟨hopen, heq⟩ := Option.ite_none_left_eq_some.mp hstep
      cases heq
      have hopen := Bool.eq_false_of_not_eq_true hopen
      -- an endpoint that has ended its side sends nothing more
      have hlater : (s.lane e).Later { s.lane e with
          sent := (s.lane e).sent ++ [b], unread := (s.lane e).unread ++ [b] } :=
        ⟨id, id, fun hended => absurd hended (by simp [hopen])⟩
      exact h.setLane ((h.lanes e).send hopen b) hlater
  | finish e =>
      obtain ⟨-, heq⟩ := Option.ite_none_left_eq_some.mp hstep
      cases heq
      exact h.setLane (h.lanes e).finish ⟨id, fun _ => rfl, fun _ => id⟩
  | read e n =>
      obtain ⟨⟨hreading, -⟩, heq⟩ := Option.ite_none_right_eq_some.mp hstep
      obtain ⟨l, hread, rfl⟩ := Option.map_eq_some_iff.mp heq
      exact h.setLane ((h.lanes e).read hreading hread) (.read hread)
  | write e =>
      obtain ⟨⟨hwriting, -⟩, heq⟩ := Option.ite_none_right_eq_some.mp hstep
      cases heq
      exact h.setLane ((h.lanes e).write hwriting) ⟨id, id, fun _ => id⟩
  | eof e => exact h.eof htunnel hok hstep
  | fail e => exact h.fail hstep
  | finalClose =>
      obtain ⟨⟨hclient, htunnel⟩, heq⟩ := Option.ite_none_right_eq_some.mp hstep
      cases heq
      exact h.closeBoth hclient htunnel

/-! ## Whole runs -/

theorem invariant_of_trace (htunnel : (conn .tunnel).hasCloseWrite = true)
    {buffered : List UInt8} {h : List Event}
    (hrun : ((splice conn buffered).restrict (Orderly conn)).Trace h s) : Invariant s := by
  refine hrun.invariant (fun _ s => Invariant s) ?_ ?_
  · refine ⟨fun e => ?_, fun hclosed => (by cases hclosed), fun hclosed => (by cases hclosed)⟩
    cases e with
    | client => exact ⟨List.append_nil _, fun hdone => by cases hdone⟩
    | tunnel => exact ⟨rfl, fun hdone => by cases hdone⟩
  · intro h s ev s' _ hinv hstep
    obtain ⟨hok, hstep⟩ := Automaton.restrict_step.mp hstep
    exact hinv.step htunnel hok hstep

theorem Invariant.faithful (h : Invariant s) : Faithful s where
  inOrder := fun e => by
    rw [← (h.lanes e).intact, List.append_assoc, List.append_assoc]
    exact List.prefix_append _ _
  complete := fun e hdone => by
    obtain ⟨hended, hheld, hbuffered, hunread⟩ := (h.lanes e).drained hdone
    refine ⟨hended, ?_⟩
    rw [← (h.lanes e).intact, hheld, hbuffered, hunread, List.append_nil, List.append_nil,
      List.append_nil]

/-- What a goroutine holds it can write. -/
theorem Invariant.other_open (h : Invariant s) {e : End} (hdone : (s.lane e).done = false) :
    s.closed e.other = false := by
  cases e with
  | client => exact h.not_tunnelClosed hdone
  | tunnel => exact h.not_closed_of_tunnel hdone .client

/-- What is left on a connection can be read. -/
theorem Invariant.open_of_unread (h : Invariant s) {e : End} (hdone : (s.lane e).done = false)
    (hunread : (s.lane e).unread ≠ []) : s.closed e = false := by
  cases e with
  | client =>
      by_contra hclosed
      exact hunread (h.clientClosed (Bool.eq_true_of_not_eq_false hclosed)).2.2
  | tunnel => exact h.not_closed_of_tunnel hdone .tunnel

theorem proceeds_of_read {e : End} {l : Lane} (hreading : (s.lane e).Reading)
    (hread : (s.lane e).read (s.closed e) 1 = some l) : Proceeds conn s e := by
  refine ⟨.read e 1, s.setLane e l, rfl, ?_⟩
  calc step conn s (.read e 1)
      = ((s.lane e).read (s.closed e) 1).map (s.setLane e) := if_pos ⟨hreading, Nat.one_pos⟩
    _ = some (s.setLane e l) := by rw [hread, Option.map_some]

theorem Invariant.proceeds (h : Invariant s) {e : End} (hended : (s.lane e).ended = true)
    (hdone : (s.lane e).done = false) : Proceeds conn s e := by
  by_cases hheld : (s.lane e).held = []
  · have hreading : (s.lane e).Reading := ⟨hdone, hheld⟩
    by_cases hbuffered : (s.lane e).buffered = []
    · by_cases hunread : (s.lane e).unread = []
      · by_cases hclosed : s.closed e = false
        · exact ⟨.eof e, _, rfl, if_pos ⟨hreading, hended, hbuffered, hunread, hclosed⟩⟩
        · have hclosed := Bool.eq_true_of_not_eq_false hclosed
          exact ⟨.fail e, _, rfl, if_pos (.inl ⟨hreading, hbuffered, hclosed⟩)⟩
      · have hopen := h.open_of_unread hdone hunread
        apply proceeds_of_read hreading
        rw [Lane.read, if_neg (not_not_intro hbuffered), if_pos ⟨hopen, hunread⟩]
    · apply proceeds_of_read hreading
      rw [Lane.read, if_pos hbuffered]
  · exact ⟨.write e, _, rfl, if_pos ⟨⟨hdone, hheld⟩, h.other_open hdone⟩⟩

end Step

/-- **The relay is lossless when the client ends first.** In every run in which the end of the
tunnel's stream is seen only after the client has ended its own and all of it has been read from the
connection, what is delivered is what was sent, a goroutine returns only when everything is
delivered, and one whose endpoint has ended always has a next step until then. -/
theorem relay_faithful_of_orderly {client tunnel : NetConn}
    (htunnel : tunnel.hasCloseWrite = true) {buffered : List UInt8} {h : List Event} {s : State}
    (hrun : ((splice (handled client tunnel) buffered).restrict
      (Orderly (handled client tunnel))).Trace h s) :
    Faithful s ∧ ∀ e, (s.lane e).ended = true → (s.lane e).done = false →
      Proceeds (handled client tunnel) s e := by
  have hinv := invariant_of_trace htunnel hrun
  exact ⟨hinv.faithful, fun _ hended hdone => hinv.proceeds hended hdone⟩

/-- A request and its answer: the client has ended its side when the answer ends. -/
def answeredRequest : List Event :=
  [.read .client 1, .write .client, .send .client 2, .finish .client, .read .client 8,
    .write .client, .send .tunnel 7, .read .tunnel 8, .write .tunnel, .finish .tunnel,
    .eof .client, .eof .tunnel, .finalClose]

/-- The client ended its side, both goroutines have returned and everything is delivered. -/
theorem answeredRequest_relayed :
    ∃ s, ((splice (handled ⟨true⟩ ⟨true⟩) [1]).restrict
        (Orderly (handled ⟨true⟩ ⟨true⟩))).Trace answeredRequest s ∧
      s.client.delivered = [1, 2] ∧ s.tunnel.delivered = [7] ∧ Faithful s := by
  obtain ⟨s, hrun, hclient, htunnel⟩ := Automaton.exists_trace
    ((splice (handled ⟨true⟩ ⟨true⟩) [1]).restrict (Orderly (handled ⟨true⟩ ⟨true⟩)))
    answeredRequest (fun s => s.client.delivered = [1, 2] ∧ s.tunnel.delivered = [7]) (by decide)
  exact ⟨s, hrun, hclient, htunnel, (relay_faithful_of_orderly rfl hrun).1⟩

/-- The tunnel ends its side while the client still sends. -/
def earlyAnswer : List Event :=
  [.finish .tunnel, .eof .tunnel, .send .client 1, .finish .client, .fail .client, .finalClose]

/-- Both connections can be closed by halves, and what the client sent is lost: both goroutines have
returned, and the byte was never read. -/
theorem request_truncated :
    ∃ s, (splice (handled ⟨true⟩ ⟨true⟩) []).Trace earlyAnswer s ∧
      s.client.done = true ∧ s.tunnel.done = true ∧ s.client.ended = true ∧
      s.client.sent = [1] ∧ s.client.delivered = [] ∧ ¬ Faithful s := by
  obtain ⟨s, hrun, hcdone, htdone, hended, hsent, hdelivered⟩ := Automaton.exists_trace
    (splice (handled ⟨true⟩ ⟨true⟩) []) earlyAnswer
    (fun s => s.client.done = true ∧ s.tunnel.done = true ∧ s.client.ended = true ∧
      s.client.sent = [1] ∧ s.client.delivered = []) (by decide)
  refine ⟨s, hrun, hcdone, htdone, hended, hsent, hdelivered, fun hfaithful => ?_⟩
  have hall : s.client.delivered = s.client.sent := (hfaithful.complete .client hcdone).2
  rw [hsent, hdelivered] at hall
  cases hall

end Heir.EgressSelector.Relay
