import Mathlib.Tactic

set_option autoImplicit false

/-! # Go channels

Channels with a buffer, and the nil channel: a channel variable that was declared and never made.
Sending to a nil channel and receiving from it block forever. An operation that blocks is `none`.
-/

/-- A channel that was made with a capacity. -/
structure Buffered (α : Type) where
  capacity : Nat
  buffer : List α := []
  deriving DecidableEq

/-- A channel variable; `none` is the nil channel. -/
abbrev Chan (α : Type) : Type := Option (Buffered α)

namespace Chan

variable {α : Type}

/-- `make(chan T, capacity)`. -/
def make (capacity : Nat) : Chan α := some { capacity }

/-- The value of a channel variable that is declared without one. -/
def nil : Chan α := none

/-- `c <- a`. -/
def send (c : Chan α) (a : α) : Option (Chan α) :=
  c.bind fun b =>
    if b.buffer.length < b.capacity then some (some { b with buffer := b.buffer ++ [a] }) else none

/-- `<-c`. -/
def receive (c : Chan α) : Option (α × Chan α) :=
  c.bind fun b =>
    match b.buffer with
    | [] => none
    | a :: rest => some (a, some { b with buffer := rest })

/-- A `select` can take a case that receives from the channel. -/
def ready (c : Chan α) : Bool := c.receive.isSome

/-- The number of values that can be sent before something is received. -/
def room (c : Chan α) : Nat := c.elim 0 fun b => b.capacity - b.buffer.length

@[simp] theorem send_nil (a : α) : (nil : Chan α).send a = none := rfl

@[simp] theorem ready_nil : (nil : Chan α).ready = false := rfl

@[simp] theorem ready_make (capacity : Nat) : (make capacity : Chan α).ready = false := rfl

@[simp] theorem room_make (capacity : Nat) : (make capacity : Chan α).room = capacity := rfl

theorem ready_of_send {c c' : Chan α} {a : α} (h : c.send a = some c') : c'.ready = true := by
  obtain ⟨b, -, h⟩ := Option.bind_eq_some_iff.mp h
  rw [Option.ite_none_right_eq_some] at h
  obtain ⟨-, h⟩ := h
  cases h
  cases b.buffer with
  | nil | cons x rest => simp [ready, receive]

theorem room_of_send {c c' : Chan α} {a : α} (h : c.send a = some c') : c'.room + 1 = c.room := by
  obtain ⟨b, rfl, hsend⟩ := Option.bind_eq_some_iff.mp h
  rw [Option.ite_none_right_eq_some] at hsend
  obtain ⟨hlt, hsend⟩ := hsend
  cases hsend
  simp only [room, Option.elim_some, List.length_append, List.length_singleton]
  omega

theorem exists_send {c : Chan α} (hroom : 0 < c.room) (a : α) : ∃ c', c.send a = some c' := by
  cases c with
  | none => cases hroom
  | some b =>
      simp only [room, Option.elim_some] at hroom
      exact ⟨_, by simp only [send, Option.bind_some]; exact if_pos (by omega)⟩

end Chan
