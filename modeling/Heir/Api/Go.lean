import Heir.Lib.Interact
import Heir.Api.Meta

set_option autoImplicit false

/-! # Controller functions as programs

A controller function is a program over the calls of its controller that may end with an error or
a panic.
-/

namespace Heir

open Interact

/-- A controller function. -/
abbrev GoProg (S : Sig) (α : Type) : Type := ExceptT Fault (Prog S) α

namespace Go

variable {S : Sig} {α β : Type}

/-- The result of a function that may fail, as a value. -/
def attempt (p : GoProg S α) : GoProg S (Except Fault α) := ExceptT.lift p.run

def ofResult (r : GoResult α) : GoProg S α := ExceptT.mk (pure r)

def ofExcept (r : Except GoError α) : GoProg S α := ofResult (liftError r)

def fail (e : GoError) : GoProg S α := ExceptT.mk (pure (.error (.error e)))

@[simp] theorem run_return (a : α) : (pure a : GoProg S α).run = .ret (.ok a) := rfl

@[simp] theorem run_fail (e : GoError) : (fail e : GoProg S α).run = .ret (.error (.error e)) := rfl

@[simp] theorem run_fail_bind (e : GoError) (f : α → GoProg S β) :
    (fail e >>= f).run = .ret (.error (.error e)) := rfl

@[simp] theorem run_ofResult (r : GoResult α) : (ofResult r : GoProg S α).run = .ret r := rfl

@[simp] theorem ofResult_ok_bind (a : α) (f : α → GoProg S β) : (ofResult (.ok a) >>= f) = f a := rfl

@[simp] theorem run_ofResult_error_bind (e : Fault) (f : α → GoProg S β) :
    (ofResult (.error e) >>= f).run = .ret (.error e) := rfl

@[simp] theorem ofExcept_ok (a : α) : ofExcept (.ok a) = (pure a : GoProg S α) := rfl

@[simp] theorem ofExcept_ok_bind (a : α) (f : α → GoProg S β) : (ofExcept (.ok a) >>= f) = f a := rfl

@[simp] theorem run_ofExcept_error (e : GoError) :
    (ofExcept (.error e) : GoProg S α).run = .ret (.error (.error e)) := rfl

@[simp] theorem run_ofExcept_error_bind (e : GoError) (f : α → GoProg S β) :
    (ofExcept (.error e) >>= f).run = .ret (.error (.error e)) := rfl

@[simp] theorem run_attempt_bind (p : GoProg S α) (f : Except Fault α → GoProg S β) :
    (attempt p >>= f).run = p.run >>= fun r => (f r).run := ExceptT.run_bind_lift p.run f

end Go

end Heir
