import Heir.Lib.GoMap

set_option autoImplicit false

/-! # Errors, object metadata and conditions

The part of the Kubernetes API machinery that every controller of the repository uses: errors
with the reason the API server gives, object metadata with owner references, and the list of
status conditions.

A map that an object decoded from the API server carries is nil exactly when it has no entries
(`omitempty` drops an empty map on the way in), so a `GoMap` without entries stands for both;
`assignDecoded` is the assignment to such a map, which panics when it is nil.
-/

namespace Heir

/-! ## Errors -/

/-- The reasons of API errors that the controllers tell apart. -/
inductive Reason where
  | notFound
  | alreadyExists
  | conflict
  | other
  deriving DecidableEq, Repr

structure GoError where
  reason : Reason
  text : String
  deriving DecidableEq, Repr

/-- `fmt.Errorf` without a wrapped error. -/
def errorf (text : String) : GoError := ⟨.other, text⟩

/-- `fmt.Errorf("<context>: %w", err)`: the reason of the wrapped error stays visible. -/
def GoError.wrap (context : String) (e : GoError) : GoError := ⟨e.reason, context ++ ": " ++ e.text⟩

/-- `fmt.Errorf("<context>: %v", err)`: only the text is kept. -/
def GoError.quote (context : String) (e : GoError) : GoError := errorf (context ++ ": " ++ e.text)

/-- How a Go function that does not return its result ends. -/
inductive Fault where
  | error (e : GoError)
  | panic (text : String)
  deriving DecidableEq, Repr

/-- The result of a function that may return an error. -/
abbrev GoResult (α : Type) : Type := Except Fault α

@[simp] theorem ok_bind {ε α β : Type} (a : α) (f : α → Except ε β) :
    ((Except.ok a : Except ε α) >>= f) = f a := rfl

@[simp] theorem error_bind {ε α β : Type} (e : ε) (f : α → Except ε β) :
    ((Except.error e : Except ε α) >>= f) = .error e := rfl

/-- Lift the answer of a call that cannot panic. -/
def liftError {α : Type} : Except GoError α → GoResult α
  | .ok a => .ok a
  | .error e => .error (.error e)

@[simp] theorem liftError_ok {α : Type} (a : α) : liftError (.ok a) = .ok a := rfl

@[simp] theorem liftError_error {α : Type} (e : GoError) :
    liftError (.error e : Except GoError α) = .error (.error e) := rfl

/-- `m[k] = v` on a map of a decoded object. -/
def assignDecoded {V : Type} (m : GoMap V) (k : String) (v : V) : GoResult (GoMap V) :=
  if m.isEmpty then .error (.panic "assignment to entry in nil map") else .ok (m.insert k v)

/-! ## Durations -/

/-- A `time.Duration`, in nanoseconds. -/
structure Duration where
  ns : Int := 0
  deriving DecidableEq, Repr

/-- `fmtFrac`: the last `prec` decimals of `v` without trailing zeros, and the rest of `v`. The
flag says that a decimal has been written. -/
def fmtFrac : Nat → Nat → Bool → List Char → List Char × Nat
  | 0, v, print, cs => (if print then '.' :: cs else cs, v)
  | prec + 1, v, print, cs =>
      let digit := v % 10
      let print := print || digit != 0
      fmtFrac prec (v / 10) print (if print then Nat.digitChar digit :: cs else cs)

/-- `Duration.String`. -/
def Duration.text (d : Duration) : String :=
  let u := d.ns.natAbs
  let sign := if d.ns < 0 then "-" else ""
  let scaled (prec : Nat) (unit : String) : String :=
    let (frac, v) := fmtFrac prec u false []
    toString v ++ String.ofList frac ++ unit
  if u = 0 then "0s"
  else if u < 1000 then sign ++ scaled 0 "ns"
  else if u < 1000000 then sign ++ scaled 3 "µs"
  else if u < 1000000000 then sign ++ scaled 6 "ms"
  else
    let (frac, secs) := fmtFrac 9 u false []
    let tail := toString (secs % 60) ++ String.ofList frac ++ "s"
    let mins := secs / 60
    if mins = 0 then sign ++ tail
    else if mins / 60 = 0 then sign ++ toString mins ++ "m" ++ tail
    else sign ++ toString (mins / 60) ++ "h" ++ toString (mins % 60) ++ "m" ++ tail

example : (Duration.text ⟨5400500000000⟩, Duration.text ⟨1500⟩, Duration.text ⟨-90000000000⟩) =
    ("1h30m0.5s", "1.5µs", "-1m30s") := by decide

/-! ## Names -/

theorem getLast?_toList_append (a : String) {b : String} (hb : b.toList ≠ []) :
    (a ++ b).toList.getLast? = b.toList.getLast? := by
  rw [String.toList_append, List.getLast?_append_of_ne_nil _ hb]

/-! ## Object metadata -/

structure NamespacedName where
  ns : String
  name : String
  deriving DecidableEq, Repr

structure OwnerReference where
  apiVersion : String
  kind : String
  name : String
  uid : String
  controller : Bool
  deriving DecidableEq, Repr

/-- Seconds of the wall clock. -/
abbrev Time : Type := Nat

/-- `metav1.ManagedFieldsEntry`: the fields one manager has set, with the time of its last write. -/
structure ManagedFieldsEntry where
  manager : String
  operation : String
  apiVersion : String
  time : Option Time := none
  fieldsType : String
  fieldsV1 : String
  subresource : String := ""
  deriving DecidableEq, Repr

structure ObjectMeta where
  name : String
  ns : String
  uid : String := ""
  resourceVersion : Nat := 0
  generation : Nat := 0
  deletionTimestamp : Option Time := none
  finalizers : List String := []
  labels : GoMap String := ∅
  annotations : GoMap String := ∅
  ownerReferences : List OwnerReference := []
  managedFields : List ManagedFieldsEntry := []

def ObjectMeta.key (m : ObjectMeta) : NamespacedName := ⟨m.ns, m.name⟩

@[simp] theorem ObjectMeta.key_ns (m : ObjectMeta) : m.key.ns = m.ns := rfl

@[simp] theorem ObjectMeta.key_name (m : ObjectMeta) : m.key.name = m.name := rfl

def getControllerOf (obj : ObjectMeta) : Option OwnerReference :=
  obj.ownerReferences.find? (fun ref => ref.controller)

def isControlledBy (obj owner : ObjectMeta) : Bool :=
  match getControllerOf obj with
  | some ref => ref.uid == owner.uid
  | none => false

/-- `referSameObject` of controller-runtime: the group, the kind and the name agree. -/
def referSameObject (a b : OwnerReference) : Bool :=
  (a.apiVersion.takeWhile (· != '/') == b.apiVersion.takeWhile (· != '/')) && a.kind == b.kind &&
    a.name == b.name

/-- `upsertOwnerRef`: replace the reference to the same object, or append it. -/
def upsertOwnerRef (ref : OwnerReference) : List OwnerReference → List OwnerReference
  | [] => [ref]
  | r :: rs => if referSameObject r ref then ref :: rs else r :: upsertOwnerRef ref rs

/-- `ctrl.SetControllerReference` of controller-runtime. -/
def setControllerReference (owner : ObjectMeta) (apiVersion kind : String) (obj : ObjectMeta) :
    Except GoError ObjectMeta :=
  if owner.ns ≠ "" ∧ obj.ns = "" then
    .error (errorf ("cluster-scoped resource must not have a namespace-scoped owner, owner's namespace " ++
      owner.ns))
  else if owner.ns ≠ "" ∧ owner.ns ≠ obj.ns then
    .error (errorf ("cross-namespace owner references are disallowed, owner's namespace " ++
      owner.ns ++ ", obj's namespace " ++ obj.ns))
  else
    let ref : OwnerReference := ⟨apiVersion, kind, owner.name, owner.uid, true⟩
    match getControllerOf obj with
    | some existing =>
        if referSameObject existing ref then
          .ok { obj with ownerReferences := upsertOwnerRef ref obj.ownerReferences }
        else
          .error (errorf ("Object " ++ obj.ns ++ "/" ++ obj.name ++
            " is already owned by another " ++ existing.kind ++ " controller " ++ existing.name))
    | none => .ok { obj with ownerReferences := upsertOwnerRef ref obj.ownerReferences }

/-- What a controller reference on a fresh object of the owner's namespace looks like. -/
theorem setControllerReference_fresh {owner obj : ObjectMeta} {apiVersion kind : String}
    (hns : obj.ns = owner.ns) (hrefs : obj.ownerReferences = []) :
    setControllerReference owner apiVersion kind obj =
      .ok { obj with ownerReferences := [⟨apiVersion, kind, owner.name, owner.uid, true⟩] } := by
  have h₁ : ¬ (owner.ns ≠ "" ∧ obj.ns = "") := fun h => h.1 (hns ▸ h.2)
  have h₂ : ¬ (owner.ns ≠ "" ∧ owner.ns ≠ obj.ns) := fun h => h.2 hns.symm
  simp only [setControllerReference, if_neg h₁, if_neg h₂, getControllerOf, hrefs, List.find?_nil,
    upsertOwnerRef]

/-- A controller reference changes nothing but the owner references. -/
theorem setControllerReference_ok {owner obj obj' : ObjectMeta} {apiVersion kind : String}
    (h : setControllerReference owner apiVersion kind obj = .ok obj') :
    ∃ refs, obj' = { obj with ownerReferences := refs } := by
  simp only [setControllerReference] at h
  split at h
  · cases h
  · split at h
    · cases h
    · split at h
      · split at h
        · cases h
          exact ⟨_, rfl⟩
        · cases h
      · cases h
        exact ⟨_, rfl⟩

/-! ## Conditions -/

inductive ConditionStatus where
  | true
  | false
  | unknown
  deriving DecidableEq, Repr

structure Condition where
  type : String
  status : ConditionStatus
  reason : String
  message : String
  observedGeneration : Nat := 0
  deriving DecidableEq, Repr

/-- `meta.SetStatusCondition`: replace the condition of that type, or append it. -/
def setStatusCondition : List Condition → Condition → List Condition
  | [], c => [c]
  | d :: ds, c => if d.type = c.type then c :: ds else d :: setStatusCondition ds c

def findStatusCondition (cs : List Condition) (type : String) : Option Condition :=
  cs.find? (fun c => c.type == type)

def isStatusConditionTrue (cs : List Condition) (type : String) : Bool :=
  (findStatusCondition cs type).any (fun c => c.status == .true)

@[simp] theorem findStatusCondition_set (cs : List Condition) (c : Condition) :
    findStatusCondition (setStatusCondition cs c) c.type = some c := by
  induction cs with
  | nil => simp [setStatusCondition, findStatusCondition]
  | cons d ds ih =>
      by_cases h : d.type = c.type
      · simp [setStatusCondition, findStatusCondition, h]
      · simp only [findStatusCondition] at ih ⊢
        simp [setStatusCondition, h, ih]

theorem mem_setStatusCondition {cs : List Condition} {c d : Condition}
    (h : d ∈ setStatusCondition cs c) : d = c ∨ d ∈ cs := by
  induction cs with
  | nil => exact Or.inl (List.mem_singleton.mp h)
  | cons e es ih =>
      rw [setStatusCondition] at h
      split at h
      · exact (List.mem_cons.mp h).imp id (List.mem_cons_of_mem _)
      · rcases List.mem_cons.mp h with rfl | h
        · exact Or.inr (List.mem_cons_self ..)
        · exact (ih h).imp id (List.mem_cons_of_mem _)

theorem isStatusConditionTrue_set (cs : List Condition) (c : Condition) :
    isStatusConditionTrue (setStatusCondition cs c) c.type = (c.status == .true) := by
  simp [isStatusConditionTrue]

end Heir
