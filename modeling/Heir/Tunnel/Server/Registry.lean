import Heir.Lib.Automaton
import Heir.Tunnel.Server.Broker

set_option autoImplicit false

/-! # The broker under concurrent use

`Register` draws an id, starts a session, files the tunnel under the lock and leaves a goroutine
behind that serves it. The goroutine ends when the session is closed or the context of the call is
done; it then takes the tunnel out and closes it. `Unregister` may also be called from outside, with
any arguments and more than once, and `Pick` runs under the read lock.

A history of such events determines what the broker lists: what was registered and has not been
unregistered since (`Live`). `registry_exact` says that this is what the map holds at all times.
-/

namespace Heir.TunnelServer

/-- Where the goroutine of a tunnel is. -/
inductive Stage where
  | serving
  | unregistering
  | closing
  deriving DecidableEq

/-- A goroutine that serves a tunnel, with the two variables its deferred function uses. -/
structure Goroutine where
  nodeName : String
  id : String
  stage : Stage := .serving
  deriving DecidableEq

structure State (Conn : Type) where
  broker : Broker Conn := {}
  /-- The ids `uuid.New` has returned. -/
  issued : List String := []
  /-- The calls of `Register` that have a session and do not hold the lock yet. -/
  registering : List (String × Tunnel Conn) := []
  goroutines : List Goroutine := []
  /-- The tunnels whose session is closed. -/
  closed : List String := []
  /-- The tunnels whose `Register` was called with a context that is done. -/
  cancelled : List String := []

inductive Event (Conn : Type) where
  /-- `Register` is called; it fails if no session can be started. -/
  | start (nodeName : String) (cnn : Conn) (id : String) (sessionFails : Bool)
  /-- The critical section of `Register` and its `go` statement. -/
  | register (nodeName : String) (t : Tunnel Conn)
  /-- The session of a tunnel dies. -/
  | die (id : String)
  /-- The context of the call that made a tunnel is done. -/
  | cancel (id : String)
  /-- `tunnel.Serve` returns. -/
  | served (nodeName id : String)
  /-- The deferred `Unregister` of a goroutine. -/
  | leave (nodeName id : String)
  /-- The deferred `tunnel.Close` of a goroutine. -/
  | close (nodeName id : String)
  /-- A call of `Unregister` from anywhere else. -/
  | unregister (nodeName id : String)
  /-- A call of `Pick`; `dies i id` says that the session `id` has died by round `i` of its loop. -/
  | pick (nodeName : String) (dies : Nat → String → Bool)

/-- What an event does to the registry. -/
inductive Op (Conn : Type) where
  | register (nodeName : String) (t : Tunnel Conn)
  | unregister (nodeName id : String)
  deriving DecidableEq

variable {Conn : Type}

def Event.op : Event Conn → Option (Op Conn)
  | .register nodeName t => some (.register nodeName t)
  | .leave nodeName id => some (.unregister nodeName id)
  | .unregister nodeName id => some (.unregister nodeName id)
  | _ => none

namespace State

/-- The answers of `IsClosed` to a call of `Pick`. -/
def isClosed (s : State Conn) (dies : Nat → String → Bool) (i : Nat) (t : Tunnel Conn) : Bool :=
  decide (t.id ∈ s.closed) || dies i t.id

/-- A goroutine that is at one stage goes to another. -/
def move (s : State Conn) (g : Goroutine) (stage : Stage) : List Goroutine :=
  { g with stage := stage } :: s.goroutines.erase g

variable [DecidableEq Conn]

def step (s : State Conn) : Event Conn → Option (State Conn)
  | .start nodeName cnn id sessionFails =>
      if id ∈ s.issued then none
      else if sessionFails then some { s with issued := id :: s.issued }
      else some { s with
        issued := id :: s.issued
        registering := (nodeName, ⟨id, cnn⟩) :: s.registering }
  | .register nodeName t =>
      if (nodeName, t) ∈ s.registering then
        some { s with
          broker := s.broker.register nodeName t
          registering := s.registering.erase (nodeName, t)
          goroutines := { nodeName, id := t.id } :: s.goroutines }
      else none
  | .die id => some { s with closed := id :: s.closed }
  | .cancel id => some { s with cancelled := id :: s.cancelled }
  | .served nodeName id =>
      if { nodeName, id } ∈ s.goroutines then
        -- whether or not `Serve` failed, the loop ends only here
        if id ∈ s.closed ∨ id ∈ s.cancelled then
          some { s with goroutines := s.move { nodeName, id } .unregistering }
        else some s
      else none
  | .leave nodeName id =>
      if { nodeName, id, stage := .unregistering } ∈ s.goroutines then
        some { s with
          broker := s.broker.unregister nodeName id
          goroutines := s.move { nodeName, id, stage := .unregistering } .closing }
      else none
  | .close nodeName id =>
      if { nodeName, id, stage := .closing } ∈ s.goroutines then
        some { s with
          closed := id :: s.closed
          goroutines := s.goroutines.erase { nodeName, id, stage := .closing } }
      else none
  | .unregister nodeName id => some { s with broker := s.broker.unregister nodeName id }
  | .pick nodeName dies => some { s with broker := (s.broker.pick (s.isClosed dies) nodeName).2 }

end State

/-- The broker, its callers and its goroutines. -/
def registry (Conn : Type) [DecidableEq Conn] : Automaton (State Conn) (Event Conn) where
  init := {}
  step := State.step

/-! ## What a history determines -/

/-- The tunnel was registered for the node and has not been unregistered since. -/
def Live (h : List (Event Conn)) (nodeName : String) (t : Tunnel Conn) : Prop :=
  ∃ h₁ e h₂, h = h₁ ++ e :: h₂ ∧ e.op = some (.register nodeName t) ∧
    ∀ e' ∈ h₂, e'.op ≠ some (.unregister nodeName t.id)

theorem not_live_nil (n : String) (t : Tunnel Conn) : ¬ Live [] n t := by
  rintro ⟨h₁, e, h₂, h, -⟩
  simp at h

variable {e : Event Conn} {h : List (Event Conn)} {n : String} {s s' : State Conn} {t : Tunnel Conn}

theorem Event.eq_of_op_register (h : e.op = some (.register n t)) : e = .register n t := by
  cases e with
  | register m u =>
      cases h
      rfl
  | _ => cases h

theorem Live.mem (hlive : Live h n t) : .register n t ∈ h := by
  obtain ⟨h₁, e, h₂, rfl, hop, -⟩ := hlive
  rw [Event.eq_of_op_register hop]
  simp

theorem live_snoc (h : List (Event Conn)) (e : Event Conn) (n : String) (t : Tunnel Conn) :
    Live (h ++ [e]) n t ↔
      e.op = some (.register n t) ∨ (Live h n t ∧ e.op ≠ some (.unregister n t.id)) := by
  constructor
  · rintro ⟨h₁, e₁, h₂, heq, hop, hsince⟩
    obtain rfl | ⟨h₂, e₂, rfl⟩ := List.eq_nil_or_concat h₂
    · -- the last event is the registration
      obtain ⟨-, hlast⟩ := List.append_inj' heq rfl
      cases hlast
      exact Or.inl hop
    · rw [List.concat_eq_append] at heq hsince
      obtain ⟨rfl, hlast⟩ := List.append_inj' (by simpa using heq :
        h ++ [e] = (h₁ ++ e₁ :: h₂) ++ [e₂]) rfl
      cases hlast
      refine Or.inr ⟨⟨h₁, e₁, h₂, rfl, hop, fun e' he' => hsince e' ?_⟩, hsince e (by simp)⟩
      exact List.mem_append_left _ he'
  · rintro (hop | ⟨⟨h₁, e₁, h₂, rfl, hop, hsince⟩, he⟩)
    · exact ⟨h, e, [], rfl, hop, by simp⟩
    · refine ⟨h₁, e₁, h₂ ++ [e], by simp, hop, fun e' he' => ?_⟩
      rcases List.mem_append.mp he' with he' | he'
      · exact hsince e' he'
      · rw [List.mem_singleton.mp he']
        exact he

theorem live_snoc_of_none (he : e.op = none) (n : String) (t : Tunnel Conn) :
    Live (h ++ [e]) n t ↔ Live h n t := by
  rw [live_snoc, he]
  simp

theorem live_snoc_register {m : String} {u : Tunnel Conn} (he : e.op = some (.register m u))
    (n : String) (t : Tunnel Conn) : Live (h ++ [e]) n t ↔ (n = m ∧ t = u) ∨ Live h n t := by
  rw [live_snoc, he]
  simp only [Option.some.injEq, Op.register.injEq, ne_eq, reduceCtorEq, not_false_eq_true,
    and_true]
  exact or_congr_left ⟨fun h => ⟨h.1.symm, h.2.symm⟩, fun h => ⟨h.1.symm, h.2.symm⟩⟩

theorem live_snoc_unregister {m id : String} (he : e.op = some (.unregister m id)) (n : String)
    (t : Tunnel Conn) : Live (h ++ [e]) n t ↔ Live h n t ∧ ¬ (n = m ∧ t.id = id) := by
  rw [live_snoc, he]
  simp only [Option.some.injEq, reduceCtorEq, Op.unregister.injEq, ne_eq, false_or]
  exact and_congr_right fun _ => not_congr
    ⟨fun h => ⟨h.1.symm, h.2.symm⟩, fun h => ⟨h.1.symm, h.2.symm⟩⟩

/-! ## Tunnels and their ids -/

/-- The tunnel exists for the node: it is listed or about to be. -/
def Held (s : State Conn) (nodeName : String) (t : Tunnel Conn) : Prop :=
  t ∈ s.broker.listed nodeName ∨ (nodeName, t) ∈ s.registering

structure Consistent (s : State Conn) : Prop where
  issued : ∀ n t, Held s n t → t.id ∈ s.issued
  unique : ∀ n m t u, Held s n t → Held s m u → t.id = u.id → n = m ∧ t = u
  nodup : ∀ n, (s.broker.listed n).Nodup
  pending : s.registering.Nodup
  once : ∀ n t, (n, t) ∈ s.registering → t ∉ s.broker.listed n

theorem Consistent.nodup_ids (hs : Consistent s) (n : String) :
    ((s.broker.listed n).map Tunnel.id).Nodup :=
  (hs.nodup n).map_on fun t ht u hu hid =>
    (hs.unique n n t u (Or.inl ht) (Or.inl hu) hid).2

/-- With nothing about to be registered twice, a step that only loses tunnels keeps the
invariant. -/
theorem Consistent.of_subset (hs : Consistent s) (hissued : s.issued ⊆ s'.issued)
    (hregistering : s'.registering = s.registering)
    (hlisted : ∀ n, (s'.broker.listed n).Subperm (s.broker.listed n)) : Consistent s' := by
  have hheld : ∀ n t, Held s' n t → Held s n t := by
    rintro n t (h | h)
    · exact Or.inl ((hlisted n).subset h)
    · exact Or.inr (hregistering ▸ h)
  constructor
  · intro n t h
    exact hissued (hs.issued n t (hheld n t h))
  · intro n m t u ht hu
    exact hs.unique n m t u (hheld n t ht) (hheld m u hu)
  · intro n
    obtain ⟨l, hperm, hsub⟩ := hlisted n
    exact hperm.nodup_iff.mp (hsub.nodup (hs.nodup n))
  · rw [hregistering]
    exact hs.pending
  · intro n t h hmem
    exact hs.once n t (hregistering ▸ h) ((hlisted n).subset hmem)

theorem Consistent.issue (hs : Consistent s) (hfresh : t.id ∉ s.issued)
    (hissued : s'.issued = t.id :: s.issued)
    (hregistering : s'.registering = (n, t) :: s.registering) (hbroker : s'.broker = s.broker) :
    Consistent s' := by
  have hheld : ∀ m u, Held s' m u → (m = n ∧ u = t) ∨ Held s m u := by
    intro m u h
    rw [Held, hbroker, hregistering, List.mem_cons, Prod.mk.injEq] at h
    rcases h with h | h | h
    · exact Or.inr (Or.inl h)
    · exact Or.inl h
    · exact Or.inr (Or.inr h)
  -- the id of the new tunnel is not that of an old one
  have hne : ∀ m u, Held s m u → u.id ≠ t.id := fun m u h heq => hfresh (heq ▸ hs.issued m u h)
  constructor
  · intro m u h
    rw [hissued]
    rcases hheld m u h with ⟨-, rfl⟩ | h
    · exact List.mem_cons_self
    · exact List.mem_cons_of_mem _ (hs.issued m u h)
  · intro m k u v hu hv hid
    rcases hheld m u hu with ⟨rfl, rfl⟩ | hu
    · rcases hheld k v hv with ⟨rfl, rfl⟩ | hv
      · exact ⟨rfl, rfl⟩
      · exact absurd hid.symm (hne k v hv)
    · rcases hheld k v hv with ⟨rfl, rfl⟩ | hv
      · exact absurd hid (hne m u hu)
      · exact hs.unique m k u v hu hv hid
  · rw [hbroker]
    exact hs.nodup
  · rw [hregistering, List.nodup_cons]
    exact ⟨fun h => hne n t (Or.inr h) rfl, hs.pending⟩
  · intro m u h hmem
    rw [hbroker] at hmem
    rw [hregistering, List.mem_cons, Prod.mk.injEq] at h
    rcases h with ⟨rfl, rfl⟩ | h
    · exact hne m u (Or.inl hmem) rfl
    · exact hs.once m u h hmem

variable [DecidableEq Conn]

theorem Consistent.register (hs : Consistent s) (hmem : (n, t) ∈ s.registering)
    (hissued : s'.issued = s.issued) (hregistering : s'.registering = s.registering.erase (n, t))
    (hbroker : s'.broker = s.broker.register n t) : Consistent s' := by
  have hlisted : ∀ m u, u ∈ s'.broker.listed m → (m = n ∧ u = t) ∨ u ∈ s.broker.listed m := by
    intro m u h
    rw [hbroker, Broker.listed_register] at h
    split at h
    · next hm =>
        subst hm
        rcases List.mem_append.mp h with h | h
        · exact Or.inr h
        · exact Or.inl ⟨rfl, List.mem_singleton.mp h⟩
    · exact Or.inr h
  -- the tunnel has moved, so no tunnel is new
  have hheld : ∀ m u, Held s' m u → Held s m u := by
    rintro m u (h | h)
    · rcases hlisted m u h with ⟨rfl, rfl⟩ | h
      · exact Or.inr hmem
      · exact Or.inl h
    · rw [hregistering] at h
      exact Or.inr (List.mem_of_mem_erase h)
  constructor
  · intro m u h
    rw [hissued]
    exact hs.issued m u (hheld m u h)
  · intro m k u v hu hv
    exact hs.unique m k u v (hheld m u hu) (hheld k v hv)
  · intro m
    rw [hbroker, Broker.listed_register]
    split
    · rw [List.nodup_append_comm]
      exact List.nodup_cons.mpr ⟨hs.once n t hmem, hs.nodup n⟩
    · exact hs.nodup m
  · rw [hregistering]
    exact hs.pending.erase _
  · intro m u h hlist
    rw [hregistering, hs.pending.mem_erase_iff] at h
    rcases hlisted m u hlist with ⟨rfl, rfl⟩ | hlist
    · exact h.1 rfl
    · exact hs.once m u h.2 hlist

/-! ## What a step can do -/

/-- The effect of an event on the tunnels of the broker and on those about to be registered. -/
inductive Effect (s s' : State Conn) : Event Conn → Prop where
  /-- An id is drawn and the session fails. -/
  | fail (n : String) (cnn : Conn) (id : String) (hissued : s'.issued = id :: s.issued)
      (hregistering : s'.registering = s.registering) (hbroker : s'.broker = s.broker) :
      Effect s s' (.start n cnn id true)
  /-- An id is drawn and a tunnel made for it. -/
  | issue (n : String) (cnn : Conn) (id : String) (hfresh : id ∉ s.issued)
      (hissued : s'.issued = id :: s.issued)
      (hregistering : s'.registering = (n, ⟨id, cnn⟩) :: s.registering)
      (hbroker : s'.broker = s.broker) : Effect s s' (.start n cnn id false)
  | register (n : String) (t : Tunnel Conn) (hmem : (n, t) ∈ s.registering)
      (hissued : s'.issued = s.issued)
      (hregistering : s'.registering = s.registering.erase (n, t))
      (hbroker : s'.broker = s.broker.register n t) : Effect s s' (.register n t)
  | unregister {e : Event Conn} (n id : String) (he : e.op = some (.unregister n id))
      (hissued : s'.issued = s.issued) (hregistering : s'.registering = s.registering)
      (hbroker : s'.broker = s.broker.unregister n id) : Effect s s' e
  | quiet {e : Event Conn} (he : e.op = none) (hissued : s'.issued = s.issued)
      (hregistering : s'.registering = s.registering)
      (hlisted : s'.broker.listed = s.broker.listed)
      (hoccupied : s.broker.Occupied → s'.broker.Occupied) : Effect s s' e

theorem step_effect (h : s.step e = some s') : Effect s s' e := by
  cases e with
  | start n cnn id sessionFails =>
      simp only [State.step, Option.ite_none_left_eq_some] at h
      obtain ⟨hfresh, h⟩ := h
      split at h
      · next hfails =>
          subst hfails
          cases h
          exact .fail n cnn id rfl rfl rfl
      · next hfails =>
          rw [Bool.not_eq_true] at hfails
          subst hfails
          cases h
          exact .issue n cnn id hfresh rfl rfl rfl
  | register n t =>
      simp only [State.step, Option.ite_none_right_eq_some] at h
      obtain ⟨hmem, h⟩ := h
      cases h
      exact .register n t hmem rfl rfl rfl
  | die id | cancel id =>
      cases h
      exact .quiet rfl rfl rfl rfl (fun ho => ho)
  | served n id =>
      simp only [State.step, Option.ite_none_right_eq_some] at h
      obtain ⟨-, h⟩ := h
      split at h
      · cases h
        exact .quiet rfl rfl rfl rfl (fun ho => ho)
      · cases h
        exact .quiet rfl rfl rfl rfl (fun ho => ho)
  | leave n id =>
      simp only [State.step, Option.ite_none_right_eq_some] at h
      obtain ⟨-, h⟩ := h
      cases h
      exact .unregister n id rfl rfl rfl rfl
  | close n id =>
      simp only [State.step, Option.ite_none_right_eq_some] at h
      obtain ⟨-, h⟩ := h
      cases h
      exact .quiet rfl rfl rfl rfl (fun ho => ho)
  | unregister n id =>
      cases h
      exact .unregister n id rfl rfl rfl rfl
  | pick n dies =>
      cases h
      exact .quiet rfl rfl rfl (funext fun m => Broker.listed_pick _ _ _ m) (fun ho => ho.pick _ _)

theorem Consistent.effect (hs : Consistent s) (h : Effect s s' e) : Consistent s' := by
  cases h with
  | fail n cnn id hissued hregistering hbroker =>
      -- only the id is used up
      refine hs.of_subset (fun i hi => ?_) hregistering fun m => ?_
      · rw [hissued]
        exact List.mem_cons_of_mem _ hi
      · rw [hbroker]
  | issue n cnn id hfresh hissued hregistering hbroker =>
      exact hs.issue hfresh hissued hregistering hbroker
  | register n t hmem hissued hregistering hbroker =>
      exact hs.register hmem hissued hregistering hbroker
  | unregister n id _ hissued hregistering hbroker =>
      refine hs.of_subset (fun i hi => hissued ▸ hi) hregistering fun m => ?_
      rw [hbroker]
      by_cases hm : n = m
      · subst hm
        exact (Broker.unregister_perm s.broker n id).subperm.trans
          List.eraseP_sublist.subperm
      · rw [Broker.unregister_other _ _ hm]
  | quiet _ hissued hregistering hlisted _ =>
      refine hs.of_subset (fun i hi => hissued ▸ hi) hregistering fun m => ?_
      rw [hlisted]

/-! ## Whole runs -/

theorem consistent_of_trace (hrun : (registry Conn).Trace h s) : Consistent s := by
  refine hrun.invariant (fun _ s => Consistent s) ?_ fun _ hs he => hs.effect (step_effect he)
  constructor
  · rintro n t (h | h) <;> cases h
  · rintro n m t u (h | h) <;> cases h
  · exact fun n => .nil
  · exact .nil
  · rintro n t h
    cases h

theorem occupied_of_trace (hrun : (registry Conn).Trace h s) : s.broker.Occupied := by
  refine hrun.invariant (fun _ s => s.broker.Occupied) (fun n set h => ?_) fun _ hs he => ?_
  · cases h
  · cases step_effect he with
    | fail n cnn id _ _ hbroker | issue n cnn id _ _ _ hbroker => exact hbroker ▸ hs
    | register n t _ _ _ hbroker => exact hbroker ▸ hs.register n t
    | unregister n id _ _ _ hbroker => exact hbroker ▸ hs.unregister n id
    | quiet _ _ _ _ hoccupied => exact hoccupied hs

theorem listed_of_trace (hrun : (registry Conn).Trace h s) :
    ∀ n t, t ∈ s.broker.listed n ↔ Live h n t := by
  refine hrun.invariant (fun h s => ∀ n t, t ∈ s.broker.listed n ↔ Live h n t) (fun n t => ?_)
    fun {h s e s'} hrun hs he n t => ?_
  · exact iff_of_false List.not_mem_nil (not_live_nil n t)
  · cases step_effect he with
    | fail m cnn id _ _ hbroker | issue m cnn id _ _ _ hbroker =>
        rw [hbroker, live_snoc_of_none rfl, hs]
    | register m u _ _ _ hbroker =>
        rw [hbroker, live_snoc_register rfl, Broker.listed_register, ← hs]
        split
        · next hm =>
            subst hm
            rw [List.mem_append, List.mem_singleton, or_comm, and_iff_right rfl]
        · next hm => rw [or_iff_right fun h => hm h.1.symm]
    | unregister m id hop _ _ hbroker =>
        rw [hbroker, live_snoc_unregister hop, ← hs]
        by_cases hm : m = n
        · subst hm
          rw [Broker.mem_unregister ((consistent_of_trace hrun).nodup_ids m), and_iff_right rfl]
        · rw [Broker.unregister_other _ _ hm, and_iff_left fun h => hm h.1.symm]
    | quiet hop _ _ hlisted _ => rw [hlisted, live_snoc_of_none hop, hs]

/-- A tunnel was made for the node it is filed under, by a call of `Register` with its
connection. -/
theorem started_of_trace (hrun : (registry Conn).Trace h s) :
    ∀ n t, Held s n t → .start n t.cnn t.id false ∈ h := by
  refine hrun.invariant (fun h s => ∀ n t, Held s n t → .start n t.cnn t.id false ∈ h)
    (fun n t hheld => ?_) fun {h s e s'} hrun hs he n t hheld => List.mem_append.mpr ?_
  · rcases hheld with h | h <;> cases h
  · cases step_effect he with
    | fail m cnn id _ hregistering hbroker =>
        rw [Held, hbroker, hregistering] at hheld
        exact Or.inl (hs n t hheld)
    | issue m cnn id _ _ hregistering hbroker =>
        rw [Held, hbroker, hregistering, List.mem_cons, Prod.mk.injEq] at hheld
        rcases hheld with hlist | ⟨rfl, rfl⟩ | hreg
        · exact Or.inl (hs n t (Or.inl hlist))
        · exact Or.inr List.mem_cons_self
        · exact Or.inl (hs n t (Or.inr hreg))
    | register m u hmem _ hregistering hbroker =>
        rw [Held, hbroker, hregistering, Broker.listed_register] at hheld
        rcases hheld with hlist | hreg
        · split at hlist
          · next hm =>
              subst hm
              rcases List.mem_append.mp hlist with hlist | hnew
              · exact Or.inl (hs m t (Or.inl hlist))
              · rw [List.mem_singleton.mp hnew]
                exact Or.inl (hs m u (Or.inr hmem))
          · exact Or.inl (hs n t (Or.inl hlist))
        · exact Or.inl (hs n t (Or.inr (List.mem_of_mem_erase hreg)))
    | unregister m id _ _ hregistering hbroker =>
        rw [Held, hbroker, hregistering] at hheld
        rcases hheld with hlist | hreg
        · refine Or.inl (hs n t (Or.inl ?_))
          by_cases hm : m = n
          · subst hm
            exact ((Broker.mem_unregister ((consistent_of_trace hrun).nodup_ids m) id t).mp hlist).1
          · rwa [Broker.unregister_other _ _ hm] at hlist
        · exact Or.inl (hs n t (Or.inr hreg))
    | quiet _ _ hregistering hlisted _ =>
        rw [Held, hlisted, hregistering] at hheld
        exact Or.inl (hs n t hheld)

/-- The registry holds what the history says, each tunnel once and under an id of its own. -/
structure Exact (h : List (Event Conn)) (s : State Conn) : Prop where
  /-- No two tunnels of the registry have the same id. -/
  unique : ∀ n m t u, t ∈ s.broker.listed n → u ∈ s.broker.listed m → t.id = u.id → n = m ∧ t = u
  /-- No id is listed twice for a node. -/
  nodup : ∀ n, ((s.broker.listed n).map Tunnel.id).Nodup
  /-- No node is kept without a tunnel. -/
  occupied : s.broker.Occupied
  listed : ∀ n t, t ∈ s.broker.listed n ↔ Live h n t

/-- From `b` to `b'` at most one tunnel is lost, the one with the id of the node. -/
structure Removes (nodeName id : String) (b b' : Broker Conn) : Prop where
  atMostOne : (b'.listed nodeName).Perm ((b.listed nodeName).eraseP (fun t => t.id == id))
  mem_iff : ∀ t, t ∈ b'.listed nodeName ↔ t ∈ b.listed nodeName ∧ t.id ≠ id
  others : ∀ m, m ≠ nodeName → b'.listed m = b.listed m

/-- **The registry of the broker is exact.** After every history of calls and goroutines: the ids are
unique, no node is left without a tunnel and the tunnels of a node are those registered for it and
not unregistered since. Every call of `Unregister` takes out the tunnel it names and nothing else,
and `Pick` returns a tunnel that is listed. -/
theorem registry_exact {h : List (Event Conn)} {s : State Conn}
    (hrun : (registry Conn).Trace h s) :
    Exact h s ∧
    (∀ e s' nodeName id, s.step e = some s' → e.op = some (.unregister nodeName id) →
      Removes nodeName id s.broker s'.broker) ∧
    ∀ nodeName isClosed t, (s.broker.pick isClosed nodeName).1 = some t →
      t ∈ s.broker.listed nodeName := by
  have hs := consistent_of_trace hrun
  refine ⟨⟨?_, hs.nodup_ids, occupied_of_trace hrun, listed_of_trace hrun⟩, ?_, ?_⟩
  · intro n m t u ht hu
    exact hs.unique n m t u (Or.inl ht) (Or.inl hu)
  · intro e s' n id he hop
    have hbroker : s'.broker = s.broker.unregister n id := by
      cases step_effect he with
      | fail | issue | register => cases hop
      | unregister m id' hop' _ _ hbroker =>
          rw [hop] at hop'
          cases hop'
          exact hbroker
      | quiet hop' =>
          rw [hop] at hop'
          cases hop'
    rw [hbroker]
    exact ⟨Broker.unregister_perm _ _ _, Broker.mem_unregister (hs.nodup_ids n) id,
      fun m hm => Broker.unregister_other _ _ (Ne.symm hm)⟩
  · intro n isClosed t hpick
    exact (Broker.pick_mem hpick).1

/-- Two tunnels of a node; the session of the first dies and its goroutine takes it out after
somebody else has done so. -/
def twoTunnels : List (Event Nat) :=
  [.start "node-1" 7 "id-A" false, .start "node-1" 8 "id-B" false, .register "node-1" ⟨"id-B", 8⟩,
    .register "node-1" ⟨"id-A", 7⟩, .die "id-A", .served "node-1" "id-A",
    .unregister "node-1" "id-A", .leave "node-1" "id-A", .pick "node-1" (fun _ _ => false)]

theorem two_tunnels_exact : ∃ s, (registry Nat).Trace twoTunnels s ∧ Exact twoTunnels s ∧
    s.broker.listed "node-1" = [⟨"id-B", 8⟩] := by
  obtain ⟨s, hrun, hlisted⟩ := (registry Nat).exists_trace twoTunnels
    (fun s => s.broker.listed "node-1" = [⟨"id-B", 8⟩]) (by decide +kernel)
  exact ⟨s, hrun, (registry_exact hrun).1, hlisted⟩

end Heir.TunnelServer
