import Heir.Lib.GoMap
import Heir.Lib.Slice

set_option autoImplicit false

/-! # The broker of the tunnel server

The broker keeps, for each node, the tunnels its connections have opened
(`pkg/tunnel/server/broker`). This module is the data and what its critical sections do to it;
`Registry.lean` lets them interleave.

The connection under a tunnel is whatever the listener accepted, so its type is a parameter.
-/

namespace Heir.TunnelServer

/-- A tunnel: the id it was given and the connection its session runs on. -/
structure Tunnel (Conn : Type) where
  id : String
  cnn : Conn
  deriving DecidableEq

/-- The tunnels of a node and the cursor of the round robin. -/
structure TunnelSet (Conn : Type) where
  conns : List (Tunnel Conn) := []
  rr : UInt64 := 0

structure Broker (Conn : Type) where
  nodes : GoMap (TunnelSet Conn) := ∅

namespace Broker

variable {Conn : Type}

/-- The critical section of `Register`: the tunnel is appended to the node's set, which is made if
this is the node's first. -/
def register (b : Broker Conn) (nodeName : String) (t : Tunnel Conn) : Broker Conn :=
  let set := (b.nodes[nodeName]?).getD {}
  { nodes := b.nodes.insert nodeName { set with conns := set.conns ++ [t] } }

def unregister (b : Broker Conn) (nodeName id : String) : Broker Conn :=
  match b.nodes[nodeName]? with
  | none => b
  | some set =>
      let conns := Slice.removeFirst (fun t => t.id == id) set.conns
      if conns = [] then { nodes := b.nodes.erase nodeName }
      else { nodes := b.nodes.insert nodeName { set with conns := conns } }

/-- The tunnel looked at in round `i` of the loop of `Pick`. The cursor counts modulo `2 ^ 64`. -/
def candidate (conns : List (Tunnel Conn)) (start : UInt64) (i : Nat) : Option (Tunnel Conn) :=
  conns[((start + UInt64.ofNat i) % UInt64.ofNat conns.length).toNat]?

/-- `Pick`: the first open tunnel from the cursor on. `isClosed i t` is what `IsClosed` answers in
round `i`: sessions may die while the loop runs. The cursor advances under the read lock. -/
def pick (b : Broker Conn) (isClosed : Nat → Tunnel Conn → Bool) (nodeName : String) :
    Option (Tunnel Conn) × Broker Conn :=
  match b.nodes[nodeName]? with
  | none => (none, b)
  | some set =>
      if set.conns = [] then (none, b)
      else
        let start := set.rr + 1
        let picked := (List.range set.conns.length).findSome? fun i =>
          (candidate set.conns start i).filter fun t => !isClosed i t
        (picked, { nodes := b.nodes.insert nodeName { set with rr := start } })

/-! ## The tunnels of a node -/

/-- The tunnels listed for a node. -/
def listed (b : Broker Conn) (nodeName : String) : List (Tunnel Conn) :=
  ((b.nodes[nodeName]?).getD {}).conns

/-- No node is kept without a tunnel. -/
def Occupied (b : Broker Conn) : Prop :=
  ∀ (nodeName : String) (set : TunnelSet Conn), b.nodes[nodeName]? = some set → set.conns ≠ []

variable {b : Broker Conn} {n : String}

theorem listed_of_some {set : TunnelSet Conn} (h : b.nodes[n]? = some set) :
    b.listed n = set.conns := by
  rw [listed, h, Option.getD_some]

theorem listed_of_none (h : b.nodes[n]? = none) : b.listed n = [] := by
  rw [listed, h, Option.getD_none]

theorem listed_insert (b : Broker Conn) (n m : String) (set : TunnelSet Conn) :
    ({ nodes := b.nodes.insert n set } : Broker Conn).listed m =
      if n = m then set.conns else b.listed m := by
  rw [listed, GoMap.getElem?_insert]
  split
  · rfl
  · rfl

theorem listed_register (b : Broker Conn) (n m : String) (t : Tunnel Conn) :
    (b.register n t).listed m = if n = m then b.listed n ++ [t] else b.listed m :=
  listed_insert b n m _

theorem listed_unregister (b : Broker Conn) (n m id : String) :
    (b.unregister n id).listed m =
      if n = m then Slice.removeFirst (fun t => t.id == id) (b.listed n) else b.listed m := by
  cases hset : b.nodes[n]? with
  | none =>
      have hempty : b.listed n = [] := listed_of_none hset
      simp only [unregister, hset]
      split
      · next h => rw [← h, hempty]; rfl
      · rfl
  | some set =>
      simp only [unregister, hset, listed_of_some hset]
      split
      · next hnil =>
          -- the set became empty and its key is deleted
          rw [listed, GoMap.getElem?_erase, hnil]
          split
          · rfl
          · rfl
      · exact listed_insert b n m _

@[simp] theorem listed_pick (b : Broker Conn) (isClosed : Nat → Tunnel Conn → Bool)
    (n m : String) : (b.pick isClosed n).2.listed m = b.listed m := by
  unfold pick
  split
  · rfl
  · next set hset =>
      split
      · rfl
      · rw [listed_insert]
        split
        · next h => rw [← h, listed_of_some hset]
        · rfl

/-- What is left after `Unregister`, up to the order: at most one tunnel with the id is gone. -/
theorem unregister_perm (b : Broker Conn) (n id : String) :
    ((b.unregister n id).listed n).Perm ((b.listed n).eraseP (fun t => t.id == id)) := by
  rw [listed_unregister, if_pos rfl]
  exact Slice.removeFirst_perm _ _

theorem unregister_other (b : Broker Conn) {m : String} (id : String) (h : n ≠ m) :
    (b.unregister n id).listed m = b.listed m := by
  rw [listed_unregister, if_neg h]

/-- As a set: with distinct ids, `Unregister` takes out exactly the tunnel with the id. -/
theorem mem_unregister (hnodup : ((b.listed n).map Tunnel.id).Nodup) (id : String)
    (t : Tunnel Conn) :
    t ∈ (b.unregister n id).listed n ↔ t ∈ b.listed n ∧ t.id ≠ id := by
  rw [(unregister_perm b n id).mem_iff]
  generalize b.listed n = l at hnodup ⊢
  induction l with
  | nil => simp
  | cons u l ih =>
      simp only [List.map_cons, List.nodup_cons] at hnodup
      by_cases hu : u.id = id
      · -- the first match is the only one
        have hrest : ∀ v ∈ l, v.id ≠ id := fun v hv heq =>
          hnodup.1 (List.mem_map.mpr ⟨v, hv, heq.trans hu.symm⟩)
        rw [List.eraseP_cons_of_pos (by simpa using hu)]
        constructor
        · intro ht
          exact ⟨List.mem_cons_of_mem _ ht, hrest t ht⟩
        · rintro ⟨ht, hid⟩
          rcases List.mem_cons.mp ht with rfl | ht
          · exact absurd hu hid
          · exact ht
      · rw [List.eraseP_cons_of_neg (by simpa using hu), List.mem_cons, List.mem_cons, ih hnodup.2]
        constructor
        · rintro (rfl | ⟨ht, hid⟩)
          · exact ⟨Or.inl rfl, hu⟩
          · exact ⟨Or.inr ht, hid⟩
        · rintro ⟨rfl | ht, hid⟩
          · exact Or.inl rfl
          · exact Or.inr ⟨ht, hid⟩

/-- `Pick` returns a tunnel that is listed for the node, and one that it has seen open. -/
theorem pick_mem {isClosed : Nat → Tunnel Conn → Bool} {t : Tunnel Conn}
    (h : (b.pick isClosed n).1 = some t) : t ∈ b.listed n ∧ ∃ i, isClosed i t = false := by
  unfold pick at h
  split at h
  · cases h
  · next set hset =>
      split at h
      · cases h
      · obtain ⟨i, -, hi⟩ := List.exists_of_findSome?_eq_some h
        obtain ⟨hcandidate, hopen⟩ := Option.filter_eq_some_iff.mp hi
        rw [listed_of_some hset]
        exact ⟨List.mem_of_getElem? hcandidate, i, by simpa using hopen⟩

/-! ## Nodes without tunnels -/

theorem Occupied.insert (hb : b.Occupied) (n : String) {set : TunnelSet Conn}
    (hset : set.conns ≠ []) : ({ nodes := b.nodes.insert n set } : Broker Conn).Occupied := by
  intro m set' h
  rw [GoMap.getElem?_insert] at h
  split at h
  · cases h
    exact hset
  · exact hb m set' h

theorem Occupied.register (hb : b.Occupied) (n : String) (t : Tunnel Conn) :
    (b.register n t).Occupied :=
  hb.insert n (by simp)

theorem Occupied.unregister (hb : b.Occupied) (n id : String) : (b.unregister n id).Occupied := by
  unfold Broker.unregister
  split
  · exact hb
  · dsimp only
    split
    · intro m set h
      rw [GoMap.getElem?_erase] at h
      split at h
      · cases h
      · exact hb m set h
    · next hne => exact hb.insert n hne

theorem Occupied.pick (hb : b.Occupied) (isClosed : Nat → Tunnel Conn → Bool) (n : String) :
    (b.pick isClosed n).2.Occupied := by
  unfold Broker.pick
  split
  · exact hb
  · split
    · exact hb
    · next hne => exact hb.insert n hne

end Broker

end Heir.TunnelServer
