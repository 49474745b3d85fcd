import Heir.Lib.Automaton
import Heir.Lib.RoundRobin
import Heir.Tunnel.Server.Broker

set_option autoImplicit false

/-! # Which tunnel is picked

`Pick` takes the next value of the node's cursor and looks at as many tunnels as there are, from
that place on. The cursor is a 64-bit counter that wraps, and the place is taken modulo the number
of tunnels after the wrap.

`pick_exact_iff` says when every open tunnel is found, and `pick_fair` that tunnels are picked
equally often while the cursor does not wrap, however the calls of `Pick` interleave: only the
increment of the cursor is atomic.
-/

namespace Heir.TunnelServer

namespace Broker

variable {Conn : Type}

/-- The loop of `Pick`. -/
def probe (conns : List (Tunnel Conn)) (start : UInt64) (isClosed : Nat → Tunnel Conn → Bool) :
    Option (Tunnel Conn) :=
  (List.range conns.length).findSome? fun i =>
    (candidate conns start i).filter fun t => !isClosed i t

/-- The increment of the cursor in `Pick`, if the node has tunnels. -/
def ticket (b : Broker Conn) (nodeName : String) : Option (UInt64 × Broker Conn) :=
  match b.nodes[nodeName]? with
  | none => none
  | some set =>
      if set.conns = [] then none
      else
        let start := set.rr + 1
        some (start, { nodes := b.nodes.insert nodeName { set with rr := start } })

/-- `Pick` is the increment followed by the loop. -/
theorem pick_eq (b : Broker Conn) (isClosed : Nat → Tunnel Conn → Bool) (nodeName : String) :
    b.pick isClosed nodeName = ((b.ticket nodeName).bind fun x =>
      probe (b.listed nodeName) x.1 isClosed, ((b.ticket nodeName).map Prod.snd).getD b) := by
  cases hset : b.nodes[nodeName]? with
  | none => simp only [pick, ticket, hset, Option.bind_none, Option.map_none, Option.getD_none]
  | some set =>
      simp only [pick, ticket, hset, listed_of_some hset]
      split
      · rfl
      · rfl

variable {b : Broker Conn} {nodeName : String} {set : TunnelSet Conn}

theorem ticket_of_some (hset : b.nodes[nodeName]? = some set) (hne : set.conns ≠ []) :
    b.ticket nodeName =
      some (set.rr + 1, { nodes := b.nodes.insert nodeName { set with rr := set.rr + 1 } }) := by
  simp only [ticket, hset, if_neg hne]

/-! ## The places that are looked at -/

section Places

variable {conns : List (Tunnel Conn)} {start : UInt64}

theorem candidate_eq (hlen : conns.length < 2 ^ 63) {i : Nat} (hi : i < conns.length) :
    candidate conns start i =
      conns[RoundRobin.place (2 ^ 64) conns.length start.toNat i]? := by
  have hn : (UInt64.ofNat conns.length).toNat = conns.length := by
    rw [UInt64.toNat_ofNat', Nat.mod_eq_of_lt (by omega)]
  have hround : (UInt64.ofNat i).toNat = i := by
    rw [UInt64.toNat_ofNat', Nat.mod_eq_of_lt (by omega)]
  rw [candidate, UInt64.toNat_mod, UInt64.toNat_add, hn, hround, RoundRobin.place]

theorem probe_eq_none_iff (hlen : conns.length < 2 ^ 63) {isClosed : Nat → Tunnel Conn → Bool} :
    probe conns start isClosed = none ↔ ∀ i, i < conns.length → ∀ t,
      conns[RoundRobin.place (2 ^ 64) conns.length start.toNat i]? = some t →
        isClosed i t = true := by
  rw [probe, List.findSome?_eq_none_iff]
  constructor
  · intro h i hi t ht
    have hfilter := h i (List.mem_range.mpr hi)
    rw [candidate_eq hlen hi, ht, Option.filter_some] at hfilter
    by_contra hopen
    rw [Bool.not_eq_true] at hopen
    simp [hopen] at hfilter
  · intro h i hi
    rw [List.mem_range] at hi
    rw [candidate_eq hlen hi]
    cases ht : conns[RoundRobin.place (2 ^ 64) conns.length start.toNat i]? with
    | none => rfl
    | some t => simp [h i hi t ht]

theorem probe_open (hlen : conns.length < 2 ^ 63) (hne : conns ≠ []) :
    probe conns start (fun _ _ => false) = conns[start.toNat % conns.length]? := by
  have hpos : 0 < conns.length := List.length_pos_iff.mpr hne
  have hfirst : candidate conns start 0 = conns[start.toNat % conns.length]? := by
    rw [candidate_eq hlen hpos, RoundRobin.place_of_lt (by have := start.toNat_lt; omega),
      Nat.add_zero]
  obtain ⟨t, ht⟩ : ∃ t, conns[start.toNat % conns.length]? = some t :=
    ⟨_, List.getElem?_eq_getElem (Nat.mod_lt _ hpos)⟩
  obtain ⟨n, hn⟩ : ∃ n, conns.length = n + 1 := ⟨conns.length - 1, by omega⟩
  rw [probe, hn, List.range_succ_eq_map, List.findSome?_cons, ← hn, hfirst, ht]
  rfl

end Places

/-! ## Completeness -/

/-- `Pick` finds nothing exactly if all tunnels of the node are closed, and otherwise returns an
open one. -/
def PickExact (b : Broker Conn) (nodeName : String) (isClosed : Tunnel Conn → Bool) : Prop :=
  ((b.pick (fun _ => isClosed) nodeName).1 = none ↔ ∀ t ∈ b.listed nodeName, isClosed t = true) ∧
    ∀ t, (b.pick (fun _ => isClosed) nodeName).1 = some t →
      t ∈ b.listed nodeName ∧ isClosed t = false

theorem pickExact_of_covers (hset : b.nodes[nodeName]? = some set) (hne : set.conns ≠ [])
    (hlen : set.conns.length < 2 ^ 63)
    (hcovers : RoundRobin.Covers (2 ^ 64) set.conns.length (set.rr + 1).toNat)
    (isClosed : Tunnel Conn → Bool) : PickExact b nodeName isClosed := by
  have hpicked : (b.pick (fun _ => isClosed) nodeName).1 =
      probe set.conns (set.rr + 1) (fun _ => isClosed) := by
    rw [pick_eq, ticket_of_some hset hne, listed_of_some hset, Option.bind_some]
  refine ⟨?_, fun t ht => ?_⟩
  · rw [hpicked, probe_eq_none_iff hlen, listed_of_some hset]
    constructor
    · intro h t ht
      obtain ⟨r, hr, hrt⟩ := List.mem_iff_getElem.mp ht
      obtain ⟨i, hi, hplace⟩ := hcovers r hr
      refine h i hi t ?_
      rw [hplace, List.getElem?_eq_getElem hr, hrt]
    · intro h i _ t ht
      exact h t (List.mem_of_getElem? ht)
  · obtain ⟨hmem, i, hopen⟩ := pick_mem ht
    exact ⟨hmem, hopen⟩

/-- A place that is not looked at may be the only one with an open tunnel. -/
theorem covers_of_pickExact (hset : b.nodes[nodeName]? = some set) (hne : set.conns ≠ [])
    (hlen : set.conns.length < 2 ^ 63) (hnodup : set.conns.Nodup)
    (h : ∀ isClosed, PickExact b nodeName isClosed) :
    RoundRobin.Covers (2 ^ 64) set.conns.length (set.rr + 1).toNat := by
  classical
  intro r hr
  by_contra hmissed
  let only := set.conns[r]
  have hclosed : ∀ i, i < set.conns.length → ∀ t,
      set.conns[RoundRobin.place (2 ^ 64) set.conns.length (set.rr + 1).toNat i]? = some t →
        decide (t ≠ only) = true := by
    intro i hi t ht
    rw [decide_eq_true_eq]
    rintro rfl
    obtain ⟨hlt, hget⟩ := List.getElem?_eq_some_iff.mp ht
    exact hmissed ⟨i, hi, (hnodup.getElem_inj_iff).mp hget⟩
  have hnone : (b.pick (fun _ t => decide (t ≠ only)) nodeName).1 = none := by
    rw [pick_eq, ticket_of_some hset hne, listed_of_some hset, Option.bind_some]
    exact (probe_eq_none_iff hlen).mpr hclosed
  have hall := (h fun t => decide (t ≠ only)).1.mp hnone only (by
    rw [listed_of_some hset]
    exact List.getElem_mem hr)
  simp at hall

/-- **When `Pick` is exact.** For a node with tunnels, whichever of them are closed: exactly if the
cursor does not wrap during the call, or the number of tunnels divides `2 ^ 64`. -/
theorem pick_exact_iff {b : Broker Conn} {nodeName : String} {set : TunnelSet Conn}
    (hset : b.nodes[nodeName]? = some set) (hne : set.conns ≠ []) (hlen : set.conns.length < 2 ^ 63)
    (hnodup : set.conns.Nodup) :
    (∀ isClosed, PickExact b nodeName isClosed) ↔
      (set.rr + 1).toNat + set.conns.length ≤ 2 ^ 64 ∨ set.conns.length ∣ 2 ^ 64 := by
  have hpos : 0 < set.conns.length := List.length_pos_iff.mpr hne
  rw [← RoundRobin.covers_iff hpos (by omega) (set.rr + 1).toNat_lt]
  exact ⟨covers_of_pickExact hset hne hlen hnodup, pickExact_of_covers hset hne hlen⟩

/-- A node whose tunnels have the given ids, with a cursor. -/
def sampleNode (ids : List String) (rr : UInt64) : Broker Unit :=
  { nodes := (∅ : GoMap (TunnelSet Unit)).insert "node" ⟨ids.map (⟨·, ()⟩), rr⟩ }

/-- Two tunnels are found wherever the cursor is, here where it wraps and the first is closed. -/
theorem two_tunnels_pick_exact :
    PickExact (sampleNode ["a", "b"] 0xfffffffffffffffe) "node" (fun t => t.id == "a") := by
  have hset : (sampleNode ["a", "b"] 0xfffffffffffffffe).nodes["node"]? =
      some ⟨[⟨"a", ()⟩, ⟨"b", ()⟩], 0xfffffffffffffffe⟩ := by
    simp [sampleNode]
  exact (pick_exact_iff hset (by simp) (by simp) (by simp)).mpr (Or.inr (by simp)) _

/-- With three tunnels and the cursor about to wrap, the tunnel `c` is not looked at: nothing is
picked although it is open. -/
theorem third_tunnel_missed :
    ((sampleNode ["a", "b", "c"] 0xfffffffffffffffe).pick (fun _ t => t.id != "c") "node").1 = none ∧
      (⟨"c", ()⟩ : Tunnel Unit) ∈ (sampleNode ["a", "b", "c"] 0xfffffffffffffffe).listed "node" := by
  decide +kernel

/-! ## Calls that interleave -/

/-- A call of `Pick`: the value of the cursor it got, and what it returned once it has. -/
structure PickCall (Conn : Type) where
  start : UInt64
  answer : Option (Option (Tunnel Conn)) := none
  deriving DecidableEq

/-- The broker and the calls made so far, in the order of their increments. -/
structure Picking (Conn : Type) where
  broker : Broker Conn
  calls : List (PickCall Conn) := []

/-- A call increments the cursor, or a call returns. -/
inductive PickEvent where
  | enter
  | answer (i : Nat)

/-- Concurrent calls of `Pick` for a node whose tunnels are all open and stay registered. -/
def picking (b : Broker Conn) (nodeName : String) : Automaton (Picking Conn) PickEvent where
  init := ⟨b, []⟩
  step := fun s e =>
    match e with
    | .enter =>
        (s.broker.ticket nodeName).map fun x => ⟨x.2, s.calls ++ [⟨x.1, none⟩]⟩
    | .answer i =>
        (s.calls[i]?).bind fun c =>
          let picked := probe (s.broker.listed nodeName) c.start fun _ _ => false
          if c.answer = none then some { s with calls := s.calls.set i ⟨c.start, some picked⟩ }
          else none

/-- The state of concurrent calls: the cursor has advanced by one for each, and a call that has
returned has returned the tunnel at its place. -/
structure Rotating (nodeName : String) (set : TunnelSet Conn) (s : Picking Conn) : Prop where
  nodes : s.broker.nodes[nodeName]? =
    some { set with rr := set.rr + UInt64.ofNat s.calls.length }
  start : ∀ (i : Nat) (c : PickCall Conn), s.calls[i]? = some c →
    c.start = set.rr + UInt64.ofNat i + 1
  answer : ∀ (i : Nat) (c : PickCall Conn) (x : Option (Tunnel Conn)), s.calls[i]? = some c →
    c.answer = some x → x = set.conns[c.start.toNat % set.conns.length]?

variable {s s' : Picking Conn}

theorem Rotating.enter (hne : set.conns ≠ []) (hs : Rotating nodeName set s)
    (h : (picking b nodeName).step s .enter = some s') : Rotating nodeName set s' := by
  obtain ⟨x, hx, rfl⟩ := Option.map_eq_some_iff.mp h
  rw [ticket_of_some hs.nodes hne] at hx
  cases hx
  have hlast : ∀ (i : Nat) (c : PickCall Conn),
      (s.calls ++ [⟨set.rr + UInt64.ofNat s.calls.length + 1, none⟩])[i]? = some c →
        s.calls[i]? = some c ∨ i = s.calls.length ∧
          c = ⟨set.rr + UInt64.ofNat s.calls.length + 1, none⟩ := by
    intro i c hc
    rw [Slice.getElem?_append_one] at hc
    split at hc
    · next hi =>
        cases hc
        exact Or.inr ⟨hi, rfl⟩
    · exact Or.inl hc
  refine ⟨?_, fun i c hc => ?_, fun i c x hc hx => ?_⟩
  · rw [GoMap.getElem?_insert, if_pos rfl, List.length_append, List.length_singleton]
    have hrr : set.rr + UInt64.ofNat s.calls.length + 1 =
        set.rr + UInt64.ofNat (s.calls.length + 1) := by
      rw [UInt64.ofNat_add, UInt64.add_assoc]
      rfl
    rw [hrr]
  · rcases hlast i c hc with hold | ⟨rfl, rfl⟩
    · exact hs.start i c hold
    · rfl
  · rcases hlast i c hc with hold | ⟨rfl, rfl⟩
    · exact hs.answer i c x hold hx
    · cases hx

theorem Rotating.answers {i : Nat} (hne : set.conns ≠ [])
    (hlen : set.conns.length < 2 ^ 63) (hs : Rotating nodeName set s)
    (h : (picking b nodeName).step s (.answer i) = some s') : Rotating nodeName set s' := by
  obtain ⟨c, hc, h⟩ := Option.bind_eq_some_iff.mp h
  rw [Option.ite_none_right_eq_some] at h
  obtain ⟨-, h⟩ := h
  cases h
  have hlisted : s.broker.listed nodeName = set.conns := by rw [listed_of_some hs.nodes]
  have hcases : ∀ (j : Nat) (c' : PickCall Conn), (s.calls.set i
      ⟨c.start, some (probe (s.broker.listed nodeName) c.start fun _ _ => false)⟩)[j]? = some c' →
        s.calls[j]? = some c' ∨
          j = i ∧ c' = ⟨c.start, some set.conns[c.start.toNat % set.conns.length]?⟩ := by
    intro j c' hc'
    rw [List.getElem?_set, hlisted, probe_open hlen hne] at hc'
    split at hc'
    · next hij =>
        split at hc'
        · cases hc'
          exact Or.inr ⟨hij.symm, rfl⟩
        · cases hc'
    · exact Or.inl hc'
  refine ⟨?_, fun j c' hc' => ?_, fun j c' x hc' hx => ?_⟩
  · rw [List.length_set]
    exact hs.nodes
  · rcases hcases j c' hc' with hold | ⟨rfl, rfl⟩
    · exact hs.start j c' hold
    · exact hs.start j c hc
  · rcases hcases j c' hc' with hold | ⟨rfl, rfl⟩
    · exact hs.answer j c' x hold hx
    · cases hx
      rfl

theorem rotating_of_trace (hset : b.nodes[nodeName]? = some set) (hne : set.conns ≠ [])
    (hlen : set.conns.length < 2 ^ 63) {h : List PickEvent}
    (hrun : (picking b nodeName).Trace h s) :
    Rotating nodeName set s := by
  refine hrun.invariant (fun _ s => Rotating nodeName set s) ?_ ?_
  · refine ⟨?_, fun i c hc => ?_, fun i c x hc _ => ?_⟩
    · have hzero : set.rr + UInt64.ofNat 0 = set.rr := UInt64.add_zero _
      rw [show ((picking b nodeName).init.calls).length = 0 from rfl, hzero]
      exact hset
    · cases hc
    · cases hc
  · intro _ s e s' _ hs hstep
    cases e with
    | enter => exact hs.enter hne hstep
    | answer i => exact hs.answers hne hlen hstep

/-! ## Fairness -/

/-- What consecutive calls have returned, if the cursor does not wrap meanwhile. -/
theorem Rotating.answers_eq (hs : Rotating nodeName set s) {i len : Nat}
    (hwrap : (set.rr + UInt64.ofNat i).toNat + len < 2 ^ 64)
    (hreturned : ∀ j, j < len → ∃ c x, s.calls[i + j]? = some c ∧ c.answer = some x) :
    ((s.calls.drop i).take len).map PickCall.answer =
      (List.range' ((set.rr + UInt64.ofNat i).toNat + 1) len).map
        (fun x => some set.conns[x % set.conns.length]?) := by
  apply List.ext_getElem?
  intro j
  by_cases hj : j < len
  · obtain ⟨c, x, hc, hx⟩ := hreturned j hj
    have hstart : c.start.toNat = (set.rr + UInt64.ofNat i).toNat + 1 + j := by
      have hadd : set.rr + UInt64.ofNat (i + j) + 1 =
          set.rr + UInt64.ofNat i + UInt64.ofNat (j + 1) := by
        rw [UInt64.ofNat_add, UInt64.ofNat_add]
        simp only [UInt64.add_assoc]
        rfl
      rw [hs.start (i + j) c hc, hadd, UInt64.toNat_add, UInt64.toNat_ofNat',
        Nat.mod_eq_of_lt (show j + 1 < 2 ^ 64 by omega), Nat.mod_eq_of_lt (by omega)]
      omega
    rw [List.getElem?_map, List.getElem?_map, List.getElem?_take, List.getElem?_drop, if_pos hj,
      List.getElem?_range' hj, hc, Option.map_some, hx, hs.answer (i + j) c x hc hx, hstart,
      Nat.one_mul, Option.map_some]
  · have hleft : (((s.calls.drop i).take len).map PickCall.answer).length ≤ j := by
      rw [List.length_map, List.length_take]
      omega
    rw [List.getElem?_eq_none hleft, List.getElem?_eq_none (by simpa using hj)]

/-- **Fairness.** Concurrent calls of `Pick` for a node whose `n` tunnels are all open: of any `k * n`
calls that increment the cursor one after the other and have returned, `k` return each tunnel, if
the cursor does not wrap meanwhile. -/
theorem pick_fair [DecidableEq Conn] {b : Broker Conn} {nodeName : String} {set : TunnelSet Conn}
    (hset : b.nodes[nodeName]? = some set) (hlen : set.conns.length < 2 ^ 63)
    (hnodup : set.conns.Nodup) {h : List PickEvent} {s : Picking Conn}
    (hrun : (picking b nodeName).Trace h s) {i k : Nat}
    (hwrap : (set.rr + UInt64.ofNat i).toNat + k * set.conns.length < 2 ^ 64)
    (hreturned : ∀ j, j < k * set.conns.length →
      ∃ c x, s.calls[i + j]? = some c ∧ c.answer = some x)
    {t : Tunnel Conn} (ht : t ∈ set.conns) :
    ((s.calls.drop i).take (k * set.conns.length)).countP (fun c => c.answer = some (some t)) = k := by
  have hne : set.conns ≠ [] := List.ne_nil_of_mem ht
  have hanswers := (rotating_of_trace hset hne hlen hrun).answers_eq hwrap hreturned
  obtain ⟨r, hr, rfl⟩ := List.mem_iff_getElem.mp ht
  -- a tunnel is returned for the values of the cursor with its place as residue
  have hplace : ∀ x, some set.conns[x % set.conns.length]? = some (some set.conns[r]) ↔
      x % set.conns.length = r := by
    intro x
    have hx : x % set.conns.length < set.conns.length := Nat.mod_lt _ (by omega)
    rw [Option.some.injEq, List.getElem?_eq_getElem hx, Option.some.injEq, hnodup.getElem_inj_iff]
  calc ((s.calls.drop i).take (k * set.conns.length)).countP
        (fun c => c.answer = some (some set.conns[r]))
      = (((s.calls.drop i).take (k * set.conns.length)).map PickCall.answer).countP
          (fun a => a = some (some set.conns[r])) := by
        rw [List.countP_map]
        rfl
    _ = (List.range' ((set.rr + UInt64.ofNat i).toNat + 1) (k * set.conns.length)).countP
          (fun x => x % set.conns.length = r) := by
        rw [hanswers, List.countP_map]
        exact List.countP_congr fun x _ => by simpa using hplace x
    _ = k := RoundRobin.countP_mod hr _ k

/-- Two calls that return in the other order. -/
theorem two_calls_fair :
    ∃ s, (picking (sampleNode ["a", "b"] 5) "node").Trace
        [.enter, .enter, .answer 1, .answer 0] s ∧
      s.calls.countP (fun c => c.answer = some (some ⟨"a", ()⟩)) = 1 := by
  obtain ⟨s, hrun, hs⟩ := Automaton.exists_trace (picking (sampleNode ["a", "b"] 5) "node")
    [.enter, .enter, .answer 1, .answer 0]
    (fun s => s.calls = [⟨6, some (some ⟨"a", ()⟩)⟩, ⟨7, some (some ⟨"b", ()⟩)⟩]) (by decide +kernel)
  have hset : (sampleNode ["a", "b"] 5).nodes["node"]? =
      some ⟨[⟨"a", ()⟩, ⟨"b", ()⟩], 5⟩ := by
    simp [sampleNode]
  refine ⟨s, hrun, ?_⟩
  have hreturned : ∀ j, j < 1 * 2 → ∃ c x, s.calls[0 + j]? = some c ∧ c.answer = some x := by
    intro j hj
    rw [hs]
    obtain rfl | rfl : j = 0 ∨ j = 1 := by omega
    · exact ⟨_, _, rfl, rfl⟩
    · exact ⟨_, _, rfl, rfl⟩
  have hfair := pick_fair hset (by simp) (by simp) hrun (by decide) hreturned List.mem_cons_self
  rw [hs] at hfair ⊢
  exact hfair

end Broker

end Heir.TunnelServer
