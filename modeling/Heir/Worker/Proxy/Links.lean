import Heir.Worker.Proxy.Manager

set_option autoImplicit false

/-! # Links of the proxy manager

Links are pointers inside the downstreams, registration is in two maps. `RemoveUpstream` looks for
the downstreams to unlink by the *name* of the upstream they point to. That this leaves no link to an
object that is gone needs that an upstream is only registered under its own name (`Linked.named`).
-/

namespace Heir.Worker.Proxy

namespace State

/-- A registered downstream is linked to nothing or to a registered upstream. -/
def LinksRegistered (s : State) : Prop :=
  ∀ (name : String) (ds : Nat), s.downstreams[name]? = some ds →
    s.loadUpstream ds = none ∨
      ∃ (u : Nat) (uname : String), s.loadUpstream ds = some u ∧ s.upstreams[uname]? = some u

/-- The invariant of the two maps and the objects. -/
structure Linked (s : State) : Prop where
  /-- An upstream is registered under its own name. -/
  named : ∀ (name : String) (u : Nat), s.upstreams[name]? = some u → s.upstreamName u = some name
  valid : ∀ (name : String) (ds : Nat), s.downstreams[name]? = some ds →
    ds < s.downstreamObjects.length
  linked : ∀ (name : String) (ds u : Nat), s.downstreams[name]? = some ds →
    s.loadUpstream ds = some u → ∃ uname : String, s.upstreams[uname]? = some u

variable {s : State}

theorem Linked.linksRegistered (hs : s.Linked) : s.LinksRegistered := by
  intro name ds hds
  cases hu : s.loadUpstream ds with
  | none => exact Or.inl rfl
  | some u =>
      obtain ⟨uname, huname⟩ := hs.linked name ds u hds hu
      exact Or.inr ⟨u, uname, rfl, huname⟩

theorem Linked.congr {s' : State} (hs : s.Linked)
    (hupstreamObjects : s'.upstreamObjects = s.upstreamObjects)
    (hdownstreamObjects : s'.downstreamObjects = s.downstreamObjects)
    (hupstreams : s'.upstreams = s.upstreams) (hdownstreams : s'.downstreams = s.downstreams) :
    s'.Linked := by
  refine ⟨?_, ?_, ?_⟩
  · rw [hupstreams]
    simpa only [upstreamName, hupstreamObjects] using hs.named
  · rw [hdownstreams, hdownstreamObjects]
    exact hs.valid
  · rw [hdownstreams, hupstreams]
    simpa only [loadUpstream, hdownstreamObjects] using hs.linked

/-! ## Upstreams -/

theorem upstreamName_modify (s : State) (u u' : Nat) (endpoints : List Endpoint) :
    (((s.upstreamObjects.modify u ({ · with endpoints }))[u']?).map Upstream.name) =
      s.upstreamName u' := by
  rw [List.getElem?_modify, upstreamName]
  cases s.upstreamObjects[u']? with
  | none => rfl
  | some x =>
      by_cases hu : u = u'
      · simp [hu]
      · simp [hu]

theorem Linked.addUpstream (hs : s.Linked) (name : String) (endpoints : List Endpoint) :
    (s.addUpstream name endpoints).Linked := by
  cases hname : s.upstreams[name]? with
  | some u =>
      simp only [State.addUpstream, hname]
      refine ⟨fun n u' hu' => ?_, hs.valid, hs.linked⟩
      exact (upstreamName_modify s u u' endpoints).trans (hs.named n u' hu')
  | none =>
      simp only [State.addUpstream, hname]
      refine ⟨fun n u hu => ?_, hs.valid, fun n ds u hds hu => ?_⟩
      · simp only [GoMap.getElem?_insert] at hu
        simp only [upstreamName, Slice.getElem?_append_one]
        by_cases hn : name = n
        · rw [if_pos hn, Option.some.injEq] at hu
          rw [if_pos hu.symm, ← hn]
          rfl
        · rw [if_neg hn] at hu
          have hold := hs.named n u hu
          have hlt : u ≠ s.upstreamObjects.length := by
            rintro rfl
            simp [upstreamName] at hold
          rw [if_neg hlt]
          exact hold
      · obtain ⟨uname, huname⟩ := hs.linked n ds u hds hu
        refine ⟨uname, ?_⟩
        have hne : name ≠ uname := by
          rintro rfl
          rw [hname] at huname
          cases huname
        simp only [GoMap.getElem?_insert]
        rw [if_neg hne]
        exact huname

/-! The loop of `RemoveUpstream` -/

section Unlinking

variable {upstreams : List Upstream} {name : String}

theorem target_unlinkFrom (objects : List Downstream) (ds i : Nat) :
    target (unlinkFrom upstreams name objects ds) i =
      if ds = i ∧ ((target objects i).bind fun u => upstreams[u]?).any (·.name == name) then none
      else target objects i := by
  rw [target, unlinkFrom, List.getElem?_modify, target]
  cases objects[i]? with
  | none => simp
  | some d =>
      by_cases hi : ds = i
      · by_cases hname : (d.upstream.bind fun u => upstreams[u]?).any (·.name == name)
        · simp [hi, hname]
        · simp [hi, hname]
      · simp [hi]

theorem length_unlinkFrom (objects : List Downstream) (ds : Nat) :
    (unlinkFrom upstreams name objects ds).length = objects.length := by
  rw [unlinkFrom, List.length_modify]

theorem length_unlinkAll (l : List Nat) (objects : List Downstream) :
    (l.foldl (unlinkFrom upstreams name) objects).length = objects.length := by
  induction l generalizing objects with
  | nil => rfl
  | cons ds l ih => rw [List.foldl_cons, ih, length_unlinkFrom]

/-- A link that the loop leaves was there before it, and if the loop came by, it leads to an upstream
of another name. -/
theorem target_unlinkAll {l : List Nat} {objects : List Downstream} {i u : Nat}
    (h : target (l.foldl (unlinkFrom upstreams name) objects) i = some u) :
    target objects i = some u ∧
      (i ∈ l → (upstreams[u]?).any (fun x => x.name == name) = false) := by
  induction l generalizing objects with
  | nil => exact ⟨h, fun hi => absurd hi List.not_mem_nil⟩
  | cons ds l ih =>
      rw [List.foldl_cons] at h
      obtain ⟨htarget, hrest⟩ := ih h
      rw [target_unlinkFrom] at htarget
      split at htarget
      · cases htarget
      next hkept =>
      refine ⟨htarget, fun hi => ?_⟩
      rcases List.mem_cons.mp hi with rfl | hi
      · simpa [htarget] using hkept
      · exact hrest hi

end Unlinking

theorem Linked.removeUpstream (hs : s.Linked) (name : String) (order : GoMap.RangeOrder Nat) :
    (s.removeUpstream name order).Linked := by
  rw [State.removeUpstream]
  split
  · exact hs
  refine ⟨fun n u hu => ?_, fun n ds hds => ?_, fun n ds u hds hu => ?_⟩
  · simp only [GoMap.getElem?_erase, Option.ite_none_left_eq_some] at hu
    exact hs.named n u hu.2
  · simp only [length_unlinkAll]
    exact hs.valid n ds hds
  · obtain ⟨hold, hother⟩ := target_unlinkAll hu
    obtain ⟨uname, huname⟩ := hs.linked n ds u hds hold
    have hvisited : ds ∈ (order.visit s.downstreams).map Prod.snd :=
      List.mem_map.mpr ⟨(n, ds), (order.mem_visit s.downstreams n ds).mpr hds, rfl⟩
    -- the upstream is registered under its own name, which is not the one removed
    have hne : name ≠ uname := by
      rintro rfl
      obtain ⟨x, hx, hxname⟩ := Option.map_eq_some_iff.mp (hs.named name u huname)
      have := hother hvisited
      simp [hx, hxname] at this
    refine ⟨uname, ?_⟩
    simp only [GoMap.getElem?_erase, if_neg hne]
    exact huname

/-! ## Downstreams -/

theorem Linked.addDownstream (hs : s.Linked) (name listenAddr : String) :
    (s.addDownstream name listenAddr).Linked := by
  rw [State.addDownstream]
  split
  · exact hs
  refine ⟨hs.named, fun n ds hds => ?_, fun n ds u hds hu => ?_⟩
  · simp only [GoMap.getElem?_insert] at hds
    rw [List.length_append, List.length_singleton]
    split at hds
    · cases hds
      omega
    · have := hs.valid n ds hds
      omega
  · simp only [loadUpstream, target, Slice.getElem?_append_one] at hu
    simp only [GoMap.getElem?_insert] at hds
    split at hds
    · cases hds
      simp at hu
    · have hlt := hs.valid n ds hds
      rw [if_neg (by omega)] at hu
      exact hs.linked n ds u hds hu

theorem Linked.removeDownstream (hs : s.Linked) (name : String) :
    (s.removeDownstream name).Linked := by
  refine ⟨hs.named, fun n ds hds => ?_, fun n ds u hds hu => ?_⟩
  · simp only [State.removeDownstream, GoMap.getElem?_erase, Option.ite_none_left_eq_some] at hds
    exact hs.valid n ds hds.2
  · simp only [State.removeDownstream, GoMap.getElem?_erase, Option.ite_none_left_eq_some] at hds
    exact hs.linked n ds u hds.2 hu

/-! ## Links -/

theorem loadUpstream_setUpstream (s : State) (ds i : Nat) (u : Option Nat) :
    (s.setUpstream ds u).loadUpstream i =
      if ds = i ∧ i < s.downstreamObjects.length then u else s.loadUpstream i := by
  simp only [loadUpstream, setUpstream, target, List.getElem?_modify]
  cases h : s.downstreamObjects[i]? with
  | none =>
      rw [List.getElem?_eq_none_iff] at h
      rw [if_neg (by omega)]
      rfl
  | some d =>
      have hlt := (List.getElem?_eq_some_iff.mp h).1
      by_cases hi : ds = i
      · simp [hi, hlt]
      · simp [hi]

/-- A link is set to nothing or to an upstream that is registered. -/
theorem Linked.setUpstream (hs : s.Linked) (ds : Nat) {u : Option Nat}
    (hu : ∀ v, u = some v → ∃ uname : String, s.upstreams[uname]? = some v) :
    (s.setUpstream ds u).Linked := by
  refine ⟨hs.named, fun n i hi => ?_, fun n i v hi hv => ?_⟩
  · simp only [State.setUpstream, List.length_modify]
    exact hs.valid n i hi
  · rw [loadUpstream_setUpstream] at hv
    split at hv
    · exact hu v hv
    · exact hs.linked n i v hi hv

theorem Linked.link (hs : s.Linked) (downstreamName upstreamName : String) :
    (s.link downstreamName upstreamName).2.Linked := by
  rw [State.link]
  split
  · exact hs
  next ds _ =>
  split
  · exact hs
  next u hu =>
  have hlinked := hs.setUpstream ds (u := some u) fun v hv => ⟨upstreamName, hv ▸ hu⟩
  dsimp only
  split
  · exact hlinked
  · exact hlinked.congr rfl rfl rfl rfl

theorem Linked.unlink (hs : s.Linked) (downstreamName : String) :
    (s.unlink downstreamName).2.Linked := by
  rw [State.unlink]
  split
  · exact hs
  · exact hs.setUpstream _ fun v hv => by cases hv

/-! ## Every event -/

theorem Linked.advance {s' : State} (hs : s.Linked) {r : Nat} {here next : Stage}
    (h : s.advance r here next = some s') : s'.Linked := by
  obtain ⟨run, -, -, rfl⟩ := advance_eq_some.mp h
  exact hs.congr rfl rfl rfl rfl

theorem Linked.step {s' : State} (hs : s.Linked) {e : Event} (h : s.step e = some s') :
    s'.Linked := by
  cases e with
  | addUpstream name endpoints => cases h; exact hs.addUpstream name endpoints
  | removeUpstream name order => cases h; exact hs.removeUpstream name order
  | addDownstream name listenAddr => cases h; exact hs.addDownstream name listenAddr
  | removeDownstream name => cases h; exact hs.removeDownstream name
  | link downstreamName upstreamName => cases h; exact hs.link downstreamName upstreamName
  | unlink downstreamName => cases h; exact hs.unlink downstreamName
  | callClose => cases h; exact hs.congr rfl rfl rfl rfl
  | close order =>
      simp only [State.step, Option.ite_none_left_eq_some] at h
      obtain ⟨-, h⟩ := h
      cases h
      exact hs.congr rfl rfl rfl rfl
  | cancel => cases h; exact hs.congr rfl rfl rfl rfl
  | «return» r | signal r => exact hs.advance h
  | cleanUp r =>
      obtain ⟨run, -, -, rfl⟩ := cleanUp_eq_some.mp h
      exact hs.congr rfl rfl rfl rfl
  | resume i =>
      obtain ⟨handles, -, h⟩ := Option.bind_eq_some_iff.mp h
      rw [Option.ite_none_right_eq_some] at h
      obtain ⟨-, h⟩ := h
      cases h
      exact hs.congr rfl rfl rfl rfl

end State

open State

theorem linked_of_trace {h : List Event} {s : State} (hrun : manager.Trace h s) : s.Linked := by
  refine hrun.invariant (fun _ s => s.Linked) ?_ fun _ hs hstep => hs.step hstep
  exact ⟨fun n u hu => by simp [manager] at hu, fun n ds hds => by simp [manager] at hds,
    fun n ds u hds _ => by simp [manager] at hds⟩

/-- However the operations interleave, a registered downstream is never linked to an upstream that has
been removed. -/
theorem links_registered {h : List Event} {s : State} (hrun : manager.Trace h s) :
    s.LinksRegistered :=
  (linked_of_trace hrun).linksRegistered

end Heir.Worker.Proxy
