import Heir.Tunnel.Agent.World

set_option autoImplicit false

/-! # The tracker of the connection manager

Tunnels are entered into the tracker by the manager and removed by the goroutines that serve them,
both by the id of the instance at the other end. The tracker and the goroutines always agree
(`tracker_invariant`): each entry has its goroutine, which removes that entry and no other, and no
tunnel is forgotten.
-/

namespace Heir.Tunnel.Agent

open Heir.Core Interact Function

/-! ## The property -/

structure Tracked (w : World) : Prop where
  /-- An entry is filed under the id of its instance, so there is at most one for each. -/
  one : ∀ (id : String) (mc : ManagedConn), w.conn.tracker[id]? = some mc → mc.identity.id = id
  /-- An entry belongs to exactly one goroutine that has yet to remove it. -/
  served : ∀ (id : String) (mc : ManagedConn), w.conn.tracker[id]? = some mc →
    ∃ g, w.goroutines mc.tunnel = some g ∧ g.Pending ∧ g.identity.id = id ∧
      ∀ t f, w.goroutines t = some f → f.Pending → f.identity.id = id → t = mc.tunnel
  /-- A goroutine that is about to remove an entry finds its own. -/
  own : ∀ t g, w.goroutines t = some g → g.stage = .closed →
    w.conn.tracker[g.identity.id]? = some ⟨t, g.identity⟩
  /-- A tunnel that `connect` has returned is tracked and served, or it was closed. -/
  kept : ∀ t, w.returned t = true → w.closed t = true ∨
    ∃ g, w.goroutines t = some g ∧ g.Pending ∧ w.conn.tracker[g.identity.id]? = some ⟨t, g.identity⟩
  /-- There are never more tunnels than were aimed at. -/
  bounded : (w.conn.tracker.size : Int) ≤ w.maxTarget

/-! ## Invariants -/

structure Registry (w : World) : Prop where
  served : ∀ (id : String) (mc : ManagedConn), w.conn.tracker[id]? = some mc → mc.identity.id = id ∧
    ∃ g, w.goroutines mc.tunnel = some g ∧ g.Pending ∧ g.identity = mc.identity
  own : ∀ t g, w.goroutines t = some g → g.Pending →
    w.conn.tracker[g.identity.id]? = some ⟨t, g.identity⟩
  closed : ∀ t g, w.goroutines t = some g → g.stage ≠ .serving → g.stage ≠ .leaving →
    w.closed t = true
  kept : ∀ t, w.returned t = true → w.closed t = true ∨ (w.goroutines t).isSome = true
  unopened : ∀ t, w.opened ≤ t → w.goroutines t = none
  bounded : (w.conn.tracker.size : Int) ≤ w.maxTarget
  target : w.conn.target ≤ w.maxTarget

theorem Registry.tracked {w : World} (h : Registry w) : Tracked w where
  one := fun id mc hmc => (h.served id mc hmc).1
  served := fun id mc hmc => by
    obtain ⟨hid, g, hg, hpending, hidentity⟩ := h.served id mc hmc
    refine ⟨g, hg, hpending, by rw [hidentity, hid], fun t f hf hfpending hfid => ?_⟩
    have hentry := h.own t f hf hfpending
    rw [hfid, hmc] at hentry
    cases hentry
    rfl
  own := fun t g hg hstage => h.own t g hg (by simp [Goroutine.Pending, hstage])
  kept := fun t ht => by
    rcases h.kept t ht with hclosed | hsome
    · exact Or.inl hclosed
    · obtain ⟨g, hg⟩ := Option.isSome_iff_exists.mp hsome
      by_cases hpending : g.Pending
      · exact Or.inr ⟨g, hg, hpending, h.own t g hg hpending⟩
      · -- a goroutine closes its tunnel before it removes the entry
        refine Or.inl (h.closed t g hg ?_ ?_)
        · intro hstage
          exact hpending (by simp [Goroutine.Pending, hstage])
        · intro hstage
          exact hpending (by simp [Goroutine.Pending, hstage])
  bounded := h.bounded

/-- There are fewer tunnels than the target. -/
def Lacking (w : World) : Prop := (w.conn.tracker.size : Int) < w.conn.target

/-- The manager has opened the tunnel in this attempt. -/
def Held (tunnel : TunnelId) (w : World) : Prop :=
  tunnel < w.opened ∧ w.goroutines tunnel = none

/-- What holds while an identity is fetched. -/
def Fetching : Use → World → Prop
  | .refresh => Registry
  | .attempt tunnel => fun w => Registry w ∧ Lacking w ∧ Held tunnel w

/-- What holds in each phase of a round. -/
def Tracking : Phase → World → Prop
  | .sampled current target => fun w => Registry w ∧ (w.conn.tracker.size : Int) ≤ current ∧
      w.conn.target = target
  | .trying | .dialed | .refused | .missed => fun w => Registry w ∧ Lacking w
  | .fetching u | .reading u | .read u _ | .fetched u _ | .unfetched u => Fetching u
  | .head | .idle | .woken | .picking _ | .lacking | .established | .done | .stopped => Registry

/-! ## Steps of the goroutines -/

section Outside

variable {w w' : World}

/-! A goroutine that takes a step stays there, and no other appears. -/

variable {g : Goroutine} {tunnel : TunnelId}

theorem isSome_update {t : TunnelId} (g : Goroutine) (h : (w.goroutines t).isSome = true) :
    (update w.goroutines tunnel (some g) t).isSome = true := by
  by_cases ht : t = tunnel
  · rw [ht, update_self]
    rfl
  · rwa [update_of_ne ht]

theorem none_update {t : TunnelId} (g' : Goroutine) (hg : w.goroutines tunnel = some g)
    (h : w.goroutines t = none) : update w.goroutines tunnel (some g') t = none := by
  rw [update_of_ne]
  · exact h
  · rintro rfl
    rw [h] at hg
    cases hg

theorem Registry.advance {stage : Stage} {closed : TunnelId → Bool} (h : Registry w)
    (hg : w.goroutines tunnel = some g) (hpending : g.Pending)
    (hnext : stage ≠ .untracked ∧ stage ≠ .finished)
    (hclosed : ∀ t, w.closed t = true → closed t = true)
    (hself : stage ≠ .serving → stage ≠ .leaving → closed tunnel = true) :
    Registry { w with
      goroutines := update w.goroutines tunnel (some { g with stage := stage })
      closed := closed } where
  served := fun id mc hmc => by
    obtain ⟨hid, f, hf, hfp, hidentity⟩ := h.served id mc hmc
    refine ⟨hid, ?_⟩
    by_cases ht : mc.tunnel = tunnel
    · rw [ht, hg] at hf
      cases hf
      exact ⟨{ g with stage := stage }, by rw [ht]; exact update_self .., hnext, hidentity⟩
    · exact ⟨f, by dsimp only; rw [update_of_ne ht]; exact hf, hfp, hidentity⟩
  own := fun t f hf hfp => by
    dsimp only at hf
    by_cases ht : t = tunnel
    · subst ht
      rw [update_self] at hf
      cases hf
      exact h.own t g hg hpending
    · rw [update_of_ne ht] at hf
      exact h.own t f hf hfp
  closed := fun t f hf hserving hleaving => by
    dsimp only at hf ⊢
    by_cases ht : t = tunnel
    · subst ht
      rw [update_self] at hf
      cases hf
      exact hself hserving hleaving
    · rw [update_of_ne ht] at hf
      exact hclosed t (h.closed t f hf hserving hleaving)
  kept := fun t ht => (h.kept t ht).imp (hclosed t) (isSome_update _)
  unopened := fun t ht => none_update _ hg (h.unopened t ht)
  bounded := h.bounded
  target := h.target

theorem Registry.untrack (h : Registry w) (hg : w.goroutines tunnel = some g)
    (hstage : g.stage = .closed) :
    Registry { w with
      goroutines := update w.goroutines tunnel (some { g with stage := .untracked })
      conn := w.conn.untrack g.identity } := by
  have hown := h.own tunnel g hg (by simp [Goroutine.Pending, hstage])
  refine ⟨fun id mc hmc => ?_, fun t f hf hfp => ?_, fun t f hf hserving hleaving => ?_,
    fun t ht => (h.kept t ht).imp id (isSome_update _),
    fun t ht => none_update _ hg (h.unopened t ht), ?_, h.target⟩
  · dsimp only [ConnState.untrack] at hmc
    rw [GoMap.getElem?_erase] at hmc
    split at hmc
    · cases hmc
    · rename_i hne
      obtain ⟨hid, f, hf, hfp, hidentity⟩ := h.served id mc hmc
      refine ⟨hid, f, ?_, hfp, hidentity⟩
      -- the goroutine of another instance is another goroutine
      dsimp only
      rw [update_of_ne]
      · exact hf
      · intro ht
        rw [ht, hg] at hf
        cases hf
        exact hne (by rw [hidentity, hid])
  · dsimp only [ConnState.untrack] at hf ⊢
    by_cases ht : t = tunnel
    · subst ht
      rw [update_self] at hf
      cases hf
      exact absurd rfl hfp.1
    · rw [update_of_ne ht] at hf
      have hentry := h.own t f hf hfp
      rw [GoMap.getElem?_erase, if_neg]
      · exact hentry
      · intro hid
        rw [← hid, hown] at hentry
        exact ht (congrArg ManagedConn.tunnel (Option.some.inj hentry)).symm
  · dsimp only at hf ⊢
    by_cases ht : t = tunnel
    · subst ht
      exact h.closed t g hg (by simp [hstage]) (by simp [hstage])
    · rw [update_of_ne ht] at hf
      exact h.closed t f hf hserving hleaving
  · have hle : (w.conn.tracker.erase g.identity.id).size ≤ w.conn.tracker.size :=
      Std.ExtTreeMap.size_erase_le
    exact le_trans (Int.ofNat_le.mpr hle) h.bounded

theorem Registry.notify (h : Registry w) (hg : w.goroutines tunnel = some g)
    (hstage : g.stage = .untracked) :
    Registry { w with
      goroutines := update w.goroutines tunnel (some { g with stage := .finished })
      conn := w.conn.notify g.identity } := by
  have htracker : (w.conn.notify g.identity).tracker = w.conn.tracker := by
    rw [ConnState.notify]
    split <;> rfl
  have htarget : (w.conn.notify g.identity).target = w.conn.target := by
    rw [ConnState.notify]
    split <;> rfl
  refine ⟨fun id mc hmc => ?_, fun t f hf hfp => ?_, fun t f hf hserving hleaving => ?_,
    fun t ht => (h.kept t ht).imp id (isSome_update _),
    fun t ht => none_update _ hg (h.unopened t ht), ?_, ?_⟩
  · dsimp only at hmc ⊢
    rw [htracker] at hmc
    obtain ⟨hid, f, hf, hfp, hidentity⟩ := h.served id mc hmc
    refine ⟨hid, f, ?_, hfp, hidentity⟩
    rw [update_of_ne]
    · exact hf
    · intro ht
      rw [ht, hg] at hf
      cases hf
      exact hfp.1 hstage
  · dsimp only at hf ⊢
    rw [htracker]
    by_cases ht : t = tunnel
    · subst ht
      rw [update_self] at hf
      cases hf
      exact absurd rfl hfp.2
    · rw [update_of_ne ht] at hf
      exact h.own t f hf hfp
  · dsimp only at hf ⊢
    by_cases ht : t = tunnel
    · subst ht
      exact h.closed t g hg (by simp [hstage]) (by simp [hstage])
    · rw [update_of_ne ht] at hf
      exact h.closed t f hf hserving hleaving
  · dsimp only
    rw [htracker]
    exact h.bounded
  · dsimp only
    rw [htarget]
    exact h.target

theorem Registry.outside (h : Registry w) (ho : Outside w w') : Registry w' := by
  cases ho with
  | other _ _ => exact ⟨h.served, h.own, h.closed, h.kept, h.unopened, h.bounded, h.target⟩
  | leave hg hstage =>
      exact h.advance hg (by simp [Goroutine.Pending, hstage]) (by simp) (fun _ ht => ht)
        (fun _ hleaving => absurd rfl hleaving)
  | @close tunnel g hg hstage =>
      refine h.advance hg (by simp [Goroutine.Pending, hstage]) (by simp) (fun t ht => ?_)
        (fun _ _ => update_self ..)
      by_cases heq : t = tunnel
      · rw [heq, update_self]
      · rw [update_of_ne heq, ht]
  | untrack hg hstage => exact h.untrack hg hstage
  | notify hg hstage => exact h.notify hg hstage

theorem Outside.size_le (ho : Outside w w') : w'.conn.tracker.size ≤ w.conn.tracker.size := by
  cases ho with
  | other | leave | close => exact le_rfl
  | untrack => exact Std.ExtTreeMap.size_erase_le
  | notify =>
      dsimp only [ConnState.notify]
      split <;> exact le_rfl

theorem Lacking.outside (h : Lacking w) (ho : Outside w w') : Lacking w' := by
  have hsize : (w'.conn.tracker.size : Int) ≤ w.conn.tracker.size := Int.ofNat_le.mpr ho.size_le
  rw [Lacking, ho.target_eq]
  exact lt_of_le_of_lt hsize h

theorem Held.outside (h : Held tunnel w) (ho : Outside w w') : Held tunnel w' := by
  cases ho with
  | other _ _ => exact h
  | leave hg _ | close hg _ | untrack hg _ | notify hg _ => exact ⟨h.1, none_update _ hg h.2⟩

theorem fetching_outside {u : Use} (h : Fetching u w) (ho : Outside w w') : Fetching u w' := by
  cases u with
  | refresh => exact Registry.outside h ho
  | attempt tunnel => exact ⟨h.1.outside ho, h.2.1.outside ho, h.2.2.outside ho⟩

theorem tracking_outside {ph : Phase} (h : Tracking ph w) (ho : Outside w w') :
    Tracking ph w' := by
  cases ph with
  | sampled current target =>
      have hsize : (w'.conn.tracker.size : Int) ≤ w.conn.tracker.size := Int.ofNat_le.mpr ho.size_le
      exact ⟨h.1.outside ho, hsize.trans h.2.1, ho.target_eq.trans h.2.2⟩
  | trying | dialed | refused | missed => exact ⟨h.1.outside ho, h.2.outside ho⟩
  | head | idle | woken | picking _ | lacking | established | done | stopped =>
      exact Registry.outside h ho
  | _ => exact fetching_outside h ho

end Outside

/-! ## Steps of the manager -/

section Manager

variable {w w' : World} {tunnel : TunnelId}

/-- The manager closes a tunnel that it does not enter into the tracker. -/
theorem Registry.closeTunnel (h : Registry w) (returned : TunnelId → Bool)
    (hreturned : ∀ t, returned t = true → w.returned t = true ∨ t = tunnel) :
    Registry { w with returned := returned, closed := update w.closed tunnel true } := by
  have hclosed : ∀ t, w.closed t = true → update w.closed tunnel true t = true := by
    intro t ht
    by_cases heq : t = tunnel
    · rw [heq, update_self]
    · rw [update_of_ne heq, ht]
  refine ⟨h.served, h.own, fun t g hg h₁ h₂ => hclosed t (h.closed t g hg h₁ h₂), fun t ht => ?_,
    h.unopened, h.bounded, h.target⟩
  rcases hreturned t ht with hold | rfl
  · exact (h.kept t hold).imp (hclosed t) id
  · exact Or.inl (update_self ..)

/-- The manager enters a tunnel into the tracker. It has looked at the number of tunnels before, and
there can only be fewer by now. -/
theorem Registry.track {identity : PlaneTunnelIdentity} (h : Registry w) (hlacking : Lacking w)
    (hheld : Held tunnel w) (hnone : w.conn.tracker[identity.id]? = none) :
    Registry { w with
      returned := update w.returned tunnel true
      conn := { w.conn with
        tracker := w.conn.tracker.insert identity.id ⟨tunnel, identity⟩
        target := identity.numberOfInstances }
      maxTarget := max w.maxTarget identity.numberOfInstances
      goroutines := update w.goroutines tunnel (some ⟨identity, .serving⟩) } := by
  refine ⟨fun id mc hmc => ?_, fun t g hg hpending => ?_, fun t g hg hserving hleaving => ?_,
    fun t ht => ?_, fun t ht => ?_, ?_, le_max_right _ _⟩
  · dsimp only at hmc ⊢
    rw [GoMap.getElem?_insert] at hmc
    split at hmc
    · rename_i hid
      cases hmc
      exact ⟨hid, _, update_self .., ⟨by simp, by simp⟩, rfl⟩
    · obtain ⟨hid, g, hg, hpending, hidentity⟩ := h.served id mc hmc
      refine ⟨hid, g, ?_, hpending, hidentity⟩
      rw [update_of_ne]
      · exact hg
      · intro ht
        rw [ht, hheld.2] at hg
        cases hg
  · dsimp only at hg ⊢
    rw [GoMap.getElem?_insert]
    by_cases ht : t = tunnel
    · subst ht
      rw [update_self] at hg
      cases hg
      rw [if_pos rfl]
    · rw [update_of_ne ht] at hg
      have hentry := h.own t g hg hpending
      rw [if_neg]
      · exact hentry
      · intro hid
        rw [← hid, hnone] at hentry
        cases hentry
  · dsimp only at hg
    by_cases ht : t = tunnel
    · subst ht
      rw [update_self] at hg
      cases hg
      exact absurd rfl hserving
    · rw [update_of_ne ht] at hg
      exact h.closed t g hg hserving hleaving
  · dsimp only at ht ⊢
    by_cases heq : t = tunnel
    · rw [heq, update_self]
      exact Or.inr rfl
    · rw [update_of_ne heq] at ht
      exact (h.kept t ht).imp id (isSome_update _)
  · dsimp only
    rw [update_of_ne]
    · exact h.unopened t ht
    · exact (Nat.lt_of_lt_of_le hheld.1 ht).ne'
  · have hsize : (w.conn.tracker.insert identity.id ⟨tunnel, identity⟩).size ≤
        w.conn.tracker.size + 1 := Std.ExtTreeMap.size_insert_le
    have htarget := h.target
    rw [Lacking] at hlacking
    show ((w.conn.tracker.insert identity.id ⟨tunnel, identity⟩).size : Int) ≤
      max w.maxTarget identity.numberOfInstances
    omega

theorem Tracking.registry {ph : Phase} (h : Tracking ph w) : Registry w := by
  cases ph with
  | fetching u | reading u | read u _ | fetched u _ | unfetched u =>
      cases u with
      | refresh => exact h
      | attempt tunnel => exact h.1
  | head | idle | woken | picking _ | lacking | established | done | stopped => exact h
  | _ => exact h.1

theorem tracking_skip {ph ph' : Phase} (hskip : Skip ph ph') (h : Tracking ph w) :
    Tracking ph' w := by
  cases hskip with
  | enough _ => exact h.1
  | lack hlack =>
      refine ⟨h.1, ?_⟩
      rw [Lacking, h.2.2]
      exact lt_of_le_of_lt h.2.1 hlack
  | empty | unrefreshed | attempt => exact h
  | giveUp => exact h.1

/-- **Every call of the manager keeps the tracker in order.** -/
theorem tracking_move {ph ph' : Phase} {op : Call} {x : op.Answer} (hmove : Move ph op x ph')
    (h : Tracking ph w) (hs : server op w x w') : Tracking ph' w' := by
  cases hmove with
  | sample x =>
      obtain rfl := server_sample hs
      obtain rfl := server_idle hs trivial
      exact ⟨h, le_rfl, rfl⟩
  | cancelled | disconnected | refresh =>
      rcases server_select hs with rfl | ⟨id, rest, -, rfl⟩
      · exact h
      · exact ⟨h.served, h.own, h.closed, h.kept, h.unopened, h.bounded, h.target⟩
  | client tunnel =>
      rcases server_client hs with ⟨hx, rfl⟩ | ⟨⟨e, hx⟩, -⟩
      · cases hx
        refine ⟨⟨h.1.served, h.1.own, h.1.closed, h.1.kept,
          fun t ht => h.1.unopened t (Nat.le_of_succ_le ht), h.1.bounded, h.1.target⟩, h.2, ?_⟩
        exact ⟨Nat.lt_succ_self _, h.1.unopened _ le_rfl⟩
      · cases hx
  | clientFailed e =>
      rcases server_client hs with ⟨hx, -⟩ | ⟨-, rfl⟩
      · cases hx
      · exact h
  | closeTunnel tunnel =>
      obtain rfl := server_closeTunnel hs
      exact ⟨h.1.closeTunnel w.returned fun _ ht => Or.inl ht, h.2.1⟩
  | received u identity =>
      obtain rfl := server_received hs
      cases u with
      | refresh => exact ⟨h.served, h.own, h.closed, h.kept, h.unopened, h.bounded, h.target⟩
      | attempt tunnel =>
          obtain ⟨hreg, hrest⟩ := h
          exact ⟨⟨hreg.served, hreg.own, hreg.closed, hreg.kept, hreg.unopened, hreg.bounded,
            hreg.target⟩, hrest⟩
  | setTarget identity =>
      obtain rfl := server_setTarget hs
      exact ⟨h.served, h.own, h.closed, h.kept, h.unopened, h.bounded.trans (le_max_left _ _),
        le_max_right _ _⟩
  | track tunnel identity =>
      rcases server_track hs with ⟨hnone, -, rfl⟩ | ⟨-, ⟨e, hx⟩, -⟩
      · exact h.1.track h.2.1 h.2.2 hnone
      · cases hx
  | drop tunnel identity e =>
      rcases server_track hs with ⟨-, hx, -⟩ | ⟨-, -, rfl⟩
      · cases hx
      · refine ⟨h.1.closeTunnel _ fun t ht => ?_, h.2.1⟩
        by_cases heq : t = tunnel
        · exact Or.inr heq
        · rw [update_of_ne heq] at ht
          exact Or.inl ht
  | _ =>
      obtain rfl := server_idle hs trivial
      exact h

end Manager

/-! ## Whole runs -/

/-- **The tracker and the goroutines agree** in every state of every run. -/
theorem tracker_invariant (libs : Libs)
    {s : State sig (Except Fault Unit) World}
    (hrun : (agent libs).toSystem.Run (fun _ _ => True) initial s) : Tracked s.world := by
  have hstable : ∀ ph, (agent libs).toSystem.Stable (fun _ _ => True) (Tracking ph) :=
    fun ph w w' ⟨e, he⟩ _ hw => tracking_outside hw (outside_of_act he)
  have hstart : Registry initial.world := by
    refine ⟨fun id mc hmc => ?_, fun t g hg => ?_, fun t g hg => ?_, fun t ht => ?_, fun _ _ => rfl,
      by decide, by decide⟩
    · simp [initial] at hmc
    all_goals first | cases hg | cases ht
  have hends := System.run_flow_world (I := Registry) (agent_follows libs) (hstable .head)
    hstable (fun _ _ _ hskip h => tracking_skip hskip h)
    (fun _ _ _ _ _ _ hmove h hs _ => tracking_move hmove h hs) (fun _ h => h)
    (fun a q w hq hw => by
      cases a with
      | ok _ => cases hq; exact hw
      | error e =>
          cases hq
          exact ⟨hw.served, hw.own, hw.closed, hw.kept, hw.unopened, hw.bounded, hw.target⟩)
    rfl hstart hrun
  rcases hends with h | ⟨q, h⟩
  · exact h.tracked
  · exact h.registry.tracked

/-- An agent tracks two tunnels, has dropped a duplicate and has lost the first tunnel. -/
theorem reconnected_tracked :
    ∃ s, (agent sampleLibs).toSystem.Run (fun _ _ => True) initial s ∧ Tracked s.world ∧
      s.world.conn.tracker.size = 2 ∧ s.world.opened = 4 := by
  obtain ⟨s, hrun, hs⟩ := Machine.exists_run (agent sampleLibs) (fun _ _ => True) initial
    (connectRound 7 2 ++ [.enter, .call .serve, .call .serve] ++ attempt 7 2 ++ [.call .serve] ++
      attempt 8 2 ++ [.call .serve, .leave, .env (.lose 0), .env (.advance 0), .env (.advance 0),
        .env (.advance 0)] ++ connectRound 7 2)
    (fun s => decide (s.world.conn.tracker.size = 2 ∧ s.world.opened = 4)) (by decide +kernel)
  rw [decide_eq_true_eq] at hs
  exact ⟨s, hrun, tracker_invariant sampleLibs hrun, hs⟩

end Heir.Tunnel.Agent
