import Heir.Worker.Proxy.Manager

set_option autoImplicit false

/-! # Runs of the proxy manager

`RemoveDownstream` and `Close` reach a run only through its handle. The deferred function of `Link`
deletes the handle of a name after it has signalled that the run is over, so a downstream that is
removed, added and linked again in between loses the handle of its *new* run
(`handle_of_new_run_deleted`).

Under the condition that a handle is filed only when all earlier runs of the name have cleaned up
(`Unhurried`), every run that is neither cancelled nor over is the one filed under its name.
-/

namespace Heir.Worker.Proxy

namespace State

/-- The run has neither been cancelled nor returned. -/
def Active (s : State) (run : Run) : Prop :=
  s.ctxDone = false ∧ run.cancelled = false ∧ run.stage = .running

instance (s : State) (run : Run) : Decidable (s.Active run) :=
  inferInstanceAs (Decidable (_ ∧ _ ∧ _))

/-- Every active run is filed under its name; there is at most one for a name, and its downstream
has not been removed. -/
structure RunsFiled (s : State) : Prop where
  filed : ∀ (r : Nat) (run : Run), s.runs[r]? = some run → s.Active run →
    s.handles[run.downstreamName]? = some r
  unique : ∀ (r r' : Nat) (run run' : Run), s.runs[r]? = some run → s.runs[r']? = some run' →
    s.Active run → s.Active run' → run.downstreamName = run'.downstreamName → r = r'
  registered : ∀ (r : Nat) (run : Run), s.runs[r]? = some run → s.Active run →
    s.downstreams[run.downstreamName]? = some run.downstream

/-- A call of `Link` files a handle only when every earlier call for the name that filed one is
over, its deferred function included. -/
def Unhurried (s : State) : Event → Prop
  | .link downstreamName upstreamName =>
      s.downstreams[downstreamName]?.isSome → s.upstreams[upstreamName]?.isSome →
        s.handles[downstreamName]? = none →
          ∀ run ∈ s.runs, run.downstreamName = downstreamName → run.stage = .finished
  | _ => True

instance (s : State) (e : Event) : Decidable (s.Unhurried e) := by
  cases e <;> unfold Unhurried <;> infer_instance

/-! ## The invariant -/

structure Filed (s : State) : Prop where
  closing : s.closing ≠ 0 → s.ctxDone = true
  /-- A handle is the one of a run of that name, of a downstream that is registered. -/
  handle : ∀ (name : String) (r : Nat), s.handles[name]? = some r → ∃ run, s.runs[r]? = some run ∧
    run.downstreamName = name ∧ s.downstreams[name]? = some run.downstream
  active : ∀ (r : Nat) (run : Run), s.runs[r]? = some run → s.Active run →
    s.handles[run.downstreamName]? = some r
  /-- Beside the run whose handle is filed, no run of the name will clean up. -/
  others : ∀ (name : String) (r r' : Nat) (run' : Run), s.handles[name]? = some r →
    s.runs[r']? = some run' → run'.downstreamName = name → r' ≠ r → run'.stage = .finished

variable {s s' : State}

theorem Filed.runsFiled (hs : s.Filed) : s.RunsFiled := by
  refine ⟨hs.active, fun r r' run run' hr hr' ha ha' hname => ?_, fun r run hr ha => ?_⟩
  · have hfiled := hs.active r run hr ha
    rw [hname, hs.active r' run' hr' ha'] at hfiled
    cases hfiled
    rfl
  · obtain ⟨run', hr', -, hds⟩ := hs.handle _ r (hs.active r run hr ha)
    rw [hr] at hr'
    cases hr'
    exact hds

/-- Handles may disappear if their runs are not active any more. -/
theorem Filed.of_handles (hs : s.Filed) (hruns : s'.runs = s.runs)
    (hclosing : s'.closing ≠ 0 → s'.ctxDone = true) (hdownstreams : s'.downstreams = s.downstreams)
    (hhandles : ∀ (name : String) (r : Nat), s'.handles[name]? = some r →
      s.handles[name]? = some r)
    (hactive : ∀ (r : Nat) (run : Run), s.runs[r]? = some run → s'.Active run →
      s.Active run ∧ s'.handles[run.downstreamName]? = s.handles[run.downstreamName]?) :
    s'.Filed := by
  refine ⟨hclosing, fun name r hr => ?_, fun r run hr ha => ?_, fun name r r' run' hr => ?_⟩
  · rw [hruns, hdownstreams]
    exact hs.handle name r (hhandles name r hr)
  · rw [hruns] at hr
    obtain ⟨hold, hkept⟩ := hactive r run hr ha
    rw [hkept]
    exact hs.active r run hr hold
  · rw [hruns]
    exact hs.others name r r' run' (hhandles name r hr)

theorem Filed.advance (hs : s.Filed) {r : Nat} {here next : Stage} (hfinished : here ≠ .finished)
    (hnext : next ≠ .running) (h : s.advance r here next = some s') : s'.Filed := by
  obtain ⟨run, hrun, hstage, rfl⟩ := advance_eq_some.mp h
  have hcases : ∀ (r' : Nat) (run' : Run),
      (s.runs.set r { run with stage := next })[r']? = some run' →
        r' ≠ r ∧ s.runs[r']? = some run' ∨ r' = r ∧ run' = { run with stage := next } := by
    intro r' run' hrun'
    rw [List.getElem?_set] at hrun'
    split at hrun'
    · next heq =>
        split at hrun'
        · cases hrun'
          exact Or.inr ⟨heq.symm, rfl⟩
        · cases hrun'
    · next hne => exact Or.inl ⟨Ne.symm hne, hrun'⟩
  refine ⟨hs.closing, fun name i hi => ?_, fun i run' hi ha => ?_,
    fun name i i' run' hi hi' hname hne => ?_⟩
  · obtain ⟨run', hrun', hname, hds⟩ := hs.handle name i hi
    by_cases hir : r = i
    · subst hir
      rw [hrun] at hrun'
      cases hrun'
      refine ⟨{ run with stage := next }, ?_, hname, hds⟩
      exact List.getElem?_set_self (List.getElem?_eq_some_iff.mp hrun).1
    · exact ⟨run', (List.getElem?_set_ne hir).trans hrun', hname, hds⟩
  · rcases hcases i run' hi with ⟨-, hold⟩ | ⟨-, rfl⟩
    · exact hs.active i run' hold ha
    · exact absurd ha.2.2 hnext
  · rcases hcases i' run' hi' with ⟨-, hold⟩ | ⟨rfl, rfl⟩
    · exact hs.others name i i' run' hi hold hname hne
    · -- the run would have been finished before
      exact absurd (hstage.symm.trans (hs.others name i i' run hi hrun hname hne)) hfinished

/-- The deferred function deletes the handle of its own run, or there is none of that name. -/
theorem Filed.cleanUp (hs : s.Filed) {r : Nat} (h : s.cleanUp r = some s') : s'.Filed := by
  obtain ⟨run, hrun, hstage, rfl⟩ := cleanUp_eq_some.mp h
  have hadvance : s.advance r .signalled .finished =
      some { s with runs := s.runs.set r { run with stage := .finished } } :=
    advance_eq_some.mpr ⟨run, hrun, hstage, rfl⟩
  have hfinished := hs.advance (by decide) (by decide) hadvance
  refine hfinished.of_handles rfl hs.closing rfl (fun name i hi => ?_) fun i run' hi ha => ⟨ha, ?_⟩
  · simp only [GoMap.getElem?_erase, Option.ite_none_left_eq_some] at hi
    exact hi.2
  · simp only [GoMap.getElem?_erase]
    refine if_neg fun hname => ?_
    have hhandle := hfinished.active i run' hi ha
    by_cases hir : r = i
    · subst hir
      rw [List.getElem?_set_self (List.getElem?_eq_some_iff.mp hrun).1] at hi
      cases hi
      cases ha.2.2
    · have := hs.others _ i r run hhandle hrun hname hir
      rw [hstage] at this
      cases this

theorem Filed.addDownstream (hs : s.Filed) (name listenAddr : String) :
    (s.addDownstream name listenAddr).Filed := by
  rw [State.addDownstream]
  split
  · exact hs
  next hnew =>
  refine ⟨hs.closing, fun n r hr => ?_, hs.active, hs.others⟩
  obtain ⟨run, hrun, hname, hds⟩ := hs.handle n r hr
  refine ⟨run, hrun, hname, ?_⟩
  have hne : name ≠ n := by
    rintro rfl
    rw [hds] at hnew
    exact hnew rfl
  simp only [GoMap.getElem?_insert, if_neg hne]
  exact hds

theorem runs_removeDownstream (s : State) (name : String) (r : Nat) :
    (s.removeDownstream name).runs[r]? = (s.runs[r]?).map fun run =>
      if s.handles[name]? = some r then { run with cancelled := true } else run := by
  simp only [State.removeDownstream]
  cases s.handles[name]? with
  | none => simp
  | some i => simp [List.getElem?_modify]

theorem Filed.removeDownstream (hs : s.Filed) (name : String) :
    (s.removeDownstream name).Filed := by
  have herase : ∀ n, (s.removeDownstream name).handles[n]? =
      if name = n then none else s.handles[n]? := fun n => GoMap.getElem?_erase _ _ _
  refine ⟨hs.closing, fun n r hr => ?_, fun r run hr ha => ?_, fun n r r' run hr hr' hname hne => ?_⟩
  · rw [herase, Option.ite_none_left_eq_some] at hr
    obtain ⟨run, hrun, hname, hds⟩ := hs.handle n r hr.2
    have hother : s.handles[name]? ≠ some r := by
      intro h
      obtain ⟨run', hrun', hname', -⟩ := hs.handle name r h
      rw [hrun] at hrun'
      cases hrun'
      exact hr.1 (hname'.symm.trans hname)
    refine ⟨run, ?_, hname, ?_⟩
    · rw [runs_removeDownstream, hrun, Option.map_some, if_neg hother]
    · simp only [State.removeDownstream, GoMap.getElem?_erase, if_neg hr.1]
      exact hds
  · rw [runs_removeDownstream] at hr
    obtain ⟨run', hrun, rfl⟩ := Option.map_eq_some_iff.mp hr
    by_cases hhandle : s.handles[name]? = some r
    · rw [if_pos hhandle] at ha
      cases ha.2.1
    · rw [if_neg hhandle] at ha ⊢
      have hfiled := hs.active r run' hrun ha
      rw [herase, if_neg, hfiled]
      rintro rfl
      exact hhandle hfiled
  · rw [herase, Option.ite_none_left_eq_some] at hr
    rw [runs_removeDownstream] at hr'
    obtain ⟨run', hrun', rfl⟩ := Option.map_eq_some_iff.mp hr'
    have hfinished := hs.others n r r' run' hr.2 hrun'
    split at hname
    · next hcancelled =>
        rw [if_pos hcancelled]
        exact hfinished hname hne
    · next hcancelled =>
        rw [if_neg hcancelled]
        exact hfinished hname hne

/-- A handle is filed where there is none, and every earlier run of the name is finished. -/
theorem Filed.link (hs : s.Filed) {downstreamName upstreamName : String}
    (hok : s.Unhurried (.link downstreamName upstreamName)) :
    (s.link downstreamName upstreamName).2.Filed := by
  rw [State.link]
  split
  · exact hs
  next ds hds =>
  split
  · exact hs
  next u hu =>
  have hlinked : (s.setUpstream ds (some u)).Filed := ⟨hs.closing, hs.handle, hs.active, hs.others⟩
  dsimp only
  split
  · exact hlinked
  next hfree =>
  replace hfree : s.handles[downstreamName]? = none := Option.not_isSome_iff_eq_none.mp hfree
  have hfinished := hok (by simp [hds]) (by simp [hu]) hfree
  have hlast : ∀ (r : Nat) (run : Run),
      (s.runs ++ [{ downstreamName, downstream := ds }])[r]? = some run →
        s.runs[r]? = some run ∧ r ≠ s.runs.length ∨
          r = s.runs.length ∧ run = { downstreamName, downstream := ds } := by
    intro r run hr
    rw [Slice.getElem?_append_one] at hr
    split at hr
    · next h => exact Or.inr ⟨h, (Option.some.inj hr).symm⟩
    · next h => exact Or.inl ⟨hr, h⟩
  have hinsert : ∀ n, (s.handles.insert downstreamName s.runs.length)[n]? =
      if downstreamName = n then some s.runs.length else s.handles[n]? :=
    fun n => GoMap.getElem?_insert _ _ _ _
  refine ⟨hs.closing, fun n r hr => ?_, fun r run hr ha => ?_, fun n r r' run hr hr' hname hne => ?_⟩
  · replace hr := (hinsert n).symm.trans hr
    split at hr
    · next hn =>
        cases hr
        exact ⟨_, List.getElem?_concat_length, hn, hn ▸ hds⟩
    · obtain ⟨run, hrun, hname, hds'⟩ := hs.handle n r hr
      refine ⟨run, ?_, hname, hds'⟩
      exact (List.getElem?_append_left (List.getElem?_eq_some_iff.mp hrun).1).trans hrun
  · refine (hinsert _).trans ?_
    rcases hlast r run hr with ⟨hold, -⟩ | ⟨rfl, rfl⟩
    · have hfiled := hs.active r run hold ha
      rw [if_neg, hfiled]
      rintro rfl
      rw [hfree] at hfiled
      cases hfiled
    · exact if_pos rfl
  · replace hr := (hinsert n).symm.trans hr
    rcases hlast r' run hr' with ⟨hold, -⟩ | ⟨rfl, rfl⟩
    · split at hr
      · next hn => exact hfinished run (List.mem_of_getElem? hold) (hname.trans hn.symm)
      · exact hs.others n r r' run hr hold hname hne
    · rw [if_pos hname] at hr
      cases hr
      exact absurd rfl hne

theorem Filed.step (hs : s.Filed) {e : Event} (hok : s.Unhurried e) (h : s.step e = some s') :
    s'.Filed := by
  cases e with
  | addUpstream name endpoints =>
      cases h
      rw [State.addUpstream]
      split
      · exact ⟨hs.closing, hs.handle, hs.active, hs.others⟩
      · exact ⟨hs.closing, hs.handle, hs.active, hs.others⟩
  | removeUpstream name order =>
      cases h
      rw [State.removeUpstream]
      split
      · exact hs
      · exact ⟨hs.closing, hs.handle, hs.active, hs.others⟩
  | addDownstream name listenAddr => cases h; exact hs.addDownstream name listenAddr
  | removeDownstream name => cases h; exact hs.removeDownstream name
  | link downstreamName upstreamName => cases h; exact hs.link hok
  | unlink downstreamName =>
      cases h
      rw [State.unlink]
      split
      · exact hs
      · exact ⟨hs.closing, hs.handle, hs.active, hs.others⟩
  | callClose | cancel =>
      cases h
      exact hs.of_handles rfl (fun _ => rfl) rfl (fun _ _ hr => hr) fun _ _ _ ha =>
        absurd ha.1 (by simp)
  | close order =>
      simp only [State.step, Option.ite_none_left_eq_some] at h
      obtain ⟨hclosing, h⟩ := h
      cases h
      -- the handles are dropped when every context is done
      have hdone := hs.closing hclosing
      exact hs.of_handles rfl (fun _ => hdone) rfl (fun _ _ hr => by simp [State.close] at hr)
        fun _ _ _ ha => absurd (hdone.symm.trans ha.1) (by simp)
  | «return» r | signal r => exact hs.advance (by decide) (by decide) h
  | cleanUp r => exact hs.cleanUp h
  | resume i =>
      obtain ⟨handles, -, h⟩ := Option.bind_eq_some_iff.mp h
      rw [Option.ite_none_right_eq_some] at h
      obtain ⟨-, h⟩ := h
      cases h
      exact ⟨hs.closing, hs.handle, hs.active, hs.others⟩

end State

open State

theorem filed_of_trace {h : List Event} {s : State} (hrun : (manager.restrict Unhurried).Trace h s) :
    s.Filed := by
  refine hrun.invariant (fun _ s => s.Filed) ?_ fun _ hs hstep => ?_
  · exact ⟨fun h => absurd rfl h, fun n r hr => by simp [manager, Automaton.restrict] at hr,
      fun r run hr _ => by simp [manager, Automaton.restrict] at hr,
      fun n r r' run hr _ _ _ => by simp [manager, Automaton.restrict] at hr⟩
  · obtain ⟨hok, hstep⟩ := Automaton.restrict_step.mp hstep
    exact hs.step hok hstep

/-- **The run registry.** In every run in which handles are filed unhurriedly, a downstream that runs
and has not been cancelled is the one filed under its name. -/
theorem runs_filed {h : List Event} {s : State} (hrun : (manager.restrict Unhurried).Trace h s) :
    s.RunsFiled :=
  (filed_of_trace hrun).runsFiled

/-- A downstream is removed, added and linked again, the deferred function of its first run being
done in time. -/
theorem second_run_filed :
    ∃ s, (manager.restrict Unhurried).Trace [.addUpstream "api" [],
        .addDownstream "local" "127.0.0.1:6443", .link "local" "api", .removeDownstream "local",
        .return 0, .signal 0, .cleanUp 0, .resume 0, .addDownstream "local" "127.0.0.1:6443",
        .link "local" "api"] s ∧
      s.RunsFiled ∧ s.runs[1]? = some ⟨"local", 1, false, .running⟩ := by
  obtain ⟨s, hrun, hs⟩ := Automaton.exists_trace (manager.restrict Unhurried)
    [.addUpstream "api" [], .addDownstream "local" "127.0.0.1:6443", .link "local" "api",
      .removeDownstream "local", .return 0, .signal 0, .cleanUp 0, .resume 0,
      .addDownstream "local" "127.0.0.1:6443", .link "local" "api"]
    (fun s => s.runs[1]? = some ⟨"local", 1, false, .running⟩) (by decide +kernel)
  exact ⟨s, hrun, runs_filed hrun, hs⟩

/-- With the same calls, the deferred function of the first run comes after the second `Link`. The
second run is active and its handle is gone; `RemoveDownstream` then returns and leaves it running,
its downstream no longer registered. -/
theorem handle_of_new_run_deleted :
    ∃ s, manager.Trace [.addUpstream "api" [], .addDownstream "local" "127.0.0.1:6443",
        .link "local" "api", .removeDownstream "local", .return 0, .signal 0, .resume 0,
        .addDownstream "local" "127.0.0.1:6443", .link "local" "api", .cleanUp 0,
        .removeDownstream "local", .resume 0] s ∧
      s.runs[1]? = some ⟨"local", 1, false, .running⟩ ∧
        s.Active ⟨"local", 1, false, .running⟩ ∧ s.handles["local"]? = none ∧
        s.downstreams["local"]? = none ∧ s.waiting = [] :=
  Automaton.exists_trace manager _ _ (by decide +kernel)

end Heir.Worker.Proxy
