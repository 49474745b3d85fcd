import Heir.Worker.Extract

set_option autoImplicit false

/-! # Repeated installation of artifacts

Whether an artifact is installed is decided by the existence of its file. A copy that fails in the
middle leaves the beginning of the content behind, and the next attempt takes it for the artifact
and returns nil (`partial_artifact_kept`). The unit of the worker is restarted after a failure, so
there is a next attempt.

As long as no copy stops in the middle, every other call may fail in every attempt: what an attempt
that returned nil is responsible for is complete and stays so (`artifacts_complete`).
-/

namespace Heir.Worker.Artifact

open Heir.Core FilePath FileTree Interact

/-- One artifact to be installed. -/
inductive Job where
  | streamed (src : String) (content : Bytes) (dst : Path)
  | archive (src : String) (entries : List Entry) (dstDir : Path)
  | self (binary : Bytes) (dst : Path)

def Job.run (goarch : String) : Job → Install Unit
  | .streamed src content dst => extractStreamed goarch src content dst
  | .archive src entries dstDir => extractTarZstFrom goarch src entries dstDir
  | .self binary dst => installSelf binary dst

/-- Where a path leads to once every directory is made. -/
def Setting.place (S : Setting) (path : Path) : Option Location :=
  S.shape.resolve S.links S.cwd path

/-- Every destination of a job, with the content that belongs there, satisfies `P`. -/
def Job.Each (S : Setting) (P : Location → Bytes → Prop) : Job → Prop
  | .streamed _ content dst => ∃ loc, S.place dst = some loc ∧ P loc content
  | .archive _ entries dstDir => ∀ name e, firstRegular entries name = some e →
      ∃ loc, S.place (join dstDir name) = some loc ∧ P loc e.content
  | .self binary dst => ∃ loc, S.place dst = some loc ∧ P loc binary

/-- The destinations of a job hold the complete content. -/
def Job.Installed (S : Setting) (t : FileTree Bytes) (job : Job) : Prop :=
  job.Each S fun loc data => t.node loc = some (.file data)

/-- Attempts, one after the other, with what each of them returned. -/
inductive Attempts (S : Setting) (goarch : String) :
    FileTree Bytes → List (Job × Except GoError Unit) → FileTree Bytes → Prop where
  | nil (t : FileTree Bytes) : Attempts S goarch t [] t
  | cons {t t₁ t' : FileTree Bytes} {job : Job} {calls : List (Called sig)}
      {r : Except GoError Unit} {rest : List (Job × Except GoError Unit)}
      (hrun : Exec (serves S) (job.run goarch).run t calls r t₁)
      (hrest : Attempts S goarch t₁ rest t') : Attempts S goarch t ((job, r) :: rest) t'

/-! ## What every attempt keeps -/

/-- Where something is `wanted` there is nothing yet, or all of it. -/
structure Sound (S : Setting) (wanted : Location → Option Bytes) (t : FileTree Bytes) : Prop where
  within : t.Within S.shape
  whole : ∀ loc data, wanted loc = some data →
    t.node loc = none ∨ t.node loc = some (.file data)

/-- The tree stays sound and nothing disappears. -/
structure Progress (S : Setting) (wanted : Location → Option Bytes) (t t' : FileTree Bytes) : Prop where
  sound : Sound S wanted t'
  present : ∀ loc, t.node loc ≠ none → t'.node loc ≠ none

section Step

variable {S : Setting} {wanted : Location → Option Bytes} {t t' t'' : FileTree Bytes}

theorem Progress.refl (h : Sound S wanted t) : Progress S wanted t t := ⟨h, fun _ hloc => hloc⟩

theorem Progress.trans (h : Progress S wanted t t') (h' : Progress S wanted t' t'') :
    Progress S wanted t t'' :=
  ⟨h'.sound, fun loc hloc => h'.present loc (h.present loc hloc)⟩

theorem Sound.complete (h : Sound S wanted t) {loc : Location} {data : Bytes}
    (hwanted : wanted loc = some data) (hpresent : t.node loc ≠ none) :
    t.node loc = some (.file data) := by
  rcases h.whole loc data hwanted with hnone | hfile
  · exact absurd hnone hpresent
  · exact hfile

/-- The directories of a tree that has grown are in the shape, and its links are the same. -/
theorem Grown.within {shape : FileTree Bytes} (hgrown : Grown shape t t') (h : t.Within shape) :
    t'.Within shape := by
  refine ⟨fun loc hdir => ?_, fun loc => ?_⟩
  · by_cases hnone : t.node loc = none
    · rcases hgrown.made loc hnone with hstill | ⟨-, hshape⟩
      · have hnode := FileTree.node_of_isDir hdir
        rw [hstill] at hnode
        cases hnode
      · exact hshape
    · refine h.isDir loc ?_
      rw [FileTree.isDir, hgrown.kept loc hnone] at hdir
      exact hdir
  · -- a new directory is no link, and there was none before
    rw [← h.target]
    by_cases hnone : t.node loc = none
    · rcases hgrown.made loc hnone with hstill | ⟨hdir, -⟩
      · rw [FileTree.target, FileTree.target, hstill, hnone]
      · rw [FileTree.target, FileTree.target, hdir, hnone]
    · rw [FileTree.target, FileTree.target, hgrown.kept loc hnone]

theorem Sound.grown (h : Sound S wanted t)
    (hfiles : ∀ loc data, wanted loc = some data → S.shape.isDir loc = false)
    (hgrown : Grown S.shape t t') : Progress S wanted t t' := by
  refine ⟨⟨hgrown.within h.within, fun loc data hwanted => ?_⟩, fun loc hloc => ?_⟩
  · rcases h.whole loc data hwanted with hnone | hfile
    · rcases hgrown.made loc hnone with hstill | ⟨-, hshape⟩
      · exact .inl hstill
      · rw [hfiles loc data hwanted] at hshape
        cases hshape
    · refine .inr ?_
      rw [hgrown.kept loc (by rw [hfile]; exact Option.some_ne_none _)]
      exact hfile
  · rw [hgrown.kept loc hloc]
    exact hloc

theorem Sound.write (h : Sound S wanted t) {loc : Location} {data : Bytes}
    (hwanted : wanted loc = some data) (hloc : t.Writable loc) :
    Progress S wanted t (t.write loc data hloc) := by
  refine ⟨⟨h.within.write hloc, fun l d hl => ?_⟩, fun l hpresent => ?_⟩
  · by_cases heq : l = loc
    · subst heq
      rw [hwanted] at hl
      rw [← Option.some_inj.mp hl]
      exact .inr (FileTree.node_write_self hloc)
    · rw [FileTree.node_write_of_ne hloc heq]
      exact h.whole l d hl
  · by_cases heq : l = loc
    · rw [heq, FileTree.node_write_self]
      exact Option.some_ne_none _
    · rw [FileTree.node_write_of_ne hloc heq]
      exact hpresent

theorem overlay_content (h : Sound S wanted t) {loc : Location} {data : Bytes} (truncate : Bool)
    (hwanted : wanted loc = some data) :
    overlay data (if truncate then [] else content t loc) = data := by
  cases truncate with
  | true => exact overlay_nil data
  | false =>
      rcases h.whole loc data hwanted with hnone | hfile
      · simp only [content_of_none hnone]
        exact overlay_nil data
      · simp [content, hfile, overlay]

end Step

/-! ## One attempt -/

section Attempt

variable {S : Setting} {wanted : Location → Option Bytes} {t : FileTree Bytes}
  (hreliable : ∀ data written, S.short data written → written = data)

include hreliable in
theorem copyInto_sound (h : Sound S wanted t) {truncate : Bool} {data : Bytes} {dst : Path}
    {loc : Location} (hplace : S.place dst = some loc) (hwanted : wanted loc = some data) :
    (copyInto truncate data dst).run.wp (serves S) (fun r t' => Progress S wanted t t' ∧
      (r = .ok () → t'.node loc = some (.file data))) t := by
  refine copyInto_wp (fun e => ⟨.refl h, fun he => by cases he⟩) fun l hl hresolve _ => ?_
  obtain rfl : l = loc := Option.some_inj.mp ((h.within.resolve hresolve).symm.trans hplace)
  rw [overlay_content h truncate hwanted]
  refine ⟨fun r => ⟨h.write hwanted hl, fun _ => FileTree.node_write_self hl⟩,
    fun e written hshort => ?_⟩
  rw [hreliable data written hshort, overlay_content h truncate hwanted]
  exact ⟨h.write hwanted hl, fun he => by cases he⟩

theorem Sound.found (h : Sound S wanted t) {data : Bytes} {dst : Path} {loc : Location}
    (hplace : S.place dst = some loc) (hwanted : wanted loc = some data) (hfound : S.Found t dst) :
    t.node loc = some (.file data) := by
  obtain ⟨l, hresolve, -, hpresent⟩ := hfound
  obtain rfl : l = loc := Option.some_inj.mp ((h.within.resolve hresolve).symm.trans hplace)
  exact h.complete hwanted hpresent

include hreliable in
theorem extractStreamed_sound (h : Sound S wanted t) (goarch src : String) {data : Bytes} {dst : Path}
    {loc : Location} (hplace : S.place dst = some loc) (hwanted : wanted loc = some data) :
    (extractStreamed goarch src data dst).run.wp (serves S) (fun r t' => Progress S wanted t t' ∧
      (r = .ok () → t'.node loc = some (.file data))) t := by
  have hstop : ∀ e, Progress S wanted t t ∧
      ((.error e : Except GoError Unit) = .ok () → t.node loc = some (.file data)) :=
    fun e => ⟨.refl h, fun he => by cases he⟩
  unfold extractStreamed
  refine wp_attempt_bind.mpr fun r t₁ hstat => ?_
  cases r with
  | ok _ =>
      obtain ⟨rfl, hfound⟩ := hstat
      exact ⟨.refl h, fun _ => h.found hplace hwanted hfound⟩
  | error e =>
      obtain ⟨rfl, -⟩ := hstat
      refine wp_call_bind.mpr fun r t₂ hopen => ?_
      obtain rfl : t₂ = t₁ := hopen
      refine ⟨fun e _ => hstop e, fun _ _ => wp_call_bind.mpr fun r t₃ hreader => ?_⟩
      obtain rfl : t₃ = t₂ := hreader
      exact ⟨fun e _ => hstop e, fun _ _ => copyInto_sound hreliable h hplace hwanted⟩

theorem wp_callWrapped_bind {β : Type} {post : Except GoError β → FileTree Bytes → Prop}
    {context : String} {op : Op} {k : op.Value → Install β} :
    (callWrapped context op >>= k).run.wp (serves S) post t ↔ ∀ r t', serves S op t r t' →
      (∀ e, r = .error e → post (.error (e.wrap context)) t') ∧
        ∀ v, r = .ok v → (k v).run.wp (serves S) post t' := by
  refine forall₂_congr fun r t' => imp_congr_right fun _ => ?_
  cases r with
  | error e => exact ⟨fun h => ⟨fun _ he => Except.error.inj he ▸ h, by simp⟩, fun h => h.1 e rfl⟩
  | ok v => exact ⟨fun h => ⟨by simp, fun _ hv => Except.ok.inj hv ▸ h⟩, fun h => h.2 v rfl⟩

include hreliable in
theorem installSelf_sound (h : Sound S wanted t)
    (hfiles : ∀ loc data, wanted loc = some data → S.shape.isDir loc = false) {data : Bytes}
    {dst : Path} {loc : Location} (hplace : S.place dst = some loc)
    (hwanted : wanted loc = some data) :
    (installSelf data dst).run.wp (serves S) (fun r t' => Progress S wanted t t' ∧
      (r = .ok () → t'.node loc = some (.file data))) t := by
  have hstop : ∀ {t₁} e, Progress S wanted t t₁ → Progress S wanted t t₁ ∧
      ((.error e : Except GoError Unit) = .ok () → t₁.node loc = some (.file data)) :=
    fun e hprogress => ⟨hprogress, fun he => by cases he⟩
  unfold installSelf
  refine wp_attempt_bind.mpr fun r t₁ hstat => ?_
  cases r with
  | ok _ =>
      obtain ⟨rfl, hfound⟩ := hstat
      exact ⟨.refl h, fun _ => h.found hplace hwanted hfound⟩
  | error e =>
      obtain ⟨rfl, -⟩ := hstat
      refine wp_callWrapped_bind.mpr fun r t₂ hexe => ?_
      obtain rfl : t₂ = t₁ := hexe
      refine ⟨fun e _ => hstop _ (.refl h), fun _ _ => wp_callWrapped_bind.mpr fun r t₃ heval => ?_⟩
      obtain rfl : t₃ = t₂ := heval
      refine ⟨fun e _ => hstop _ (.refl h), fun _ _ => wp_callWrapped_bind.mpr fun r t₄ hmkdir => ?_⟩
      have hgrown : Progress S wanted t₃ t₄ := h.grown hfiles hmkdir
      refine ⟨fun e _ => hstop _ hgrown, fun _ _ => wp_call_bind.mpr fun r t₅ hsource => ?_⟩
      obtain rfl : t₅ = t₄ := hsource
      refine ⟨fun e _ => hstop _ hgrown, fun _ _ => ?_⟩
      refine (copyInto_sound hreliable hgrown.sound hplace hwanted).mono fun r t' hcopy => ?_
      exact ⟨hgrown.trans hcopy.1, hcopy.2⟩

theorem firstRegular_of_firstAt {T : FileTree Bytes} {dstDir : Path} {entries : List Entry}
    {loc : Location} {e : Entry} (h : firstAt (destIn S T dstDir) entries loc = some e) :
    firstRegular entries (base e.name) = some e := by
  obtain ⟨he, before, after, rfl, hbefore⟩ := List.find?_eq_some_iff_append.mp h
  rw [Bool.and_eq_true, beq_iff_eq, beq_iff_eq] at he
  refine List.find?_eq_some_iff_append.mpr ⟨?_, before, after, rfl, fun a ha => ?_⟩
  · rw [Bool.and_eq_true, beq_iff_eq, beq_iff_eq]
    exact ⟨he.1, rfl⟩
  · -- an entry of that name would have been extracted to this location
    have hnot := hbefore a ha
    rw [Bool.not_eq_true', Bool.and_eq_false_iff] at hnot ⊢
    refine hnot.imp_right fun hdest => ?_
    rw [beq_eq_false_iff_ne] at hdest ⊢
    intro hname
    refine hdest ?_
    rw [destIn, hname]
    exact he.2

theorem Extracted.within {T : FileTree Bytes} {dest : Entry → Option Location} {entries : List Entry}
    {t' : FileTree Bytes} (hframe : Extracted S dest entries t t') (h : t.Within T) :
    t'.Within T := by
  refine ⟨fun loc hdir => ?_, fun loc => ?_⟩
  · rcases hframe loc with hsame | ⟨-, e, written, -, -, hfile⟩
    · refine h.isDir loc ?_
      rw [FileTree.isDir, hsame] at hdir
      exact hdir
    · rw [FileTree.isDir, hfile] at hdir
      cases hdir
  · rw [← h.target]
    rcases hframe loc with hsame | ⟨hnone, e, written, -, -, hfile⟩
    · rw [FileTree.target, FileTree.target, hsame]
    · rw [FileTree.target, FileTree.target, hfile, hnone]

include hreliable in
theorem extractTarZstFrom_sound (h : Sound S wanted t) (goarch src : String) {entries : List Entry}
    {dstDir : Path} (hwanted : ∀ name e, firstRegular entries name = some e →
      ∃ loc, S.place (join dstDir name) = some loc ∧ wanted loc = some e.content) :
    (extractTarZstFrom goarch src entries dstDir).run.wp (serves S) (fun r t' =>
      Progress S wanted t t' ∧ (r = .ok () → ∀ name e, firstRegular entries name = some e →
        ∃ loc, S.place (join dstDir name) = some loc ∧ t'.node loc = some (.file e.content))) t := by
  refine (extractTarZstFrom_wp goarch src entries dstDir h.within).mono fun r t' hpost => ?_
  obtain ⟨hframe, hfinished⟩ := hpost
  have hsound : Sound S wanted t' := by
    refine ⟨hframe.within h.within, fun loc data hdata => ?_⟩
    rcases hframe loc with hsame | ⟨-, e, written, hfirst, hwritten, hfile⟩
    · rw [hsame]
      exact h.whole loc data hdata
    · -- the first entry at the location is what is wanted there
      obtain ⟨l, hplace, hl⟩ := hwanted _ e (firstRegular_of_firstAt hfirst)
      have hdest := (firstAt_eq_some hfirst).2
      obtain rfl : loc = l := Option.some_inj.mp (hdest.symm.trans hplace)
      have hcontent : e.content = data := Option.some_inj.mp (hl.symm.trans hdata)
      rw [hfile, ← hcontent]
      rcases hwritten with hall | hshort
      · rw [hall]
        exact .inr rfl
      · rw [hreliable _ _ hshort]
        exact .inr rfl
  refine ⟨⟨hsound, fun loc hloc => ?_⟩, fun hok name e hfirst => ?_⟩
  · rw [hframe.kept hloc]
    exact hloc
  · obtain ⟨loc, hplace, hdata⟩ := hwanted name e hfirst
    obtain ⟨htype, hname⟩ := firstRegular_eq_some hfirst
    obtain ⟨l, hdest, hpresent⟩ :=
      (hfinished hok).present e (List.mem_of_find?_eq_some hfirst) htype
    rw [destIn, hname] at hdest
    obtain rfl : l = loc := Option.some_inj.mp (hdest.symm.trans hplace)
    exact ⟨l, hplace, hsound.complete hdata hpresent⟩

include hreliable in
/-- One attempt keeps the tree sound, and if it returns nil its destinations are complete. -/
theorem run_sound (h : Sound S wanted t)
    (hfiles : ∀ loc data, wanted loc = some data → S.shape.isDir loc = false) (goarch : String)
    {job : Job} (hwanted : job.Each S fun loc data => wanted loc = some data) :
    (job.run goarch).run.wp (serves S) (fun r t' => Progress S wanted t t' ∧
      (r = .ok () → job.Installed S t')) t := by
  cases job with
  | streamed src data dst =>
      obtain ⟨loc, hplace, hdata⟩ := hwanted
      refine (extractStreamed_sound hreliable h goarch src hplace hdata).mono fun r t' hpost => ?_
      exact ⟨hpost.1, fun hok => ⟨loc, hplace, hpost.2 hok⟩⟩
  | archive src entries dstDir => exact extractTarZstFrom_sound hreliable h goarch src hwanted
  | self binary dst =>
      obtain ⟨loc, hplace, hdata⟩ := hwanted
      refine (installSelf_sound hreliable h hfiles hplace hdata).mono fun r t' hpost => ?_
      exact ⟨hpost.1, fun hok => ⟨loc, hplace, hpost.2 hok⟩⟩

end Attempt

/-! ## Any number of attempts -/

theorem Job.Each.map₂ {S : Setting} {P Q R : Location → Bytes → Prop} {job : Job}
    (hP : job.Each S P) (hQ : job.Each S Q) (h : ∀ loc data, P loc data → Q loc data → R loc data) :
    job.Each S R := by
  cases job with
  | streamed src data dst | self binary dst =>
      obtain ⟨loc, hplace, hloc⟩ := hP
      obtain ⟨loc', hplace', hloc'⟩ := hQ
      obtain rfl : loc = loc' := Option.some_inj.mp (hplace.symm.trans hplace')
      exact ⟨loc, hplace, h _ _ hloc hloc'⟩
  | archive src entries dstDir =>
      intro name e hfirst
      obtain ⟨loc, hplace, hloc⟩ := hP name e hfirst
      obtain ⟨loc', hplace', hloc'⟩ := hQ name e hfirst
      obtain rfl : loc = loc' := Option.some_inj.mp (hplace.symm.trans hplace')
      exact ⟨loc, hplace, h _ _ hloc hloc'⟩

theorem Attempts.progress {S : Setting} {wanted : Location → Option Bytes} {goarch : String}
    {t t' : FileTree Bytes} {attempts : List (Job × Except GoError Unit)}
    (hreliable : ∀ data written, S.short data written → written = data)
    (hfiles : ∀ loc data, wanted loc = some data → S.shape.isDir loc = false)
    (hrun : Attempts S goarch t attempts t') (h : Sound S wanted t)
    (hwanted : ∀ a ∈ attempts, a.1.Each S fun loc data => wanted loc = some data) :
    Progress S wanted t t' := by
  induction hrun with
  | nil t => exact .refl h
  | cons hrun _ ih =>
      rw [List.forall_mem_cons] at hwanted
      have hstep := (hrun.wp (run_sound hreliable h hfiles goarch hwanted.1)).1
      exact hstep.trans (ih hstep.sound hwanted.2)

theorem Progress.installed {S : Setting} {wanted : Location → Option Bytes} {t t' : FileTree Bytes}
    (h : Progress S wanted t t') {job : Job}
    (hwanted : job.Each S fun loc data => wanted loc = some data) (hjob : job.Installed S t) :
    job.Installed S t' := by
  refine hwanted.map₂ hjob fun loc data hdata hfile => ?_
  refine h.sound.complete hdata (h.present loc ?_)
  rw [hfile]
  exact Option.some_ne_none _

/-- **Complete artifacts.** Attempts at jobs that agree on what is `wanted` at their destinations,
none of which exists: if no copy stops before everything is written, then the destinations of every
attempt that returned nil are complete. A run may end after any attempt, so this holds when the
attempt returns and ever after. -/
theorem artifacts_complete (S : Setting) (goarch : String) (wanted : Location → Option Bytes)
    (t t' : FileTree Bytes) (attempts : List (Job × Except GoError Unit))
    (hreliable : ∀ data written, S.short data written → written = data)
    (hwithin : t.Within S.shape)
    (hfiles : ∀ loc data, wanted loc = some data → S.shape.isDir loc = false ∧ t.node loc = none)
    (hwanted : ∀ a ∈ attempts, a.1.Each S fun loc data => wanted loc = some data)
    (hrun : Attempts S goarch t attempts t') :
    ∀ job, (job, .ok ()) ∈ attempts → job.Installed S t' := by
  have hshape : ∀ loc data, wanted loc = some data → S.shape.isDir loc = false :=
    fun loc data h => (hfiles loc data h).1
  have hsound : Sound S wanted t := ⟨hwithin, fun loc data h => .inl (hfiles loc data h).2⟩
  clear hwithin hfiles
  intro job hjob
  -- induction over the attempts; the first one is done, the rest keeps what it has installed
  induction hrun with
  | nil t => cases hjob
  | cons hfirst hrest ih =>
      rw [List.forall_mem_cons] at hwanted
      obtain ⟨hstep, hdone⟩ := hfirst.wp (run_sound hreliable hsound hshape goarch hwanted.1)
      rcases List.mem_cons.mp hjob with heq | hmem
      · obtain ⟨rfl, rfl⟩ := Prod.mk.inj heq
        have hprogress := hrest.progress hreliable hshape hstep.sound hwanted.2
        exact hprogress.installed hwanted.1 (hdone rfl)
      · exact ih hwanted.2 hstep.sound hmem

/-- An artifact and its destination. -/
def sampleJob : Job := .streamed "worker/runc" [1, 2] ['/', 'a']

/-- The embedded file cannot be opened at first; the second attempt installs it. -/
theorem retried_artifact_complete : ∃ e t',
    Attempts (openSetting fun data written => written = data) "amd64" bare
      [(sampleJob, .error e), (sampleJob, .ok ())] t' ∧
    sampleJob.Installed (openSetting fun data written => written = data) t' := by
  have hrun : ∃ e, Attempts (openSetting fun data written => written = data) "amd64" bare
      [(sampleJob, .error e), (sampleJob, .ok ())] (withFile [1, 2]) :=
    ⟨⟨.other, "read error"⟩, .cons
      (exec_call (.stat _) (.error ⟨.notFound, ""⟩) ⟨rfl, bare_missing _⟩ <|
        exec_call (.openArtifact _) (.error _) rfl <| .ret _ _) <| .cons
      (exec_call (.stat _) (.error ⟨.notFound, ""⟩) ⟨rfl, bare_missing _⟩ <|
        exec_call (.openArtifact _) (.ok ()) rfl <| exec_call .newReader (.ok ()) rfl <|
        exec_call (.openFile _ _) (.ok [['a']]) ⟨bare_place, trivial, bare_writable ['a'], rfl⟩ <|
        exec_call (.copy _ _) (.ok ()) ⟨withFile_writable [], withFile_eq_write [1, 2]⟩ <|
        exec_call (.close _) (.ok ()) rfl <| .ret _ _) <| .nil _⟩
  obtain ⟨e, hrun⟩ := hrun
  have hwanted : ∀ a ∈ [(sampleJob, (.error e : Except GoError Unit)), (sampleJob, .ok ())],
      a.1.Each (openSetting fun data written => written = data) fun loc data =>
        (if loc = [['a']] then some [1, 2] else none) = some data := by
    simp only [List.forall_mem_cons, List.not_mem_nil, false_implies, implies_true, and_true]
    exact ⟨⟨_, bare_place, rfl⟩, ⟨_, bare_place, rfl⟩⟩
  refine ⟨e, _, hrun, artifacts_complete _ _ (fun loc => if loc = [['a']] then some [1, 2] else none)
    bare _ _ (fun _ _ h => h) (.refl bare) (fun loc data h => ?_) hwanted hrun sampleJob (by simp)⟩
  rw [Option.ite_none_right_eq_some] at h
  rw [h.1]
  exact ⟨rfl, rfl⟩

/-- A copy that fails in the middle leaves its beginning behind, and the next attempt returns nil. -/
theorem partial_artifact_kept : ∃ e t',
    Attempts (openSetting fun data written => written <+: data) "amd64" bare
      [(sampleJob, .error e), (sampleJob, .ok ())] t' ∧
    t'.node [['a']] = some (.file [1]) ∧
    ¬ sampleJob.Installed (openSetting fun data written => written <+: data) t' := by
  refine ⟨⟨.other, "no space left on device"⟩, withFile [1], .cons
    (exec_call (.stat _) (.error ⟨.notFound, ""⟩) ⟨rfl, bare_missing _⟩ <|
      exec_call (.openArtifact _) (.ok ()) rfl <| exec_call .newReader (.ok ()) rfl <|
      exec_call (.openFile _ _) (.ok [['a']]) ⟨bare_place, trivial, bare_writable ['a'], rfl⟩ <|
      exec_call (.copy _ _) (.error _)
        ⟨withFile_writable [], [1], ⟨[2], rfl⟩, withFile_eq_write [1]⟩ <|
      exec_call (.close _) (.ok ()) rfl <| .ret _ _) <| .cons
    (exec_call (.stat _) (.ok ()) ⟨rfl, withFile_found _ _⟩ <| .ret _ _) <| .nil _,
    FileTree.node_write_self _, ?_⟩
  rintro ⟨loc, hplace, hfile⟩
  obtain rfl := Option.some_inj.mp (bare_place.symm.trans hplace)
  rw [withFile, FileTree.node_write_self] at hfile
  cases hfile

end Heir.Worker.Artifact
