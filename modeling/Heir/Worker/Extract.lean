import Heir.Api.Core
import Heir.Api.Meta
import Heir.Lib.FileTree
import Heir.Lib.Interact
import Mathlib.Data.List.Find

set_option autoImplicit false

/-! # Installing artifacts

The worker carries its artifacts with it: single files (`extractStreamed`), archives
(`extractTarZstFrom`) and its own binary (`installSelf`). Each is installed by the same rule. What
is there already is left alone, anything else is created and copied into.

The calls to the operating system are answered by `serves`, on a tree of files. An archive is the
list of its entries in the order the reader returns them, an artifact its content after
decompression; that either cannot be read to its end is a failure of the call that reads it.

The main result is about archives: whatever the names of its entries are, extraction creates files
in the destination directory only, and the first entry of a name is the one that is installed
(`extract_contained`).
-/

namespace Heir.Worker.Artifact

open Heir.Core FilePath FileTree Interact

/-! ## Functions -/

/-- The calls that can fail. -/
inductive Op where
  /-- Open an embedded file. -/
  | openArtifact (path : String)
  | newReader
  /-- Go to the next entry of an archive or to its end. -/
  | next
  | executable
  | evalSymlinks (path : String)
  | openSource (path : String)
  | mkdirAll (path : Path)
  | stat (path : Path)
  /-- Open a file for writing, and create it if it is missing. -/
  | openFile (path : Path) (truncate : Bool)
  /-- Read `data` to its end and write it to an open file. -/
  | copy (file : Location) (data : Bytes)
  | close (file : Location)

def Op.Value : Op → Type
  | .executable => String
  | .evalSymlinks _ => String
  | .openFile _ _ => Location
  | _ => Unit

abbrev sig : Sig := ⟨Op, fun op => Except GoError op.Value⟩

abbrev Install (α : Type) : Type := ExceptT GoError (Prog sig) α

def call (op : Op) : Install op.Value := ExceptT.mk (Prog.call (S := sig) op .ret)

/-- The outcome of a call as a value. -/
def attempt (op : Op) : Install (Except GoError op.Value) :=
  ExceptT.mk (Prog.call (S := sig) op fun r => .ret (.ok r))

def fail {α : Type} (e : GoError) : Install α := ExceptT.mk (.ret (.error e))

/-- Where the artifact is embedded for an architecture. -/
def embedPath (goarch src : String) : String :=
  "worker/" ++ goarch ++ "/" ++ ((src.dropPrefix? "worker/").elim src (·.toString))

/-- Open the destination, copy, close it. -/
def copyInto (truncate : Bool) (data : Bytes) (dst : Path) : Install Unit := do
  let f : Location ← call (.openFile dst truncate)
  match ← attempt (.copy f data) with
  | .error e =>
      let _ ← attempt (.close f)
      fail e
  | .ok _ => call (.close f)

def copyToFile (data : Bytes) (dst : Path) : Install Unit := copyInto false data dst

/-- `extractStreamed` for an artifact with this content. -/
def extractStreamed (goarch src : String) (content : Bytes) (dst : Path) : Install Unit := do
  match ← attempt (.stat dst) with
  | .ok _ => pure ()
  | .error _ =>
      call (.openArtifact (embedPath goarch src ++ ".zst"))
      call .newReader
      copyToFile content dst

/-- The fields of a tar header that are read, and the content that follows it. -/
structure Entry where
  name : Path
  typeflag : Char
  content : Bytes

def typeReg : Char := '0'

/-- The error of a function is wrapped. -/
def wrapped (context : String) (p : Install Unit) : Install Unit :=
  ExceptT.mk (p.run >>= fun r => .ret (r.mapError (·.wrap context)))

/-- The loop over the entries of an archive. -/
def extractEntries (dstDir : Path) : List Entry → Install Unit
  | [] => call .next
  | hdr :: rest => do
      call .next
      if hdr.typeflag ≠ typeReg then extractEntries dstDir rest
      else
        let name := base hdr.name
        let dst := join dstDir name
        match ← attempt (.stat dst) with
        | .ok _ => extractEntries dstDir rest
        | .error _ =>
            wrapped ("extracting " ++ String.ofList name) (copyToFile hdr.content dst)
            extractEntries dstDir rest

/-- `extractTarZstFrom` for an archive with these entries. -/
def extractTarZstFrom (goarch src : String) (entries : List Entry) (dstDir : Path) : Install Unit := do
  call (.openArtifact (embedPath goarch src))
  call .newReader
  extractEntries dstDir entries

/-- A call whose error is wrapped. -/
def callWrapped (context : String) (op : Op) : Install op.Value := do
  match ← attempt op with
  | .error e => fail (e.wrap context)
  | .ok v => pure v

/-- `installSelf` for an executable with this content. -/
def installSelf (binary : Bytes) (dst : Path) : Install Unit := do
  match ← attempt (.stat dst) with
  | .ok _ => pure ()
  | .error _ =>
      let src : String ← callWrapped "could not determine executable path" .executable
      let src : String ← callWrapped "could not resolve executable symlink" (.evalSymlinks src)
      callWrapped "could not create install directory" (.mkdirAll (dir dst))
      call (.openSource src)
      copyInto true binary dst

/-! ## The operating system -/

/-- What the answers depend on besides the tree. -/
structure Setting where
  /-- How many links are followed. -/
  links : Nat
  cwd : Location
  /-- The permissions: whether a location can be reached at all. -/
  reach : Location → Prop
  /-- What a copy of `data` that fails may have written. -/
  short : Bytes → Bytes → Prop
  /-- A tree with every directory that is ever made. -/
  shape : FileTree Bytes

/-- The content of the file at a location. -/
def content (t : FileTree Bytes) (loc : Location) : Bytes :=
  match t.node loc with
  | some (.file data) => data
  | _ => []

/-- What a file holds after `data` was written over its beginning. -/
def overlay (data old : Bytes) : Bytes := data ++ old.drop data.length

def Setting.Found (S : Setting) (t : FileTree Bytes) (path : Path) : Prop :=
  ∃ loc, t.resolve S.links S.cwd path = some loc ∧ S.reach loc ∧ t.node loc ≠ none

/-- Directories were made, none outside `shape`. -/
structure Grown (shape t t' : FileTree Bytes) : Prop where
  kept : ∀ loc, t.node loc ≠ none → t'.node loc = t.node loc
  made : ∀ loc, t.node loc = none →
    t'.node loc = none ∨ t'.node loc = some .dir ∧ shape.isDir loc = true

/-- The answers and effects of the calls. Any call may fail, `stat` only if the file is missing or
cannot be reached. A file is opened without being emptied, unless that is asked for. -/
def serves (S : Setting) : Server sig (FileTree Bytes)
  | .stat path, t, .ok _, t' => t' = t ∧ S.Found t path
  | .stat path, t, .error _, t' => t' = t ∧ ¬ S.Found t path
  | .openFile path truncate, t, .ok loc, t' =>
      t.resolve S.links S.cwd path = some loc ∧ S.reach loc ∧ ∃ h : t.Writable loc,
        t' = t.write loc (if truncate then [] else content t loc) h
  | .copy loc data, t, .ok _, t' =>
      ∃ h : t.Writable loc, t' = t.write loc (overlay data (content t loc)) h
  | .copy loc data, t, .error _, t' => ∃ (h : t.Writable loc) (written : Bytes),
      S.short data written ∧ t' = t.write loc (overlay written (content t loc)) h
  | .mkdirAll _, t, _, t' => Grown S.shape t t'
  | _, t, _, t' => t' = t

section Rules

variable {S : Setting} {β : Type} {post : Except GoError β → FileTree Bytes → Prop} {t : FileTree Bytes}

theorem wp_attempt_bind {op : Op} {k : Except GoError op.Value → Install β} :
    (attempt op >>= k).run.wp (serves S) post t ↔
      ∀ r t', serves S op t r t' → (k r).run.wp (serves S) post t' := Iff.rfl

theorem wp_call_bind {op : Op} {k : op.Value → Install β} :
    (call op >>= k).run.wp (serves S) post t ↔ ∀ r t', serves S op t r t' →
      (∀ e, r = .error e → post (.error e) t') ∧
        ∀ v, r = .ok v → (k v).run.wp (serves S) post t' := by
  refine forall₂_congr fun r t' => imp_congr_right fun _ => ?_
  cases r with
  | error e => exact ⟨fun h => ⟨fun _ he => Except.error.inj he ▸ h, by simp⟩, fun h => h.1 e rfl⟩
  | ok v => exact ⟨fun h => ⟨by simp, fun _ hv => Except.ok.inj hv ▸ h⟩, fun h => h.2 v rfl⟩

theorem wp_call {op : Op} {post : Except GoError op.Value → FileTree Bytes → Prop} :
    (call op).run.wp (serves S) post t ↔ ∀ r t', serves S op t r t' → post r t' := Iff.rfl

theorem exec_call (op : Op) (r : Except GoError op.Value) {k : Except GoError op.Value → Prog sig β}
    {t₁ t' : FileTree Bytes} {calls : List (Called sig)} {b : β} (h : serves S op t r t₁)
    (hk : Exec (serves S) (k r) t₁ calls b t') :
    Exec (serves S) (Prog.call (S := sig) op k) t (⟨op, r⟩ :: calls) b t' := .call h hk

end Rules

/-! ## Copying -/

theorem overlay_nil (data : Bytes) : overlay data [] = data := by
  rw [overlay, List.drop_nil, List.append_nil]

variable {S : Setting} {t : FileTree Bytes}

theorem content_write {loc : Location} {data : Bytes} (h : t.Writable loc) :
    content (t.write loc data h) loc = data := by
  rw [content, FileTree.node_write_self]

theorem write_overlay {loc : Location} {data written : Bytes} (h : t.Writable loc)
    (h' : (t.write loc data h).Writable loc) :
    (t.write loc data h).write loc (overlay written (content (t.write loc data h) loc)) h' =
      t.write loc (overlay written data) h := by
  rw [FileTree.write_write, content_write]

theorem content_of_none {loc : Location} (h : t.node loc = none) : content t loc = [] := by
  rw [content, h]

/-- A copy fails and changes nothing, or the destination could be opened. Then the whole content was
written, or the copy fails and what it has written stays. -/
theorem copyInto_wp {truncate : Bool} {data : Bytes} {dst : Path}
    {post : Except GoError Unit → FileTree Bytes → Prop} (hfailed : ∀ e, post (.error e) t)
    (hopened : ∀ loc (h : t.Writable loc), t.resolve S.links S.cwd dst = some loc → S.reach loc →
      (∀ r, post r (t.write loc (overlay data (if truncate then [] else content t loc)) h)) ∧
        ∀ e written, S.short data written →
          post (.error e) (t.write loc (overlay written (if truncate then [] else content t loc)) h)) :
    (copyInto truncate data dst).run.wp (serves S) post t := by
  unfold copyInto
  refine wp_call_bind.mpr fun r t' hopen => ?_
  cases r with
  | error e =>
      obtain rfl : t' = t := hopen
      exact ⟨fun _ _ => hfailed _, fun _ h => by cases h⟩
  | ok loc =>
      obtain ⟨hresolve, hreach, hwritable, rfl⟩ := hopen
      obtain ⟨hwhole, hshort⟩ := hopened loc hwritable hresolve hreach
      refine ⟨fun _ h => (by cases h), fun v hv => ?_⟩
      obtain rfl : loc = v := Except.ok.inj hv
      refine wp_attempt_bind.mpr fun r t' hcopy => ?_
      cases r with
      | error e =>
          obtain ⟨h, written, hwritten, ht'⟩ := hcopy
          obtain rfl := ht'.trans (write_overlay hwritable h)
          intro r t' hclose
          obtain rfl := hclose
          exact hshort e written hwritten
      | ok v =>
          obtain ⟨h, ht'⟩ := hcopy
          obtain rfl := ht'.trans (write_overlay hwritable h)
          intro r t' hclose
          obtain rfl := hclose
          exact hwhole r

theorem wrapped_wp {context : String} {p : Install Unit}
    {post : Except GoError Unit → FileTree Bytes → Prop} :
    (wrapped context p).run.wp (serves S) post t ↔
      p.run.wp (serves S) (fun r => post (r.mapError (·.wrap context))) t :=
  Prog.wp_bind

/-! ## The entries of an archive -/

/-- The first regular entry that is extracted to a location, when `dest` tells where to. -/
def firstAt (dest : Entry → Option Location) (entries : List Entry) (loc : Location) :
    Option Entry :=
  entries.find? fun e => e.typeflag == typeReg && dest e == some loc

section Entries

variable (S : Setting) (dest : Entry → Option Location) (entries : List Entry)

/-- What extraction may have changed: where nothing was, the first entry was written, or a part of
it. -/
def Extracted (t t' : FileTree Bytes) : Prop :=
  ∀ loc, t'.node loc = t.node loc ∨ t.node loc = none ∧ ∃ e written,
    firstAt dest entries loc = some e ∧ (written = e.content ∨ S.short e.content written) ∧
      t'.node loc = some (.file written)

/-- What extraction has done when it returns nil: every entry has its file, a new one that of the
first entry. -/
structure Finished (t t' : FileTree Bytes) : Prop where
  first : ∀ loc e, firstAt dest entries loc = some e → t.node loc = none →
    t'.node loc = some (.file e.content)
  present : ∀ e ∈ entries, e.typeflag = typeReg → ∃ loc, dest e = some loc ∧ t'.node loc ≠ none

variable {S dest entries}

variable {e : Entry} {loc : Location} {t t' : FileTree Bytes}

theorem firstAt_cons_of_ne (h : e.typeflag ≠ typeReg ∨ dest e ≠ some loc) :
    firstAt dest (e :: entries) loc = firstAt dest entries loc := by
  refine List.find?_cons_of_neg ?_
  rw [Bool.and_eq_true, beq_iff_eq, beq_iff_eq, not_and_or]
  exact h

theorem firstAt_cons_self (htype : e.typeflag = typeReg) (hdest : dest e = some loc) :
    firstAt dest (e :: entries) loc = some e := by
  refine List.find?_cons_of_pos ?_
  rw [Bool.and_eq_true, beq_iff_eq, beq_iff_eq]
  exact ⟨htype, hdest⟩

theorem firstAt_eq_some (h : firstAt dest entries loc = some e) :
    e.typeflag = typeReg ∧ dest e = some loc := by
  have he := List.find?_some h
  rw [Bool.and_eq_true, beq_iff_eq, beq_iff_eq] at he
  exact he

theorem Extracted.kept (h : Extracted S dest entries t t') (hloc : t.node loc ≠ none) :
    t'.node loc = t.node loc := by
  rcases h loc with hsame | ⟨hnone, -⟩
  · exact hsame
  · exact absurd hnone hloc

/-- An entry that is skipped, because it is no regular file or because its file exists. -/
theorem Extracted.skip (h : Extracted S dest entries t t')
    (hskip : ∀ loc, t.node loc = none → e.typeflag ≠ typeReg ∨ dest e ≠ some loc) :
    Extracted S dest (e :: entries) t t' := by
  intro loc
  rcases h loc with hsame | ⟨hnone, hnew⟩
  · exact .inl hsame
  · rw [← firstAt_cons_of_ne (hskip loc hnone)] at hnew
    exact .inr ⟨hnone, hnew⟩

theorem Finished.skip (h : Finished dest entries t t')
    (hskip : ∀ loc, t.node loc = none → e.typeflag ≠ typeReg ∨ dest e ≠ some loc)
    (hpresent : e.typeflag = typeReg → ∃ loc, dest e = some loc ∧ t'.node loc ≠ none) :
    Finished dest (e :: entries) t t' where
  first := by
    intro loc f hfirst hnone
    rw [firstAt_cons_of_ne (hskip loc hnone)] at hfirst
    exact h.first loc f hfirst hnone
  present := List.forall_mem_cons.mpr ⟨hpresent, h.present⟩

theorem Extracted.last {written : Bytes} (h : t.Writable loc) (htype : e.typeflag = typeReg)
    (hdest : dest e = some loc) (hnone : t.node loc = none)
    (hwritten : written = e.content ∨ S.short e.content written) :
    Extracted S dest (e :: entries) t (t.write loc written h) := by
  intro l
  by_cases hl : l = loc
  · subst hl
    exact .inr ⟨hnone, e, written, firstAt_cons_self htype hdest, hwritten,
      FileTree.node_write_self h⟩
  · exact .inl (FileTree.node_write_of_ne h hl)

theorem Extracted.node_written {content : Bytes} {h : t.Writable loc}
    (hrest : Extracted S dest entries (t.write loc content h) t') :
    t'.node loc = some (.file content) := by
  have hwritten : (t.write loc content h).node loc = some (.file content) :=
    FileTree.node_write_self h
  rw [hrest.kept (by rw [hwritten]; exact Option.some_ne_none _), hwritten]

theorem Extracted.write {h : t.Writable loc} (htype : e.typeflag = typeReg)
    (hdest : dest e = some loc) (hnone : t.node loc = none)
    (hrest : Extracted S dest entries (t.write loc e.content h) t') :
    Extracted S dest (e :: entries) t t' := by
  intro l
  by_cases hl : l = loc
  · subst hl
    exact .inr ⟨hnone, e, e.content, firstAt_cons_self htype hdest, .inl rfl, hrest.node_written⟩
  · have hne : dest e ≠ some l := by
      rw [hdest]
      exact fun heq => hl (Option.some_inj.mp heq).symm
    have hl' := hrest l
    rw [FileTree.node_write_of_ne h hl, ← firstAt_cons_of_ne (.inr hne)] at hl'
    exact hl'

theorem Finished.write {h : t.Writable loc} (htype : e.typeflag = typeReg)
    (hdest : dest e = some loc) (hframe : Extracted S dest entries (t.write loc e.content h) t')
    (hrest : Finished dest entries (t.write loc e.content h) t') :
    Finished dest (e :: entries) t t' := by
  have hfile : t'.node loc = some (.file e.content) := hframe.node_written
  constructor
  · intro l f hfirst hnone
    by_cases hl : l = loc
    · subst hl
      rw [firstAt_cons_self htype hdest] at hfirst
      rw [← Option.some_inj.mp hfirst]
      exact hfile
    · have hne : dest e ≠ some l := by
        rw [hdest]
        exact fun heq => hl (Option.some_inj.mp heq).symm
      rw [firstAt_cons_of_ne (.inr hne)] at hfirst
      refine hrest.first l f hfirst ?_
      rw [FileTree.node_write_of_ne h hl, hnone]
  · refine List.forall_mem_cons.mpr ⟨fun _ => ⟨loc, hdest, ?_⟩, hrest.present⟩
    rw [hfile]
    exact Option.some_ne_none _

end Entries

/-- Where an entry is extracted to, in a tree that has every directory. -/
def destIn (S : Setting) (T : FileTree Bytes) (dstDir : Path) (e : Entry) : Option Location :=
  T.resolve S.links S.cwd (join dstDir (base e.name))

theorem extractEntries_wp {T : FileTree Bytes} {dstDir : Path} (entries : List Entry)
    (hwithin : t.Within T) :
    (extractEntries dstDir entries).run.wp (serves S) (fun r t' =>
      Extracted S (destIn S T dstDir) entries t t' ∧
        (r = .ok () → Finished (destIn S T dstDir) entries t t')) t := by
  -- induction over the entries; every call of the loop either ends it or leaves the rest to do
  induction entries generalizing t with
  | nil =>
      intro r t' hnext
      obtain rfl : t' = t := hnext
      exact ⟨fun _ => .inl rfl, fun _ => ⟨fun _ _ h _ => (by cases h), fun _ h => (by cases h)⟩⟩
  | cons e rest ih =>
      unfold extractEntries
      refine wp_call_bind.mpr fun r t' hnext => ?_
      obtain rfl : t' = t := hnext
      refine ⟨fun err herr => ⟨fun _ => .inl rfl, fun h => by cases h⟩, fun _ _ => ?_⟩
      by_cases htype : e.typeflag = typeReg
      · rw [if_neg (not_not_intro htype)]
        dsimp only
        refine wp_attempt_bind.mpr fun r t₁ hstat => ?_
        cases r with
        | ok _ =>
            obtain ⟨rfl, loc, hresolve, -, hpresent⟩ := hstat
            have hdest : destIn S T dstDir e = some loc := hwithin.resolve hresolve
            have hskip : ∀ l, t₁.node l = none →
                e.typeflag ≠ typeReg ∨ destIn S T dstDir e ≠ some l := by
              intro l hnone
              refine .inr fun hl => hpresent ?_
              rw [hdest] at hl
              rw [Option.some_inj.mp hl]
              exact hnone
            refine (ih hwithin).mono fun r t' ⟨hframe, hfinished⟩ => ⟨hframe.skip hskip, fun hok => ?_⟩
            refine (hfinished hok).skip hskip fun _ => ⟨loc, hdest, ?_⟩
            rw [hframe.kept hpresent]
            exact hpresent
        | error err =>
            obtain ⟨rfl, hmissing⟩ := hstat
            rw [Prog.wp_run_bind, wrapped_wp]
            refine copyInto_wp (fun e' => ?_) fun loc hwritable hresolve hreach => ?_
            · exact ⟨fun _ => .inl rfl, fun h => by cases h⟩
            · have hdest : destIn S T dstDir e = some loc := hwithin.resolve hresolve
              have hnone : t₁.node loc = none := by
                by_contra hsome
                exact hmissing ⟨loc, hresolve, hreach, hsome⟩
              rw [content_of_none hnone]
              simp only [Bool.false_eq_true, if_false, overlay_nil]
              constructor
              · intro r
                cases r with
                | error e' =>
                    exact ⟨.last hwritable htype hdest hnone (.inl rfl), fun h => by cases h⟩
                | ok _ =>
                    refine (ih (hwithin.write hwritable)).mono fun r t' ⟨hframe, hfinished⟩ => ?_
                    exact ⟨hframe.write htype hdest hnone,
                      fun hok => (hfinished hok).write htype hdest hframe⟩
              · intro e' written hshort
                exact ⟨.last hwritable htype hdest hnone (.inr hshort), fun h => by cases h⟩
      · rw [if_pos htype]
        refine (ih hwithin).mono fun r t' ⟨hframe, hfinished⟩ => ?_
        exact ⟨hframe.skip fun _ _ => .inl htype,
          fun hok => (hfinished hok).skip (fun _ _ => .inl htype) fun h => absurd h htype⟩

/-- The first regular entry whose last element is `name`. -/
def firstRegular (entries : List Entry) (name : Path) : Option Entry :=
  entries.find? fun e => e.typeflag == typeReg && base e.name == name

theorem firstRegular_eq_some {entries : List Entry} {name : Path} {e : Entry}
    (h : firstRegular entries name = some e) : e.typeflag = typeReg ∧ base e.name = name := by
  have he := List.find?_some h
  rw [Bool.and_eq_true, beq_iff_eq, beq_iff_eq] at he
  exact he

theorem extractTarZstFrom_wp {T : FileTree Bytes} (goarch src : String) (entries : List Entry)
    (dstDir : Path) (hwithin : t.Within T) :
    (extractTarZstFrom goarch src entries dstDir).run.wp (serves S) (fun r t' =>
      Extracted S (destIn S T dstDir) entries t t' ∧
        (r = .ok () → Finished (destIn S T dstDir) entries t t')) t := by
  unfold extractTarZstFrom
  refine wp_call_bind.mpr fun r t' hopen => ?_
  obtain rfl : t' = t := hopen
  refine ⟨fun e he => ⟨fun _ => .inl rfl, fun h => by cases h⟩, fun _ _ => ?_⟩
  refine wp_call_bind.mpr fun r t'' hreader => ?_
  obtain rfl : t'' = t' := hreader
  refine ⟨fun e he => ⟨fun _ => .inl rfl, fun h => by cases h⟩, fun _ _ => ?_⟩
  exact extractEntries_wp entries hwithin

section LinkFree

variable {S : Setting} {t : FileTree Bytes} {dstDir : Path} {D : Location} {entries : List Entry}

/-- In a directory without links only a name in the directory can be missing. -/
theorem destIn_of_none (hdir : t.LinkFree S.cwd dstDir D) {e : Entry} {loc : Location}
    (hdest : destIn S t dstDir e = some loc) (hnone : t.node loc = none) :
    loc = D ++ [base e.name] := by
  obtain ⟨loc', hresolve, hcases⟩ := hdir.resolve_join_base S.links e.name
  obtain rfl : loc = loc' := Option.some_inj.mp (hdest.symm.trans hresolve)
  rcases hcases with hisDir | hchild
  · rw [FileTree.node_of_isDir hisDir] at hnone
    cases hnone
  · exact hchild

theorem destIn_of_lookup (hdir : t.LinkFree S.cwd dstDir D) {e : Entry}
    (hlookup : t.lookup S.links S.cwd (join dstDir (base e.name)) = none) :
    destIn S t dstDir e = some (D ++ [base e.name]) ∧ t.node (D ++ [base e.name]) = none := by
  obtain ⟨loc, hresolve, -⟩ := hdir.resolve_join_base S.links e.name
  have hnone : t.node loc = none := by
    rw [FileTree.lookup, hresolve] at hlookup
    exact hlookup
  have hloc := destIn_of_none hdir hresolve hnone
  rw [← hloc]
  exact ⟨hresolve, hnone⟩

/-- At the place of a missing name, the first entry is the first of that name. -/
theorem firstAt_of_none (hdir : t.LinkFree S.cwd dstDir D) {name : Path}
    (hplace : ∀ e ∈ entries, base e.name = name → destIn S t dstDir e = some (D ++ [name]))
    (hnone : t.node (D ++ [name]) = none) :
    firstAt (destIn S t dstDir) entries (D ++ [name]) = firstRegular entries name := by
  refine List.find?_congr fun e he => ?_
  congr 1
  rw [Bool.eq_iff_iff, beq_iff_eq, beq_iff_eq]
  constructor
  · intro hdest
    have hchild := destIn_of_none hdir hdest hnone
    exact (List.cons.inj (List.append_cancel_left hchild)).1.symm
  · exact hplace e he

end LinkFree

/-- **Containment.** Into a directory without links, extraction only ever creates files that stand
in this directory itself and did not exist. There is no link on the way to it either: the path of a
file is cleaned, and behind a link `..` would be another directory than the one that is meant. If it returns nil, every missing name among the regular
entries has become a file with the content of its first entry. -/
theorem extract_contained (S : Setting) (goarch src : String) (entries : List Entry) (dstDir : Path)
    (D : Location) (t t' : FileTree Bytes) (calls : List (Called sig)) (r : Except GoError Unit)
    (hdir : t.LinkFree S.cwd dstDir D)
    (hrun : Exec (serves S) (extractTarZstFrom goarch src entries dstDir).run t calls r t') :
    (∀ loc, t'.node loc = t.node loc ∨ t.node loc = none ∧
      ∃ name data, loc = D ++ [name] ∧ t'.node loc = some (.file data)) ∧
    (r = .ok () → ∀ name e, firstRegular entries name = some e →
      t.lookup S.links S.cwd (join dstDir name) = none →
        t'.node (D ++ [name]) = some (.file e.content)) := by
  obtain ⟨hframe, hfinished⟩ := hrun.wp (extractTarZstFrom_wp goarch src entries dstDir (.refl t))
  constructor
  · intro loc
    rcases hframe loc with hsame | ⟨hnone, e, written, hfirst, -, hnode⟩
    · exact .inl hsame
    · have hdest := (firstAt_eq_some hfirst).2
      exact .inr ⟨hnone, base e.name, written, destIn_of_none hdir hdest hnone, hnode⟩
  · intro hok name e hfirst hlookup
    obtain ⟨-, rfl⟩ := firstRegular_eq_some hfirst
    obtain ⟨hplace, hnone⟩ := destIn_of_lookup hdir hlookup
    have hall : ∀ f ∈ entries, base f.name = base e.name →
        destIn S t dstDir f = some (D ++ [base e.name]) := by
      intro f _ hf
      rw [destIn, hf]
      exact hplace
    rw [← firstAt_of_none hdir hall hnone] at hfirst
    exact (hfinished hok).first _ e hfirst hnone

/-- A tree with nothing but its root. -/
def bareNode (loc : Location) : Option (Node Bytes) := if loc = [] then some .dir else none

theorem bareNode_parent (loc : Location) (h : bareNode loc ≠ none) :
    bareNode loc.dropLast = some .dir := by
  by_cases hroot : loc = []
  · rw [hroot]
    rfl
  · exact absurd (if_neg hroot) h

def bare : FileTree Bytes := ⟨bareNode, rfl, bareNode_parent⟩

/-- A system without restrictions on which a failed copy may leave what `short` says. -/
def openSetting (short : Bytes → Bytes → Prop) : Setting where
  links := 40
  cwd := []
  reach := fun _ => True
  short := short
  shape := bare

theorem bare_linkFree : bare.LinkFree [] ['/'] [] where
  ne_nil := by decide
  way := rfl
  isDir := rfl
  entries := fun _ => rfl

theorem bare_writable (name : Path) : bare.Writable [name] := ⟨by simp, rfl, rfl, rfl⟩

theorem bare_place : bare.resolve 40 [] ['/', 'a'] = some [['a']] := by
  have hwalk : bare.walk [] (components ['a']) = some [['a']] := rfl
  exact bare_linkFree.resolve_join 40 hwalk

/-- The tree with one file. -/
def withFile (data : Bytes) : FileTree Bytes := bare.write [['a']] data (bare_writable ['a'])

theorem withFile_writable (data : Bytes) : (withFile data).Writable [['a']] :=
  ⟨by simp, rfl, rfl, rfl⟩

theorem bare_missing (short : Bytes → Bytes → Prop) : ¬ (openSetting short).Found bare ['/', 'a'] := by
  rintro ⟨loc, hresolve, -, hnode⟩
  obtain rfl := Option.some_inj.mp (bare_place.symm.trans hresolve)
  exact hnode rfl

theorem withFile_found (short : Bytes → Bytes → Prop) (data : Bytes) :
    (openSetting short).Found (withFile data) ['/', 'a'] := by
  have hwithin : bare.Within (withFile data) := by
    refine ⟨fun loc hdir => ?_, fun loc => ?_⟩
    · rw [withFile, FileTree.isDir_write]
      exact hdir
    · rw [withFile, FileTree.target_write]
  refine ⟨[['a']], hwithin.resolve bare_place, trivial, ?_⟩
  rw [withFile, FileTree.node_write_self]
  exact Option.some_ne_none _

theorem withFile_eq_write (data : Bytes) :
    withFile data = (withFile []).write [['a']] (overlay data []) (withFile_writable []) := by
  rw [overlay_nil]
  exact (FileTree.write_write _ _).symm

/-- Two entries with the same last element. -/
def twoEntries : List Entry := [⟨['.', '.', '/', 'a'], '0', [1]⟩, ⟨['b', '/', 'a'], '0', [2]⟩]

theorem twoEntries_extracted : ∃ calls t', Exec (serves (openSetting fun data written => written <+: data))
    (extractTarZstFrom "amd64" "worker/cni.tar.zst" twoEntries ['/']).run bare calls (.ok ()) t' ∧
      t'.node [['a']] = some (.file [1]) := by
  have hrun : ∃ calls, Exec (serves (openSetting fun data written => written <+: data))
      (extractTarZstFrom "amd64" "worker/cni.tar.zst" twoEntries ['/']).run bare calls (.ok ())
      (withFile [1]) :=
    ⟨_, exec_call (.openArtifact _) (.ok ()) rfl <| exec_call .newReader (.ok ()) rfl <|
      exec_call .next (.ok ()) rfl <|
      exec_call (.stat _) (.error ⟨.notFound, ""⟩) ⟨rfl, bare_missing _⟩ <|
      exec_call (.openFile _ _) (.ok [['a']]) ⟨bare_place, trivial, bare_writable ['a'], rfl⟩ <|
      exec_call (.copy _ _) (.ok ()) ⟨withFile_writable [], withFile_eq_write [1]⟩ <|
      exec_call (.close _) (.ok ()) rfl <|
      exec_call .next (.ok ()) rfl <| exec_call (.stat _) (.ok ()) ⟨rfl, withFile_found _ _⟩ <|
      exec_call .next (.ok ()) rfl <| .ret _ _⟩
  obtain ⟨calls, hrun⟩ := hrun
  have hlookup : bare.lookup 40 [] ['/', 'a'] = none := by
    rw [FileTree.lookup, bare_place]
    rfl
  refine ⟨calls, _, hrun, ?_⟩
  exact (extract_contained _ _ _ twoEntries ['/'] [] bare _ calls _ bare_linkFree hrun).2 rfl
    ['a'] ⟨['.', '.', '/', 'a'], '0', [1]⟩ rfl hlookup

end Heir.Worker.Artifact
