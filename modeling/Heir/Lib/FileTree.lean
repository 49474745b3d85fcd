import Heir.Lib.FilePath

set_option autoImplicit false

/-! # Trees of files

A file system as a map from locations, which are the names from the root down, to what stands
there: a directory, a file or a symbolic link. A tree carries that its root is a directory and that
whatever it holds stands in a directory.

`resolve` takes a path to a location as the kernel does: component after component, two dots to the
parent, a link replaced by its target. The location it leads to need not hold anything.

The main result is `walk_clean`: as long as no link stands in the way, the cleaned path leads to the
same place.
-/

namespace FileTree

open FilePath

abbrev Location : Type := List Path

inductive Node (Data : Type) : Type where
  | dir
  | file (data : Data)
  | link (target : Path)
  deriving DecidableEq

end FileTree

@[ext] structure FileTree (Data : Type) where
  node : FileTree.Location → Option (FileTree.Node Data)
  root : node [] = some .dir
  parent : ∀ loc, node loc ≠ none → node loc.dropLast = some .dir

namespace FileTree

open FilePath

/-- Where one component leads to. -/
def move (cur : Location) (c : Path) : Location :=
  if c = [] ∨ c = dot then cur
  else if c = dotDot then cur.dropLast
  else cur ++ [c]

/-- Where a path begins. -/
def start (cwd : Location) (p : Path) : Location := if rooted p then [] else cwd

variable {Data : Type} (t : FileTree Data)

def isDir (loc : Location) : Bool :=
  match t.node loc with
  | some .dir => true
  | _ => false

/-- The target of the link at a location. -/
def target (loc : Location) : Option Path :=
  match t.node loc with
  | some (.link p) => some p
  | _ => none

/-- The place that the components lead to, with at most so many links on the way. -/
def follow : Nat → Location → List Path → Option Location
  | _, cur, [] => some cur
  | links, cur, c :: cs =>
      if t.isDir cur then
        match t.target (move cur c) with
        | none => follow links (move cur c) cs
        | some p =>
            match links with
            | 0 => none
            | links + 1 => follow links (if rooted p then [] else cur) (components p ++ cs)
      else none
  termination_by links _ cs => (links, cs.length)

/-- The place that a path leads to. The empty path leads nowhere. -/
def resolve (links : Nat) (cwd : Location) (p : Path) : Option Location :=
  if p = [] then none else t.follow links (start cwd p) (components p)

/-- What stands at the place that a path leads to. -/
def lookup (links : Nat) (cwd : Location) (p : Path) : Option (Node Data) :=
  (t.resolve links cwd p).bind t.node

/-- One component, if it is no link. -/
def step (cur : Location) (c : Path) : Option Location :=
  if t.isDir cur ∧ t.target (move cur c) = none then some (move cur c) else none

/-- The place that the components lead to without a link. -/
def walk (cur : Location) (cs : List Path) : Option Location := cs.foldlM t.step cur

/-! ## Walking -/

variable {t}

variable {c p : Path} {cs : List Path} {cur cwd loc : Location} {data : Data}

theorem node_of_isDir (h : t.isDir loc = true) : t.node loc = some .dir := by
  unfold isDir at h
  split at h
  · assumption
  · cases h

theorem isDir_of_node (h : t.node loc = some .dir) : t.isDir loc = true := by
  rw [isDir, h]

theorem target_of_isDir (h : t.isDir loc = true) : t.target loc = none := by
  rw [target, node_of_isDir h]

theorem isDir_dropLast (h : t.isDir loc = true) : t.isDir loc.dropLast = true := by
  refine isDir_of_node (t.parent loc ?_)
  rw [node_of_isDir h]
  exact Option.some_ne_none _

theorem step_eq_some {next : Location} :
    t.step cur c = some next ↔
      t.isDir cur = true ∧ t.target (move cur c) = none ∧ move cur c = next := by
  rw [step, Option.ite_none_right_eq_some, Option.some_inj, and_assoc]

@[simp] theorem walk_nil (cur : Location) : t.walk cur [] = some cur := rfl

theorem walk_cons :
    t.walk cur (c :: cs) = some loc ↔ ∃ next, t.step cur c = some next ∧ t.walk next cs = some loc := by
  rw [walk, List.foldlM_cons]
  exact Option.bind_eq_some_iff

theorem walk_append {cs' : List Path} :
    t.walk cur (cs ++ cs') = some loc ↔
      ∃ mid, t.walk cur cs = some mid ∧ t.walk mid cs' = some loc := by
  rw [walk, List.foldlM_append]
  exact Option.bind_eq_some_iff

theorem walk_concat :
    t.walk cur (cs ++ [c]) = some loc ↔ ∃ mid, t.walk cur cs = some mid ∧ t.step mid c = some loc := by
  rw [walk_append]
  refine exists_congr fun mid => and_congr_right fun _ => ?_
  rw [walk_cons]
  constructor
  · rintro ⟨next, hstep, hnext⟩
    rwa [← Option.some_inj.mp hnext]
  · exact fun hstep => ⟨loc, hstep, rfl⟩

/-- Without a link on the way, no number of them is too few. -/
theorem follow_of_walk (links : Nat) (h : t.walk cur cs = some loc) :
    t.follow links cur cs = some loc := by
  induction cs generalizing cur with
  | nil => simpa [follow] using h
  | cons c cs ih =>
      obtain ⟨next, hstep, hrest⟩ := walk_cons.mp h
      obtain ⟨hdir, htarget, rfl⟩ := step_eq_some.mp hstep
      simp only [follow, hdir, htarget]
      exact ih hrest

theorem isDir_of_walk_cons (h : t.walk cur (c :: cs) = some loc) : t.isDir cur = true := by
  obtain ⟨next, hstep, -⟩ := walk_cons.mp h
  exact (step_eq_some.mp hstep).1

theorem step_self (hc : c = [] ∨ c = dot) (hdir : t.isDir cur = true) :
    t.step cur c = some cur := by
  have hmove : move cur c = cur := by rw [move, if_pos hc]
  exact step_eq_some.mpr ⟨hdir, by rw [hmove]; exact target_of_isDir hdir, hmove⟩

theorem move_dotDot (cur : Location) : move cur dotDot = cur.dropLast := by
  rw [move, if_neg (by decide), if_pos rfl]

theorem move_name (cur : Location) (hc : Kept c) (hup : c ≠ dotDot) : move cur c = cur ++ [c] := by
  rw [move, if_neg (by rw [not_or]; exact ⟨hc.ne_nil, hc.ne_dot⟩), if_neg hup]

/-! ## Cleaned paths -/

/-- The stack of cleaned components leads where the components so far do. -/
theorem walk_push {r : Bool} {kept : List Path} {from' next : Location}
    (hroot : r = true → from' = []) (hkept : ∀ k ∈ kept, Kept k)
    (hwalk : t.walk from' kept.reverse = some cur) (hstep : t.step cur c = some next) :
    t.walk from' (push r kept c).reverse = some next := by
  obtain ⟨hdir, htarget, hmove⟩ := step_eq_some.mp hstep
  have happend : t.walk from' (c :: kept).reverse = some next := by
    rw [List.reverse_cons, walk_concat]
    exact ⟨cur, hwalk, hstep⟩
  unfold push
  by_cases hself : c = [] ∨ c = dot
  · rw [if_pos hself]
    rw [step_self hself hdir] at hstep
    rwa [← Option.some_inj.mp hstep]
  · rw [if_neg hself]
    by_cases hup : c = dotDot
    · rw [if_pos hup]
      subst hup
      rw [move_dotDot] at hmove
      cases kept with
      | nil =>
          obtain rfl : from' = cur := Option.some_inj.mp hwalk
          cases r with
          | true =>
              -- the parent of the root is the root
              rw [hroot rfl] at hmove
              rw [hroot rfl, ← hmove]
              rfl
          | false => exact happend
      | cons top below =>
          dsimp only
          by_cases htop : top = dotDot
          · rw [if_pos htop]
            exact happend
          · rw [if_neg htop]
            rw [List.reverse_cons, walk_concat] at hwalk
            obtain ⟨mid, hmid, hinto⟩ := hwalk
            obtain ⟨-, -, hcur⟩ := step_eq_some.mp hinto
            rw [move_name _ (hkept top List.mem_cons_self) htop] at hcur
            rw [hmid, ← hmove, ← hcur, List.dropLast_concat]
    · rw [if_neg hup]
      exact happend

theorem walk_foldl_push {r : Bool} {kept : List Path} {from' : Location}
    (hroot : r = true → from' = []) (hkept : ∀ k ∈ kept, Kept k) (hcs : ∀ c ∈ cs, '/' ∉ c)
    (hwalk : t.walk from' kept.reverse = some cur) (hrest : t.walk cur cs = some loc) :
    t.walk from' (cs.foldl (push r) kept).reverse = some loc := by
  induction cs generalizing kept cur with
  | nil =>
      rw [← Option.some_inj.mp hrest]
      exact hwalk
  | cons c cs ih =>
      rw [List.forall_mem_cons] at hcs
      obtain ⟨next, hstep, hrest⟩ := walk_cons.mp hrest
      exact ih (forall_kept_push hkept hcs.1) hcs.2 (walk_push hroot hkept hwalk hstep) hrest

theorem walk_cleanComponents (h : t.walk (start cwd p) (components p) = some loc) :
    t.walk (start cwd p) (cleanComponents p) = some loc :=
  walk_foldl_push (fun hr => if_pos hr) (by simp) (fun _ => not_mem_of_mem_components) rfl h

/-- **Cleaning.** A path without links leads where its cleaned form does. -/
theorem walk_clean (h : t.walk (start cwd p) (components p) = some loc) :
    t.walk (start cwd (clean p)) (components (clean p)) = some loc := by
  have hclean := walk_cleanComponents h
  have hdir : t.isDir (start cwd p) = true := by
    cases hcs : components p with
    | nil => exact absurd hcs (components_ne_nil p)
    | cons c cs =>
        rw [hcs] at h
        exact isDir_of_walk_cons h
  -- an empty component or a dot in front changes nothing
  have hself : ∀ {c : Path} {cs : List Path}, c = [] ∨ c = dot →
      t.walk (start cwd p) cs = some loc → t.walk (start cwd p) (c :: cs) = some loc :=
    fun hc hcs => walk_cons.mpr ⟨_, step_self hc hdir, hcs⟩
  have hstart : start cwd (clean p) = start cwd p := by rw [start, start, rooted_clean]
  rw [hstart]
  cases hrooted : rooted p with
  | true =>
      rw [components_clean_of_rooted hrooted]
      by_cases hnil : cleanComponents p = []
      · rw [if_pos hnil]
        rw [hnil] at hclean
        exact hself (.inl rfl) (hself (.inl rfl) hclean)
      · rw [if_neg hnil]
        exact hself (.inl rfl) hclean
  | false =>
      rw [components_clean_of_relative hrooted]
      by_cases hnil : cleanComponents p = []
      · rw [if_pos hnil]
        rw [hnil] at hclean
        exact hself (.inr rfl) hclean
      · rw [if_neg hnil]
        exact hclean

/-! ## Directories without links -/

/-- The path leads to the directory `dir`, and there is no link on the way or in the directory. The
way matters because `join` cleans the path: with a link `l` in it, `l/..` leads to the parent of the
link's target, and what it is cleaned to stays where the link is. -/
structure LinkFree (t : FileTree Data) (cwd : Location) (p : Path) (dir : Location) : Prop where
  ne_nil : p ≠ []
  way : t.walk (start cwd p) (components p) = some dir
  isDir : t.isDir dir = true
  entries : ∀ name, t.target (dir ++ [name]) = none

theorem start_append {q : Path} (h : p ≠ []) : start cwd (p ++ q) = start cwd p := by
  cases p with
  | nil => exact absurd rfl h
  | cons c p => rfl

theorem LinkFree.resolve_join {dir : Location} {name : Path} (h : LinkFree t cwd p dir)
    (links : Nat) (hname : t.walk dir (components name) = some loc) :
    t.resolve links cwd (join p name) = some loc := by
  have hwalk : t.walk (start cwd (p ++ '/' :: name)) (components (p ++ '/' :: name)) = some loc := by
    rw [start_append h.ne_nil, components_append, walk_append]
    exact ⟨dir, h.way, hname⟩
  rw [join, if_neg h.ne_nil, resolve, if_neg (clean_ne_nil _)]
  exact follow_of_walk links (walk_clean hwalk)

/-- The last element of any path, looked up in the directory, is a name in it, or leads to a
directory: to this one or to its parent. -/
theorem LinkFree.resolve_join_base {dir : Location} (h : LinkFree t cwd p dir) (links : Nat)
    (q : Path) : ∃ loc, t.resolve links cwd (join p (base q)) = some loc ∧
      (t.isDir loc = true ∨ loc = dir ++ [base q]) := by
  rcases base_cases q with hslash | ⟨hne, hslash⟩
  · rw [hslash]
    have hself := step_self (t := t) (c := []) (.inl rfl) h.isDir
    have hwalk : t.walk dir (components ['/']) = some dir :=
      walk_cons.mpr ⟨dir, hself, walk_cons.mpr ⟨dir, hself, rfl⟩⟩
    exact ⟨dir, h.resolve_join links hwalk, .inl h.isDir⟩
  · have hone : ∀ {loc}, t.step dir (base q) = some loc →
        t.resolve links cwd (join p (base q)) = some loc := by
      intro loc hstep
      refine h.resolve_join links ?_
      rw [components_of_not_mem hslash]
      exact walk_cons.mpr ⟨loc, hstep, rfl⟩
    by_cases hdot : base q = dot
    · exact ⟨dir, hone (step_self (.inr hdot) h.isDir), .inl h.isDir⟩
    · by_cases hup : base q = dotDot
      · have hparent := isDir_dropLast h.isDir
        have hmove : move dir (base q) = dir.dropLast := by rw [hup, move_dotDot]
        refine ⟨dir.dropLast, hone (step_eq_some.mpr ⟨h.isDir, ?_, hmove⟩), .inl hparent⟩
        rw [hmove]
        exact target_of_isDir hparent
      · have hmove := move_name dir ⟨hne, hdot, hslash⟩ hup
        refine ⟨dir ++ [base q], hone (step_eq_some.mpr ⟨h.isDir, ?_, hmove⟩), .inr rfl⟩
        rw [hmove]
        exact h.entries _

/-! ## Growing -/

/-- The directories of `t` are directories of `t'`, and the links are the same. -/
structure Within (t t' : FileTree Data) : Prop where
  isDir : ∀ loc, t.isDir loc = true → t'.isDir loc = true
  target : ∀ loc, t.target loc = t'.target loc

theorem Within.refl (t : FileTree Data) : Within t t := ⟨fun _ h => h, fun _ => rfl⟩

/-- With more directories a path that led somewhere leads to the same place. -/
theorem Within.follow {t' : FileTree Data} (h : Within t t') {links : Nat}
    (hfollow : t.follow links cur cs = some loc) : t'.follow links cur cs = some loc := by
  fun_induction FileTree.follow t links cur cs with
  | case1 links cur => simpa [FileTree.follow] using hfollow
  | case2 links cur c cs hdir htarget ih | case4 cur c cs hdir p htarget links ih =>
      rw [h.target] at htarget
      simp only [FileTree.follow, h.isDir _ hdir, htarget]
      exact ih hfollow
  | case3 | case5 => cases hfollow

theorem Within.resolve {t' : FileTree Data} (h : Within t t') {links : Nat}
    (hresolve : t.resolve links cwd p = some loc) : t'.resolve links cwd p = some loc := by
  rw [FileTree.resolve, Option.ite_none_left_eq_some] at hresolve
  rw [FileTree.resolve, if_neg hresolve.1]
  exact h.follow hresolve.2

/-! ## Writing a file -/

/-- A file can stand at the location: its parent is a directory, and it is none. -/
structure Writable (t : FileTree Data) (loc : Location) : Prop where
  ne_root : loc ≠ []
  parent : t.isDir loc.dropLast = true
  not_dir : t.isDir loc = false
  not_link : t.target loc = none

/-- What stands at the locations once a file is written. -/
def put (t : FileTree Data) (loc : Location) (data : Data) : Location → Option (Node Data) := fun l =>
  if l = loc then some (.file data) else t.node l

theorem put_root (h : t.Writable loc) : t.put loc data [] = some .dir := by
  rw [put, if_neg h.ne_root.symm, t.root]

theorem put_parent (h : t.Writable loc) (l : Location) (hl : t.put loc data l ≠ none) :
    t.put loc data l.dropLast = some .dir := by
  have hparent : t.node l.dropLast = some .dir := by
    by_cases heq : l = loc
    · rw [heq]
      exact node_of_isDir h.parent
    · rw [put, if_neg heq] at hl
      exact t.parent l hl
  have hne : l.dropLast ≠ loc := by
    intro heq
    rw [heq] at hparent
    have hdir := isDir_of_node hparent
    rw [h.not_dir] at hdir
    cases hdir
  rw [put, if_neg hne, hparent]

def write (t : FileTree Data) (loc : Location) (data : Data) (h : t.Writable loc) : FileTree Data where
  node := t.put loc data
  root := put_root h
  parent := put_parent h

theorem node_write_self (h : t.Writable loc) :
    (t.write loc data h).node loc = some (.file data) := if_pos rfl

theorem node_write_of_ne {l : Location} (h : t.Writable loc) (hne : l ≠ loc) :
    (t.write loc data h).node l = t.node l := if_neg hne

theorem write_write {data' : Data} (h : t.Writable loc) (h' : (t.write loc data h).Writable loc) :
    (t.write loc data h).write loc data' h' = t.write loc data' h := by
  ext1
  funext l
  by_cases hl : l = loc
  · rw [hl, node_write_self, node_write_self]
  · rw [node_write_of_ne h' hl, node_write_of_ne h hl, node_write_of_ne h hl]

theorem isDir_write (h : t.Writable loc) : (t.write loc data h).isDir = t.isDir := by
  funext l
  by_cases hl : l = loc
  · rw [hl, h.not_dir, isDir, node_write_self]
  · rw [isDir, isDir, node_write_of_ne h hl]

theorem target_write (h : t.Writable loc) : (t.write loc data h).target = t.target := by
  funext l
  by_cases hl : l = loc
  · rw [hl, h.not_link, target, node_write_self]
  · rw [target, target, node_write_of_ne h hl]

theorem Within.write {t' : FileTree Data} (h : Within t t') (hloc : t.Writable loc) :
    Within (t.write loc data hloc) t' where
  isDir := by
    rw [isDir_write]
    exact h.isDir
  target := by
    rw [target_write]
    exact h.target

end FileTree
