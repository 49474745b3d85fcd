import Mathlib.Data.List.TakeWhile
import Mathlib.Tactic

set_option autoImplicit false

/-! # Paths

The functions `Clean`, `Join` and `Base` of Go's `path/filepath` on a system with slashes. A path is
its characters.

Cleaning works on the components between the slashes. It keeps a stack of them, last one first: an
empty component and a dot are dropped, two dots take away the component before them, unless there is
none or it is two dots itself.
-/

namespace FilePath

abbrev Path : Type := List Char

def dot : Path := ['.']

def dotDot : Path := ['.', '.']

/-- The texts between the slashes. -/
def components (p : Path) : List Path := p.splitOn '/'

/-- The path begins at the root. -/
def rooted (p : Path) : Bool := p.head? == some '/'

/-- One more component on the stack of those that are kept. -/
def push (rooted : Bool) (kept : List Path) (c : Path) : List Path :=
  if c = [] ∨ c = dot then kept
  else if c = dotDot then
    match kept with
    | [] => if rooted then [] else [dotDot]
    | top :: below => if top = dotDot then dotDot :: top :: below else below
  else c :: kept

/-- The components of a cleaned path. -/
def cleanComponents (p : Path) : List Path :=
  ((components p).foldl (push (rooted p)) []).reverse

def clean (p : Path) : Path :=
  let cs := cleanComponents p
  if rooted p then '/' :: ['/'].intercalate cs
  else if cs = [] then dot
  else ['/'].intercalate cs

/-- `filepath.Join` of two elements; an empty first one is left out. -/
def join (dir name : Path) : Path :=
  if dir = [] then (if name = [] then [] else clean name) else clean (dir ++ '/' :: name)

/-- `filepath.Base`: the last element without the slashes that follow it. -/
def base (p : Path) : Path :=
  if p = [] then dot
  else
    let stripped := p.reverse.dropWhile (· == '/')
    let last := (stripped.takeWhile (· != '/')).reverse
    if last = [] then ['/'] else last

/-- `filepath.Dir`: the path without its last element. -/
def dir (p : Path) : Path := clean (p.reverse.dropWhile (· != '/')).reverse

/-! ## Components -/

theorem components_ne_nil (p : Path) : components p ≠ [] := List.splitOn_ne_nil '/' p

theorem components_append (p q : Path) :
    components (p ++ '/' :: q) = components p ++ components q :=
  List.splitOnP_append_cons p q (by simp)

theorem components_slash (p : Path) : components ('/' :: p) = [] :: components p :=
  components_append [] p

theorem components_intercalate {cs : List Path} (h : ∀ c ∈ cs, '/' ∉ c) (hne : cs ≠ []) :
    components (['/'].intercalate cs) = cs :=
  List.splitOn_intercalate '/' h hne

theorem components_of_not_mem {p : Path} (h : '/' ∉ p) : components p = [p] := by
  have hone : ∀ c ∈ [p], '/' ∉ c := by simpa using h
  simpa using components_intercalate hone (by simp)

theorem not_mem_of_mem_components {p c : Path} (h : c ∈ components p) : '/' ∉ c := by
  -- induction on the length; the path is cut at its first slash
  induction hlen : p.length using Nat.strong_induction_on generalizing p with
  | _ n ih =>
      by_cases hslash : '/' ∈ p
      · obtain ⟨a, b, rfl, ha⟩ := List.eq_append_cons_of_mem hslash
        rw [components_append, components_of_not_mem ha, List.mem_append, List.mem_singleton] at h
        rcases h with rfl | h
        · exact ha
        · have hlt : b.length < n := by
            rw [← hlen, List.length_append, List.length_cons]
            omega
          exact ih b.length hlt h rfl
      · rw [components_of_not_mem hslash, List.mem_singleton] at h
        rw [h]
        exact hslash

/-! ## Cleaning -/

/-- A component that is kept: it is not empty, no dot, and has no slash. -/
structure Kept (c : Path) : Prop where
  ne_nil : c ≠ []
  ne_dot : c ≠ dot
  no_slash : '/' ∉ c

theorem kept_dotDot : Kept dotDot := ⟨by decide, by decide, by decide⟩

theorem forall_kept_push {r : Bool} {kept : List Path} {c : Path} (hkept : ∀ k ∈ kept, Kept k)
    (hc : '/' ∉ c) : ∀ k ∈ push r kept c, Kept k := by
  unfold push
  by_cases hdrop : c = [] ∨ c = dot
  · rw [if_pos hdrop]
    exact hkept
  · rw [if_neg hdrop]
    rw [not_or] at hdrop
    by_cases hup : c = dotDot
    · rw [if_pos hup]
      cases kept with
      | nil =>
          cases r with
          | true => exact hkept
          | false => simpa using kept_dotDot
      | cons top below =>
          dsimp only
          by_cases htop : top = dotDot
          · rw [if_pos htop]
            exact List.forall_mem_cons.mpr ⟨kept_dotDot, hkept⟩
          · rw [if_neg htop]
            exact fun k hk => hkept k (List.mem_cons_of_mem _ hk)
    · rw [if_neg hup]
      exact List.forall_mem_cons.mpr ⟨⟨hdrop.1, hdrop.2, hc⟩, hkept⟩

theorem forall_kept_foldl_push {r : Bool} {cs kept : List Path} (hkept : ∀ k ∈ kept, Kept k)
    (hcs : ∀ c ∈ cs, '/' ∉ c) : ∀ k ∈ cs.foldl (push r) kept, Kept k := by
  induction cs generalizing kept with
  | nil => exact hkept
  | cons c cs ih =>
      rw [List.forall_mem_cons] at hcs
      exact ih (forall_kept_push hkept hcs.1) hcs.2

theorem kept_of_mem_cleanComponents {p c : Path} (h : c ∈ cleanComponents p) : Kept c := by
  rw [cleanComponents, List.mem_reverse] at h
  exact forall_kept_foldl_push (by simp) (fun _ => not_mem_of_mem_components) c h

/-- What a cleaned path is made of: a path from the root has an empty component before its others,
and a path that has none left is a dot. -/
theorem components_clean_of_rooted {p : Path} (h : rooted p = true) :
    components (clean p) = if cleanComponents p = [] then [[], []] else [] :: cleanComponents p := by
  rw [clean, if_pos h, components_slash]
  by_cases hnil : cleanComponents p = []
  · rw [if_pos hnil, hnil]
    rfl
  · rw [if_neg hnil,
      components_intercalate (fun c hc => (kept_of_mem_cleanComponents hc).no_slash) hnil]

theorem components_clean_of_relative {p : Path} (h : rooted p = false) :
    components (clean p) = if cleanComponents p = [] then [dot] else cleanComponents p := by
  have hnot : ¬ rooted p = true := by simp [h]
  rw [clean, if_neg hnot]
  by_cases hnil : cleanComponents p = []
  · rw [if_pos hnil, if_pos hnil]
    rfl
  · rw [if_neg hnil, if_neg hnil,
      components_intercalate (fun c hc => (kept_of_mem_cleanComponents hc).no_slash) hnil]

theorem nil_not_mem_components_clean {p : Path} (h : rooted p = false) :
    [] ∉ components (clean p) := by
  intro hmem
  rw [components_clean_of_relative h] at hmem
  by_cases hnil : cleanComponents p = []
  · rw [if_pos hnil, List.mem_singleton] at hmem
    cases hmem
  · rw [if_neg hnil] at hmem
    exact (kept_of_mem_cleanComponents hmem).ne_nil rfl

theorem rooted_eq_true {p : Path} : rooted p = true ↔ ∃ q, p = '/' :: q := by
  cases p with
  | nil | cons c q => simp [rooted]

theorem rooted_clean (p : Path) : rooted (clean p) = rooted p := by
  by_cases h : rooted p = true
  · rw [clean, if_pos h, h]
    rfl
  · rw [Bool.not_eq_true] at h
    rw [h]
    by_contra hrooted
    rw [Bool.not_eq_false, rooted_eq_true] at hrooted
    obtain ⟨q, hq⟩ := hrooted
    refine nil_not_mem_components_clean h ?_
    rw [hq, components_slash]
    exact List.mem_cons_self

theorem clean_ne_nil (p : Path) : clean p ≠ [] := by
  intro h
  by_cases hrooted : rooted p = true
  · rw [clean, if_pos hrooted] at h
    cases h
  · rw [Bool.not_eq_true] at hrooted
    refine nil_not_mem_components_clean hrooted ?_
    rw [h]
    exact List.mem_cons_self

/-! ## Last elements -/

theorem base_cases (p : Path) : base p = ['/'] ∨ base p ≠ [] ∧ '/' ∉ base p := by
  unfold base
  by_cases hnil : p = []
  · rw [if_pos hnil]
    exact .inr ⟨by decide, by decide⟩
  · rw [if_neg hnil]
    dsimp only
    by_cases hlast : ((p.reverse.dropWhile (· == '/')).takeWhile (· != '/')).reverse = []
    · rw [if_pos hlast]
      exact .inl rfl
    · rw [if_neg hlast]
      refine .inr ⟨hlast, fun hslash => ?_⟩
      have hne := List.mem_takeWhile_imp (List.mem_reverse.mp hslash)
      simp at hne

end FilePath
