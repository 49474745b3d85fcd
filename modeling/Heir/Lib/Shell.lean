import Mathlib.Tactic

set_option autoImplicit false

/-! # The shell's command language

A model of how a POSIX shell reads a text and which commands it runs. The text is cut into items,
character by character (`scan`): literal and quoted characters, quotation marks, expansions, blanks,
operators and comments. The items make up words (`group`), the words simple commands, pipelines and
lists of them (`parse`); a word is expanded to fields when its command is run (`expandWord`), and
the run of a script is the list of the pipelines that are executed (`run`).

Outside of the model, and without a meaning in it, are: reserved words and assignments in front of a
command, subshells and function definitions, here-documents, a tilde at the beginning of a word, and
a backslash at the very end of the text, which the standard leaves open. `$@` is read like `$*`. A
text is read as a whole before the first command is run.

The end of a nested expansion (`${..}`, `$(..)` and the one in backquotes) is found by a parameter
(`Dialect`). Values of expansions and names of files come from the environment (`Env`), and the exit
status of the n-th pipeline is a parameter, too.
-/

namespace Shell

/-! ## Characters -/

def apostrophe : Char := Char.ofNat 39

def backquote : Char := Char.ofNat 96

def isBlank (c : Char) : Bool := c == ' ' || c == '\t'

/-- The white space that separates the fields of an expansion: the shell starts with this `IFS`. -/
def isIfs (c : Char) : Bool := isBlank c || c == '\n'

def isNameStart (c : Char) : Bool := c.isAlpha || c == '_'

def isNameChar (c : Char) : Bool := c.isAlphanum || c == '_'

/-- The parameters with a name of one character. -/
def isSpecialParameter (c : Char) : Bool := c.isDigit || "@*#?-$!".toList.contains c

/-! ## Operators -/

inductive Redirection where
  | input
  | output
  | append
  | clobber
  | readWrite
  | dupInput
  | dupOutput
  | hereDocument
  deriving DecidableEq, Repr

def Redirection.text : Redirection → List Char
  | .input => ['<']
  | .output => ['>']
  | .append => ['>', '>']
  | .clobber => ['>', '|']
  | .readWrite => ['<', '>']
  | .dupInput => ['<', '&']
  | .dupOutput => ['>', '&']
  | .hereDocument => ['<', '<']

inductive Op where
  | newline
  | semi
  | amp
  | bar
  | andIf
  | orIf
  | dsemi
  | lparen
  | rparen
  | redirect (r : Redirection)
  deriving DecidableEq, Repr

def Op.text : Op → List Char
  | .newline => ['\n']
  | .semi => [';']
  | .amp => ['&']
  | .bar => ['|']
  | .andIf => ['&', '&']
  | .orIf => ['|', '|']
  | .dsemi => [';', ';']
  | .lparen => ['(']
  | .rparen => [')']
  | .redirect r => r.text

/-- The operator that a character begins, which is the longest one. -/
def operator (c : Char) (next : Option Char) : Option Op :=
  if c = '\n' then some .newline
  else if c = ';' then some (if next = some ';' then .dsemi else .semi)
  else if c = '&' then some (if next = some '&' then .andIf else .amp)
  else if c = '|' then some (if next = some '|' then .orIf else .bar)
  else if c = '(' then some .lparen
  else if c = ')' then some .rparen
  else if c = '<' then
    some (.redirect (if next = some '<' then .hereDocument
      else if next = some '&' then .dupInput
      else if next = some '>' then .readWrite else .input))
  else if c = '>' then
    some (.redirect (if next = some '>' then .append
      else if next = some '&' then .dupOutput
      else if next = some '|' then .clobber else .output))
  else none

def operatorChars : List Char := ['\n', ';', '&', '|', '(', ')', '<', '>']

theorem operator_eq_none_iff (c : Char) (next : Option Char) :
    operator c next = none ↔ c ∉ operatorChars := by
  simp only [operatorChars, List.mem_cons, List.not_mem_nil, or_false, not_or]
  constructor
  · intro h
    unfold operator at h
    refine ⟨?_, ?_, ?_, ?_, ?_, ?_, ?_, ?_⟩ <;> rintro rfl <;> simp at h
  · rintro ⟨h₁, h₂, h₃, h₄, h₅, h₆, h₇, h₈⟩
    rw [operator, if_neg h₁, if_neg h₂, if_neg h₃, if_neg h₄, if_neg h₅, if_neg h₆, if_neg h₇,
      if_neg h₈]

/-! ## Items -/

/-- An item of a text. -/
inductive Item where
  /-- A character of a word. -/
  | lit (c : Char)
  /-- A character of a word, in quotation marks. -/
  | quoted (c : Char)
  /-- A character of a word, after a backslash. -/
  | escaped (c : Char)
  /-- A quotation mark. -/
  | mark (c : Char)
  /-- The text of an expansion, and whether it stands in quotation marks. -/
  | expansion (text : List Char) (inQuotes : Bool)
  /-- A backslash before the end of a line. -/
  | continuation
  | blank (c : Char)
  | op (o : Op)
  | comment (c : Char)
  deriving DecidableEq, Repr

def Item.text : Item → List Char
  | .lit c => [c]
  | .quoted c => [c]
  | .escaped c => ['\\', c]
  | .mark c => [c]
  | .expansion text _ => text
  | .continuation => ['\\', '\n']
  | .blank c => [c]
  | .op o => o.text
  | .comment c => [c]

inductive Mode where
  | plain
  | single
  | double
  | comment
  deriving DecidableEq, Repr

/-- What the shell's grammar says about nested expansions: the number of characters, from the opening
one on, if there is an end. -/
structure Dialect where
  extent : List Char → Option Nat

/-- One step: an item, the number of further characters that belong to it, the mode after it and
whether a word has begun there. -/
structure Step where
  item : Item
  skip : Nat
  mode : Mode
  inWord : Bool

/-- The text after a dollar sign makes it the beginning of an expansion. -/
def startsExpansion (rest : List Char) : Bool :=
  rest.head?.any fun c => isNameStart c || isSpecialParameter c || c == '{' || c == '('

variable (sh : Dialect)

/-- The characters after a dollar sign that belong to the expansion. -/
def dollarExtent (rest : List Char) : Option Nat :=
  match rest.head? with
  | none => none
  | some c =>
      if isNameStart c then some (rest.takeWhile isNameChar).length
      else if isSpecialParameter c then some 1
      else sh.extent rest

/-- A dollar sign; the last two arguments are the item for a literal one and the mode. -/
def dollarStep (rest : List Char) (literal : Item) (mode : Mode) : Option Step :=
  if startsExpansion rest then
    (dollarExtent sh rest).map fun n =>
      ⟨.expansion ('$' :: rest.take n) (mode == .double), n, mode, true⟩
  else some ⟨literal, 0, mode, true⟩

def backquoteStep (rest : List Char) (mode : Mode) : Option Step :=
  (sh.extent (backquote :: rest)).map fun n =>
    ⟨.expansion (backquote :: rest.take n) (mode == .double), n, mode, true⟩

/-- A character outside of quotation marks. -/
def plainStep (inWord : Bool) (c : Char) (rest : List Char) : Option Step :=
  if c = apostrophe then some ⟨.mark c, 0, .single, true⟩
  else if c = '"' then some ⟨.mark c, 0, .double, true⟩
  else if c = '\\' then
    rest.head?.map fun d =>
      if d = '\n' then ⟨.continuation, 1, .plain, inWord⟩ else ⟨.escaped d, 1, .plain, true⟩
  else if c = '$' then dollarStep sh rest (.lit c) .plain
  else if c = backquote then backquoteStep sh rest .plain
  else if isBlank c then some ⟨.blank c, 0, .plain, false⟩
  else
    match operator c rest.head? with
    | some o => some ⟨.op o, o.text.length - 1, .plain, false⟩
    | none =>
        if inWord then some ⟨.lit c, 0, .plain, true⟩
        else if c = '#' then some ⟨.comment c, 0, .comment, false⟩
        else if c = '~' then none
        else some ⟨.lit c, 0, .plain, true⟩

/-- The characters that a backslash escapes in double quotes. -/
def escapable (c : Char) : Bool := c == '$' || c == backquote || c == '"' || c == '\\'

/-- A character in double quotes. -/
def doubleStep (c : Char) (rest : List Char) : Option Step :=
  if c = '"' then some ⟨.mark c, 0, .plain, true⟩
  else if c = '\\' then
    rest.head?.map fun d =>
      if d = '\n' then ⟨.continuation, 1, .double, true⟩
      else if escapable d then ⟨.escaped d, 1, .double, true⟩
      else ⟨.quoted c, 0, .double, true⟩
  else if c = '$' then dollarStep sh rest (.quoted c) .double
  else if c = backquote then backquoteStep sh rest .double
  else some ⟨.quoted c, 0, .double, true⟩

def step (mode : Mode) (inWord : Bool) (c : Char) (rest : List Char) : Option Step :=
  match mode with
  | .plain => plainStep sh inWord c rest
  | .double => doubleStep sh c rest
  | .single =>
      if c = apostrophe then some ⟨.mark c, 0, .plain, true⟩
      else some ⟨.quoted c, 0, .single, true⟩
  | .comment =>
      if c = '\n' then some ⟨.op .newline, 0, .plain, false⟩
      else some ⟨.comment c, 0, .comment, false⟩

/-- The items of a text after some of its characters. -/
def scan : Nat → Mode → Bool → List Char → Option (List Item)
  | _, mode, _, [] => if mode = .single ∨ mode = .double then none else some []
  | n + 1, mode, inWord, _ :: rest => scan n mode inWord rest
  | 0, mode, inWord, c :: rest =>
      match step sh mode inWord c rest with
      | none => none
      | some s => (scan s.skip s.mode s.inWord rest).map (s.item :: ·)

/-! ## Words -/

abbrev Word : Type := List Item

inductive Token where
  | word (w : Word)
  /-- A redirection, with the word of digits directly in front of it (empty if there is none). -/
  | redirect (fd : Word) (r : Redirection)
  | op (o : Op)
  deriving DecidableEq, Repr

def Item.isDigit : Item → Bool
  | .lit c => c.isDigit
  | _ => false

def flush (cur : Word) : List Token := if cur = [] then [] else [.word cur]

/-- The tokens of a list of items, with the part of a word in front of it. -/
def group : Word → List Item → List Token
  | cur, [] => flush cur
  | cur, .op (.redirect r) :: items =>
      if cur.all Item.isDigit then .redirect cur r :: group [] items
      else .word cur :: .redirect [] r :: group [] items
  | cur, .op o :: items => flush cur ++ .op o :: group [] items
  | cur, .blank _ :: items => flush cur ++ group [] items
  | cur, .comment _ :: items => flush cur ++ group [] items
  | cur, .continuation :: items => group cur items
  | cur, i :: items => group (cur ++ [i]) items

/-- The tokens of a text. -/
def lex (text : List Char) : Option (List Token) := (scan sh 0 .plain false text).map (group [])

/-! ## Commands -/

/-- A simple command: its words, and its redirections with the words of digits and of the target. -/
structure Simple where
  words : List Word := []
  redirects : List (Word × Redirection × Word) := []

def Simple.isEmpty (s : Simple) : Bool := s.words.isEmpty && s.redirects.isEmpty

def Simple.addWord (s : Simple) (w : Word) : Simple := { s with words := s.words ++ [w] }

def Simple.addRedirect (s : Simple) (fd : Word) (r : Redirection) (w : Word) : Simple :=
  { s with redirects := s.redirects ++ [(fd, r, w)] }

/-- The text of a word without quotation marks and expansions. -/
def literalText : Word → Option (List Char)
  | [] => some []
  | .lit c :: w => (literalText w).map (c :: ·)
  | _ :: _ => none

def reservedWords : List (List Char) :=
  ["!", "\x7b", "\x7d", "case", "do", "done", "elif", "else", "esac", "fi", "for", "if", "in",
    "then", "until", "while"].map String.toList

def Item.isNameChar : Item → Bool
  | .lit c => Shell.isNameChar c
  | _ => false

/-- The word is an assignment: it begins with a name and an equals sign. -/
def isAssignment : Word → Bool
  | .lit c :: w =>
      isNameStart c && (w.dropWhile Item.isNameChar).head? == some (.lit '=')
  | _ => false

/-- The command is not empty, and its first word is the name of a command. -/
def Simple.wellFormed (s : Simple) : Bool :=
  !s.isEmpty && s.words.head?.all fun w =>
    !isAssignment w && (literalText w).all fun t => !reservedWords.contains t

inductive Connector where
  | seq
  | background
  | andIf
  | orIf
  deriving DecidableEq, Repr

/-- The next pipeline is executed, after one with the given status. -/
def Connector.goesOn (status : Bool) : Connector → Bool
  | .andIf => status
  | .orIf => !status
  | _ => true

/-- The pipelines of a text, each with what follows it. -/
abbrev Script : Type := List (List Simple × Connector)

/-- The next pipeline is complete. -/
def close (pipe : List Simple) (cmd : Simple) : Option (List Simple) :=
  if cmd.wellFormed then some (pipe ++ [cmd]) else none

/-- The parser. `need` says that a pipeline has to follow; `pipe` and `cmd` are what has been read of
the next one. -/
def parse (need : Bool) (pipe : List Simple) (cmd : Simple) : List Token → Option Script
  | [] =>
      if cmd.isEmpty then if need || !pipe.isEmpty then none else some []
      else (close pipe cmd).map fun p => [(p, .seq)]
  | .word w :: ts => parse need pipe (cmd.addWord w) ts
  | .redirect fd r :: .word w :: ts =>
      if r = .hereDocument then none else parse need pipe (cmd.addRedirect fd r w) ts
  | .redirect _ _ :: _ => none
  | .op .newline :: ts =>
      if cmd.isEmpty then parse need pipe cmd ts
      else (close pipe cmd).bind fun p => (parse false [] {} ts).map ((p, .seq) :: ·)
  | .op .semi :: ts => (close pipe cmd).bind fun p => (parse false [] {} ts).map ((p, .seq) :: ·)
  | .op .amp :: ts =>
      (close pipe cmd).bind fun p => (parse false [] {} ts).map ((p, .background) :: ·)
  | .op .andIf :: ts => (close pipe cmd).bind fun p => (parse true [] {} ts).map ((p, .andIf) :: ·)
  | .op .orIf :: ts => (close pipe cmd).bind fun p => (parse true [] {} ts).map ((p, .orIf) :: ·)
  | .op .bar :: ts => (close pipe cmd).bind fun p => parse need p {} ts
  | .op _ :: _ => none

/-! ## Expansion -/

/-- The environment: the values of expansions, and the names of files for a pattern, whose characters
come with whether they are quoted. -/
structure Env where
  value : List Char → List Char
  matching : List (Char × Bool) → List (List Char)

/-- A part of an expanded word. -/
inductive Cell where
  | char (c : Char) (inQuotes : Bool)
  /-- The end of a field. -/
  | sep
  /-- There is a field here, even if it has no characters. -/
  | keep

def Item.cells (env : Env) : Item → List Cell
  | .lit c => [.char c false]
  | .quoted c => [.char c true]
  | .escaped c => [.char c true]
  | .mark _ => [.keep]
  | .expansion text true => (env.value text).map (.char · true)
  | .expansion text false =>
      (env.value text).map fun c => if isIfs c then .sep else .char c false
  | _ => []

/-- The fields of a list of cells, with the part of a field in front of it. -/
def splitFields : Option (List (Char × Bool)) → List Cell → List (List (Char × Bool))
  | cur, [] => cur.toList
  | cur, .char c q :: cells => splitFields (some (cur.getD [] ++ [(c, q)])) cells
  | cur, .keep :: cells => splitFields (some (cur.getD [])) cells
  | cur, .sep :: cells => cur.toList ++ splitFields none cells

/-- A bracket is the beginning of a bracket expression: a closing one follows, after a character at
least and before a slash. -/
def bracketCloses (rest : List (Char × Bool)) : Bool :=
  let body := if rest.head? = some ('!', false) then rest.tail else rest
  let content := body.takeWhile fun p => p.1 != '/'
  content.tail.contains (']', false)

/-- The field is a pattern for names of files. -/
def isPattern : List (Char × Bool) → Bool
  | [] => false
  | (c, inQuotes) :: rest =>
      (!inQuotes && (c == '*' || c == '?' || (c == '[' && bracketCloses rest))) || isPattern rest

/-- Pathname expansion: a pattern without a matching file stays as it is. -/
def pathnames (env : Env) (field : List (Char × Bool)) : List (List Char) :=
  if isPattern field then
    match env.matching field with
    | [] => [field.map Prod.fst]
    | names => names
  else [field.map Prod.fst]

def expandWord (env : Env) (w : Word) : List (List Char) :=
  (splitFields none (w.flatMap (Item.cells env))).flatMap (pathnames env)

/-- The target of a redirection is not split. -/
def expandTarget (env : Env) (w : Word) : List Char :=
  (splitFields none (w.flatMap (Item.cells env))).flatten.map Prod.fst

/-- The nested expansions, which may run commands. -/
def Item.nested : Item → List (List Char)
  | .expansion text _ =>
      if text.head? = some backquote ∨ text[1]? = some '(' ∨ text[1]? = some '{' then [text] else []
  | _ => []

/-! ## Execution -/

/-- A command that is executed: its arguments and redirections, and the texts of the nested
expansions of its words. -/
structure Command where
  argv : List (List Char)
  redirects : List (List Char × Redirection × List Char) := []
  nested : List (List Char) := []
  deriving DecidableEq

def expandSimple (env : Env) (s : Simple) : Command where
  argv := s.words.flatMap (expandWord env)
  redirects := s.redirects.map fun e => (e.1.flatMap Item.text, e.2.1, expandTarget env e.2.2)
  nested := (s.words ++ s.redirects.map fun e => e.2.2).flatMap fun w => w.flatMap Item.nested

/-- `exec` with a command replaces the shell, so that nothing is run after it. -/
def replacesShell (p : List Command) : Bool :=
  match p with
  | [c] => c.argv.head? == some "exec".toList && decide (2 ≤ c.argv.length)
  | _ => false

/-- The pipelines that are executed. `n` is the number of those before, `status` whether the last one
succeeded, and `go` whether the next one is executed. -/
def execute (env : Env) (succeeds : Nat → Bool) (n : Nat) (status go : Bool) :
    Script → List (List Command)
  | [] => []
  | (p, connector) :: rest =>
      let cmds := p.map (expandSimple env)
      let status := if go then succeeds n else status
      let n := if go then n + 1 else n
      (if go then [cmds] else []) ++
        if go && replacesShell cmds && connector != .background then []
        else execute env succeeds n status (connector.goesOn status) rest

/-- The pipelines that a shell executes for a text; none if the text has no meaning here. -/
def run (env : Env) (succeeds : Nat → Bool) (text : List Char) : Option (List (List Command)) :=
  ((lex sh text).bind (parse false [] {})).map (execute env succeeds 0 true true)

/-! ## Reading a word -/

variable {sh}

variable {rest text : List Char} {steps : List (List (List Char))}

theorem scan_cons {mode : Mode} {inWord : Bool} {c : Char} {s : Step}
    (h : step sh mode inWord c rest = some s) :
    scan sh 0 mode inWord (c :: rest) =
      (scan sh s.skip s.mode s.inWord rest).map (s.item :: ·) := by
  rw [scan, h]

/-- The items that belong to words. -/
def Item.ofWord : Item → Bool
  | .lit _ | .quoted _ | .escaped _ | .mark _ | .expansion _ _ => true
  | _ => false

theorem group_word {w : Word} (hw : w.all Item.ofWord = true) (cur : Word) (items : List Item) :
    group cur (w ++ items) = group (cur ++ w) items := by
  induction w generalizing cur with
  | nil => rw [List.nil_append, List.append_nil]
  | cons i w ih =>
      rw [List.all_cons, Bool.and_eq_true] at hw
      have hi : group cur (i :: (w ++ items)) = group (cur ++ [i]) (w ++ items) := by
        cases i with
        | lit c => rfl
        | quoted c => rfl
        | escaped c => rfl
        | mark c => rfl
        | expansion t q => rfl
        | continuation | blank c | op o | comment c => cases hw.1
      rw [List.cons_append, hi, ih hw.2, List.append_assoc]
      rfl

theorem lex_blank (rest : List Char) : lex sh (' ' :: rest) = lex sh rest := by
  show ((scan sh 0 .plain false rest).map _).map _ = _
  rw [Option.map_map]
  rfl

theorem lex_word_blank {w : Word} (hne : w ≠ []) (hw : w.all Item.ofWord = true)
    (hscan : scan sh 0 .plain false (text ++ ' ' :: rest) =
      (scan sh 0 .plain true (' ' :: rest)).map (w ++ ·)) :
    lex sh (text ++ ' ' :: rest) = (lex sh rest).map (.word w :: ·) := by
  rw [lex, hscan]
  show (((scan sh 0 .plain false rest).map _).map _).map _ =
    ((scan sh 0 .plain false rest).map _).map _
  rw [Option.map_map, Option.map_map, Option.map_map]
  congr 1
  funext items
  show group [] (w ++ .blank ' ' :: items) = _
  rw [group_word hw]
  show flush w ++ group [] items = _
  rw [flush, if_neg hne]
  rfl

/-! ## Plain words -/

/-- A character that always stands for itself inside of a word. -/
def isOrdinary (c : Char) : Bool :=
  c != apostrophe && c != '"' && c != '\\' && c != '$' && c != backquote && !isBlank c &&
    !operatorChars.contains c

/-- A text whose characters stand for themselves inside of a word: a dollar sign does, when nothing
follows that makes it the beginning of an expansion. -/
def isPlain : List Char → Bool
  | [] => true
  | c :: rest => (isOrdinary c || (c == '$' && !startsExpansion rest)) && isPlain rest

/-- The items of a plain text. -/
def litWord (text : List Char) : Word := text.map .lit

/-- At the beginning of a word a character must neither begin a comment nor be a tilde. -/
theorem step_ordinary {c : Char} (h : isOrdinary c = true) {inWord : Bool}
    (hfirst : inWord = true ∨ c ≠ '#' ∧ c ≠ '~') (rest : List Char) :
    step sh .plain inWord c rest = some ⟨.lit c, 0, .plain, true⟩ := by
  simp only [isOrdinary, Bool.and_eq_true, bne_iff_ne, Bool.not_eq_true',
    List.contains_eq_mem, decide_eq_false_iff_not] at h
  obtain ⟨⟨⟨⟨⟨⟨h₁, h₂⟩, h₃⟩, h₄⟩, h₅⟩, h₆⟩, h₇⟩ := h
  show plainStep sh inWord c rest = _
  rw [plainStep, if_neg h₁, if_neg h₂, if_neg h₃, if_neg h₄, if_neg h₅,
    if_neg (by rw [h₆]; exact Bool.false_ne_true), (operator_eq_none_iff c _).mpr h₇]
  dsimp only
  rcases hfirst with rfl | ⟨hhash, htilde⟩
  · rfl
  · rw [if_neg hhash, if_neg htilde, ite_self]

theorem step_dollar (h : startsExpansion rest = false) (inWord : Bool) :
    step sh .plain inWord '$' rest = some ⟨.lit '$', 0, .plain, true⟩ := by
  show dollarStep sh rest (.lit '$') .plain = _
  rw [dollarStep, h]
  rfl

/-- What follows a text does not change the meaning of a dollar sign in it. -/
theorem startsExpansion_append (h : startsExpansion text = false)
    (hrest : startsExpansion rest = false) : startsExpansion (text ++ rest) = false := by
  cases text with
  | nil => exact hrest
  | cons c text => exact h

theorem scan_plain (h : isPlain text = true) (hrest : startsExpansion rest = false) :
    scan sh 0 .plain true (text ++ rest) =
      (scan sh 0 .plain true rest).map (litWord text ++ ·) := by
  induction text with
  | nil => exact Option.map_id'.symm
  | cons c text ih =>
      rw [isPlain, Bool.and_eq_true, Bool.or_eq_true] at h
      have hstep : step sh .plain true c (text ++ rest) = some ⟨.lit c, 0, .plain, true⟩ := by
        rcases h.1 with hc | hc
        · exact step_ordinary hc (.inl rfl) _
        · rw [Bool.and_eq_true, beq_iff_eq, Bool.not_eq_true'] at hc
          rw [hc.1]
          exact step_dollar (startsExpansion_append hc.2 hrest) true
      rw [List.cons_append, scan_cons hstep, ih h.2, Option.map_map]
      rfl

/-- A word of plain characters that is neither a comment nor begins with a tilde. -/
def isPlainWord : List Char → Bool
  | [] => false
  | c :: text => isOrdinary c && c != '#' && c != '~' && isPlain text

theorem scan_plainWord {word : List Char} (h : isPlainWord word = true)
    (hrest : startsExpansion rest = false) :
    scan sh 0 .plain false (word ++ rest) =
      (scan sh 0 .plain true rest).map (litWord word ++ ·) := by
  cases word with
  | nil => cases h
  | cons c text =>
      simp only [isPlainWord, Bool.and_eq_true, bne_iff_ne] at h
      obtain ⟨⟨⟨hord, hhash⟩, htilde⟩, htext⟩ := h
      have hstep : step sh .plain false c (text ++ rest) = some ⟨.lit c, 0, .plain, true⟩ :=
        step_ordinary hord (.inr ⟨hhash, htilde⟩) _
      rw [List.cons_append, scan_cons hstep, scan_plain htext hrest, Option.map_map]
      rfl

theorem litWord_ne_nil {word : List Char} (h : isPlainWord word = true) : litWord word ≠ [] := by
  cases word with
  | nil => cases h
  | cons c text => exact List.cons_ne_nil _ _

theorem ofWord_litWord (text : List Char) : (litWord text).all Item.ofWord = true := by
  rw [List.all_eq_true]
  intro i hi
  obtain ⟨c, -, rfl⟩ := List.mem_map.mp hi
  rfl

theorem lex_plainWord_blank {word : List Char} (h : isPlainWord word = true) (rest : List Char) :
    lex sh (word ++ ' ' :: rest) = (lex sh rest).map (.word (litWord word) :: ·) :=
  lex_word_blank (litWord_ne_nil h) (ofWord_litWord _) (scan_plainWord h rfl)

theorem splitFields_chars (q : Bool) (text : List Char) (cur : List (Char × Bool))
    (cells : List Cell) :
    splitFields (some cur) (text.map (.char · q) ++ cells) =
      splitFields (some (cur ++ text.map (·, q))) cells := by
  induction text generalizing cur with
  | nil =>
      rw [List.map_nil, List.map_nil, List.append_nil]
      rfl
  | cons c text ih =>
      show splitFields (some (cur ++ [(c, q)])) (text.map (.char · q) ++ cells) = _
      rw [ih, List.append_assoc]
      rfl

theorem cells_litWord (env : Env) (text : List Char) :
    (litWord text).flatMap (Item.cells env) = text.map (.char · false) := by
  rw [litWord, List.flatMap_map, List.map_eq_flatMap]
  rfl

/-- A plain word is one field, unless it is a pattern for names of files. -/
theorem expandWord_litWord (env : Env) (hne : text ≠ []) :
    expandWord env (litWord text) = pathnames env (text.map (·, false)) := by
  cases text with
  | nil => exact absurd rfl hne
  | cons c text =>
      have hfields : splitFields none ((litWord (c :: text)).flatMap (Item.cells env)) =
          [(c :: text).map (·, false)] := by
        rw [cells_litWord, ← List.append_nil (List.map _ _)]
        exact splitFields_chars false text [(c, false)] []
      rw [expandWord, hfields, List.flatMap_singleton]

/-! ## Quoted arguments -/

/-- A character between single quotes; a quote is replaced by `'\''`. -/
def quoteChar (c : Char) : List Char :=
  if c = apostrophe then [apostrophe, '\\', apostrophe, apostrophe] else [c]

/-- An argument in single quotes. -/
def quote (arg : List Char) : List Char := apostrophe :: (arg.flatMap quoteChar ++ [apostrophe])

def quoteCharItems (c : Char) : List Item :=
  if c = apostrophe then [.mark apostrophe, .escaped apostrophe, .mark apostrophe] else [.quoted c]

/-- The items of a quoted argument after its opening quote. -/
def quoteItems (arg : List Char) : List Item := arg.flatMap quoteCharItems ++ [.mark apostrophe]

def quoteWord (arg : List Char) : Word := .mark apostrophe :: quoteItems arg

theorem quoteItems_cons (c : Char) (arg : List Char) :
    quoteItems (c :: arg) = quoteCharItems c ++ quoteItems arg := by
  rw [quoteItems, List.flatMap_cons, List.append_assoc]
  rfl

theorem scan_quoteChar (c : Char) (rest : List Char) :
    scan sh 0 .single true (quoteChar c ++ rest) =
      (scan sh 0 .single true rest).map (quoteCharItems c ++ ·) := by
  unfold quoteChar quoteCharItems
  by_cases hc : c = apostrophe
  · -- the quote is closed, an escaped one follows, and it is opened again
    rw [if_pos hc, if_pos hc]
    show (((scan sh 0 .single true rest).map _).map _).map _ = _
    rw [Option.map_map, Option.map_map]
    rfl
  · have hstep : step sh .single true c rest = some ⟨.quoted c, 0, .single, true⟩ := if_neg hc
    rw [if_neg hc, if_neg hc, List.singleton_append, scan_cons hstep]
    rfl

theorem scan_quote_body (arg rest : List Char) :
    scan sh 0 .single true (arg.flatMap quoteChar ++ apostrophe :: rest) =
      (scan sh 0 .plain true rest).map (quoteItems arg ++ ·) := by
  induction arg with
  | nil => rfl
  | cons c arg ih =>
      rw [List.flatMap_cons, List.append_assoc, scan_quoteChar, ih, Option.map_map, quoteItems_cons]
      congr 1
      funext items
      exact (List.append_assoc _ _ _).symm

theorem scan_quote (inWord : Bool) (arg rest : List Char) :
    scan sh 0 .plain inWord (quote arg ++ rest) =
      (scan sh 0 .plain true rest).map (quoteWord arg ++ ·) := by
  have hopen : ∀ r, step sh .plain inWord apostrophe r =
      some ⟨.mark apostrophe, 0, .single, true⟩ := fun r => rfl
  rw [quote, List.cons_append, List.append_assoc, List.singleton_append, scan_cons (hopen _),
    scan_quote_body, Option.map_map]
  rfl

/-- A quoted argument consists of quotation marks and of quoted or escaped characters. -/
theorem mem_quoteWord {arg : List Char} {i : Item} (h : i ∈ quoteWord arg) :
    i = .mark apostrophe ∨ i = .escaped apostrophe ∨ ∃ c, i = .quoted c := by
  rcases List.mem_cons.mp h with rfl | h
  · exact .inl rfl
  · rcases List.mem_append.mp h with h | h
    · obtain ⟨c, -, h⟩ := List.mem_flatMap.mp h
      unfold quoteCharItems at h
      split at h
      · simp only [List.mem_cons, List.not_mem_nil, or_false] at h
        rcases h with rfl | rfl | rfl
        · exact .inl rfl
        · exact .inr (.inl rfl)
        · exact .inl rfl
      · exact .inr (.inr ⟨c, List.mem_singleton.mp h⟩)
    · exact .inl (List.mem_singleton.mp h)

theorem ofWord_quoteWord (arg : List Char) : (quoteWord arg).all Item.ofWord = true := by
  rw [List.all_eq_true]
  intro i hi
  rcases mem_quoteWord hi with rfl | rfl | ⟨c, rfl⟩ <;> rfl

theorem lex_andIf (rest : List Char) :
    lex sh ('&' :: '&' :: rest) = (lex sh rest).map (.op .andIf :: ·) := by
  show ((scan sh 0 .plain false rest).map _).map _ = ((scan sh 0 .plain false rest).map _).map _
  rw [Option.map_map, Option.map_map]
  rfl

theorem lex_quote (arg : List Char) : lex sh (quote arg) = some [.word (quoteWord arg)] := by
  have hscan : scan sh 0 .plain false (quote arg ++ []) = _ := scan_quote false arg []
  rw [List.append_nil] at hscan
  rw [lex, hscan]
  show some (group [] (quoteWord arg ++ [])) = _
  rw [group_word (ofWord_quoteWord arg)]
  rfl

theorem lex_quote_blank (arg rest : List Char) :
    lex sh (quote arg ++ ' ' :: rest) = (lex sh rest).map (.word (quoteWord arg) :: ·) :=
  lex_word_blank (List.cons_ne_nil _ _) (ofWord_quoteWord arg) (scan_quote false arg _)

/-- The arguments of a command, quoted and joined by blanks. -/
def quoteAll (args : List (List Char)) : List Char := [' '].intercalate (args.map quote)

def wordTokens (args : List (List Char)) : List Token := args.map fun arg => .word (quoteWord arg)

theorem quoteAll_cons (a b : List Char) (args : List (List Char)) :
    quoteAll (a :: b :: args) = quote a ++ ' ' :: quoteAll (b :: args) := by
  rw [quoteAll, List.map_cons, List.map_cons, List.intercalate_cons_cons, List.append_assoc]
  rfl

theorem lex_quoteAll {args : List (List Char)} (hne : args ≠ []) :
    lex sh (quoteAll args) = some (wordTokens args) := by
  induction args with
  | nil => exact absurd rfl hne
  | cons a args ih =>
      cases args with
      | nil =>
          rw [show quoteAll [a] = quote a from List.intercalate_singleton, lex_quote]
          rfl
      | cons b args =>
          rw [quoteAll_cons, lex_quote_blank, ih (List.cons_ne_nil b args)]
          rfl

theorem lex_quoteAll_blank {args : List (List Char)} (hne : args ≠ []) (rest : List Char) :
    lex sh (quoteAll args ++ ' ' :: rest) = (lex sh rest).map (wordTokens args ++ ·) := by
  induction args with
  | nil => exact absurd rfl hne
  | cons a args ih =>
      cases args with
      | nil =>
          rw [show quoteAll [a] = quote a from List.intercalate_singleton, lex_quote_blank]
          rfl
      | cons b args =>
          rw [quoteAll_cons, List.append_assoc, List.cons_append, lex_quote_blank,
            ih (List.cons_ne_nil b args), Option.map_map]
          rfl

/-- The tokens of commands that are joined by `&&`. -/
def stepTokens : List (List (List Char)) → List Token
  | [] => []
  | [args] => wordTokens args
  | args :: steps => wordTokens args ++ .op .andIf :: stepTokens steps

theorem lex_steps (hne : steps ≠ []) (hargs : ∀ args ∈ steps, args ≠ []) :
    lex sh ([' ', '&', '&', ' '].intercalate (steps.map quoteAll)) = some (stepTokens steps) := by
  induction steps with
  | nil => exact absurd rfl hne
  | cons args steps ih =>
      have hfirst := hargs args List.mem_cons_self
      cases steps with
      | nil =>
          rw [List.map_singleton, List.intercalate_singleton, lex_quoteAll hfirst]
          rfl
      | cons args' steps =>
          rw [List.map_cons, List.map_cons, List.intercalate_cons_cons, List.append_assoc]
          rw [List.cons_append, List.cons_append, List.cons_append, List.cons_append,
            List.nil_append]
          have hrest := ih (List.cons_ne_nil _ _) fun a ha => hargs a (List.mem_cons_of_mem args ha)
          rw [lex_quoteAll_blank hfirst, lex_andIf, lex_blank]
          rw [← List.map_cons, hrest]
          rfl

/-! ### Commands -/

theorem parse_words (need : Bool) (pipe : List Simple) (ws : List Word) (cmd : Simple)
    (ts : List Token) :
    parse need pipe cmd (ws.map .word ++ ts) =
      parse need pipe { cmd with words := cmd.words ++ ws } ts := by
  induction ws generalizing cmd with
  | nil => rw [List.map_nil, List.nil_append, List.append_nil]
  | cons w ws ih =>
      rw [List.map_cons, List.cons_append, parse, ih, Simple.addWord, List.append_assoc]
      rfl

/-- The command of some quoted arguments. -/
def quotedCommand (args : List (List Char)) : Simple := { words := args.map quoteWord }

theorem close_quoted {args : List (List Char)} (hne : args ≠ []) :
    close [] (quotedCommand args) = some [quotedCommand args] := by
  cases args with
  | nil => exact absurd rfl hne
  | cons a args => rfl

/-- The script of commands that are joined by `&&`. -/
def stepScript : List (List (List Char)) → Script
  | [] => []
  | [args] => [([quotedCommand args], .seq)]
  | args :: steps => ([quotedCommand args], .andIf) :: stepScript steps

theorem parse_steps (hne : steps ≠ []) (hargs : ∀ args ∈ steps, args ≠ []) (need : Bool) :
    parse need [] {} (stepTokens steps) = some (stepScript steps) := by
  induction steps generalizing need with
  | nil => exact absurd rfl hne
  | cons args steps ih =>
      have hfirst := hargs args List.mem_cons_self
      have hclose := close_quoted hfirst
      have hcmd : (quotedCommand args).isEmpty = false := by
        cases args with
        | nil => exact absurd rfl hfirst
        | cons a args => rfl
      have hwords : wordTokens args = (args.map quoteWord).map .word := by
        rw [List.map_map]
        rfl
      cases steps with
      | nil =>
          have hparse := parse_words need [] (args.map quoteWord) {} []
          rw [List.append_nil] at hparse
          show parse need [] {} (wordTokens args) = _
          rw [hwords, hparse]
          show parse need [] (quotedCommand args) [] = _
          rw [parse, hcmd, hclose]
          rfl
      | cons args' steps =>
          show parse need [] {} (wordTokens args ++ .op .andIf :: stepTokens (args' :: steps)) = _
          rw [hwords, parse_words]
          show parse need [] (quotedCommand args) (.op .andIf :: _) = _
          rw [parse, hclose, Option.bind_some,
            ih (List.cons_ne_nil _ _) fun a ha => hargs a (List.mem_cons_of_mem args ha)]
          rfl

/-! ### Fields -/

theorem isPattern_quoted (arg : List Char) : isPattern (arg.map (·, true)) = false := by
  induction arg with
  | nil => rfl
  | cons c arg ih => exact ih

theorem pathnames_quoted (env : Env) (arg : List Char) : pathnames env (arg.map (·, true)) = [arg] := by
  rw [pathnames, isPattern_quoted]
  show [(arg.map (·, true)).map Prod.fst] = [arg]
  rw [List.map_map]
  exact congrArg (fun l => [l]) (List.map_id' arg)

theorem splitFields_quoteItems (env : Env) (arg : List Char) (cur : List (Char × Bool)) :
    splitFields (some cur) ((quoteItems arg).flatMap (Item.cells env)) =
      [cur ++ arg.map (·, true)] := by
  induction arg generalizing cur with
  | nil =>
      rw [List.map_nil, List.append_nil]
      rfl
  | cons c arg ih =>
      have hcons : splitFields (some cur) ((quoteItems (c :: arg)).flatMap (Item.cells env)) =
          splitFields (some (cur ++ [(c, true)])) ((quoteItems arg).flatMap (Item.cells env)) := by
        rw [quoteItems_cons, quoteCharItems]
        by_cases hc : c = apostrophe
        · rw [if_pos hc, hc]
          rfl
        · rw [if_neg hc]
          rfl
      rw [hcons, ih, List.append_assoc]
      rfl

theorem expandWord_quoteWord (env : Env) (arg : List Char) :
    expandWord env (quoteWord arg) = [arg] := by
  have hfields : splitFields none ((quoteWord arg).flatMap (Item.cells env)) =
      [arg.map (·, true)] := splitFields_quoteItems env arg []
  rw [expandWord, hfields, List.flatMap_singleton, pathnames_quoted]

theorem nested_quoteWord (arg : List Char) : (quoteWord arg).flatMap Item.nested = [] := by
  rw [List.flatMap_eq_nil_iff]
  intro i hi
  rcases mem_quoteWord hi with rfl | rfl | ⟨c, rfl⟩ <;> rfl

theorem expandSimple_quotedCommand (env : Env) (args : List (List Char)) :
    expandSimple env (quotedCommand args) = { argv := args } := by
  have hargv : (args.map quoteWord).flatMap (expandWord env) = args := by
    rw [List.flatMap_map]
    simp only [expandWord_quoteWord]
    exact List.flatMap_singleton' args
  have hnested : (args.map quoteWord ++ []).flatMap (fun w : Word => w.flatMap Item.nested) = [] := by
    rw [List.append_nil, List.flatMap_map]
    simp only [nested_quoteWord]
    exact List.flatMap_eq_nil_iff.mpr fun _ _ => rfl
  show Command.mk ((args.map quoteWord).flatMap (expandWord env)) []
    ((args.map quoteWord ++ []).flatMap fun w : Word => w.flatMap Item.nested) = _
  rw [hargv, hnested]

/-! ### Execution -/

/-- The pipelines of an and-list that are executed: up to the first one that fails. -/
def untilFailure {α : Type} (succeeds : Nat → Bool) (n : Nat) : List α → List α
  | [] => []
  | p :: ps => p :: if succeeds n then untilFailure succeeds (n + 1) ps else []

theorem execute_skip_steps (env : Env) (succeeds : Nat → Bool) (n : Nat)
    (steps : List (List (List Char))) :
    execute env succeeds n false false (stepScript steps) = [] := by
  induction steps with
  | nil => rfl
  | cons args steps ih =>
      cases steps with
      | nil => rfl
      | cons args' steps => exact ih

theorem execute_steps (env : Env) (succeeds : Nat → Bool)
    (hexec : ∀ args ∈ steps, args.head? ≠ some "exec".toList) (n : Nat) (status : Bool) :
    execute env succeeds n status true (stepScript steps) =
      untilFailure succeeds n (steps.map fun args => [{ argv := args }]) := by
  induction steps generalizing n status with
  | nil => rfl
  | cons args steps ih =>
      have hfirst : replacesShell [{ argv := args }] = false := by
        have hhead := hexec args List.mem_cons_self
        rw [replacesShell, beq_eq_false_iff_ne.mpr hhead]
        rfl
      cases steps with
      | nil =>
          show execute env succeeds n status true [([quotedCommand args], .seq)] = _
          rw [execute, List.map_singleton, expandSimple_quotedCommand, hfirst, List.map_singleton,
            untilFailure, untilFailure, ite_self]
          rfl
      | cons args' steps =>
          have hrest := ih fun a ha => hexec a (List.mem_cons_of_mem args ha)
          show execute env succeeds n status true
            (([quotedCommand args], .andIf) :: stepScript (args' :: steps)) = _
          rw [execute, List.map_singleton, expandSimple_quotedCommand, hfirst, List.map_cons, untilFailure]
          cases hok : succeeds n with
          | true =>
              show [_] ++ execute env succeeds (n + 1) true true (stepScript (args' :: steps)) = _
              rw [hrest]
              rfl
          | false =>
              show [_] ++ execute env succeeds (n + 1) false false (stepScript (args' :: steps)) = _
              rw [execute_skip_steps]
              rfl

/-- Commands with quoted arguments that are joined by `&&` are executed one after the other, as long
as they succeed, and each with its arguments as they were. -/
theorem run_steps (env : Env) (succeeds : Nat → Bool) (hne : steps ≠ [])
    (hargs : ∀ args ∈ steps, args ≠ []) (hexec : ∀ args ∈ steps, args.head? ≠ some "exec".toList) :
    run sh env succeeds ([' ', '&', '&', ' '].intercalate (steps.map quoteAll)) =
      some (untilFailure succeeds 0 (steps.map fun args => [{ argv := args }])) := by
  rw [run, lex_steps hne hargs, Option.bind_some, parse_steps hne hargs, Option.map_some,
    execute_steps env succeeds hexec]

end Shell
