import Heir.Lib.Counting
import Heir.Lib.Shell

set_option autoImplicit false

/-! # Commands over several lines

A script that replaces the shell by a command whose arguments stand on lines of their own, without
any quoting:

    exec binary \
      --first=1 \
      --second=2

Main result: `run_lines_iff`, in every environment the shell executes exactly this command, with each
line as one argument, if and only if the arguments have no character with a meaning for the shell.

That the arguments must be plain is shown by counting. In an environment where all expansions are
empty the shell only ever drops characters, so that the fields of the command have at most as many
characters of any kind as the script. The characters are counted that are neither blanks nor
newlines nor backslashes, as the lines are joined by these; then newlines, then backslashes.
-/

namespace Shell

/-! ## The text of items -/

variable {sh : Dialect}

/-- A text that begins with one character, or that is this character and the next one. -/
def Follows (c : Char) (next : Option Char) (text : List Char) : Prop :=
  text = [c] ∨ ∃ d, next = some d ∧ text = [c, d]

variable {args : List (List Char)} {c : Char} {inWord : Bool} {mode : Mode} {rest text : List Char}
  {s : Step}

theorem follows_ite {α : Type} {text : α → List Char} {d : Char} {next : Option Char} {a b : α}
    (ha : text a = [c, d]) (hb : Follows c next (text b)) :
    Follows c next (text (if next = some d then a else b)) := by
  split
  · next h => exact .inr ⟨d, h, ha⟩
  · exact hb

theorem operator_follows {next : Option Char} {o : Op} (h : operator c next = some o) :
    Follows c next o.text := by
  have hc : c ∈ operatorChars := by
    by_contra hc
    cases ((operator_eq_none_iff c next).mpr hc).symm.trans h
  simp only [operatorChars, List.mem_cons, List.not_mem_nil, or_false] at hc
  rcases hc with rfl | rfl | rfl | rfl | rfl | rfl | rfl | rfl
  · obtain rfl : Op.newline = o := Option.some.inj h
    exact .inl rfl
  · obtain rfl : (if next = some ';' then Op.dsemi else .semi) = o := Option.some.inj h
    exact follows_ite rfl (.inl rfl)
  · obtain rfl : (if next = some '&' then Op.andIf else .amp) = o := Option.some.inj h
    exact follows_ite rfl (.inl rfl)
  · obtain rfl : (if next = some '|' then Op.orIf else .bar) = o := Option.some.inj h
    exact follows_ite rfl (.inl rfl)
  · obtain rfl : Op.lparen = o := Option.some.inj h
    exact .inl rfl
  · obtain rfl : Op.rparen = o := Option.some.inj h
    exact .inl rfl
  · obtain rfl : Op.redirect (if next = some '<' then .hereDocument
        else if next = some '&' then .dupInput
        else if next = some '>' then .readWrite else .input) = o := Option.some.inj h
    show Follows _ next (Redirection.text (if _ then _ else _))
    exact follows_ite rfl (follows_ite rfl (follows_ite rfl (.inl rfl)))
  · obtain rfl : Op.redirect (if next = some '>' then .append
        else if next = some '&' then .dupOutput
        else if next = some '|' then .clobber else .output) = o := Option.some.inj h
    show Follows _ next (Redirection.text (if _ then _ else _))
    exact follows_ite rfl (follows_ite rfl (follows_ite rfl (.inl rfl)))

theorem operator_text {o : Op} (h : operator c rest.head? = some o) :
    o.text = c :: rest.take (o.text.length - 1) := by
  rcases operator_follows h with htext | ⟨d, hd, htext⟩
  · rw [htext]
    rfl
  · obtain ⟨rest', rfl⟩ := List.head?_eq_some_iff.mp hd
    rw [htext]
    rfl

theorem dollarStep_text {literal : Item} (h : dollarStep sh rest literal mode = some s)
    (hliteral : literal.text = ['$']) : s.item.text = '$' :: rest.take s.skip := by
  unfold dollarStep at h
  split at h
  · obtain ⟨n, -, rfl⟩ := Option.map_eq_some_iff.mp h
    rfl
  · cases h
    exact hliteral

theorem backquoteStep_text (h : backquoteStep sh rest mode = some s) :
    s.item.text = backquote :: rest.take s.skip := by
  obtain ⟨n, -, rfl⟩ := Option.map_eq_some_iff.mp h
  rfl

/-- What a character outside of quotation marks is read as. -/
inductive PlainRead (c : Char) (rest : List Char) : Step → Prop
  | mark (mode : Mode) (hc : c = apostrophe ∨ c = '"') : PlainRead c rest ⟨.mark c, 0, mode, true⟩
  | escaped (inWord : Bool) {d : Char} (hc : c = '\\') (hd : rest.head? = some d)
      (hne : d ≠ '\n') : PlainRead c rest ⟨.escaped d, 1, .plain, inWord⟩
  | continuation (inWord : Bool) (hc : c = '\\') (hd : rest.head? = some '\n') :
      PlainRead c rest ⟨.continuation, 1, .plain, inWord⟩
  | expansion (n : Nat) (inQuotes : Bool) (hc : c = '$' ∨ c = backquote) :
      PlainRead c rest ⟨.expansion (c :: rest.take n) inQuotes, n, .plain, true⟩
  | blank (hc : isBlank c = true) : PlainRead c rest ⟨.blank c, 0, .plain, false⟩
  | op {o : Op} (hc : c ≠ '\\' ∧ isBlank c = false) (ho : operator c rest.head? = some o) :
      PlainRead c rest ⟨.op o, o.text.length - 1, .plain, false⟩
  | comment (hc : c = '#') : PlainRead c rest ⟨.comment c, 0, .comment, false⟩
  | lit (hc : isOrdinary c = true ∨ c = '$' ∧ startsExpansion rest = false) :
      PlainRead c rest ⟨.lit c, 0, .plain, true⟩

theorem plainStep_read (h : plainStep sh inWord c rest = some s) : PlainRead c rest s := by
  unfold plainStep at h
  by_cases h₁ : c = apostrophe
  · rw [if_pos h₁] at h
    cases h
    exact .mark .single (.inl h₁)
  by_cases h₂ : c = '"'
  · rw [if_neg h₁, if_pos h₂] at h
    cases h
    exact .mark .double (.inr h₂)
  by_cases h₃ : c = '\\'
  · rw [if_neg h₁, if_neg h₂, if_pos h₃] at h
    obtain ⟨d, hd, rfl⟩ := Option.map_eq_some_iff.mp h
    by_cases hn : d = '\n'
    · rw [if_pos hn]
      exact .continuation inWord h₃ (hn ▸ hd)
    · rw [if_neg hn]
      exact .escaped true h₃ hd hn
  by_cases h₄ : c = '$'
  · rw [if_neg h₁, if_neg h₂, if_neg h₃, if_pos h₄, dollarStep] at h
    by_cases hstart : startsExpansion rest = true
    · rw [if_pos hstart] at h
      obtain ⟨n, -, rfl⟩ := Option.map_eq_some_iff.mp h
      rw [← h₄]
      exact .expansion n _ (.inl h₄)
    · rw [if_neg hstart] at h
      cases h
      exact .lit (.inr ⟨h₄, Bool.eq_false_iff.mpr hstart⟩)
  by_cases h₅ : c = backquote
  · rw [if_neg h₁, if_neg h₂, if_neg h₃, if_neg h₄, if_pos h₅] at h
    obtain ⟨n, -, rfl⟩ := Option.map_eq_some_iff.mp h
    rw [← h₅]
    exact .expansion n _ (.inr h₅)
  by_cases h₆ : isBlank c = true
  · rw [if_neg h₁, if_neg h₂, if_neg h₃, if_neg h₄, if_neg h₅, if_pos h₆] at h
    cases h
    exact .blank h₆
  rw [if_neg h₁, if_neg h₂, if_neg h₃, if_neg h₄, if_neg h₅, if_neg h₆] at h
  cases ho : operator c rest.head? with
  | some o =>
      rw [ho] at h
      cases h
      exact .op ⟨h₃, Bool.eq_false_iff.mpr h₆⟩ ho
  | none =>
      have hord : isOrdinary c = true := by
        have hop := (operator_eq_none_iff c _).mp ho
        simp [isOrdinary, h₁, h₂, h₃, h₄, h₅, h₆, hop]
      rw [ho] at h
      dsimp only at h
      split at h
      · cases h
        exact .lit (.inl hord)
      · split at h
        · next hc =>
            cases h
            exact .comment hc
        · split at h
          · cases h
          · cases h
            exact .lit (.inl hord)

theorem plainStep_text (h : plainStep sh inWord c rest = some s) :
    s.item.text = c :: rest.take s.skip := by
  cases plainStep_read h with
  | mark mode hc => rfl
  | escaped w hc hd hne | continuation w hc hd =>
      obtain ⟨rest', rfl⟩ := List.head?_eq_some_iff.mp hd
      rw [hc]
      rfl
  | expansion n q hc => rfl
  | blank hc => rfl
  | op hc ho => exact operator_text ho
  | comment hc => rfl
  | lit hc => rfl

theorem doubleStep_text (h : doubleStep sh c rest = some s) :
    s.item.text = c :: rest.take s.skip := by
  unfold doubleStep at h
  split at h
  · cases h
    rfl
  · split at h
    · next hc =>
        obtain ⟨d, hd, rfl⟩ := Option.map_eq_some_iff.mp h
        obtain ⟨rest', rfl⟩ := List.head?_eq_some_iff.mp hd
        rw [hc]
        split
        · next hd => rw [hd]; rfl
        · split <;> rfl
    · split at h
      · next hc =>
          rw [hc] at h ⊢
          exact dollarStep_text h rfl
      · split at h
        · next hc =>
            rw [hc]
            exact backquoteStep_text h
        · cases h
          rfl

theorem step_text (h : step sh mode inWord c rest = some s) :
    s.item.text = c :: rest.take s.skip := by
  cases mode with
  | plain => exact plainStep_text h
  | double => exact doubleStep_text h
  | single =>
      unfold step at h
      dsimp only at h
      split at h <;> cases h <;> rfl
  | comment =>
      unfold step at h
      dsimp only at h
      split at h
      · next hc =>
          cases h
          rw [hc]
          rfl
      · cases h
        rfl

theorem scan_text {items : List Item} {n : Nat} (h : scan sh n mode inWord text = some items) :
    items.flatMap Item.text = text.drop n := by
  induction text generalizing n mode inWord items with
  | nil =>
      unfold scan at h
      split at h
      · cases h
      · cases h
        exact List.drop_nil.symm
  | cons c rest ih =>
      cases n with
      | succ n => exact ih h
      | zero =>
          unfold scan at h
          split at h
          · cases h
          · next s hs =>
              obtain ⟨more, hmore, rfl⟩ := Option.map_eq_some_iff.mp h
              rw [List.flatMap_cons, step_text hs, ih hmore, List.cons_append,
                List.take_append_drop]
              rfl

/-! ## The characters that are kept -/

/-- The character that an item adds to a word. -/
def Item.chars : Item → List Char
  | .lit c => [c]
  | .quoted c => [c]
  | .escaped c => [c]
  | _ => []

/-- All expansions are empty, and there are no files. -/
def emptyEnv : Env := ⟨fun _ => [], fun _ => []⟩

def Cell.chars : Cell → List (Char × Bool)
  | .char c q => [(c, q)]
  | _ => []

theorem flatten_splitFields (cur : Option (List (Char × Bool))) (cells : List Cell) :
    (splitFields cur cells).flatten = cur.getD [] ++ cells.flatMap Cell.chars := by
  induction cells generalizing cur with
  | nil => cases cur <;> simp [splitFields]
  | cons cell cells ih =>
      cases cell with
      | char c q =>
          rw [splitFields, ih, List.flatMap_cons, Option.getD_some, List.append_assoc]
          rfl
      | keep =>
          rw [splitFields, ih]
          rfl
      | sep =>
          rw [splitFields, List.flatten_append, ih]
          cases cur <;> simp [Cell.chars]

theorem cells_emptyEnv (i : Item) :
    ((i.cells emptyEnv).flatMap Cell.chars).map Prod.fst = i.chars := by
  cases i with
  | expansion text q => cases q <;> rfl
  | lit c => rfl
  | quoted c => rfl
  | escaped c => rfl
  | mark c => rfl
  | continuation => rfl
  | blank c => rfl
  | op o => rfl
  | comment c => rfl

theorem pathnames_emptyEnv (field : List (Char × Bool)) :
    pathnames emptyEnv field = [field.map Prod.fst] := by
  unfold pathnames
  split <;> rfl

theorem flatten_expandWord (w : Word) :
    (expandWord emptyEnv w).flatten = w.flatMap Item.chars := by
  have hnames : (splitFields none (w.flatMap (Item.cells emptyEnv))).flatMap (pathnames emptyEnv) =
      (splitFields none (w.flatMap (Item.cells emptyEnv))).map (List.map Prod.fst) := by
    rw [List.map_eq_flatMap]
    exact List.flatMap_congr fun field _ => pathnames_emptyEnv field
  rw [expandWord, hnames, ← List.map_flatten, flatten_splitFields, Option.getD_none,
    List.nil_append, List.flatMap_assoc, List.map_flatMap]
  exact List.flatMap_congr fun i _ => cells_emptyEnv i

theorem flatten_argv (s : Simple) :
    (expandSimple emptyEnv s).argv.flatten = s.words.flatten.flatMap Item.chars := by
  show (s.words.flatMap (expandWord emptyEnv)).flatten = _
  induction s.words with
  | nil => rfl
  | cons w words ih =>
      rw [List.flatMap_cons, List.flatten_append, ih, flatten_expandWord, List.flatten_cons,
        List.flatMap_append]

/-! ## The words of the first command -/

def Token.items : Token → List Item
  | .word w => w
  | _ => []

variable {items : List Item}

theorem items_flush (cur : Word) : (flush cur).flatMap Token.items = cur := by
  unfold flush
  split
  · next h => exact h.symm
  · exact List.append_nil cur

theorem items_flush_append (cur : Word) (ts : List Token) :
    (flush cur ++ ts).flatMap Token.items = cur ++ ts.flatMap Token.items := by
  rw [List.flatMap_append, items_flush]

theorem sublist_skip (cur : Word) (i : Item) {l : List Item} (h : l.Sublist items) :
    (cur ++ l).Sublist (cur ++ i :: items) :=
  List.Sublist.append_left (List.Sublist.cons i h) cur

theorem items_group (cur : Word) (items : List Item) :
    ((group cur items).flatMap Token.items).Sublist (cur ++ items) := by
  induction items generalizing cur with
  | nil =>
      show ((flush cur).flatMap Token.items).Sublist _
      rw [items_flush, List.append_nil]
  | cons i items ih =>
      have hkeep : ((group (cur ++ [i]) items).flatMap Token.items).Sublist (cur ++ i :: items) := by
        have h := ih (cur ++ [i])
        rw [List.append_assoc, List.singleton_append] at h
        exact h
      have hdrop : (cur ++ (group [] items).flatMap Token.items).Sublist (cur ++ i :: items) :=
        sublist_skip cur i (ih [])
      cases i with
      | lit c | quoted c | escaped c | mark c | expansion text inQuotes => exact hkeep
      | continuation => exact (ih cur).trans (sublist_skip cur _ (List.Sublist.refl items))
      | blank c | comment c => exact (items_flush_append cur _).symm ▸ hdrop
      | op o =>
          cases o with
          | redirect r =>
              show ((if cur.all Item.isDigit then Token.redirect cur r :: group [] items
                else .word cur :: .redirect [] r :: group [] items).flatMap Token.items).Sublist _
              split
              · -- the digits of a file descriptor are no word
                exact (List.Sublist.cons _ (ih [])).trans (List.sublist_append_right cur _)
              · exact hdrop
          | _ => exact (items_flush_append cur (_ :: group [] items)).symm ▸ hdrop

theorem close_eq {pipe p : List Simple} {cmd : Simple} (h : close pipe cmd = some p) :
    p = pipe ++ [cmd] := by
  unfold close at h
  split at h
  · exact (Option.some.inj h).symm
  · cases h

/-- The words of a pipeline, one after the other. -/
def pipeWords (p : List Simple) : List Item := (p.flatMap Simple.words).flatten

theorem pipeWords_append (pipe : List Simple) (cmd : Simple) :
    pipeWords (pipe ++ [cmd]) = pipeWords pipe ++ cmd.words.flatten := by
  rw [pipeWords, List.flatMap_append, List.flatten_append, List.flatMap_singleton]
  rfl

theorem parse_close {pipe p : List Simple} {cmd : Simple} {connector connector' : Connector}
    {more : Option Script} {rest : Script} (ts : List Token)
    (h : ((close pipe cmd).bind fun p => more.map ((p, connector) :: ·)) =
      some ((p, connector') :: rest)) :
    (pipeWords p).Sublist (pipeWords pipe ++ cmd.words.flatten ++ ts.flatMap Token.items) := by
  obtain ⟨p', hp', h⟩ := Option.bind_eq_some_iff.mp h
  obtain ⟨script, -, h⟩ := Option.map_eq_some_iff.mp h
  cases h
  rw [close_eq hp', pipeWords_append]
  exact List.sublist_append_left _ _

theorem parse_first {need : Bool} {pipe p : List Simple} {cmd : Simple} {ts : List Token}
    {connector : Connector} {rest : Script}
    (h : parse need pipe cmd ts = some ((p, connector) :: rest)) :
    (pipeWords p).Sublist (pipeWords pipe ++ cmd.words.flatten ++ ts.flatMap Token.items) := by
  fun_induction parse need pipe cmd ts with
  | case1 => cases h
  | case2 => cases h
  | case3 need pipe cmd hcmd =>
      obtain ⟨p', hp', h⟩ := Option.map_eq_some_iff.mp h
      cases h
      rw [close_eq hp', pipeWords_append]
      exact List.sublist_append_left _ _
  | case4 need pipe cmd w ts ih =>
      have hwords := ih h
      rw [Simple.addWord, List.flatten_append, List.append_assoc, List.append_assoc] at hwords
      rw [List.append_assoc]
      simpa [Token.items] using hwords
  | case5 => cases h
  | case6 need pipe cmd fd r w ts hr ih =>
      refine (ih h).trans ?_
      exact (List.sublist_append_right w _).append_left _
  | case7 => cases h
  | case8 need pipe cmd ts hcmd ih => exact ih h
  | case9 need pipe cmd ts hcmd ih | case10 need pipe cmd ts ih | case11 need pipe cmd ts ih
  | case12 need pipe cmd ts ih | case13 need pipe cmd ts ih => exact parse_close _ h
  | case14 need pipe cmd ts ih =>
      obtain ⟨p', hp', h⟩ := Option.bind_eq_some_iff.mp h
      have hwords := ih p' h
      rw [close_eq hp', pipeWords_append] at hwords
      simpa [Token.items] using hwords
  | case15 => cases h

/-- A run of one command: the characters of its arguments are those of a part of the items. -/
theorem run_single {succeeds : Nat → Bool} {cmd : Command}
    (h : run sh emptyEnv succeeds text = some [[cmd]]) :
    ∃ items kept : List Item, scan sh 0 .plain false text = some items ∧ kept.Sublist items ∧
      cmd.argv.flatten = kept.flatMap Item.chars := by
  obtain ⟨script, hscript, hexecute⟩ := Option.map_eq_some_iff.mp h
  obtain ⟨ts, hts, hparse⟩ := Option.bind_eq_some_iff.mp hscript
  obtain ⟨items, hitems, rfl⟩ := Option.map_eq_some_iff.mp hts
  cases script with
  | nil => cases hexecute
  | cons first rest =>
      obtain ⟨p, connector⟩ := first
      have hfirst : p.map (expandSimple emptyEnv) = [cmd] := (List.cons.inj hexecute).1
      obtain ⟨s, rfl, hs⟩ := List.map_eq_singleton_iff.mp hfirst
      have hwords := parse_first hparse
      have hkept : (pipeWords [s]).Sublist items := hwords.trans (items_group [] items)
      refine ⟨items, pipeWords [s], hitems, hkept, ?_⟩
      rw [← hs, flatten_argv, pipeWords, List.flatMap_singleton]

/-! ## Texts without a loss -/

/-- The characters that do not join lines. -/
def isSolid (c : Char) : Bool := c != ' ' && c != '\n' && c != '\\'

theorem countP_chars_le (p : Char → Bool) (i : Item) : i.chars.countP p ≤ i.text.countP p := by
  cases i with
  | lit c | quoted c => exact Nat.le_refl _
  | escaped c => exact List.Sublist.countP_le (List.sublist_cons_self _ _)
  | mark c | expansion t q | continuation | blank c | op o | comment c => exact Nat.zero_le _

/-- The item has lost no solid character. -/
def Lossless (i : Item) : Prop := i.chars.countP isSolid = i.text.countP isSolid

/-- An item that drops all its characters, the first of which is solid. -/
theorem not_lossless {i : Item} (hchars : i.chars = []) (htext : i.text = c :: rest)
    (hc : isSolid c = true) : ¬ Lossless i := by
  intro h
  rw [Lossless, hchars, htext, List.countP_cons_of_pos hc] at h
  exact absurd h.symm (Nat.succ_ne_zero _)

/-- A text that is read without a loss: without quotation marks, expansions and comments. -/
inductive BareText : List Char → List Item → Prop
  | nil : BareText [] []
  | lit {c : Char} {rest : List Char} {items : List Item}
      (hc : isOrdinary c = true ∨ c = '$' ∧ startsExpansion rest = false)
      (h : BareText rest items) : BareText (c :: rest) (.lit c :: items)
  | escaped {c : Char} {rest : List Char} {items : List Item} (hc : c ≠ '\n')
      (h : BareText rest items) : BareText ('\\' :: c :: rest) (.escaped c :: items)
  | continuation {rest : List Char} {items : List Item} (h : BareText rest items) :
      BareText ('\\' :: '\n' :: rest) (.continuation :: items)
  | blank {rest : List Char} {items : List Item} (h : BareText rest items) :
      BareText (' ' :: rest) (.blank ' ' :: items)
  | newline {rest : List Char} {items : List Item} (h : BareText rest items) :
      BareText ('\n' :: rest) (.op .newline :: items)

theorem bareText_of_scan (h : scan sh 0 .plain inWord text = some items)
    (hlossless : ∀ i ∈ items, Lossless i) : BareText text items := by
  induction hn : text.length using Nat.strong_induction_on generalizing text inWord items with
  | _ n ih =>
    cases text with
    | nil =>
        cases h
        exact .nil
    | cons c rest =>
        unfold scan at h
        split at h
        · cases h
        · next s hs =>
            obtain ⟨more, hmore, rfl⟩ := Option.map_eq_some_iff.mp h
            have hrest : ∀ i ∈ more, Lossless i := fun i hi => hlossless i (List.mem_cons_of_mem _ hi)
            rw [List.length_cons] at hn
            have hfirst := hlossless _ List.mem_cons_self
            have htext := step_text hs
            cases plainStep_read hs with
            | mark mode hc | expansion n q hc =>
                have hsolid : isSolid c = true := by rcases hc with rfl | rfl <;> rfl
                exact absurd hfirst (not_lossless rfl htext hsolid)
            | comment hc => exact absurd hfirst (not_lossless rfl htext (by rw [hc]; rfl))
            | lit hc => exact .lit hc (ih _ (by omega) hmore hrest rfl)
            | blank hc =>
                rcases Bool.or_eq_true _ _ ▸ hc with hc | hc
                · rw [beq_iff_eq.mp hc]
                  exact .blank (ih _ (by omega) hmore hrest rfl)
                · exact absurd hfirst (not_lossless rfl htext (by rw [beq_iff_eq.mp hc]; rfl))
            | op hc ho =>
                by_cases hn : c = '\n'
                · rw [hn] at ho
                  cases ho
                  rw [hn]
                  exact .newline (ih _ (by omega) hmore hrest rfl)
                · have hspace : c ≠ ' ' := by
                    rintro rfl
                    cases hc.2
                  have hsolid : isSolid c = true := by simp [isSolid, hspace, hn, hc.1]
                  exact absurd hfirst (not_lossless rfl htext hsolid)
            | escaped w hc hd hne =>
                obtain ⟨rest', rfl⟩ := List.head?_eq_some_iff.mp hd
                rw [List.length_cons] at hn
                rw [hc]
                exact .escaped hne (ih _ (by omega) hmore hrest rfl)
            | continuation w hc hd =>
                obtain ⟨rest', rfl⟩ := List.head?_eq_some_iff.mp hd
                rw [List.length_cons] at hn
                rw [hc]
                exact .continuation (ih _ (by omega) hmore hrest rfl)

/-! ### What a text without a loss keeps -/

def Item.isEscaped : Item → Bool
  | .escaped _ => true
  | _ => false

theorem ordinary_ne (h : isOrdinary c = true) : c ≠ ' ' ∧ c ≠ '\n' ∧ c ≠ '\\' := by
  refine ⟨?_, ?_, ?_⟩ <;> rintro rfl <;> exact absurd h (by decide)

theorem literal_ne (h : isOrdinary c = true ∨ c = '$' ∧ startsExpansion rest = false) :
    c ≠ ' ' ∧ c ≠ '\n' ∧ c ≠ '\\' := by
  rcases h with h | ⟨rfl, -⟩
  · exact ordinary_ne h
  · decide

theorem BareText.newline_not_mem (h : BareText text items) : ∀ i ∈ items, '\n' ∉ i.chars := by
  induction h with
  | nil => exact fun i hi => absurd hi List.not_mem_nil
  | lit hc h ih =>
      refine List.forall_mem_cons.mpr ⟨fun hmem => ?_, ih⟩
      exact (literal_ne hc).2.1 (List.mem_singleton.mp hmem).symm
  | escaped hc h ih =>
      refine List.forall_mem_cons.mpr ⟨fun hmem => ?_, ih⟩
      exact hc (List.mem_singleton.mp hmem).symm
  | continuation h ih | blank h ih | newline h ih =>
      exact List.forall_mem_cons.mpr ⟨List.not_mem_nil, ih⟩

/-- Newlines are read as the ends of lines or with a backslash in front. -/
theorem BareText.count_newline (h : BareText text items) :
    text.count '\n' = items.count .continuation + items.count (.op .newline) := by
  induction h with
  | nil => rfl
  | lit hc h ih => simp [(literal_ne hc).2.1, ih]
  | escaped hc h ih => simp [hc, ih]
  | blank h ih => simp [ih]
  | continuation h ih | newline h ih =>
      simp [ih]
      omega

theorem BareText.count_backslash (h : BareText text items) :
    text.count '\\' = (items.flatMap Item.chars).count '\\' + items.countP Item.isEscaped +
      items.count .continuation := by
  induction h with
  | nil => rfl
  | lit hc h ih => simp [Item.chars, Item.isEscaped, (literal_ne hc).2.2, ih]
  | escaped hc h ih =>
      simp [List.count_cons, List.countP_cons, Item.chars, Item.isEscaped, ih]
      omega
  | continuation h ih =>
      simp [Item.chars, Item.isEscaped, ih]
      omega
  | blank h ih | newline h ih => simp [Item.chars, Item.isEscaped, ih]

/-- Without a backslash the characters of the text stand for themselves, apart from blanks and the
ends of lines. -/
theorem BareText.literal (h : BareText text items) (hescaped : items.countP Item.isEscaped = 0)
    {before after : List Char} (htext : text = before ++ c :: after) (hc : isSolid c = true) :
    isOrdinary c = true ∨ c = '$' ∧ startsExpansion after = false := by
  induction h generalizing before with
  | nil => exact absurd htext.symm (List.append_ne_nil_of_right_ne_nil _ (List.cons_ne_nil _ _))
  | @lit d rest items hd h ih =>
      cases before with
      | nil =>
          cases htext
          exact hd
      | cons b before =>
          rw [List.countP_cons_of_neg Bool.false_ne_true] at hescaped
          exact ih hescaped (List.cons.inj htext).2
  | escaped hd h ih =>
      rw [List.countP_cons_of_pos rfl] at hescaped
      cases hescaped
  | continuation h ih =>
      rw [List.countP_cons_of_neg Bool.false_ne_true] at hescaped
      cases before with
      | nil =>
          cases htext
          cases hc
      | cons b before =>
          cases before with
          | nil =>
              cases htext
              cases hc
          | cons b' before => exact ih hescaped (List.cons.inj (List.cons.inj htext).2).2
  | blank h ih | newline h ih =>
      rw [List.countP_cons_of_neg Bool.false_ne_true] at hescaped
      cases before with
      | nil =>
          cases htext
          cases hc
      | cons b before => exact ih hescaped (List.cons.inj htext).2

theorem BareText.chars_solid (h : BareText text items)
    (hescaped : items.countP Item.isEscaped = 0) :
    ∀ i ∈ items, ∀ c ∈ i.chars, isSolid c = true := by
  induction h with
  | nil => exact fun i hi => absurd hi List.not_mem_nil
  | lit hc h ih =>
      rw [List.countP_cons_of_neg Bool.false_ne_true] at hescaped
      refine List.forall_mem_cons.mpr ⟨fun c hmem => ?_, ih hescaped⟩
      rw [List.mem_singleton.mp hmem]
      simp [isSolid, literal_ne hc]
  | escaped hc h ih =>
      rw [List.countP_cons_of_pos rfl] at hescaped
      cases hescaped
  | continuation h ih | blank h ih | newline h ih =>
      rw [List.countP_cons_of_neg Bool.false_ne_true] at hescaped
      exact List.forall_mem_cons.mpr ⟨fun c hmem => absurd hmem List.not_mem_nil, ih hescaped⟩

/-- Each newline of the text has a backslash in front of it that is not escaped itself. At the
beginning of an item the backslash may be the first character. -/
def Joined (text : List Char) : Prop :=
  ∀ before after, text = before ++ '\n' :: after →
    before = ['\\'] ∨ ∃ b, before = b ++ [' ', '\\']

theorem Joined.tail (h : Joined (c :: rest)) (hc : c ≠ '\\') : Joined rest := by
  intro before after hrest
  rcases h (c :: before) after (by rw [hrest]; rfl) with heq | ⟨b, heq⟩
  · exact absurd (List.cons.inj heq).1 hc
  · cases b with
    | nil =>
        obtain ⟨-, rfl⟩ := List.cons.inj heq
        exact .inl rfl
    | cons d b => exact .inr ⟨b, (List.cons.inj heq).2⟩

theorem Joined.tail_tail (h : Joined ('\\' :: c :: rest)) : Joined rest := by
  intro before after hrest
  rcases h ('\\' :: c :: before) after (by rw [hrest]; rfl) with heq | ⟨b, heq⟩
  · cases (List.cons.inj heq).2
  · cases b with
    | nil => cases (List.cons.inj heq).1
    | cons d b =>
        have htail := (List.cons.inj heq).2
        cases b with
        | nil =>
            obtain ⟨-, rfl⟩ := List.cons.inj htail
            exact .inl rfl
        | cons d' b => exact .inr ⟨b, (List.cons.inj htail).2⟩

theorem BareText.not_newline (h : BareText text items) (hjoined : Joined text) :
    items.count (.op .newline) = 0 := by
  induction h with
  | nil => rfl
  | lit hc h ih =>
      rw [List.count_cons_of_ne (fun h => by cases h), ih (hjoined.tail (literal_ne hc).2.2)]
  | escaped hc h ih | continuation h ih =>
      rw [List.count_cons_of_ne (fun h => by cases h), ih hjoined.tail_tail]
  | blank h ih => rw [List.count_cons_of_ne (fun h => by cases h), ih (hjoined.tail (by decide))]
  | newline h ih =>
      rcases hjoined [] _ rfl with heq | ⟨b, heq⟩
      · cases heq
      · exact absurd heq.symm (List.append_ne_nil_of_right_ne_nil _ (List.cons_ne_nil _ _))

/-! ## The lines -/

/-- What joins two lines. -/
def joint : List Char := [' ', '\\', '\n', ' ', ' ']

/-- A command with each further argument on a line of its own. -/
def lines (first : List Char) (args : List (List Char)) : List Char :=
  first ++ args.flatMap (joint ++ ·)

theorem joined_lines {first : List Char} (hfirst : '\n' ∉ first) (hargs : ∀ a ∈ args, '\n' ∉ a) :
    Joined (lines first args) := by
  have hends : ∀ before after, lines first args = before ++ '\n' :: after →
      ∃ b, before = b ++ [' ', '\\'] := by
    unfold lines
    induction args generalizing first with
    | nil =>
        intro before after h
        rw [List.flatMap_nil, List.append_nil] at h
        exact absurd (h ▸ List.mem_append_right before List.mem_cons_self) hfirst
    | cons a args ih =>
        intro before after h
        have hsplit : first ++ (a :: args).flatMap (joint ++ ·) =
            (first ++ [' ', '\\']) ++ '\n' :: ((' ' :: ' ' :: a) ++ args.flatMap (joint ++ ·)) := by
          rw [List.flatMap_cons, List.append_assoc, List.append_assoc]
          rfl
        have hhead : '\n' ∉ first ++ [' ', '\\'] := by
          rw [List.mem_append, not_or]
          exact ⟨hfirst, by decide⟩
        have ha : '\n' ∉ ' ' :: ' ' :: a := by
          have := hargs a List.mem_cons_self
          simpa using this
        rw [hsplit] at h
        -- the newline is that of the first joint, or a later one
        rcases List.append_eq_append_iff.mp h with ⟨l, hbefore, hl⟩ | ⟨l, hbefore, hl⟩
        · cases l with
          | nil =>
              rw [List.append_nil] at hbefore
              exact ⟨first, hbefore⟩
          | cons d l =>
              obtain ⟨rfl, htail⟩ := List.cons.inj hl
              obtain ⟨b, hb⟩ := ih ha (fun x hx => hargs x (List.mem_cons_of_mem a hx)) l after htail
              exact ⟨first ++ [' ', '\\'] ++ '\n' :: b, by rw [hbefore, hb]; simp⟩
        · cases l with
          | nil =>
              rw [List.append_nil] at hbefore
              exact ⟨first, hbefore.symm⟩
          | cons d l =>
              obtain ⟨rfl, -⟩ := List.cons.inj hl
              rw [hbefore] at hhead
              exact absurd (List.mem_append_right _ List.mem_cons_self) hhead
  intro before after h
  exact .inr (hends before after h)

theorem countP_lines (p : Char → Bool) (first : List Char) (args : List (List Char)) :
    (lines first args).countP p =
      first.countP p + args.flatten.countP p + args.length * joint.countP p := by
  unfold lines
  rw [List.countP_append]
  induction args with
  | nil =>
      rw [List.length_nil, Nat.zero_mul]
      rfl
  | cons a args ih =>
      rw [List.flatMap_cons, List.countP_append, List.countP_append, List.flatten_cons,
        List.countP_append, List.length_cons, Nat.succ_mul]
      omega

theorem lines_split {first a : List Char} (ha : a ∈ args) :
    ∃ before after, lines first args = before ++ (a ++ after) := by
  obtain ⟨l, l', rfl⟩ := List.append_of_mem ha
  refine ⟨first ++ l.flatMap (joint ++ ·) ++ joint, l'.flatMap (joint ++ ·), ?_⟩
  unfold lines
  rw [List.flatMap_append, List.flatMap_cons]
  simp only [List.append_assoc]

theorem isPlain_of_forall (h : ∀ before c after, text = before ++ c :: after →
      isOrdinary c = true ∨ c = '$' ∧ startsExpansion after = false) : isPlain text = true := by
  induction text with
  | nil => rfl
  | cons c text ih =>
      have hc := h [] c text rfl
      have htext := ih fun before d after heq => h (c :: before) d after (by rw [heq]; rfl)
      rw [isPlain, htext, Bool.and_true, Bool.or_eq_true]
      rcases hc with hc | ⟨hc, hafter⟩
      · exact .inl hc
      · exact .inr (by rw [hc, hafter]; rfl)

theorem startsExpansion_of_append (h : startsExpansion (text ++ rest) = false) :
    startsExpansion text = false := by
  cases text with
  | nil => rfl
  | cons c text => exact h

/-- All backslashes outside the arguments join two lines, so no item is escaped. -/
theorem BareText.escaped_eq_zero {command : List Char} (hbare : BareText (lines command args) items)
    (hnewline : '\n' ∉ command) (hbackslash : '\\' ∉ command) (hno : ∀ a ∈ args, '\n' ∉ a)
    (hkept : args.flatten.countP (· == '\\') ≤ (items.flatMap Item.chars).countP (· == '\\')) :
    items.countP Item.isEscaped = 0 := by
  have hjoined := hbare.not_newline (joined_lines hnewline hno)
  have hcountN := countP_lines (· == '\n') command args
  have hcountB := countP_lines (· == '\\') command args
  have hN := hbare.count_newline
  have hB := hbare.count_backslash
  have hcmdN : command.countP (· == '\n') = 0 := List.count_eq_zero.mpr hnewline
  have hcmdB : command.countP (· == '\\') = 0 := List.count_eq_zero.mpr hbackslash
  have hargsN : args.flatten.countP (· == '\n') = 0 := by
    apply List.count_eq_zero.mpr
    intro hmem
    obtain ⟨a, ha, hn⟩ := List.mem_flatten.mp hmem
    exact hno a ha hn
  have hjointN : joint.countP (· == '\n') = 1 := by decide
  have hjointB : joint.countP (· == '\\') = 1 := by decide
  rw [hcmdN, hargsN, hjointN] at hcountN
  rw [hcmdB, hjointB] at hcountB
  unfold List.count at hN hB hjoined
  omega

/-- If the shell executes the one command of the lines, with the lines as its arguments, then the
arguments are plain. -/
theorem isPlain_of_run {succeeds : Nat → Bool} {command : List Char} {words : List (List Char)}
    (hwords : ∀ p : Char → Bool, p ' ' = false → command.countP p = words.flatten.countP p)
    (hnewline : '\n' ∉ command) (hbackslash : '\\' ∉ command)
    (h : run sh emptyEnv succeeds (lines command args) = some [[{ argv := words ++ args }]]) :
    ∀ a ∈ args, isPlain a = true := by
  obtain ⟨items, kept, hscan, hkept, hargv⟩ := run_single h
  have htext : items.flatMap Item.text = lines command args := scan_text hscan
  have hflatten : words.flatten ++ args.flatten = kept.flatMap Item.chars := by
    rw [← hargv, List.flatten_append]
  -- the characters that are kept are characters of the items
  have hle : ∀ p : Char → Bool, (words.flatten ++ args.flatten).countP p ≤
      (items.flatMap Item.chars).countP p := by
    intro p
    rw [hflatten]
    exact (hkept.flatMap Item.chars).countP_le
  have hmem : ∀ c ∈ args.flatten, c ∈ items.flatMap Item.chars := by
    intro c hc
    have hc' : c ∈ kept.flatMap Item.chars := hflatten ▸ List.mem_append_right _ hc
    exact (hkept.flatMap Item.chars).subset hc'
  -- no solid character is lost
  have hsolid : (items.flatMap Item.chars).countP isSolid = (items.flatMap Item.text).countP isSolid := by
    apply Nat.le_antisymm (Counting.countP_flatMap_le (countP_chars_le isSolid) items)
    have hlines := countP_lines isSolid command args
    have hjoint : joint.countP isSolid = 0 := by decide
    have hsum := hle isSolid
    rw [hwords isSolid rfl, hjoint, Nat.mul_zero, Nat.add_zero, ← List.countP_append] at hlines
    rw [htext, hlines]
    exact hsum
  have hbare : BareText (lines command args) items :=
    bareText_of_scan hscan (Counting.countP_eq_of_flatMap (countP_chars_le isSolid) hsolid)
  -- no newline is kept, so the arguments have none
  have hno : ∀ a ∈ args, '\n' ∉ a := by
    intro a ha hn
    obtain ⟨i, hi, hchars⟩ := List.mem_flatMap.mp (hmem _ (List.mem_flatten.mpr ⟨a, ha, hn⟩))
    exact hbare.newline_not_mem i hi hchars
  have hescaped : items.countP Item.isEscaped = 0 := by
    refine hbare.escaped_eq_zero hnewline hbackslash hno ?_
    have hargs := hle (· == '\\')
    rw [List.countP_append] at hargs
    exact (Nat.le_add_left _ _).trans hargs
  intro a ha
  obtain ⟨before, after, hsplit⟩ : ∃ before after, lines command args = before ++ (a ++ after) :=
    lines_split ha
  apply isPlain_of_forall
  intro x c y hxy
  have hc : isSolid c = true := by
    have hca : c ∈ a := hxy ▸ List.mem_append_right x List.mem_cons_self
    obtain ⟨i, hi, hchars⟩ := List.mem_flatMap.mp (hmem c (List.mem_flatten.mpr ⟨a, ha, hca⟩))
    exact hbare.chars_solid hescaped i hi c hchars
  have hplace : lines command args = (before ++ x) ++ c :: (y ++ after) := by
    rw [hsplit, hxy]
    simp only [List.append_assoc, List.cons_append]
  rcases hbare.literal hescaped hplace hc with hord | ⟨hdollar, hafter⟩
  · exact .inl hord
  · exact .inr ⟨hdollar, startsExpansion_of_append hafter⟩

/-! ## Plain lines -/

theorem lex_plainWord {word : List Char} (h : isPlainWord word = true) :
    lex sh word = some [.word (litWord word)] := by
  have hscan : scan sh 0 .plain false (word ++ []) = _ := scan_plainWord h rfl
  rw [List.append_nil] at hscan
  rw [lex, hscan]
  show some (group [] (litWord word ++ [])) = _
  rw [group_word (ofWord_litWord word)]
  show some (flush (litWord word)) = _
  rw [flush, if_neg (litWord_ne_nil h)]

theorem lex_continuation (rest : List Char) : lex sh ('\\' :: '\n' :: rest) = lex sh rest := by
  show ((scan sh 0 .plain false rest).map _).map _ = _
  rw [Option.map_map]
  rfl

theorem lex_joint (rest : List Char) : lex sh (joint.tail ++ rest) = lex sh rest := by
  show lex sh ('\\' :: '\n' :: ' ' :: ' ' :: rest) = _
  rw [lex_continuation, lex_blank, lex_blank]

theorem lex_lines {word : List Char} (hword : isPlainWord word = true)
    (hargs : ∀ a ∈ args, isPlainWord a = true) :
    lex sh (lines word args) = some ((word :: args).map fun a => .word (litWord a)) := by
  unfold lines
  induction args generalizing word with
  | nil =>
      rw [List.flatMap_nil, List.append_nil, lex_plainWord hword]
      rfl
  | cons a args ih =>
      have hsplit : word ++ (a :: args).flatMap (joint ++ ·) =
          word ++ ' ' :: (joint.tail ++ (a ++ args.flatMap (joint ++ ·))) := by
        rw [List.flatMap_cons, List.append_assoc]
        rfl
      rw [hsplit, lex_plainWord_blank hword, lex_joint,
        ih (hargs a List.mem_cons_self) fun x hx => hargs x (List.mem_cons_of_mem a hx)]
      rfl

theorem nested_litWord (text : List Char) : (litWord text).flatMap Item.nested = [] := by
  rw [List.flatMap_eq_nil_iff]
  intro i hi
  obtain ⟨c, -, rfl⟩ := List.mem_map.mp hi
  rfl

theorem expandSimple_litWords (env : Env) {words : List (List Char)} (h : ∀ w ∈ words, w ≠ []) :
    expandSimple env { words := words.map litWord } =
      { argv := words.flatMap fun w => pathnames env (w.map (·, false)) } := by
  have hargv : (words.map litWord).flatMap (expandWord env) =
      words.flatMap fun w => pathnames env (w.map (·, false)) := by
    rw [List.flatMap_map]
    exact List.flatMap_congr fun w hw => expandWord_litWord env (h w hw)
  have hnested : (words.map litWord ++ []).flatMap (fun w : Word => w.flatMap Item.nested) = [] := by
    rw [List.append_nil, List.flatMap_map]
    exact List.flatMap_eq_nil_iff.mpr fun w _ => nested_litWord w
  show Command.mk ((words.map litWord).flatMap (expandWord env)) []
    ((words.map litWord ++ []).flatMap fun w : Word => w.flatMap Item.nested) = _
  rw [hargv, hnested]

/-- The lines of a script that begins with `exec`. -/
def execLines (binary : List Char) (args : List (List Char)) : List Char :=
  lines ("exec".toList ++ ' ' :: binary) args

theorem run_execLines (env : Env) (succeeds : Nat → Bool) {binary : List Char}
    (hbinary : isPlainWord binary = true) (hargs : ∀ a ∈ args, isPlainWord a = true) :
    run sh env succeeds (execLines binary args) =
      some [[{ argv := ("exec".toList :: binary :: args).flatMap fun w =>
        pathnames env (w.map (·, false)) }]] := by
  have hlex : lex sh (execLines binary args) =
      some (("exec".toList :: binary :: args).map fun a => .word (litWord a)) := by
    have hsplit : execLines binary args = "exec".toList ++ ' ' :: lines binary args := by
      unfold execLines lines
      rw [List.append_assoc, List.cons_append]
    rw [hsplit, lex_plainWord_blank (by decide), lex_lines hbinary hargs]
    rfl
  have hparse : parse false [] {} (("exec".toList :: binary :: args).map fun a =>
      .word (litWord a)) = some [([{ words := ("exec".toList :: binary :: args).map litWord }], .seq)] := by
    have hwords := parse_words false [] (("exec".toList :: binary :: args).map litWord) {} []
    rw [List.append_nil, List.map_map] at hwords
    exact hwords.trans rfl
  have hne : ∀ w ∈ "exec".toList :: binary :: args, w ≠ [] := by
    refine List.forall_mem_cons.mpr ⟨by decide, List.forall_mem_cons.mpr ⟨?_, fun a ha => ?_⟩⟩
    · rintro rfl
      cases hbinary
    · rintro rfl
      cases hargs _ ha
  rw [run, hlex, Option.bind_some, hparse, Option.map_some, execute, List.map_singleton,
    expandSimple_litWords env hne, execute, ite_self]
  rfl

/-! ## The script -/

theorem scan_comment {comment : List Char} (h : '\n' ∉ comment) (text : List Char) :
    scan sh 0 .comment false (comment ++ '\n' :: text) =
      (scan sh 0 .plain false text).map (comment.map .comment ++ .op .newline :: ·) := by
  induction comment with
  | nil => rfl
  | cons c comment ih =>
      rw [List.mem_cons, not_or] at h
      have hstep : ∀ r, step sh .comment false c r = some ⟨.comment c, 0, .comment, false⟩ :=
        fun r => if_neg (Ne.symm h.1)
      rw [List.cons_append, scan_cons (hstep _), ih h.2, Option.map_map]
      rfl

theorem group_comment (comment : List Char) (items : List Item) :
    group [] (comment.map .comment ++ items) = group [] items := by
  induction comment with
  | nil => rfl
  | cons c comment ih => exact ih

theorem run_comment (env : Env) (succeeds : Nat → Bool) {comment : List Char} (h : '\n' ∉ comment)
    (text : List Char) :
    run sh env succeeds ('#' :: (comment ++ '\n' :: text)) = run sh env succeeds text := by
  have hfirst : ∀ r, step sh .plain false '#' r = some ⟨.comment '#', 0, .comment, false⟩ :=
    fun r => rfl
  have hlex : lex sh ('#' :: (comment ++ '\n' :: text)) = (lex sh text).map (.op .newline :: ·) := by
    rw [lex, scan_cons (hfirst _), scan_comment h, Option.map_map, Option.map_map, lex,
      Option.map_map]
    congr 1
    funext items
    exact group_comment comment (.op .newline :: items)
  rw [run, run, hlex]
  cases lex sh text with
  | none => rfl
  | some ts => rfl

/-- For every pattern there is a file, whose name has no characters. -/
def namelessEnv : Env := ⟨fun _ => [], fun _ => [[]]⟩

theorem not_isPattern_of_names (hargs : ∀ a ∈ args, a ≠ [])
    (h : args.flatMap (fun a => pathnames namelessEnv (a.map (·, false))) = args) :
    ∀ a ∈ args, isPattern (a.map (·, false)) = false := by
  have hle : ∀ a : List Char, (pathnames namelessEnv (a.map (·, false))).flatten.countP (fun _ => true) ≤
      a.countP fun _ => true := by
    intro a
    unfold pathnames
    split
    · exact Nat.zero_le _
    · rw [List.flatten_singleton, List.map_map]
      exact Nat.le_of_eq (congrArg (List.countP _) (List.map_id' a))
  have hsame : (args.flatMap fun a => (pathnames namelessEnv (a.map (·, false))).flatten) =
      args.flatMap id := by
    calc args.flatMap (fun a => (pathnames namelessEnv (a.map (·, false))).flatten)
        = (args.flatMap fun a => pathnames namelessEnv (a.map (·, false))).flatMap id := by
          rw [List.flatMap_assoc]
          simp only [List.flatMap_id]
      _ = args.flatMap id := by rw [h]
  intro a ha
  by_contra hpattern
  have heq := Counting.countP_eq_of_flatMap hle (congrArg (List.countP _) hsame) a ha
  rw [pathnames, if_pos (Bool.eq_true_of_not_eq_false hpattern)] at heq
  have hlength : a.length = 0 := (congrFun List.countP_true a).symm.trans heq.symm
  exact hargs a ha (List.length_eq_zero_iff.mp hlength)

/-- In every environment the shell executes exactly the command, each line being one argument, if
and only if the arguments are plain and none is a pattern for names of files. -/
theorem run_execLines_iff {binary : List Char} (hbinary : isPlainWord binary = true)
    (hpattern : isPattern (binary.map (·, false)) = false) (hsolid : ∀ c ∈ binary, isSolid c = true)
    (hargs : ∀ a ∈ args, a.head? = some '-') :
    (∀ env succeeds, run sh env succeeds (execLines binary args) =
      some [[{ argv := "exec".toList :: binary :: args }]]) ↔
      ∀ a ∈ args, isPlain a = true ∧ isPattern (a.map (·, false)) = false := by
  have hword : ∀ a ∈ args, isPlain a = true → isPlainWord a = true := by
    intro a ha hplain
    obtain ⟨rest, rfl⟩ := List.head?_eq_some_iff.mp (hargs a ha)
    exact hplain
  have hnames : ∀ (env : Env) {w : List Char}, isPattern (w.map (·, false)) = false →
      pathnames env (w.map (·, false)) = [w] := by
    intro env w hw
    rw [pathnames, hw, if_neg Bool.false_ne_true, List.map_map]
    exact congrArg (fun l => [l]) (List.map_id' w)
  constructor
  · intro h a ha
    have hcommand : ∀ {c : Char}, isSolid c = false → c ∉ "exec".toList ++ [' '] →
        c ∉ "exec".toList ++ ' ' :: binary := by
      intro c hc hexec hmem
      rw [← List.singleton_append, ← List.append_assoc] at hmem
      rcases List.mem_append.mp hmem with hmem | hmem
      · exact hexec hmem
      · rw [hsolid c hmem] at hc
        cases hc
    have hrun : run sh emptyEnv (fun _ => true) (lines ("exec".toList ++ ' ' :: binary) args) =
        some [[{ argv := ["exec".toList, binary] ++ args }]] := h emptyEnv fun _ => true
    have hplain : ∀ a ∈ args, isPlain a = true := by
      refine isPlain_of_run ?_ ?_ ?_ hrun
      · intro p hp
        rw [List.countP_append, List.countP_cons_of_neg (by rw [hp]; exact Bool.false_ne_true),
          List.flatten_cons, List.flatten_cons, List.flatten_nil, List.append_nil,
          List.countP_append]
      · exact hcommand (by decide) (by decide)
      · exact hcommand (by decide) (by decide)
    refine ⟨hplain a ha, not_isPattern_of_names (fun a ha => ?_) ?_ a ha⟩
    · obtain ⟨rest, rfl⟩ := List.head?_eq_some_iff.mp (hargs a ha)
      exact List.cons_ne_nil _ _
    · have hexec := h namelessEnv fun _ => true
      rw [run_execLines namelessEnv _ hbinary fun a ha => hword a ha (hplain a ha),
        List.flatMap_cons, List.flatMap_cons, hnames namelessEnv hpattern] at hexec
      exact (List.cons.inj (List.cons.inj (Command.mk.inj (List.cons.inj (List.cons.inj
        (Option.some.inj hexec)).1).1).1).2).2
  · intro h env succeeds
    have hplain : ∀ a ∈ args, isPlainWord a = true := fun a ha => hword a ha (h a ha).1
    have hargv : args.flatMap (fun w => pathnames env (w.map (·, false))) = args := by
      rw [List.flatMap_congr fun a ha => hnames env (h a ha).2]
      exact List.flatMap_singleton' args
    rw [run_execLines env succeeds hbinary hplain, List.flatMap_cons, List.flatMap_cons, hargv,
      hnames env hpattern]
    rfl

end Shell
