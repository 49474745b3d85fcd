import Heir.Lib.GoString
import Heir.Lib.Json

set_option autoImplicit false

/-! # The grammar of `--set`

The strvals package parses lines of the form `name1=value1,name2=value2` into a map of values. A
name may lead into nested maps (`a.b=1`) and lists (`a[0]=1`), a value in braces is a list, and a
backslash takes the next character out of the grammar. Values are typed by what they look like.

The text that has not been read yet is a list of characters. The end of the text is an outcome of
its own: the parser stops there without an error, also in the middle of a name. After an error the
map is not kept. A failed type assertion panics in the source and is turned into an error there.
-/

namespace Heir.Strvals

/-! ## Outcomes -/

def maxIndex : Int := 65536

def maxNestedNameLevel : Nat := 30

/-- The errors of the parser. -/
inductive ParseError where
  | keyHasNoValue (k : String)
  | keyEndsWithComma (k : String)
  | keyMapHasNoValue (k : String)
  | nestedTooDeep
  | indexNotTerminated
  | indexNotANumber (text : String)
  | negativeIndex (i : Int)
  | indexTooLarge (i : Int)
  | dataAfterIndex (k : String)
  | listNotTerminated
  | notAList
  | notAMap
  deriving DecidableEq, Repr

/-- How a parsing function ends: with a result and the rest of the text, at the end of the text
(`io.EOF`), or with an error. -/
inductive Outcome (α : Type) where
  | next (a : α) (rest : List Char)
  | eof (a : α)
  | failed (e : ParseError)

def Outcome.map {α β : Type} (f : α → β) : Outcome α → Outcome β
  | .next a rest => .next (f a) rest
  | .eof a => .eof (f a)
  | .failed e => .failed e

variable {c : Char} {rest sc stop v : List Char}

theorem Outcome.map_eq_next {α β : Type} {f : α → β} {o : Outcome α} {b : β}
    (h : o.map f = .next b rest) : ∃ a, o = .next a rest ∧ f a = b := by
  cases o with
  | next a r =>
      cases h
      exact ⟨a, rfl, rfl⟩
  | eof a => cases h
  | failed e => cases h

/-- What was read, when there was no error. -/
def Outcome.value {α : Type} : Outcome α → Option α
  | .next a _ => some a
  | .eof a => some a
  | .failed _ => none

theorem Outcome.value_map {α β : Type} {f : α → β} {o : Outcome α} {b : β}
    (h : (o.map f).value = some b) : ∃ a, o.value = some a ∧ f a = b := by
  cases o with
  | next a r | eof a =>
      cases h
      exact ⟨a, rfl, rfl⟩
  | failed e => cases h

/-! ## Scanning -/

/-- The characters before a stop character, the stop character (none at the end of the text), and
the rest. -/
structure Scanned where
  runes : List Char
  last : Option Char
  rest : List Char

def Scanned.push (r : Char) (s : Scanned) : Scanned := { s with runes := r :: s.runes }

/-- `runesUntil`. A backslash at the end of the text is dropped. -/
def runesUntil (stop : List Char) : List Char → Scanned
  | [] => ⟨[], none, []⟩
  | r :: rest =>
      if r ∈ stop then ⟨[], some r, rest⟩
      else if r = '\\' then
        match rest with
        | [] => ⟨[], none, []⟩
        | next :: rest => (runesUntil stop rest).push next
      else (runesUntil stop rest).push r

theorem runesUntil_rest_le (stop sc : List Char) : (runesUntil stop sc).rest.length ≤ sc.length := by
  fun_induction runesUntil stop sc with
  | case1 => exact Nat.le_refl _
  | case2 r rest h => exact Nat.le_succ _
  | case3 => exact Nat.zero_le _
  | case4 next rest h ih => exact Nat.le_trans ih (Nat.le_trans (Nat.le_succ _) (Nat.le_succ _))
  | case5 r rest h₁ h₂ ih => exact Nat.le_trans ih (Nat.le_succ _)

theorem runesUntil_rest_lt (h : (runesUntil stop sc).last = some c) :
    (runesUntil stop sc).rest.length < sc.length := by
  fun_induction runesUntil stop sc with
  | case1 => cases h
  | case2 r rest hr => exact Nat.lt_succ_self _
  | case3 => cases h
  | case4 next rest hr ih => exact Nat.lt_trans (ih h) (Nat.lt_succ_of_lt (Nat.lt_succ_self _))
  | case5 r rest h₁ h₂ ih => exact Nat.lt_succ_of_lt (ih h)

theorem runesUntil_rest_nil (h : (runesUntil stop sc).last = none) :
    (runesUntil stop sc).rest = [] := by
  fun_induction runesUntil stop sc with
  | case1 => rfl
  | case2 => cases h
  | case3 => rfl
  | case4 next rest hr ih | case5 r rest h₁ h₂ ih => exact ih h

theorem runesUntil_rest_lt_of_ne_nil (stop : List Char) (h : sc ≠ []) :
    (runesUntil stop sc).rest.length < sc.length := by
  cases hlast : (runesUntil stop sc).last with
  | some c => exact runesUntil_rest_lt hlast
  | none =>
      rw [runesUntil_rest_nil hlast]
      exact List.length_pos_iff.mpr h

/-- The characters without a meaning for `runesUntil`. -/
def Literal (stop sc : List Char) : Prop := ∀ c ∈ sc, c ∉ stop ∧ c ≠ '\\'

theorem Literal.tail (h : Literal stop (c :: sc)) :
    Literal stop sc := fun d hd => h d (List.mem_cons_of_mem c hd)

theorem runesUntil_literal_stop {name : List Char} (hname : Literal stop name) (hc : c ∈ stop)
    (rest : List Char) : runesUntil stop (name ++ c :: rest) = ⟨name, some c, rest⟩ := by
  induction name with
  | nil =>
      rw [List.nil_append, runesUntil.eq_def]
      dsimp only
      rw [if_pos hc]
  | cons r name ih =>
      have hr := hname r List.mem_cons_self
      rw [List.cons_append, runesUntil.eq_def]
      dsimp only
      rw [if_neg hr.1, if_neg hr.2, ih hname.tail]
      rfl

theorem runesUntil_literal (h : Literal stop sc) : runesUntil stop sc = ⟨sc, none, []⟩ := by
  induction sc with
  | nil => rfl
  | cons r sc ih =>
      have hr := h r List.mem_cons_self
      rw [runesUntil.eq_def]
      dsimp only
      rw [if_neg hr.1, if_neg hr.2, ih h.tail]
      rfl

theorem runesUntil_runes_le (stop sc : List Char) :
    (runesUntil stop sc).runes.length ≤ sc.length := by
  fun_induction runesUntil stop sc with
  | case1 => exact Nat.le_refl _
  | case2 | case3 => exact Nat.zero_le _
  | case4 next rest h ih => exact Nat.succ_le_succ (Nat.le_succ_of_le ih)
  | case5 r rest h₁ h₂ ih => exact Nat.succ_le_succ ih

/-- A stop character or a backslash is not among the characters read. -/
theorem runesUntil_runes_lt (h : ¬ Literal stop sc) :
    (runesUntil stop sc).runes.length < sc.length := by
  fun_induction runesUntil stop sc with
  | case1 =>
      have hnil : Literal stop [] := fun c hc => by cases hc
      exact absurd hnil h
  | case2 | case3 => exact Nat.succ_pos _
  | case4 next rest hr ih =>
      have hle := runesUntil_runes_le stop rest
      exact Nat.succ_lt_succ (Nat.lt_succ_of_le hle)
  | case5 r rest h₁ h₂ ih =>
      refine Nat.succ_lt_succ (ih fun hrest => h fun c hc => ?_)
      rcases List.mem_cons.mp hc with rfl | hc
      · exact ⟨h₁, h₂⟩
      · exact hrest c hc

/-! ## Values -/

/-- The characters that `strings.EqualFold` does not tell from a lower-case letter of the words
below. -/
def foldOrbit (c : Char) : List Char := if c = 's' then ['s', 'S', 'ſ'] else [c, c.toUpper]

/-- `strings.EqualFold` with a word in lower case. -/
def equalFold (val word : List Char) : Bool :=
  val.length == word.length && (val.zip word).all fun e => e.1 ∈ foldOrbit e.2

def typedVal (v : List Char) (st : Bool) : Json :=
  if st then .str (String.ofList v)
  else if equalFold v "true".toList then .bool true
  else if equalFold v "false".toList then .bool false
  else if equalFold v "null".toList then .null
  else if equalFold v "0".toList then .int 0
  -- a leading zero keeps a number from being one
  else if v ≠ [] ∧ v.head? ≠ some '0' then
    match GoString.atoi (String.ofList v) with
    | some n => .int n
    | none => .str (String.ofList v)
  else .str (String.ofList v)

theorem mem_of_equalFold {word : List Char} (h : equalFold v word = true) (hc : c ∈ v) :
    ∃ d ∈ word, c ∈ foldOrbit d := by
  unfold equalFold at h
  rw [Bool.and_eq_true, beq_iff_eq, List.all_eq_true] at h
  obtain ⟨hlen, hall⟩ := h
  obtain ⟨i, hi, rfl⟩ := List.getElem_of_mem hc
  have hzip : i < (v.zip word).length := by
    rw [List.length_zip]
    omega
  have hget : (v.zip word)[i] = (v[i], word[i]) := List.getElem_zip
  have hmem : (v[i], word[i]) ∈ v.zip word := hget ▸ List.getElem_mem hzip
  exact ⟨word[i], List.getElem_mem _, of_decide_eq_true (hall _ hmem)⟩

theorem typedVal_str {st : Bool} {w : String} (h : typedVal v st = .str w) :
    w = String.ofList v := by
  unfold typedVal at h
  split at h
  · exact (Json.str.inj h).symm
  · split at h
    · cases h
    · split at h
      · cases h
      · split at h
        · cases h
        · split at h
          · cases h
          · split at h
            · split at h
              · cases h
              · exact (Json.str.inj h).symm
            · exact (Json.str.inj h).symm

/-- The characters of booleans, of null and of numbers. -/
def scalarChar (c : Char) : Bool :=
  c.isDigit || c == '-' || c == '+' || "truefalsn".toList.any fun d => foldOrbit d |>.contains c

theorem typedVal_eq_str (hc : c ∈ v) (hscalar : scalarChar c = false) :
    typedVal v false = .str (String.ofList v) := by
  simp only [scalarChar, Bool.or_eq_false_iff, beq_eq_false_iff_ne, List.any_eq_false,
    List.contains_iff_mem] at hscalar
  obtain ⟨⟨⟨hdigit, hminus⟩, hplus⟩, hletter⟩ := hscalar
  have hfold : ∀ word : List Char, (word.all fun d => d ∈ "truefalsn".toList) = true →
      equalFold v word ≠ true := by
    intro word hword h
    obtain ⟨d, hd, hcd⟩ := mem_of_equalFold h hc
    exact hletter d (of_decide_eq_true (List.all_eq_true.mp hword d hd)) hcd
  have hzero : equalFold v "0".toList ≠ true := by
    intro h
    obtain ⟨d, hd, hcd⟩ := mem_of_equalFold h hc
    have hc0 : c ∈ ['0', '0'] := by
      rw [List.mem_singleton.mp (show d ∈ ['0'] from hd)] at hcd
      exact hcd
    rw [show c = '0' by simpa using hc0] at hdigit
    cases hdigit
  unfold typedVal
  rw [if_neg Bool.false_ne_true, if_neg (hfold _ (by decide)), if_neg (hfold _ (by decide)),
    if_neg (hfold _ (by decide)), if_neg hzero]
  have hatoi : GoString.atoi (String.ofList v) = none := by
    cases h : GoString.atoi (String.ofList v) with
    | none => rfl
    | some n =>
        rcases GoString.mem_of_atoi h (by rwa [String.toList_ofList]) with hd | hm | hp
        · exact absurd hd (by rw [hdigit]; exact Bool.false_ne_true)
        · exact absurd hm hminus
        · exact absurd hp hplus
  rw [hatoi]
  split <;> rfl

/-- The elements of a list in braces, after the opening one. A comma after the closing brace is
read, too. -/
def listElements (reader : List Char → Json) (acc : List Json) (sc : List Char) :
    Except ParseError (List Json × List Char) :=
  let s := runesUntil [',', '}'] sc
  match _h : s.last with
  | none => .error .listNotTerminated
  | some last =>
      if last = '}' then
        .ok (acc ++ [reader s.runes], match s.rest with
          | ',' :: rest => rest
          | rest => rest)
      else listElements reader (acc ++ [reader s.runes]) s.rest
termination_by sc.length
decreasing_by exact runesUntil_rest_lt _h

/-- A value after `=`: `valList`, and `val` when it is not a list. -/
def readValue (reader : List Char → Json) : List Char → Outcome Json
  | [] => .eof (.str "")
  | '{' :: rest =>
      match listElements reader [] rest with
      | .ok (list, rest) => .next (.arr list) rest
      | .error e => .failed e
  | sc =>
      let s := runesUntil [','] sc
      .next (reader s.runes) s.rest

theorem listElements_rest_le (reader : List Char → Json) {acc list : List Json}
    (h : listElements reader acc sc = .ok (list, rest)) : rest.length ≤ sc.length := by
  fun_induction listElements reader acc sc with
  | case1 => cases h
  | case2 acc sc s hlast =>
      have hrest : s.rest.length ≤ sc.length := runesUntil_rest_le _ _
      obtain ⟨-, rfl⟩ := Prod.mk.inj (Except.ok.inj h)
      split
      · next rest heq =>
          have hcons := congrArg List.length heq
          simp only [List.length_cons] at hcons
          omega
      · exact hrest
  | case3 acc sc s last hlast hne ih =>
      have hrest : s.rest.length ≤ sc.length := runesUntil_rest_le _ _
      exact Nat.le_trans (ih h) hrest

theorem readValue_rest_le (reader : List Char → Json) {v : Json}
    (h : readValue reader sc = .next v rest) : rest.length ≤ sc.length := by
  unfold readValue at h
  split at h
  · cases h
  · next inner =>
      split at h
      · next list r heq =>
          cases h
          exact Nat.le_succ_of_le (listElements_rest_le reader heq)
      · cases h
  · cases h
    exact runesUntil_rest_le _ _

theorem readValue_eof {reader : List Char → Json} {v : Json} (h : readValue reader sc = .eof v) :
    sc = [] := by
  unfold readValue at h
  split at h
  · rfl
  · split at h <;> cases h
  · cases h

/-- `set`: a value without a name is dropped. -/
def set (data : List (String × Json)) (key : String) (val : Json) : List (String × Json) :=
  if key = "" then data else Json.setMember key val data

theorem member_set (data : List (String × Json)) {name : String} (hname : name ≠ "") (val : Json)
    (k : String) :
    Json.member k (set data name val) = if k = name then some val else Json.member k data := by
  rw [set, if_neg hname, Json.member_setMember]

theorem member_set_cases {data : List (String × Json)} {name k : String} {val v : Json}
    (h : Json.member k (set data name val) = some v) : Json.member k data = some v ∨ v = val := by
  unfold set at h
  split at h
  · exact .inl h
  · rw [Json.member_setMember] at h
    split at h
    · exact .inr (Option.some.inj h).symm
    · exact .inl h

/-- `setIndex`: the list grows as needed. -/
def setIndex (list : List Json) (index : Int) (val : Json) : Except ParseError (List Json) :=
  if index < 0 then .error (.negativeIndex index)
  else if index > maxIndex then .error (.indexTooLarge index)
  else
    let i := index.toNat
    .ok ((list ++ List.replicate (i + 1 - list.length) Json.null).set i val)

/-- `setIndex` at the end of a parsing function. -/
def finishIndex (list : List Json) (index : Int) (val : Json) (rest : List Char) :
    Outcome (List Json) :=
  match setIndex list index val with
  | .ok list => .next list rest
  | .error e => .failed e

def keyIndex (sc : List Char) : Except ParseError (Int × List Char) :=
  let s := runesUntil [']'] sc
  match s.last with
  | none => .error .indexNotTerminated
  | some _ =>
      match GoString.atoi (String.ofList s.runes) with
      | none => .error (.indexNotANumber (String.ofList s.runes))
      | some i => .ok (i, s.rest)

theorem keyIndex_rest_le {i : Int} (h : keyIndex sc = .ok (i, rest)) : rest.length ≤ sc.length := by
  unfold keyIndex at h
  dsimp only at h
  split at h
  · cases h
  · split at h
    · cases h
    · cases h
      exact runesUntil_rest_le _ _

/-- `data[name].([]interface)`: a missing entry is a new list. -/
def asList : Option Json → Except ParseError (List Json)
  | none => .ok []
  | some (.arr list) => .ok list
  | some _ => .error .notAList

/-- `data[name].(map[string]interface)`: a missing entry is a new map. -/
def asMap : Option Json → Except ParseError (List (String × Json))
  | none => .ok []
  | some (.obj inner) => .ok inner
  | some _ => .error .notAMap

/-- `existed != nil`. -/
def nonNil : Option Json → Option Json
  | some .null => none
  | v => v

/-! ## The parser -/

section Parser

variable (reader : List Char → Json)

mutual

/-- `key`: one assignment, or one level of a nested one. -/
def key (data : List (String × Json)) (nestedNameLevel : Nat) (sc : List Char) :
    Outcome (List (String × Json)) :=
  let s := runesUntil ['=', '[', ',', '.'] sc
  let k := String.ofList s.runes
  match _h : s.last with
  | none => if s.runes = [] then .eof data else .failed (.keyHasNoValue k)
  | some last =>
      if last = '[' then
        match _hi : keyIndex s.rest with
        | .error e => .failed e
        | .ok (i, rest) =>
            match asList (Json.member k data) with
            | .error e => .failed e
            | .ok list => (listItem list i nestedNameLevel rest).map fun list => set data k (.arr list)
      else if last = '=' then (readValue reader s.rest).map fun v => set data k v
      else if last = ',' then .failed (.keyEndsWithComma k)
      else if nestedNameLevel + 1 > maxNestedNameLevel then .failed .nestedTooDeep
      else
        match asMap (Json.member k data) with
        | .error e => .failed e
        | .ok inner =>
            match key inner (nestedNameLevel + 1) s.rest with
            | .failed e => .failed e
            | .eof inner => .eof (if inner.isEmpty then data else set data k (.obj inner))
            | .next inner rest =>
                if inner.isEmpty then .failed (.keyMapHasNoValue k)
                else .next (set data k (.obj inner)) rest
termination_by sc.length
decreasing_by
  · exact Nat.lt_of_le_of_lt (keyIndex_rest_le _hi) (runesUntil_rest_lt _h)
  · exact runesUntil_rest_lt _h

/-- `listItem`: what follows the index of a list. At the end of the text only what was in the list
before can have been changed. -/
def listItem (list : List Json) (i : Int) (nestedNameLevel : Nat) (sc : List Char) :
    Outcome (List Json) :=
  if i < 0 then .failed (.negativeIndex i)
  else
    let s := runesUntil ['[', '.', '='] sc
    if s.runes ≠ [] then .failed (.dataAfterIndex (String.ofList s.runes))
    else
      match _h : s.last with
      | none => .eof list
      | some last =>
          if last = '=' then
            match readValue reader s.rest with
            | .next v rest => finishIndex list i v rest
            | .eof v => finishIndex list i v []
            | .failed e => .failed e
          else if last = '[' then
            match _hi : keyIndex s.rest with
            | .error e => .failed e
            | .ok (nextI, rest) =>
                let existed := nonNil list[i.toNat]?
                match asList existed with
                | .error e => .failed e
                | .ok crtList =>
                    match listItem crtList nextI nestedNameLevel rest with
                    | .next list2 rest => finishIndex list i (.arr list2) rest
                    | .eof list2 => .eof (if existed.isSome then list.set i.toNat (.arr list2) else list)
                    | .failed e => .failed e
          else
            let inner := (asMap list[i.toNat]?).toOption.getD []
            match key inner nestedNameLevel s.rest with
            | .next inner rest => finishIndex list i (.obj inner) rest
            | .eof inner => .eof (list.set i.toNat (.obj inner))
            | .failed e => .failed e
termination_by sc.length
decreasing_by
  · exact Nat.lt_of_le_of_lt (keyIndex_rest_le _hi) (runesUntil_rest_lt _h)
  · exact runesUntil_rest_lt _h

end

/-! ## The text gets shorter -/

variable {reader}

theorem finishIndex_rest {list list' : List Json} {i : Int} {v : Json} {rest rest' : List Char}
    (h : finishIndex list i v rest = .next list' rest') : rest' = rest := by
  unfold finishIndex at h
  split at h
  · cases h
    rfl
  · cases h

mutual

theorem key_rest_lt {data data' : List (String × Json)} {level : Nat} {sc rest : List Char}
    (h : key reader data level sc = .next data' rest) : rest.length < sc.length := by
  rw [key] at h
  split at h
  · split at h <;> cases h
  · next last hlast =>
      have hs := runesUntil_rest_lt hlast
      split at h
      · split at h
        · cases h
        · next i r hi =>
            have hr := keyIndex_rest_le hi
            split at h
            · cases h
            · obtain ⟨list', hlist, -⟩ := Outcome.map_eq_next h
              have hitem := listItem_rest_lt hlist
              omega
      · split at h
        · obtain ⟨v, hv, -⟩ := Outcome.map_eq_next h
          have hvalue := readValue_rest_le reader hv
          omega
        · split at h
          · cases h
          · split at h
            · cases h
            · split at h
              · cases h
              · split at h
                · cases h
                · cases h
                · next inner r hinner =>
                    have hkey := key_rest_lt hinner
                    split at h
                    · cases h
                    · cases h
                      omega
termination_by sc.length

theorem listItem_rest_lt {list list' : List Json} {i : Int} {level : Nat} {sc rest : List Char}
    (h : listItem reader list i level sc = .next list' rest) : rest.length < sc.length := by
  rw [listItem] at h
  dsimp only at h
  split at h
  · cases h
  · split at h
    · cases h
    · split at h
      · cases h
      · next last hlast =>
          have hs := runesUntil_rest_lt hlast
          split at h
          · split at h
            · next v r hv =>
                have hvalue := readValue_rest_le reader hv
                rw [finishIndex_rest h]
                omega
            · rw [finishIndex_rest h]
              exact Nat.lt_of_le_of_lt (Nat.zero_le _) hs
            · cases h
          · split at h
            · split at h
              · cases h
              · next nextI r hi =>
                  have hr := keyIndex_rest_le hi
                  split at h
                  · cases h
                  · split at h
                    · next list2 r2 hitem =>
                        have hlt := listItem_rest_lt hitem
                        rw [finishIndex_rest h]
                        omega
                    · cases h
                    · cases h
            · split at h
              · next inner r hkey =>
                  have hlt := key_rest_lt hkey
                  rw [finishIndex_rest h]
                  omega
              · cases h
              · cases h
termination_by sc.length

end

def parse (reader : List Char → Json) (data : List (String × Json)) (sc : List Char) :
    Except ParseError (List (String × Json)) :=
  match _h : key reader data 0 sc with
  | .next data rest => parse reader data rest
  | .eof data => .ok data
  | .failed e => .error e
termination_by sc.length
decreasing_by exact key_rest_lt _h

variable {data : List (String × Json)}

theorem parse_next {data' : List (String × Json)} {sc rest : List Char}
    (h : key reader data 0 sc = .next data' rest) :
    parse reader data sc = parse reader data' rest := by
  rw [parse]
  split
  · next hnext =>
      obtain ⟨rfl, rfl⟩ := Outcome.next.inj (hnext.symm.trans h)
      rfl
  · next heof => cases heof.symm.trans h
  · next hfailed => cases hfailed.symm.trans h

theorem parse_eof {data' : List (String × Json)} {sc : List Char}
    (h : key reader data 0 sc = .eof data') : parse reader data sc = .ok data' := by
  rw [parse]
  split
  · next hnext => cases hnext.symm.trans h
  · next heof => rw [Outcome.eof.inj (heof.symm.trans h)]
  · next hfailed => cases hfailed.symm.trans h

theorem parse_failed {sc : List Char} {e : ParseError} (h : key reader data 0 sc = .failed e) :
    parse reader data sc = .error e := by
  rw [parse]
  split
  · next hnext => cases hnext.symm.trans h
  · next heof => cases heof.symm.trans h
  · next hfailed => rw [Outcome.failed.inj (hfailed.symm.trans h)]

theorem parse_nil (data : List (String × Json)) : parse reader data [] = .ok data := by
  apply parse_eof
  rw [key]
  rfl

/-! ## Strings come from the text -/

section Strings

variable (hreader : ∀ {rs : List Char} {w : String}, reader rs = .str w →
  w.toList.length ≤ rs.length)

include hreader

theorem readValue_str {sc : List Char} {w : String}
    (h : (readValue reader sc).value = some (.str w)) : w.toList.length ≤ sc.length := by
  unfold readValue at h
  split at h
  · cases h
    exact Nat.le_refl _
  · split at h <;> cases h
  · exact Nat.le_trans (hreader (Option.some.inj h)) (runesUntil_runes_le _ _)

theorem key_str {data data' : List (String × Json)} {level : Nat} {sc : List Char}
    {k w : String} (h : (key reader data level sc).value = some data')
    (hk : Json.member k data' = some (.str w)) :
    Json.member k data = some (.str w) ∨ w.toList.length ≤ sc.length := by
  rw [key] at h
  split at h
  · split at h
    · cases h
      exact .inl hk
    · cases h
  · next last hlast =>
      have hs := runesUntil_rest_lt hlast
      split at h
      · split at h
        · cases h
        · split at h
          · cases h
          · -- a list is bound, not a string
            obtain ⟨list', -, rfl⟩ := Outcome.value_map h
            rcases member_set_cases hk with hold | hnew
            · exact .inl hold
            · cases hnew
      · split at h
        · obtain ⟨v, hv, rfl⟩ := Outcome.value_map h
          rcases member_set_cases hk with hold | hnew
          · exact .inl hold
          · subst hnew
            have hvalue := readValue_str hreader hv
            exact .inr (by omega)
        · split at h
          · cases h
          · split at h
            · cases h
            · split at h
              · cases h
              · split at h
                · cases h
                · -- a map is bound, not a string
                  cases h
                  split at hk
                  · exact .inl hk
                  · rcases member_set_cases hk with hold | hnew
                    · exact .inl hold
                    · cases hnew
                · split at h
                  · cases h
                  · cases h
                    rcases member_set_cases hk with hold | hnew
                    · exact .inl hold
                    · cases hnew

theorem parse_str {data data' : List (String × Json)} {sc : List Char} {k w : String}
    (h : parse reader data sc = .ok data') (hk : Json.member k data' = some (.str w)) :
    Json.member k data = some (.str w) ∨ w.toList.length ≤ sc.length := by
  fun_induction parse reader data sc with
  | case1 data sc data₁ rest hkey ih =>
      have hlt := key_rest_lt hkey
      rcases ih h with hbefore | hle
      · exact key_str hreader (by rw [hkey]; rfl) hbefore
      · exact .inr (by omega)
  | case2 data sc data₁ hkey =>
      cases h
      exact key_str hreader (by rw [hkey]; rfl) hk
  | case3 => cases h

end Strings

/-! ## One assignment -/

/-- A name that the parser reads up to its end. -/
def LiteralName (name : List Char) : Prop := Literal ['=', '[', ',', '.'] name

theorem key_assignment {name : List Char} (hname : LiteralName name)
    (data : List (String × Json)) (level : Nat) (v : List Char) :
    key reader data level (name ++ '=' :: v) =
      (readValue reader v).map fun x => set data (String.ofList name) x := by
  have hs := runesUntil_literal_stop hname (List.mem_cons_self (a := '=')) v
  rw [key]
  split
  · next hlast =>
      rw [hs] at hlast
      cases hlast
  · next last hlast =>
      rw [hs] at hlast ⊢
      cases hlast
      rfl

/-- A value that the parser reads as one scalar. -/
def LiteralValue (v : List Char) : Prop := Literal [','] v ∧ v.head? ≠ some '{'

theorem readValue_scalar {v : List Char} (hne : v ≠ []) (hhead : v.head? ≠ some '{') :
    readValue reader v =
      .next (reader (runesUntil [','] v).runes) (runesUntil [','] v).rest := by
  unfold readValue
  split
  · exact absurd rfl hne
  · exact absurd rfl hhead
  · rfl

theorem parse_assignment {name v : List Char} (hname : LiteralName name) (hne : v ≠ [])
    (hv : LiteralValue v) (data : List (String × Json)) :
    parse reader data (name ++ '=' :: v) =
      .ok (set data (String.ofList name) (reader v)) := by
  have hread : readValue reader v = .next (reader v) [] := by
    rw [readValue_scalar hne hv.2, runesUntil_literal hv.1]
  have hkey : key reader data 0 (name ++ '=' :: v) = _ := key_assignment hname data 0 v
  rw [hread] at hkey
  rw [parse_next hkey, parse_nil]

theorem readValue_not_literal (hreader : ∀ {rs : List Char} {w : String}, reader rs = .str w →
      w.toList.length ≤ rs.length)
    {v rest : List Char} {x : Json} (hne : v ≠ []) (hv : ¬ LiteralValue v)
    (h : readValue reader v = .next x rest) :
    rest.length < v.length ∧ ∀ {w : String}, x = .str w → w.toList.length < v.length := by
  by_cases hhead : v.head? = some '{'
  · -- a list is bound
    unfold readValue at h
    split at h
    · cases h
    · split at h
      · next hlist =>
          cases h
          have hrest := listElements_rest_le reader hlist
          exact ⟨Nat.lt_succ_of_le hrest, fun hw => by cases hw⟩
      · cases h
    · next hnil hbrace =>
        cases v with
        | nil => cases hhead
        | cons c tail => exact absurd (by rw [Option.some.inj hhead]) (hbrace tail)
  · have hcomma : ¬ Literal [','] v := fun hl => hv ⟨hl, hhead⟩
    obtain ⟨rfl, rfl⟩ := Outcome.next.inj ((readValue_scalar hne hhead).symm.trans h)
    refine ⟨runesUntil_rest_lt_of_ne_nil _ hne, fun hw => ?_⟩
    exact Nat.lt_of_le_of_lt (hreader hw) (runesUntil_runes_lt hcomma)

theorem parse_assignment_str (hreader : ∀ {rs : List Char} {w : String}, reader rs = .str w →
      w.toList.length ≤ rs.length) {name v : List Char} (hname : LiteralName name)
    (hname0 : String.ofList name ≠ "") (hne : v ≠ []) (hv : ¬ LiteralValue v)
    {data' : List (String × Json)} (h : parse reader data (name ++ '=' :: v) = .ok data')
    {w : String} (hw : Json.member (String.ofList name) data' = some (.str w)) :
    w.toList.length < v.length := by
  have hkey : key reader data 0 (name ++ '=' :: v) = _ := key_assignment hname data 0 v
  cases hread : readValue reader v with
  | next x rest =>
      rw [hread] at hkey
      rw [parse_next hkey] at h
      obtain ⟨hrest, hx⟩ := readValue_not_literal hreader hne hv hread
      -- the name is bound to `x`, and what is left of the text is too short to change that
      rcases parse_str hreader h hw with hfirst | hle
      · rw [member_set _ hname0, if_pos rfl] at hfirst
        exact hx (Option.some.inj hfirst)
      · omega
  | eof x => exact absurd (readValue_eof hread) hne
  | failed e =>
      rw [hread] at hkey
      rw [parse_failed hkey] at h
      cases h

end Parser

theorem typedVal_not_literal (h : ¬ LiteralValue v) :
    typedVal v false = .str (String.ofList v) := by
  by_cases hliteral : Literal [','] v
  · have hbrace : v.head? = some '{' := by
      by_contra hhead
      exact h ⟨hliteral, hhead⟩
    exact typedVal_eq_str (List.mem_of_head? hbrace) (by decide)
  · obtain ⟨c, hc, hspecial⟩ : ∃ c ∈ v, c = ',' ∨ c = '\\' := by
      by_contra hnone
      push Not at hnone
      exact hliteral fun c hc => ⟨by simpa using (hnone c hc).1, (hnone c hc).2⟩
    rcases hspecial with rfl | rfl
    · exact typedVal_eq_str hc (by decide)
    · exact typedVal_eq_str hc (by decide)

def parseInto (s : String) (dest : List (String × Json)) :
    Except ParseError (List (String × Json)) :=
  parse (typedVal · false) dest s.toList

end Heir.Strvals
