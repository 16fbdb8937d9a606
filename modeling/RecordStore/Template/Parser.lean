import RecordStore.Template.Basic
import RecordStore.Text.Blank

/-!
# Reading templates

The text of a template is cut from the left into chunks of constant text and actions between
`{{` and `}}`; an action ends at the first `}}`. An action is

* the name of a variable,
* `if` and the name of a variable, `else`, or `end`, which make up conditionals,
* or text in double quotes, which stands for itself, blanks and braces included.

A `-` after the opening braces removes the blanks before the action, one before the closing braces
those after it. Names are checked while reading, so a template that was read always renders. The
first action that is wrong decides the error.
-/

namespace RecordStore

/-! ### Cutting the text -/

/-- The text before and after the first occurrence of two characters in a row. -/
def splitAtPair (a b : Char) : List Char → Option (List Char × List Char)
  | [] | [_] => none
  | c :: d :: rest =>
    if c = a ∧ d = b then some ([], rest)
    else (splitAtPair a b (d :: rest)).map fun (before, after) => (c :: before, after)

theorem splitAtPair_length {a b : Char} {cs before after : List Char}
    (h : splitAtPair a b cs = some (before, after)) :
    before.length + after.length + 2 = cs.length := by
  fun_induction splitAtPair a b cs generalizing before after with
  | case1 => cases h
  | case2 => cases h
  | case3 => simp at h; obtain ⟨rfl, rfl⟩ := h; simp
  | case4 c d rest _ ih =>
    obtain ⟨⟨before', after'⟩, h', heq⟩ := Option.map_eq_some_iff.1 h
    simp only [Prod.mk.injEq] at heq
    obtain ⟨rfl, rfl⟩ := heq
    have := ih h'
    simp only [List.length_cons] at this ⊢
    omega

/-- An action with what the braces say about the blanks around it. -/
structure Action where
  /-- The line of the opening braces, counted from 1. -/
  line : Nat
  /-- Whether the blanks before the action are removed. -/
  trimsBefore : Bool
  /-- The text between the braces and the trim markers, without the blanks around it. -/
  body : List Char
  /-- Whether the blanks after the action are removed. -/
  trimsAfter : Bool
  deriving DecidableEq, Repr

/-- The action with a given text between its braces. -/
def Action.ofInner (line : Nat) (inner : List Char) : Action :=
  let (trimsBefore, inner) :=
    match inner with
    | '-' :: rest => (true, rest)
    | _ => (false, inner)
  let (trimsAfter, inner) :=
    if inner.getLast? = some '-' then (true, inner.dropLast) else (false, inner)
  { line, trimsBefore, body := Text.trim inner, trimsAfter }

/-- What follows the last complete action. -/
inductive Ending
  /-- Constant text. -/
  | chunk (chars : List Char)
  /-- An action that is never closed, in a line. -/
  | unterminated (line : Nat)
  deriving DecidableEq, Repr

/-- A text cut into actions, each with the chunk before it, and the rest. -/
structure Pieces where
  /-- The actions in order, each with the chunk before it. -/
  actions : List (List Char × Action)
  /-- What follows the last of them. -/
  ending : Ending
  deriving DecidableEq, Repr

/-- The number of line feeds in a text. -/
def countLines (cs : List Char) : Nat := cs.count '\n'

/-- Cuts a text whose first character stands in the given line. -/
def Pieces.cutFrom (line : Nat) (cs : List Char) : Pieces :=
  match h₁ : splitAtPair '\x7b' '\x7b' cs with
  | none => ⟨[], .chunk cs⟩
  | some (chunk, opened) =>
    let line := line + countLines chunk
    match h₂ : splitAtPair '\x7d' '\x7d' opened with
    | none => ⟨[], .unterminated line⟩
    | some (inner, rest) =>
      have : rest.length < cs.length := by
        have := splitAtPair_length h₁
        have := splitAtPair_length h₂
        omega
      let more := cutFrom (line + countLines inner) rest
      { more with actions := (chunk, Action.ofInner line inner) :: more.actions }
termination_by cs.length

/-- Cuts the text of a template. -/
def Pieces.cut (cs : List Char) : Pieces := cutFrom 1 cs

/-! ### What an action says -/

/-- What is wrong with a template. -/
inductive TemplateFault
  /-- An action has no closing braces. -/
  | unterminated
  /-- An action is blank. -/
  | emptyAction
  /-- An `if` names no variable. -/
  | ifWithoutVariable
  /-- A conditional has a second `else`. -/
  | secondElse
  /-- An `else` stands outside of any conditional. -/
  | elseOutside
  /-- An `end` closes nothing. -/
  | endWithoutIf
  /-- An action is of no known form. -/
  | unexpectedAction (action : String)
  /-- A conditional is not closed. -/
  | neverClosed
  /-- No variable has this name. -/
  | unknownVariable (name : String)
  deriving DecidableEq, Repr

/-- The wording of a fault. -/
def TemplateFault.message : TemplateFault → String
  | .unterminated => "unterminated action, missing `\x7d\x7d`"
  | .emptyAction => "empty action"
  | .ifWithoutVariable => "`if` needs a variable"
  | .secondElse => "second `else` in one `if`"
  | .elseOutside => "`else` outside of an `if`"
  | .endWithoutIf => "`end` without an open `if`"
  | .unexpectedAction action => s!"unexpected action `{action}`"
  | .neverClosed => "`if` is never closed with `end`"
  | .unknownVariable name => s!"unknown variable '{name}'"

/-- What a valid action does. -/
inductive Directive
  | literal (chars : List Char)
  | variable (v : Variable)
  | openIf (v : Variable)
  | switch
  | close
  deriving DecidableEq, Repr

/-- The text between double quotes, if the text starts and ends with one each. -/
def unquote? : List Char → Option (List Char)
  | '"' :: rest => if rest.getLast? = some '"' then some rest.dropLast else none
  | _ => none

/-- The variable that a word names. -/
def variableNamed (word : List Char) : Except TemplateFault Variable :=
  match Variable.ofName? (String.ofList word) with
  | some v => .ok v
  | none => .error (.unknownVariable (String.ofList word))

/-- **What an action says**, from its text. -/
def Directive.ofBody (body : List Char) : Except TemplateFault Directive :=
  match unquote? body with
  | some chars => .ok (.literal chars)
  | none =>
    match Text.words body with
    | [] => .error .emptyAction
    | [word] =>
      if word = "if".toList then .error .ifWithoutVariable
      else if word = "else".toList then .ok .switch
      else if word = "end".toList then .ok .close
      else (variableNamed word).map .variable
    | [word, name] =>
      if word = "if".toList then (variableNamed name).map .openIf
      else .error (.unexpectedAction (String.ofList body))
    | _ => .error (.unexpectedAction (String.ofList body))

/-! ### Putting the parts together -/

/-- A conditional that is not closed yet. -/
structure OpenBlock where
  /-- The parts before the conditional in the list it stands in. -/
  before : List Node
  /-- The variable of the conditional. -/
  condition : Variable
  /-- The line of its `if`. -/
  line : Nat
  /-- The first branch, once the second one is under way. -/
  first : Option (List Node)

/-- A template under construction. -/
structure Builder where
  /-- The list of parts under way, the innermost one. -/
  current : List Node := []
  /-- The conditionals it stands in, innermost first. -/
  blocks : List OpenBlock := []

namespace Builder

/-- Adds constant text. -/
def text (b : Builder) (chars : List Char) : Builder :=
  { b with current := appendText b.current chars }

/-- Carries out an action in a line. -/
def apply (b : Builder) (line : Nat) : Directive → Except TemplateFault Builder
  | .literal chars => .ok (b.text chars)
  | .variable v => .ok { b with current := b.current ++ [.variable v] }
  | .openIf v => .ok ⟨[], ⟨b.current, v, line, none⟩ :: b.blocks⟩
  | .switch =>
    match b.blocks with
    | [] => .error .elseOutside
    | block :: outer =>
      match block.first with
      | some _ => .error .secondElse
      | none => .ok ⟨[], { block with first := some b.current } :: outer⟩
  | .close =>
    match b.blocks with
    | [] => .error .endWithoutIf
    | block :: outer =>
      let node :=
        match block.first with
        | some first => Node.conditional block.condition first b.current
        | none => Node.conditional block.condition b.current []
      .ok ⟨block.before ++ [node], outer⟩

end Builder

/-- A fault and the line it is reported in. -/
structure TemplateError where
  /-- The line, counted from 1. -/
  line : Nat
  /-- What is wrong there. -/
  fault : TemplateFault
  deriving DecidableEq, Repr

/-- The wording of an error. -/
def TemplateError.message (e : TemplateError) : String := s!"line {e.line}: " ++ e.fault.message

/-- A chunk without the blanks that the actions on its sides remove. -/
def trimChunk (trimStart trimEnd : Bool) (chunk : List Char) : List Char :=
  let chunk := if trimStart then Text.trimStart chunk else chunk
  if trimEnd then Text.trimEnd chunk else chunk

/-- Carries out the actions in order; `trimStart` tells whether the one before asked for the blanks
after it to be removed. -/
def Builder.run (b : Builder) (trimStart : Bool) (ending : Ending) :
    List (List Char × Action) → Except TemplateError Template
  | [] =>
    match ending with
    | .unterminated line => .error ⟨line, .unterminated⟩
    | .chunk chunk =>
      let b := b.text (trimChunk trimStart false chunk)
      match b.blocks with
      | [] => .ok b.current
      | block :: _ => .error ⟨block.line, .neverClosed⟩
  | (chunk, action) :: rest =>
    let b := b.text (trimChunk trimStart action.trimsBefore chunk)
    match (Directive.ofBody action.body).bind (b.apply action.line) with
    | .error fault => .error ⟨action.line, fault⟩
    | .ok b => b.run action.trimsAfter ending rest

/-- **Reads a template.** -/
def Template.parse (text : String) : Except TemplateError Template :=
  let pieces := Pieces.cut text.toList
  ({} : Builder).run false pieces.ending pieces.actions

end RecordStore
