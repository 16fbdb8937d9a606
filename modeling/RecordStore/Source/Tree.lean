import RecordStore.Source.Lexeme

/-!
# From lexemes to token trees

Delimiters have to match. The first lexeme that closes nothing, or something else than what was
opened last, is an error there, and an opening delimiter that is never closed is one at the
innermost such delimiter. An error in scanning counts where it stands.
-/

namespace RecordStore.Source

/-- A group that is not closed yet: its delimiter, and the trees before it, last one first. -/
structure OpenGroup where
  delimiter : Delimiter
  span : Span
  before : Tokens

/-- Token trees under construction. -/
structure TreeBuilder where
  /-- The trees of the innermost list under way, last one first. -/
  current : Tokens := []
  /-- The groups it stands in, innermost first. -/
  groups : List OpenGroup := []

namespace TreeBuilder

/-- Adds a lexeme; a closing delimiter has to match. -/
def add (b : TreeBuilder) (span : Span) : Lexeme → Option TreeBuilder
  | .token t => some { b with current := .token t span :: b.current }
  | .opening d => some ⟨[], ⟨d, span, b.current⟩ :: b.groups⟩
  | .closing d =>
    match b.groups with
    | [] => none
    | g :: outer =>
      if g.delimiter = d then some ⟨.group d g.span span b.current.reverse :: g.before, outer⟩
      else none

/-- Adds lexemes in order. On an error it gives its place. -/
def addAll (b : TreeBuilder) : List (Lexeme × Span) → Except Position TreeBuilder
  | [] => .ok b
  | (l, span) :: rest =>
    match b.add span l with
    | some b => b.addAll rest
    | none => .error span.start

end TreeBuilder

/-- The trees of a scanned text, or the place of the first error. -/
def Scan.trees (s : Scan) : Except Position Tokens := do
  let b ← ({} : TreeBuilder).addAll s.lexemes
  match s.fault, b.groups with
  | some p, _ => .error p
  | none, g :: _ => .error g.span.start
  | none, [] => .ok b.current.reverse

/-- The mark that may stand at the start of a text to tell the order of its bytes. -/
def orderMark : Char := '\ufeff'

/-- **The token trees of a text**, or the place of the first error. A mark of the byte order at its
start counts as a character of the first line. -/
def tokenize (cs : List Char) : Except Position Tokens :=
  match cs with
  | [] => (scan .start []).trees
  | c :: rest =>
    if c = orderMark then (scan (Position.start.next c) rest).trees else (scan .start cs).trees

/-- What is left of a file after a first line that names the program to run it. Such a line starts
with `#!`, and is no attribute, so no bracket follows. -/
def skipInterpreter (cs : List Char) : List Char :=
  match cs with
  | '#' :: '!' :: rest =>
    let first := (skipSeparators rest (rest.length + 1)).head?
    if first = some '[' then cs else cs.dropWhile (· ≠ '\n')
  | _ => cs
where
  /-- The text after the white space and the plain comments at its start. -/
  skipSeparators (cs : List Char) : Nat → List Char
    | 0 => cs
    | fuel + 1 =>
      match step cs with
      | .skip _ rest => skipSeparators rest fuel
      | _ => cs

/-- **The token trees of a file.** -/
def tokenizeFile (cs : List Char) : Except Position Tokens :=
  tokenize (skipInterpreter (if cs.head? = some orderMark then cs.tail else cs))

end RecordStore.Source
