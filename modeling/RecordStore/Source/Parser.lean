import RecordStore.Source.Fault
import RecordStore.Source.Tree

/-!
# Parsing token trees

A parser reads token trees from the left. While it reads, it writes: what it has read is kept in
canonical form, each operator spelled on its own, so that every construct can be asked for its text.

A group is read by a parser of its own. When it leaves trees unread, this is an error too, but one
that is reported only if nothing else is wrong; the first such place counts.
-/

namespace RecordStore.Source

/-- What a parser works on. -/
structure ParseState where
  /-- The trees that are left. -/
  rest : Tokens
  /-- Where an error at the end is reported. -/
  scope : Span := .whole
  /-- The place after the last tree that was read. -/
  last : Position := .start
  /-- The first place where a group was left unread, with its delimiter. -/
  leftover : Option (Span × Delimiter) := none
  /-- What was read, in canonical form, last tree first. -/
  written : Tokens := []

/-- **Parsers.** -/
abbrev Parser := StateT ParseState (Except SyntaxError)

namespace Parser

variable {α β : Type}

/-! ### Errors -/

/-- Where an error at the next tree is reported. -/
def placeOfNext (s : ParseState) : Span :=
  match s.rest with
  | [] => s.scope
  | tree :: _ => tree.place

/-- Fails at a given place. -/
def failAt (span : Span) (fault : SyntaxFault) : Parser α := throw { fault, span }

/-- Fails at the next tree. -/
def fail (fault : SyntaxFault) : Parser α := do
  let s ← get
  throw { fault, span := placeOfNext s, atEnd := s.rest.isEmpty }

/-- Fails for want of something. -/
def expected (what : String) : Parser α := fail (.expected [what])

/-! ### Looking ahead -/

/-- Something that may stand at the start of token trees. -/
structure Peek where
  /-- What it is called in errors. -/
  name : String
  /-- Whether it stands there. -/
  holds : Tokens → Bool

/-- The trees after punctuation that stands at the start, all but its last character joined. -/
def afterPunct? : List Char → Tokens → Option Tokens
  | [], rest => some rest
  | [c], .token (.punct s _) _ :: rest => if c = s.char then some rest else none
  | c :: cs, .token (.punct s true) _ :: rest => if c = s.char then afterPunct? cs rest else none
  | _ :: _, _ => none

/-- The word at the start. -/
def headWord? : Tokens → Option Word
  | .token (.word w) _ :: _ => some w
  | _ => none

/-- Whether a literal starts here, truth values and negative numbers included. -/
def startsLiteral : Tokens → Bool
  | .token (.literal _) _ :: _ => true
  | .token (.word w) _ :: _ => w.is "true" || w.is "false"
  | .token (.punct ⟨'-', _⟩ _) _ :: .token (.literal l) _ :: _ =>
    l.kind == .integer || l.kind == .float
  | _ => false

/-- Some punctuation. -/
def punctuation (text : String) : Peek :=
  ⟨s!"`{text}`", fun ts => (afterPunct? text.toList ts).isSome⟩

/-- A certain word. -/
def theWord (text : String) (_known : isKnown text = true := by exact Eq.refl true) : Peek :=
  ⟨s!"`{text}`", fun ts => (headWord? ts).any (·.is text)⟩

/-- Any word, names and others. -/
def anyWord : Peek := ⟨"ident", fun ts => (headWord? ts).isSome⟩

/-- A name. -/
def aName : Peek :=
  ⟨"identifier", fun ts => (headWord? ts).any Word.isName⟩

/-- A lifetime. -/
def aLifetime : Peek :=
  ⟨"lifetime", fun
    | .token (.lifetime _) _ :: _ => true
    | _ => false⟩

/-- A literal. -/
def aLiteral : Peek := ⟨"literal", startsLiteral⟩

/-- A string. -/
def aString : Peek :=
  ⟨"string literal", fun
    | .token (.literal ⟨.string _, _, _⟩) _ :: _ => true
    | _ => false⟩

/-- What a group is called in errors. -/
def describeGroup : Delimiter → String
  | .parenthesis => "parentheses"
  | .brace => "curly braces"
  | .bracket => "square brackets"

/-- A group. -/
def aGroup (d : Delimiter) : Peek :=
  ⟨describeGroup d, fun
    | .group d' _ _ _ :: _ => d' == d
    | _ => false⟩

/-- Parentheses. -/
def parens : Peek := aGroup .parenthesis

/-- Braces. -/
def braces : Peek := aGroup .brace

/-- Brackets. -/
def brackets : Peek := aGroup .bracket

/-- Whether the trees that are left start with something. -/
def peek (p : Peek) : Parser Bool := return p.holds (← get).rest

/-- Whether something stands after the first tree that is left. -/
def peekSecond (p : Peek) : Parser Bool := do
  match (← get).rest with
  | [] => return false
  | _ :: rest => return p.holds rest

/-- Whether something stands after the first two trees that are left. -/
def peekThird (p : Peek) : Parser Bool := do
  match (← get).rest with
  | _ :: _ :: rest => return p.holds rest
  | _ => return false

/-- Whether the trees that are left start with one of several things. -/
def peekAny (ps : List Peek) : Parser Bool := do
  let ts := (← get).rest
  return ps.any (·.holds ts)

/-- Whether some punctuation stands here. -/
def peekPunct (text : String) : Parser Bool := peek (punctuation text)

/-- Whether a certain word stands here. -/
def peekWord (text : String) (known : isKnown text = true := by exact Eq.refl true) :
    Parser Bool :=
  peek (theWord text known)

/-- Whether some punctuation stands here that does not go on in one of the given ways. -/
def peekPunctNot (text : String) (longer : List String) : Parser Bool := do
  let ts := (← get).rest
  return (punctuation text).holds ts && !longer.any fun l => (punctuation l).holds ts

/-- Whether nothing is left. -/
def atEnd : Parser Bool := return (← get).rest.isEmpty

/-- Fails where several things were looked for in vain. Those that do stand here, but for another
reason did not do, are not mentioned. -/
def noneOf (ps : List Peek) : Parser α := do
  let ts := (← get).rest
  match (ps.filter fun p => !p.holds ts).map Peek.name with
  | [] => fail .unexpected
  | names => fail (.expected names)

/-! ### Reading tokens -/

/-- Goes on to the given trees, after a tree. -/
def moveTo (after : TokenTree) (rest : Tokens) : Parser Unit :=
  modify fun s => { s with rest, last := after.span.stop }

/-- Writes trees. -/
def write (tokens : Tokens) : Parser Unit :=
  modify fun s => { s with written := tokens.reverse ++ s.written }

/-- Reads the next tree and writes it as it is. -/
def take (tree : TokenTree) (rest : Tokens) : Parser Unit := do
  moveTo tree rest
  write [tree]

/-- Reads a certain word. -/
def word (text : String) (_known : isKnown text = true := by exact Eq.refl true) : Parser Unit := do
  match (← get).rest with
  | .token (.word w) s :: rest =>
    if w.is text then take (.token (.word w) s) rest else expected s!"`{text}`"
  | _ => expected s!"`{text}`"

/-- Reads a name. -/
def name : Parser Word := do
  match (← get).rest with
  | .token (.word w) s :: rest =>
    if w.isName then
      take (.token (.word w) s) rest
      return w
    else fail (.keyword w.text)
  | _ => expected "identifier"

/-- Reads a word of any kind. -/
def wordOfAnyKind : Parser Word := do
  match (← get).rest with
  | .token (.word w) s :: rest => do
    take (.token (.word w) s) rest
    return w
  | _ => expected "ident"

/-- The tree at the end of some punctuation. -/
def lastOfPunct : List Char → Tokens → Option TokenTree
  | [_], tree :: _ => some tree
  | _ :: cs, _ :: rest => lastOfPunct cs rest
  | _, _ => none

/-- Reads some punctuation, and writes it on its own. An error stands at its first character, also
where the input ends. -/
def punct (text : String) : Parser Unit := do
  let s ← get
  match afterPunct? text.toList s.rest, lastOfPunct text.toList s.rest with
  | some rest, some tree => do
    moveTo tree rest
    write (punctTokens text)
  | _, _ => failAt (placeOfNext s) (.expected [s!"`{text}`"])

/-- Reads some punctuation if it stands here. -/
def punct? (text : String) : Parser Bool := do
  if ← peekPunct text then
    punct text
    return true
  else return false

/-- Reads a certain word if it stands here. -/
def word? (text : String) (known : isKnown text = true := by exact Eq.refl true) : Parser Bool := do
  if ← peekWord text known then
    word text known
    return true
  else return false

/-- Reads a lifetime. -/
def lifetime : Parser Unit := do
  match (← get).rest with
  | .token (.lifetime n) s :: rest => take (.token (.lifetime n) s) rest
  | _ => expected "lifetime"

/-- Reads a literal. Truth values are no literals here, and the sign of a number stands apart. -/
def literal : Parser (Option Literal) := do
  match (← get).rest with
  | .token (.literal l) s :: rest => do
    take (.token (.literal l) s) rest
    return some l
  | .token (.word w) s :: rest =>
    if w.is "true" || w.is "false" then
      take (.token (.word w) s) rest
      return none
    else expected "literal"
  | .token (.punct ⟨'-', _⟩ _) _ :: .token (.literal l) s :: rest =>
    if l.kind == .integer || l.kind == .float then
      moveTo (.token (.literal l) s) rest
      write [(Token.punct (.of '-') false).bare, .token (.literal l) s]
      return none
    else expected "literal"
  | _ => expected "literal"

/-- Reads all that is left, as it is. -/
def remaining : Parser Unit := do
  let s ← get
  match s.rest.getLast? with
  | none => return ()
  | some tree =>
    moveTo tree []
    write s.rest

/-! ### Groups -/

/-- Notes that a group with this state was left, if it was left unread and is the first such. -/
def noteLeftover (d : Delimiter) (inner : ParseState) (leftover : Option (Span × Delimiter)) :
    Option (Span × Delimiter) :=
  match leftover, inner.rest with
  | none, tree :: _ => some (tree.place, d)
  | l, _ => l

/-- Reads a group, its content with a parser, and then goes on. The group counts as left only after
that. -/
def groupThen (d : Delimiter) (content : Parser α) (next : α → Parser β) : Parser β := do
  let s ← get
  match s.rest with
  | .group d' opening closing trees :: rest =>
    if d' = d then
      match content.run { s with rest := trees, scope := closing, last := opening.stop, written := [] } with
      | .error e => throw e
      | .ok (a, inner) =>
        set { s with
          rest
          last := closing.stop
          leftover := inner.leftover
          written := .group d opening closing inner.written.reverse :: s.written }
        let b ← next a
        modify fun t => { t with leftover := noteLeftover d inner t.leftover }
        return b
    else expected (describeGroup d)
  | _ => expected (describeGroup d)

/-- Reads a group, its content with a parser. -/
def group (d : Delimiter) (content : Parser α) : Parser α := groupThen d content pure

/-- Reads a group of any kind, its content as it is. -/
def verbatimGroup : Parser Delimiter := do
  match (← get).rest with
  | .group d o c content :: rest =>
    take (.group d o c content) rest
    return d
  | _ => expected "delimiter"

/-! ### Trying -/

/-- What a parser would answer here, without reading. -/
def ahead (p : Parser α) : Parser (Option α) := do
  match p.run (← get) with
  | .ok (a, _) => return some a
  | .error _ => return none

/-- Reads with a parser if it succeeds, and nothing otherwise. -/
def attempt (p : Parser α) : Parser (Option α) := do
  match p.run (← get) with
  | .ok (a, s) => do
    set s
    return some a
  | .error _ => return none

/-! ### Repetition -/

/-- Reads with a parser as long as it answers; `fuel` bounds the number of times. -/
def repeatUntilNone (step : Parser (Option α)) : Nat → Parser (List α)
  | 0 => return []
  | fuel + 1 => do
    match ← step with
    | none => return []
    | some a => return a :: (← repeatUntilNone step fuel)

/-- Reads with a parser as long as it answers. Every answer takes a tree, so the trees that are left
bound their number. -/
def loop (step : Parser (Option α)) : Parser (List α) := do
  repeatUntilNone step ((← get).rest.length + 1)

/-- Reads items until nothing is left. -/
def untilEnd (item : Parser α) : Parser (List α) :=
  loop do
    if ← atEnd then return none
    return some (← item)

/-- Reads items up to something that ends them, with separators between them and, if wanted, after
the last; `fuel` bounds their number. -/
def separatedFrom (stop : Parser Bool) (separator : String) (item : Parser α) :
    Nat → Parser (List (α × Bool))
  | 0 => return []
  | fuel + 1 => do
    if ← stop then return []
    let a ← item
    if ← stop then return [(a, false)]
    punct separator
    return (a, true) :: (← separatedFrom stop separator item fuel)

/-- Reads items up to something that ends them, with separators between them and, if wanted, after
the last. The answer tells which items a separator follows. -/
def separated (stop : Parser Bool) (separator : String) (item : Parser α) :
    Parser (List (α × Bool)) := do
  separatedFrom stop separator item ((← get).rest.length + 1)

/-- Reads items until nothing is left, with commas between them. -/
def commaSeparated (item : Parser α) : Parser (List α) :=
  return (← separated atEnd "," item).map Prod.fst

/-! ### Asking for what was read -/

/-- What a parser reads, in canonical form, which is not written. -/
def silently (p : Parser α) : Parser (α × Tokens) := do
  let before := (← get).written
  modify fun s => { s with written := [] }
  let a ← p
  let tokens := (← get).written.reverse
  modify fun s => { s with written := before }
  return (a, tokens)

/-- What a parser reads, in canonical form. -/
def captured (p : Parser α) : Parser (α × Tokens) := do
  let (a, tokens) ← silently p
  write tokens
  return (a, tokens)

/-- What a parser reads, in canonical form, its answer being of no interest. -/
def tokensOf (p : Parser α) : Parser Tokens := return (← captured p).2

/-- The part of the text that a parser reads. -/
def spanned (p : Parser α) : Parser (α × Span) := do
  let start := (placeOfNext (← get)).start
  let a ← p
  return (a, ⟨start, (← get).last⟩)

/-- Reads with a parser and, if its answer asks for that, writes what was read as it stands, in
place of its canonical form. -/
def verbatimIf (asks : α → Bool) (p : Parser α) : Parser α := do
  let s ← get
  let a ← p
  if asks a then
    let after := (← get).rest
    let read := s.rest.take (s.rest.length - after.length)
    modify fun t => { t with written := read.reverse ++ s.written }
  return a

/-- Reads with a parser and writes what was read as it stands, in place of its canonical form. -/
def verbatim (p : Parser α) : Parser α := verbatimIf (fun _ => true) p

/-! ### Running -/

/-- **Reads token trees as a whole.** Unread trees of a group are reported first, then those that
are left at the end. -/
def runAll (p : Parser α) (scope : Span) (tokens : Tokens) : Except SyntaxError α :=
  match p.run { rest := tokens, scope } with
  | .error e => .error e
  | .ok (a, s) =>
    match s.leftover, s.rest with
    | some (span, d), _ => .error { fault := .leftover (some d), span }
    | none, tree :: _ => .error { fault := .leftover none, span := tree.place }
    | none, [] => .ok a

end Parser

end RecordStore.Source
