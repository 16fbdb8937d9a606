import RecordStore.Source.Grammar.Item
import RecordStore.Source.Grammar.Statement

/-!
# Reading source texts

The parsers of the grammar are tied together here: those of one level use those of the level below.
A text is read with more levels than its tokens can need. What can be read is a whole file, the
declaration of one type, the items of a list in an attribute, and a name.
-/

namespace RecordStore.Source

/-! ### Levels -/

/-- **The parsers of some level.** Those of the lowest level read nothing. -/
def Grammar.level : Nat → Grammar
  | 0 =>
    { type := fun _ => Parser.fail .tooDeep
      bound := fun _ => Parser.fail .tooDeep
      quantifier := Parser.fail .tooDeep
      expr := fun _ => Parser.fail .tooDeep
      early := Parser.fail .tooDeep
      unary := fun _ => Parser.fail .tooDeep
      operators := fun _ _ _ => Parser.fail .tooDeep
      pattern := Parser.fail .tooDeep
      statements := Parser.fail .tooDeep
      fields := Parser.fail .tooDeep
      item := Parser.fail .tooDeep
      useTree := fun _ => Parser.fail .tooDeep }
  | n + 1 =>
    { type := fun plus s => Parser.type (level n) plus s
      bound := fun rules s => Parser.bound (level n) rules s
      quantifier := fun s => Parser.quantifier (level n) s
      expr := fun allowStruct s => Parser.expression (level n) allowStruct s
      early := fun s => Parser.early (level n) s
      unary := fun allowStruct s => Parser.unary (level n) allowStruct s
      operators := fun allowStruct base form s =>
        Parser.operators (level n) allowStruct base form s
      pattern := fun s => Parser.pattern (level n) s
      statements := fun s => Parser.statements (level n) s
      fields := fun s => Parser.fieldsInBraces (level n) s
      item := fun s => Parser.item (level n) s
      useTree := fun rooted s => Parser.useTree (level n) rooted s }

mutual

/-- The number of tokens and groups in a tree. -/
def TokenTree.count : TokenTree → Nat
  | .token _ _ => 1
  | .group _ _ _ content => countTrees content + 1

/-- The number of tokens and groups in trees. -/
def countTrees : List TokenTree → Nat
  | [] => 0
  | tree :: rest => tree.count + countTrees rest

end

/-- The grammar for some tokens. Between two levels that read nothing, at most three others lie. -/
def Grammar.for (tokens : Tokens) : Grammar := .level (4 * countTrees tokens + 16)

/-- An error in the scanning of a text. -/
def SyntaxError.scanning (p : Position) : SyntaxError := { fault := .notTokens, span := ⟨p, p⟩ }

/-! ### Files -/

/-- The items of a file. -/
def Parser.fileItems (g : Grammar) : Parser SourceText := do
  innerAttributes g
  let items ← Parser.untilEnd do
    let _ ← outerAttributes g
    item g
  return { items }

/-- **Reads a file.** -/
def SourceText.parse (text : String) : Except SyntaxError SourceText :=
  match tokenizeFile text.toList with
  | .error p => .error (.scanning p)
  | .ok tokens => Parser.runAll (Parser.fileItems (.for tokens)) .whole tokens

/-! ### Declarations -/

/-- The declaration of a type: a struct, or an enum or union, of which only the place of the name is
kept. -/
inductive Declaration
  | struct (s : StructItem)
  | other (nameSpan : Span)

/-! What a text declares does not depend on where it stands, so the mark of the byte order is left
out in reading it, and counted in the places afterwards. -/

/-- A place with the mark counted. -/
def Position.afterMark (p : Position) : Position :=
  if p.line = Position.start.line then p.next orderMark else p

/-- A part of the text with the mark counted. What stands for the text as a whole stays. -/
def Span.afterMark (s : Span) : Span :=
  if s = .whole then s else ⟨s.start.afterMark, s.stop.afterMark⟩

/-- A field with the mark counted. -/
def Field.afterMark (f : Field) : Field :=
  { f with span := f.span.afterMark, typeSpan := f.typeSpan.afterMark }

/-- A struct with the mark counted. -/
def StructItem.afterMark (s : StructItem) : StructItem :=
  { s with nameSpan := s.nameSpan.afterMark, fields := s.fields.map Field.afterMark }

/-- A declaration with the mark counted. -/
def Declaration.afterMark : Declaration → Declaration
  | struct s => .struct s.afterMark
  | other nameSpan => .other nameSpan.afterMark

/-- An error with the mark counted. One in scanning is at a place, be it the start of the text. -/
def SyntaxError.afterMark (e : SyntaxError) : SyntaxError :=
  match e.fault with
  | .notTokens => .scanning e.span.start.afterMark
  | _ => { e with span := e.span.afterMark }

/-- The declaration of a type. -/
def Parser.declaration (g : Grammar) : Parser Declaration := do
  let _ ← outerAttributes g
  let _ ← visibility
  if ← peekWord "struct" then return .struct (← structItem g)
  else if ← peekWord "enum" then return .other (← enumItem g)
  else if ← peekWord "union" then return .other (← unionItem g)
  else noneOf [theWord "struct", theWord "enum", theWord "union"]

/-- Reads the declaration of a type from a text without a mark of the byte order. -/
def Declaration.parseChars (cs : List Char) : Except SyntaxError Declaration :=
  match (scan .start cs).trees with
  | .error p => .error (.scanning p)
  | .ok tokens => Parser.runAll (Parser.declaration (.for tokens)) .whole tokens

/-- **Reads the declaration of a type.** A mark of the byte order at the start of the text counts as
a character of the first line. -/
def Declaration.parse (text : String) : Except SyntaxError Declaration :=
  match text.toList with
  | [] => Declaration.parseChars []
  | c :: rest =>
    if c = orderMark then
      match Declaration.parseChars rest with
      | .error e => .error e.afterMark
      | .ok d => .ok d.afterMark
    else Declaration.parseChars (c :: rest)

/-! ### Lists in attributes -/

/-- What stands after the path of an item in a list. -/
inductive NestedContent
  | nothing
  | value (e : Expression)
  | list (body : Tokens)

/-- An item of a list in an attribute. -/
structure NestedItem where
  path : Path
  content : NestedContent

namespace Parser

/-- The segments of a path of any words after its first. -/
def wordSegments : Parser (List PathSegment) :=
  loop do
    if ← punct? "::" then return some { word := ← wordOfAnyKind } else return none

/-- A path of any words. -/
def wordPath : Parser Path := do
  let leading ← punct? "::"
  let first ← wordOfAnyKind
  return { leading, segments := { word := first } :: (← wordSegments) }

/-- An item of a list. -/
def nestedItem (g : Grammar) : Parser NestedItem := do
  let path ← wordPath
  if ← punct? "=" then return { path, content := .value (← g.expr true) }
  else if ← peek parens then
    let (_, content) ← rawGroup
    return { path, content := .list content }
  else return { path, content := .nothing }

end Parser

/-- **The items of a list in an attribute**, if the list consists of such items. -/
def NestedItem.parseAll? (body : Tokens) : Option (List NestedItem) :=
  match Parser.runAll (Parser.commaSeparated (Parser.nestedItem (.for body))) .whole body with
  | .ok items => some items
  | .error _ => none

/-! ### Names -/

/-- Whether a text is read as a single name. White space and comments around it do not count. -/
def isSingleName (text : String) : Bool :=
  match tokenize text.toList with
  | .ok [.token (.word w) _] => w.isName
  | _ => false

end RecordStore.Source
