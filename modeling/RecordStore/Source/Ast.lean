import RecordStore.Source.Token

/-!
# Constructs of a source file

What the parser keeps of a source file: struct declarations with their fields, attributes and types
in some detail, and everything else as tokens in canonical form. Types and attributes are kept in
such a way that their tokens can be read off: a construct other than a plain path always shows in
them.
-/

namespace RecordStore.Source

/-! ### Paths -/

/-- The arguments at a segment of a path. -/
inductive PathArguments
  | none
  /-- Between angle brackets, maybe with colons before them. -/
  | angled (colons : Bool) (content : Tokens)
  /-- In parentheses, with the type that may follow; the parentheses are part of the tokens. -/
  | parenthesized (content : Tokens) (output : Tokens)

/-- The tokens of arguments. -/
def PathArguments.tokens : PathArguments → Tokens
  | .none => []
  | .angled colons content =>
    (if colons then punctTokens "::" else []) ++ punctTokens "<" ++ content ++ punctTokens ">"
  | .parenthesized content output => groupOf .parenthesis content :: output

/-- Whether nothing is said about arguments. -/
def PathArguments.isNone : PathArguments → Bool
  | .none => true
  | _ => false

/-- Whether there are no arguments, be it that nothing stands between the angle brackets. -/
def PathArguments.isEmpty : PathArguments → Bool
  | .none => true
  | .angled _ content => content.isEmpty
  | .parenthesized _ _ => false

/-- A segment of a path: a word, and its arguments. -/
structure PathSegment where
  word : Word
  arguments : PathArguments := .none

/-- The tokens of a segment. -/
def PathSegment.tokens (s : PathSegment) : Tokens :=
  (Token.word s.word).bare :: s.arguments.tokens

/-- **A path**: segments with colons between them, and maybe in front. -/
structure Path where
  leading : Bool := false
  segments : List PathSegment

namespace Path

/-- The tokens of segments. -/
def segmentTokens : List PathSegment → Tokens
  | [] => []
  | [s] => s.tokens
  | s :: rest => s.tokens ++ punctTokens "::" ++ segmentTokens rest

/-- The tokens of a path. -/
def tokens (p : Path) : Tokens :=
  (if p.leading then punctTokens "::" else []) ++ segmentTokens p.segments

/-- The word of a path that is nothing but a word. -/
def word? (p : Path) : Option Word :=
  match p.leading, p.segments with
  | false, [⟨w, .none⟩] => some w
  | _, _ => none

/-- Whether a path is a certain word. -/
def isWord (p : Path) (text : String) : Bool := p.word?.map Word.text == some text

/-- Whether no segment has arguments. -/
def isPlain (p : Path) : Bool := p.segments.all fun s => s.arguments.isNone

end Path

/-! ### Types -/

/-- How the bounds of an object type without its keyword start. -/
inductive FirstBound
  /-- With a quantifier over lifetimes. -/
  | quantified
  | lifetime (name : String)
  | parenthesized (content : Tokens)
  /-- With a path, and a plus sign after it. -/
  | path (p : Path)

/-- The tokens of the start of bounds. -/
def FirstBound.tokens : FirstBound → Tokens
  | .quantified => [wordToken "for"]
  | .lifetime name => [(Token.lifetime name).bare]
  | .parenthesized content => [groupOf .parenthesis content]
  | .path p => p.tokens ++ punctTokens "+"

/-- How the type of a function pointer may start. -/
inductive FunctionHead
  /-- With a quantifier over lifetimes. -/
  | quantified
  /-- As a function that is not checked. -/
  | unchecked
  /-- With the interface to another language. -/
  | foreign
  | plain
  deriving DecidableEq

/-- The word that a function pointer starts with. -/
def FunctionHead.token : FunctionHead → TokenTree
  | quantified => wordToken "for"
  | unchecked => wordToken "unsafe"
  | foreign => wordToken "extern"
  | plain => wordToken "fn"

/-- **A type.** -/
inductive TypeExpr
  | path (p : Path)
  /-- A path that starts with a type in angle brackets; the rest after the first of them. -/
  | qualified (rest : Tokens)
  | macroCall (p : Path) (body : TokenTree)
  | reference (rest : Tokens)
  | pointer (rest : Tokens)
  /-- A type in brackets, with a length or without. -/
  | array (content : Tokens)
  | tuple (content : Tokens)
  | parenthesized (content : Tokens)
  /-- A function pointer; the tokens follow the word that it starts with. -/
  | function (head : FunctionHead) (rest : Tokens)
  /-- `impl` and bounds. -/
  | anonymous (bounds : Tokens)
  /-- `dyn` and bounds. -/
  | object (bounds : Tokens)
  /-- Bounds alone; `single` tells that there is only one. -/
  | bareObject (first : FirstBound) (rest : Tokens) (single : Bool)
  /-- The fields of a struct or union without a name. -/
  | nameless (union : Bool) (fields : Tokens)
  | inferred
  | never

namespace TypeExpr

/-- The tokens of a type. -/
def tokens : TypeExpr → Tokens
  | path p => p.tokens
  | qualified rest => punctTokens "<" ++ rest
  | macroCall p body => p.tokens ++ punctTokens "!" ++ [body]
  | reference rest => punctTokens "&" ++ rest
  | pointer rest => punctTokens "*" ++ rest
  | array content => [groupOf .bracket content]
  | tuple content => [groupOf .parenthesis content]
  | parenthesized content => [groupOf .parenthesis content]
  | function head rest => head.token :: rest
  | anonymous bounds => wordToken "impl" :: bounds
  | object bounds => wordToken "dyn" :: bounds
  | bareObject first rest _ => first.tokens ++ rest
  | nameless union fields => (if union then wordToken "union" else wordToken "struct") :: fields
  | inferred => [wordToken "_"]
  | never => punctTokens "!"

end TypeExpr

/-! ### Expressions and patterns -/

/-- What the grammar asks of an expression. -/
inductive ExpressionForm
  /-- It is a literal; numbers with a sign and truth values do not count. -/
  | literal (l : Literal)
  /-- It ends with a block, so that it can be a statement by itself. -/
  | block
  /-- It calls a macro, with braces or other delimiters. -/
  | macroCall (braced : Bool)
  /-- It is a range, so that no operator may follow. -/
  | range
  /-- It compares, so that no comparison may follow. -/
  | comparison
  | other
  deriving DecidableEq

/-- **An expression**: its form, and its tokens. -/
structure Expression where
  form : ExpressionForm
  tokens : Tokens

/-- What the grammar asks of a pattern. -/
inductive PatternForm
  /-- Two points that stand for everything else. -/
  | rest
  /-- A range with an open end, its points at the given place. -/
  | openRange (span : Span)
  | other
  deriving DecidableEq

/-! ### Attributes -/

/-- What an attribute says. -/
inductive AttributeContent
  | path (p : Path)
  /-- A path with a list in delimiters. -/
  | list (p : Path) (d : Delimiter) (body : Tokens)
  /-- A path with a value after an equals sign. -/
  | nameValue (p : Path) (value : Expression)

namespace AttributeContent

/-- The path of an attribute. -/
def subject : AttributeContent → Path
  | path p => p
  | list p _ _ => p
  | nameValue p _ => p

/-- The tokens of what an attribute says. -/
def tokens : AttributeContent → Tokens
  | path p => p.tokens
  | list p d body => p.tokens ++ [groupOf d body]
  | nameValue p value => p.tokens ++ punctTokens "=" ++ value.tokens

end AttributeContent

/-- **An attribute** in front of what it is about. -/
structure Attribute where
  content : AttributeContent

/-- The tokens of an attribute. -/
def Attribute.tokens (a : Attribute) : Tokens :=
  punctTokens "#" ++ [groupOf .bracket a.content.tokens]

/-- Whether an attribute is documentation. -/
def Attribute.isDoc (a : Attribute) : Bool := a.content.subject.isWord "doc"

/-! ### Generic parameters -/

/-- The kinds of generic parameters. -/
inductive ParamKind
  | lifetime
  | type
  | constant
  deriving DecidableEq

/-- A generic parameter. -/
structure GenericParam where
  kind : ParamKind
  /-- The attributes. -/
  attributes : Tokens
  /-- What it is called. -/
  name : TokenTree
  /-- The declaration without the default. -/
  declaration : Tokens
  /-- The default, with the equals sign before it. -/
  fallback : Tokens
  /-- Whether a comma follows. -/
  comma : Bool

/-- **Generic parameters**, with the conditions on them. -/
structure Generics where
  params : List GenericParam := []
  /-- The conditions, without their keyword. -/
  conditions : Tokens := []

namespace Generics

/-- Parameters in angle brackets, lifetimes first, each written by `write`. -/
def angled (write : GenericParam → Tokens) (params : List GenericParam) : Tokens :=
  let comma (p : GenericParam) : Tokens := if p.comma then punctTokens "," else []
  let lifetimes := params.filter (·.kind == .lifetime)
  let others := params.filter (·.kind != .lifetime)
  let between : Tokens :=
    match lifetimes.getLast?, others with
    | some p, _ :: _ => if p.comma then [] else punctTokens ","
    | _, _ => []
  if params.isEmpty then []
  else
    punctTokens "<" ++ lifetimes.flatMap (fun p => write p ++ comma p) ++ between ++
      others.flatMap (fun p => write p ++ comma p) ++ punctTokens ">"

/-- The parameters as they are declared. -/
def tokens (g : Generics) : Tokens :=
  angled (fun p => p.attributes ++ p.declaration ++ p.fallback) g.params

/-- The parameters as they are declared for an implementation: without defaults. -/
def implTokens (g : Generics) : Tokens :=
  angled (fun p => p.attributes ++ p.declaration) g.params

/-- The parameters as arguments: their names. -/
def argumentTokens (g : Generics) : Tokens := angled (fun p => [p.name]) g.params

/-- The conditions with their keyword. -/
def whereTokens (g : Generics) : Tokens :=
  if g.conditions.isEmpty then [] else wordToken "where" :: g.conditions

end Generics

/-! ### Structs and items -/

/-- **A field of a struct.** -/
structure Field where
  attributes : List Attribute
  /-- The name, if the field has one. -/
  name : Option Word
  type : TypeExpr
  /-- The part of the text that the field takes. -/
  span : Span
  /-- The part of the text that its type takes. -/
  typeSpan : Span

/-- **A struct.** -/
structure StructItem where
  name : Word
  nameSpan : Span
  generics : Generics
  fields : List Field

/-- An item, as far as it matters. -/
inductive Item
  | struct (s : StructItem)
  | other

/-- The struct that an item declares. -/
def Item.struct? : Item → Option StructItem
  | .struct s => some s
  | .other => none

/-- **A source file**: its items in order. -/
structure SourceText where
  items : List Item

/-- The structs that a file declares at its top level. -/
def SourceText.structs (f : SourceText) : List StructItem := f.items.filterMap Item.struct?

end RecordStore.Source
