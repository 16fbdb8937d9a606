import RecordStore.Source.Grammar

/-!
# Attributes and blocks

An attribute is a path, alone, with a list in delimiters, or with a value. The value is a literal if
nothing follows it, and an expression otherwise. A block may start with attributes about itself.
-/

namespace RecordStore.Source.Parser

variable (g : Grammar)

/-! ### Plain paths -/

/-- The words that a segment of a path may be, besides names. -/
def pathWords : List Peek := 
  [theWord "super", theWord "self", theWord "Self", theWord "crate"]

/-- A segment of a plain path, if one stands here. -/
def plainSegment? : Parser (Option PathSegment) := do
  if ← peekAny (aName :: pathWords) then return some { word := ← wordOfAnyKind } else return none

/-- The segments of a plain path after one. -/
def plainSegments : Nat → Parser (List PathSegment)
  | 0 => return []
  | fuel + 1 => do
    if ← punct? "::" then
      match ← plainSegment? with
      | none => expected "path segment after `::`"
      | some s => return s :: (← plainSegments fuel)
    else return []

/-- **A path without arguments.** -/
def plainPath : Parser Path := do
  let leading ← punct? "::"
  match ← plainSegment? with
  | none => do
    let _ ← name
    expected "identifier"
  | some s => return { leading, segments := s :: (← plainSegments ((← get).rest.length + 1)) }

/-! ### Literals -/

/-- A literal as an expression. -/
def literalForm : Parser ExpressionForm := do
  match ← literal with
  | some l => return .literal l
  | none => return .other

/-- A literal at the end of the input, as an expression. -/
def lastLiteral : Parser Expression := do
  let (form, tokens) ← captured literalForm
  if ← atEnd then return { form, tokens } else fail .unexpected

/-! ### Attributes -/

/-- The content of a group, taken as it is, with its delimiter. -/
def rawGroup : Parser (Delimiter × Tokens) := do
  match (← get).rest with
  | .group d opening closing content :: rest => do
    take (.group d opening closing content) rest
    return (d, content)
  | _ => expected "delimiter"

/-- The value of an attribute. -/
def attributeValue : Parser Expression := do
  match ← attempt lastLiteral with
  | some value => return value
  | none =>
    if (← peekPunct "#") && (← peekSecond brackets) then fail .attributeInAttribute
    else g.expr true

/-- What an attribute says about its path. -/
def attributeAfter (p : Path) : Parser AttributeContent := do
  if ← peekAny [parens, brackets, braces] then
    let (d, body) ← rawGroup
    return .list p d body
  else if ← peekPunctNot "=" ["==", "=>"] then
    punct "="
    return .nameValue p (← attributeValue g)
  else return .path p

/-- What an attribute says. -/
def attributeContent : Parser AttributeContent := do
  if ← peekWord "unsafe" then
    word "unsafe"
    attributeAfter g { segments := [{ word := .of "unsafe" }] }
  else attributeAfter g (← plainPath)

/-- An attribute about what follows it. -/
def outerAttribute : Parser Attribute := do
  punct "#"
  return { content := ← group .bracket (attributeContent g) }

/-- **The attributes about what follows.** -/
def outerAttributes : Parser (List Attribute) :=
  loop do
    if ← peekPunct "#" then return some (← outerAttribute g) else return none

/-- The attributes about what they stand in. -/
def innerAttributes : Parser Unit := do
  let _ ← loop do
    if (← peekPunct "#") && (← peekSecond (punctuation "!")) then
      punct "#"
      punct "!"
      let _ ← group .bracket (attributeContent g)
      return some ()
    else return none

/-! ### Blocks -/

/-- A block. -/
def block : Parser Unit := group .brace g.statements

/-- A block that may start with attributes about itself. -/
def blockWithAttributes : Parser Unit :=
  group .brace do
    innerAttributes g
    g.statements

end RecordStore.Source.Parser
