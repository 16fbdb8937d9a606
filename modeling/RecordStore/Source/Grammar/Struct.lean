import RecordStore.Source.Grammar.Type

/-!
# Structs, enums and unions

A struct has named fields in braces, fields without names in parentheses, or none. Conditions on its
parameters come before the braces, or after the parentheses. All that a struct tells about its
fields is kept; enums and unions are only read over.
-/

namespace RecordStore.Source.Parser

variable (g : Grammar)

/-! ### Visibility -/

/-- Whether a group is one word for those who may use an item. -/
def isScopeWord : Tokens → Bool
  | [.token (.word w) _] => w.is "crate" || w.is "self" || w.is "super"
  | _ => false

/-- Who may use an item. The answer tells whether nothing is said about it. -/
def visibility : Parser Bool := do
  if !(← word? "pub") then return true
  match (← get).rest with
  | .group .parenthesis _ _ content :: _ => do
    if isScopeWord content then
      let _ ← group .parenthesis wordOfAnyKind
    else if (theWord "in").holds content then
      group .parenthesis do
        word "in"
        let _ ← plainPath
    return false
  | _ => return false

/-! ### Fields -/

/-- The name of a field, or the line in place of it. -/
def fieldName : Parser Word := do if ← peekWord "_" then wordOfAnyKind else name

/-- A field with a name. Where a line stands in place of the name, the fields of a struct or union
without a name may stand in place of the type. -/
def namedField : Parser Field := do
  let ((attributes, name, type, typeSpan), span) ← spanned do
    let attributes ← outerAttributes g
    let _ ← visibility
    let name ← fieldName
    punct ":"
    let union := (← peekWord "union") && (← peekSecond braces)
    if name.is "_" && ((← peekWord "struct") || union) then
      let (tokens, typeSpan) ← spanned <| tokensOf <| verbatim do
        let _ ← wordOfAnyKind
        let _ ← g.fields
      return (attributes, name, TypeExpr.nameless union (tokens.drop 1), typeSpan)
    else
      let (type, typeSpan) ← spanned (g.type true)
      return (attributes, name, type, typeSpan)
  return { attributes, name := some name, type, span, typeSpan }

/-- **Named fields in braces.** -/
def fieldsInBraces : Parser (List Field) := group .brace (commaSeparated (namedField g))

/-- A field without a name. -/
def unnamedField : Parser Field := do
  let ((attributes, type, typeSpan), span) ← spanned do
    let attributes ← outerAttributes g
    let _ ← visibility
    let (type, typeSpan) ← spanned (g.type true)
    return (attributes, type, typeSpan)
  return { attributes, name := none, type, span, typeSpan }

/-- Fields without names in parentheses. -/
def fieldsInParentheses : Parser (List Field) :=
  group .parenthesis (commaSeparated (unnamedField g))

/-! ### Structs -/

/-- The fields of a struct and the conditions on its parameters. -/
def structBody : Parser (List Field × Tokens) := do
  if ← peekWord "where" then
    let conditions ← conditions g
    if ← peek braces then return (← fieldsInBraces g, conditions)
    else if ← punct? ";" then return ([], conditions)
    else noneOf [braces, punctuation ";"]
  else if ← peek parens then
    let fields ← fieldsInParentheses g
    let conditioned ← peekWord "where"
    let conditions ← conditions g
    if ← punct? ";" then return (fields, conditions)
    else noneOf (if conditioned then [punctuation ";"] else [theWord "where", punctuation ";"])
  else if ← peek braces then return (← fieldsInBraces g, [])
  else if ← punct? ";" then return ([], [])
  else noneOf [theWord "where", parens, braces, punctuation ";"]

/-- **A struct**, from its word on. -/
def structItem : Parser StructItem := do
  word "struct"
  let (name, nameSpan) ← spanned name
  let params ← generics g
  let (fields, conditions) ← structBody g
  return { name, nameSpan, generics := { params with conditions }, fields }

/-! ### Enums and unions -/

/-- A variant of an enum. -/
def variant : Parser Unit := do
  let _ ← outerAttributes g
  let _ ← silently visibility
  let _ ← name
  if ← peek braces then
    let _ ← fieldsInBraces g
  else if ← peek parens then
    let _ ← fieldsInParentheses g
  if ← punct? "=" then
    let _ ← g.expr true

/-- An enum, from its word on. The answer is the part of the text that its name takes. -/
def enumItem : Parser Span := do
  word "enum"
  let (_, nameSpan) ← spanned name
  let _ ← generics g
  let _ ← conditions g
  let _ ← group .brace (commaSeparated (variant g))
  return nameSpan

/-- A union, from its word on. The answer is the part of the text that its name takes. -/
def unionItem : Parser Span := do
  word "union"
  let (_, nameSpan) ← spanned name
  let _ ← generics g
  let _ ← conditions g
  let _ ← fieldsInBraces g
  return nameSpan

end RecordStore.Source.Parser
