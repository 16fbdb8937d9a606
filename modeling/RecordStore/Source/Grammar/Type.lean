import RecordStore.Source.Grammar.Bound

/-!
# Types

Where a plus sign may follow, a path or a bound in parentheses is the start of a sum of bounds,
which is an object type without its keyword. Parentheses without anything, or with a comma, hold a
tuple.
-/

namespace RecordStore.Source.Parser

variable (g : Grammar)

/-- The place where the next tree starts. -/
def nextStart : Parser Position := return (placeOfNext (← get)).start

/-! ### Paths as types -/

/-- More bounds of a sum that starts with a path. A plus sign may end it. -/
def sumAfterPath : Parser Tokens :=
  tokensOf <| loop do
    if ← punct? "+" then
      if ← peekBound {} then return some (← g.bound {}) else return none
    else return none

/-- A type that starts with a path, after the quantifier if there is one. -/
def pathType (quantifier : Tokens) (plus : Bool) : Parser TypeExpr := do
  let (start, p) ← qualifiedPath g false
  if let some start := start then return .qualified ((start ++ p.tokens).drop 1)
  if (← peekPunctNot "!" ["!="]) && p.isPlain then
    punct "!"
    match (← get).rest with
    | body :: _ => do
      let _ ← rawGroup
      return .macroCall p body
    | [] => expected "delimiter"
  else if quantifier.isEmpty then
    if plus && (← peekPunct "+") then
      return .bareObject (.path p) ((← sumAfterPath g).drop 1) false
    else return .path p
  else
    let more ← if plus then sumAfterPath g else pure []
    return .bareObject .quantified (quantifier.drop 1 ++ p.tokens ++ more) more.isEmpty

/-! ### Parentheses -/

/-- What may stand in the parentheses of a type. -/
inductive Parenthesized
  /-- Nothing, or types of which the first has a comma after it. -/
  | tuple
  /-- Bounds, with a lifetime first. -/
  | bounds
  /-- A bound that is optional. -/
  | optional
  | type (t : TypeExpr)

/-- The content of the parentheses of a type. -/
def parenthesizedContent : Parser Parenthesized := do
  if ← atEnd then return .tuple
  else if ← peek aLifetime then
    boundsWithTrait g {} true (← nextStart) .objectWithoutTrait
    return .bounds
  else if ← peekPunct "?" then
    let _ ← traitBound g {}
    return .optional
  else
    let first ← g.type true
    if ← punct? "," then
      let _ ← commaSeparated (g.type true)
      return .tuple
    else return .type first

/-- The bound that a type in parentheses may be read as. -/
def boundOf? : TypeExpr → Option Tokens
  | .path p => some p.tokens
  | .bareObject (.parenthesized content) _ true => some content
  | .bareObject first rest true => some (first.tokens ++ rest)
  | _ => none

/-- A type that starts with parentheses. -/
def parenthesizedType (plus : Bool) : Parser TypeExpr :=
  groupThen .parenthesis (captured (parenthesizedContent g)) fun (kind, content) => do
    match kind with
    | .tuple => return .tuple content
    | .bounds => return .parenthesized content
    | .optional => do
      let more ← moreBounds g
      return .bareObject (.parenthesized content) more more.isEmpty
    | .type t =>
      if plus && (← peekPunct "+") then
        match boundOf? t with
        | some content => return .bareObject (.parenthesized content) (← moreBounds g) false
        | none => return .parenthesized content
      else return .parenthesized content

/-! ### Function pointers -/

/-- The interface to another language, if one is named. -/
def abi : Parser Unit := do
  if ← word? "extern" then
    if ← peek aString then
      let _ ← literal

/-- An argument of a function pointer. A receiver is written as it stands. -/
def pointerArgument (first : Bool) : Parser Unit := do
  let _ ← verbatimIf id do
    let changing ←
      if first && (← peekSecond (theWord "self")) then word? "mut" else pure false
    let receiver := first && (← peekWord "self")
    let named ←
      if (receiver || (← peekAny [aName, theWord "_"])) && (← peekSecond (punctuation ":")) &&
          !(← peekSecond (punctuation "::")) then
        let _ ← wordOfAnyKind
        punct ":"
        pure true
      else pure false
    if first && !(receiver && named) && (← peekWord "mut") && (← peekSecond (theWord "self")) then
      word "mut"
      word "self"
      return true
    else if changing && !named then
      word "self"
      return true
    else
      let _ ← g.type true
      return changing

/-- Whether the mark for any number of arguments stands here, with a name or without. -/
def peekVariadic : Parser Bool := do
  if ← peekPunct "..." then return true
  else
    return (← peekAny [aName, theWord "_"]) && (← peekSecond (punctuation ":")) &&
      (← peekThird (punctuation "..."))

/-- The arguments of a function pointer. -/
def pointerArguments (first : Bool) : Nat → Parser Unit
  | 0 => return ()
  | fuel + 1 => do
    if ← atEnd then return ()
    let _ ← outerAttributes g
    if ← peekVariadic then
      if ← peekAny [aName, theWord "_"] then
        let _ ← wordOfAnyKind
        punct ":"
      punct "..."
      let _ ← punct? ","
    else
      pointerArgument g first
      if ← atEnd then return ()
      punct ","
      pointerArguments false fuel

/-- The type of a function pointer, after the quantifier if there is one. -/
def functionPointer (quantifier : Tokens) : Parser TypeExpr := do
  let head : FunctionHead ←
    if ← peekWord "unsafe" then pure .unchecked
    else if ← peekWord "extern" then pure .foreign
    else pure .plain
  let tokens ← tokensOf do
    let _ ← word? "unsafe"
    abi
    word "fn"
    groupThen .parenthesis (do pointerArguments g true ((← get).rest.length + 1)) fun _ =>
      returnType g false
  if quantifier.isEmpty then return .function head (tokens.drop 1)
  else return .function .quantified (quantifier.drop 1 ++ tokens)

/-! ### All types -/

/-- An object type. With a star it is written as it stands. -/
def objectType (plus : Bool) : Parser TypeExpr := do
  let start ← nextStart
  let tokens ← tokensOf do
    verbatimIf id do
      word "dyn"
      let star ← punct? "*"
      boundsWithTrait g {} plus start .objectWithoutTrait
      return star
  return .object (tokens.drop 1)

/-- A type that some implementation of the bounds stands for. -/
def anonymousType (plus : Bool) : Parser TypeExpr := do
  let start ← nextStart
  let tokens ← tokensOf do
    word "impl"
    boundsWithTrait g { capture := true, constant := true } plus start .anonymousWithoutTrait
  return .anonymous (tokens.drop 1)

/-- A type in brackets, with a length or without. -/
def arrayType : Parser TypeExpr := do
  let (_, content) ← group .bracket <| captured do
    let _ ← g.type true
    if ← punct? ";" then
      let _ ← g.expr true
  return .array content

/-- The type of a pointer without guarantees. -/
def pointerType : Parser TypeExpr := do
  let tokens ← tokensOf do
    punct "*"
    if ← peekWord "const" then word "const"
    else if ← peekWord "mut" then word "mut"
    else noneOf [theWord "const", theWord "mut"]
    let _ ← g.type false
  return .pointer (tokens.drop 1)

/-- The type of a reference. -/
def referenceType : Parser TypeExpr := do
  let tokens ← tokensOf do
    punct "&"
    if ← peek aLifetime then lifetime
    let _ ← word? "mut"
    let _ ← g.type false
  return .reference (tokens.drop 1)

/-- An object type without its keyword that starts with a lifetime. -/
def lifetimeObject : Parser TypeExpr := do
  let start ← nextStart
  match (← get).rest with
  | .token (.lifetime name) _ :: _ => do
    let tokens ← tokensOf (boundsWithTrait g {} true start .objectWithoutTrait)
    return .bareObject (.lifetime name) (tokens.drop 1) false
  | _ => expected "lifetime"

/-- The words that the path of a type may start with, besides names. -/
def typeWords : List Peek := [theWord "super", theWord "self", theWord "Self", theWord "crate"]

/-- The words that the type of a function pointer may start with. -/
def pointerWords : List Peek := [theWord "fn", theWord "unsafe", theWord "extern"]

/-- The quantifier at the start of a type. It is not written. -/
def typeQuantifier : Parser Tokens := do
  if ← peekWord "for" then
    let (_, quantifier) ← silently (Parser.quantifier g)
    if ← peekAny (aName :: pointerWords ++ typeWords) then return quantifier
    else noneOf (aName :: pointerWords ++ typeWords)
  else return []

/-- A type, which is not written. -/
def typeForm (plus : Bool) : Parser TypeExpr := do
  let quantifier ← typeQuantifier g
  if ← peek parens then parenthesizedType g plus
  else if ← peekAny pointerWords then functionPointer g quantifier
  else if ← peekAny (aName :: typeWords ++ [punctuation "::", punctuation "<"]) then
    pathType g quantifier plus
  else if ← peekWord "dyn" then objectType g plus
  else if ← peek brackets then arrayType g
  else if ← peekPunct "*" then pointerType g
  else if ← peekPunct "&" then referenceType g
  else if ← punct? "!" then return .never
  else if ← peekWord "impl" then anonymousType g plus
  else if ← word? "_" then return .inferred
  else if ← peek aLifetime then lifetimeObject g
  else
    noneOf <| [theWord "for", parens] ++ pointerWords ++
      [aName, punctuation "::", punctuation "<", theWord "dyn", brackets, punctuation "*",
        punctuation "&", punctuation "!", theWord "impl", theWord "_", aLifetime]

/-- **A type.** -/
def type (plus : Bool) : Parser TypeExpr := do
  let (t, _) ← silently (typeForm g plus)
  write t.tokens
  return t

end RecordStore.Source.Parser
