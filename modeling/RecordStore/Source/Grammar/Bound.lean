import RecordStore.Source.Grammar.Path

/-!
# Bounds and generic parameters

A bound is a lifetime, a trait, or a list of captured parameters. A trait may stand in parentheses,
and may be quantified, optional or marked as constant. Generic parameters are declared in angle
brackets, and conditions on them follow `where`.
-/

namespace RecordStore.Source.Parser

variable (g : Grammar)

/-! ### Bounds -/

/-- Captured parameters. -/
def capture : Parser Unit := do
  word "use"
  punct "<"
  let _ ← loop do
    if ← peek aLifetime then lifetime
    else if ← peekAny [aName, theWord "Self"] then
      let _ ← wordOfAnyKind
    else if ← peekPunct ">" then return none
    else noneOf [aLifetime, aName, punctuation ">"]
    if ← punct? "," then return some ()
    else if ← peekPunct ">" then return none
    else noneOf [punctuation ",", punctuation ">"]
  punct ">"

/-- Reads a mark that a bound is constant, and tells whether there is one. -/
def constantMark (rules : BoundRules) : Parser Bool := do
  if ← peek brackets then
    let (_, span) ← spanned (group .bracket (word "const"))
    if !rules.constant then failAt span .conditionalConstNotAllowed
    return true
  else if ← peekWord "const" then
    let (_, span) ← spanned (word "const")
    if !rules.constant then failAt span .constNotAllowed
    return true
  else return false

/-- Reads a quantifier if one stands here, and tells whether it does. -/
def quantifier? : Parser Bool := do
  if ← peekWord "for" then
    g.quantifier
    return true
  else return false

/-- The path of a trait. Arguments in parentheses may follow it, with colons before them that are
not written. -/
def traitPath : Parser Unit := do
  let (p, _) ← silently do
    let p ← path g false
    if p.lastArguments.isEmpty && ((← peek parens) || (← peekColonsParens)) then
      let _ ← punct? "::"
      return p.setLastArguments (← parenthesizedArguments g)
    else return p
  write p.tokens

/-- A trait as a bound. The mark that it is optional is written before its quantifier. The answer
tells whether it is marked as constant. -/
def traitBound (rules : BoundRules) : Parser Bool := do
  let (quantified, lifetimes) ← silently (quantifier? g)
  let constant ← constantMark rules
  let optional ← punct? "?"
  write lifetimes
  if optional && !quantified then
    let _ ← quantifier? g
  traitPath g
  return constant

/-- **A bound.** The answer tells whether it is a trait. A constant one is written as it stands. -/
def bound (rules : BoundRules) : Parser Bool := do
  if ← peek aLifetime then
    lifetime
    return false
  else if ← peekWord "use" then
    let (_, span) ← spanned capture
    if rules.capture then return false else failAt span .captureNotAllowed
  else
    let _ ← verbatimIf id do
      if ← peek parens then group .parenthesis (traitBound g rules) else traitBound g rules
    return true

/-- Whether a bound can start here. -/
def peekBound (rules : BoundRules) : Parser Bool := do
  if ← peekAny [anyWord, punctuation "::", punctuation "?", aLifetime, parens] then return true
  else return rules.constant && (← peek brackets)

/-- Bounds of a type. For each, the answer tells whether it is a trait, and where it stands. -/
def bounds (rules : BoundRules) (plus : Bool) : Parser (List (Bool × Span)) := do
  let first ← spanned (g.bound rules)
  if !plus then return [first]
  let more ← loop do
    if ← punct? "+" then
      if ← peekBound rules then return some (← spanned (g.bound rules)) else return none
    else return none
  return first :: more

/-- Bounds of a type, one of which at least is a trait. What is reported starts at the given place.
-/
def boundsWithTrait (rules : BoundRules) (plus : Bool) (start : Position) (fault : SyntaxFault) :
    Parser Unit := do
  let bs ← bounds g rules plus
  if !bs.any (·.1) then failAt ⟨start, (bs.getLast?.map (·.2.stop)).getD start⟩ fault

/-- More bounds, each after a plus sign. -/
def moreBounds : Parser Tokens :=
  tokensOf <| loop do
    if ← punct? "+" then return some (← g.bound {}) else return none

/-! ### Generic parameters -/

/-- The tokens of attributes. -/
def attributeTokens : Parser Tokens := tokensOf (outerAttributes g)

/-- The name of a parameter, as a token. -/
def paramName (p : Parser Unit) : Parser TokenTree := do
  match ← tokensOf p with
  | tree :: _ => return tree
  | [] => expected "identifier"

/-- A lifetime as a parameter. -/
def lifetimeParam (attributes : Tokens) : Parser GenericParam := do
  let tree ← paramName lifetime
  let mut declaration := [tree]
  if ← peekPunct ":" then
    let limits ← tokensOf do
      punct ":"
      let _ ← loop do
        if (← atEnd) || (← peekPunct ",") || (← peekPunct ">") then return none
        lifetime
        if ← punct? "+" then return some () else return none
    if 1 < limits.length then declaration := tree :: limits
  return { kind := .lifetime, attributes, name := tree, declaration, fallback := [], comma := false }

/-- A type as a parameter. -/
def typeParam (attributes : Tokens) : Parser GenericParam := do
  let tree ← paramName (discard name)
  let mut declaration := [tree]
  if ← peekPunct ":" then
    let limits ← tokensOf do
      punct ":"
      boundsUntil g
        (return (← atEnd) || (← peekAny [punctuation ",", punctuation ">", punctuation "="]))
        { constant := true }
    if 1 < limits.length then declaration := tree :: limits
  let fallback ← tokensOf do
    if ← punct? "=" then
      let _ ← g.type true
  return { kind := .type, attributes, name := tree, declaration, fallback, comma := false }

/-- A constant as a parameter. -/
def constantParam (attributes : Tokens) : Parser GenericParam := do
  word "const"
  let tree ← paramName (discard name)
  let type ← tokensOf do
    punct ":"
    let _ ← g.type true
  let fallback ← tokensOf do
    if ← punct? "=" then constantArgument g
  return {
    kind := .constant, attributes, name := tree
    declaration := wordToken "const" :: tree :: type
    fallback, comma := false }

/-- A generic parameter. -/
def genericParam : Parser GenericParam := do
  let attributes ← attributeTokens g
  if ← peek aLifetime then lifetimeParam attributes
  else if ← peek aName then typeParam g attributes
  else if ← peekWord "const" then constantParam g attributes
  else if ← peekWord "_" then
    let tree ← paramName (word "_")
    return {
      kind := .type, attributes, name := tree, declaration := [tree], fallback := []
      comma := false }
  else noneOf [aLifetime, aName, theWord "const"]

/-- Generic parameters, if there are any. -/
def genericParams : Parser (List GenericParam) := do
  if ← peekPunct "<" then
    let (params, _) ← silently do
      punct "<"
      let params ← separated (peekPunct ">") "," (genericParam g)
      punct ">"
      return params
    return params.map fun (p, comma) => { p with comma }
  else return []

/-- Generic parameters, if there are any, written with the lifetimes first. -/
def generics : Parser Generics := do
  let all : Generics := { params := ← genericParams g }
  write all.tokens
  return all

/-- A quantifier over lifetimes. -/
def quantifier : Parser Unit := do
  word "for"
  punct "<"
  let _ ← separated (peekPunct ">") "," do
    let attributes ← attributeTokens g
    if ← peek aName then typeParam g attributes
    else if ← peek aLifetime then lifetimeParam attributes
    else if ← peekWord "const" then constantParam g attributes
    else noneOf [aName, aLifetime, theWord "const"]
  punct ">"

/-! ### Conditions -/

/-- Whether a condition ends here. -/
def peekConditionEnd : Parser Bool := do
  if (← atEnd) || (← peekAny [braces, punctuation ",", punctuation ";", punctuation "="]) then
    return true
  else peekPunctNot ":" ["::"]

/-- A condition on a parameter. -/
def condition : Parser Unit := do
  if (← peek aLifetime) && (← peekSecond (punctuation ":")) then
    lifetime
    punct ":"
    let _ ← loop do
      if ← peekConditionEnd then return none
      lifetime
      if ← punct? "+" then return some () else return none
  else
    let _ ← quantifier? g
    let _ ← g.type true
    punct ":"
    boundsUntil g peekConditionEnd { constant := true }

/-- Conditions on the parameters, if there are any. The answer leaves their keyword out. -/
def conditions : Parser Tokens := do
  if ← peekWord "where" then
    let (_, tokens) ← silently do
      word "where"
      let (_, tokens) ← silently do
        let _ ← loop do
          if ← peekConditionEnd then return none
          condition g
          if ← punct? "," then return some () else return none
      write tokens
    let tokens := tokens.drop 1
    if !tokens.isEmpty then write (wordToken "where" :: tokens)
    return tokens
  else return []

end RecordStore.Source.Parser
