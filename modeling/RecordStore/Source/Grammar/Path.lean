import RecordStore.Source.Grammar.Attribute

/-!
# Paths, bounds and generic arguments

A segment of a path may have arguments in angle brackets, which need colons before them inside of
expressions, or in parentheses where a trait or a type is named. Among arguments in angle brackets
the lifetimes are written first.
-/

namespace RecordStore.Source

/-- The arguments at the last segment. -/
def Path.lastArguments (p : Path) : PathArguments :=
  match p.segments.getLast? with
  | some s => s.arguments
  | none => .none

/-- The path with other arguments at the last segment. -/
def Path.setLastArguments (p : Path) (arguments : PathArguments) : Path :=
  match p.segments.getLast? with
  | some s => { p with segments := p.segments.dropLast ++ [{ s with arguments }] }
  | none => p

namespace Parser

variable (g : Grammar)

/-! ### Generic arguments -/

/-- A constant as a generic argument. -/
def constantArgument : Parser Unit := do
  if ← peek aLiteral then
    let _ ← literal
  else if ← peek aName then
    let _ ← name
  else if ← peek braces then blockWithAttributes g
  else fail .unexpected

/-- Bounds with plus signs between them, up to something that ends them. -/
def boundsUntil (stop : Parser Bool) (rules : BoundRules) : Parser Unit := do
  let _ ← loop do
    if ← stop then return none
    let _ ← g.bound rules
    if ← punct? "+" then return some () else return none

/-- The path that a type must be to name an associated item: one segment, without arguments in
parentheses. -/
def isAssociatedName : TypeExpr → Bool
  | .path ⟨false, [⟨_, .parenthesized _ _⟩]⟩ => false
  | .path ⟨false, [_]⟩ => true
  | _ => false

/-- A generic argument; the answer tells whether it is a lifetime. -/
def genericArgument : Parser Bool := do
  if (← peek aLifetime) && !(← peekSecond (punctuation "+")) then
    lifetime
    return true
  else if ← peekAny [aLiteral, braces] then
    constantArgument g
    return false
  else
    let type ← g.type true
    if isAssociatedName type then
      if ← punct? "=" then
        if ← peekAny [aLiteral, braces] then constantArgument g
        else
          let _ ← g.type true
      else if ← punct? ":" then
        boundsUntil g (peekAny [punctuation ",", punctuation ">"]) { constant := true }
    return false

/-- Arguments with the lifetimes first. Each comes with its tokens and with whether a comma follows.
-/
def lifetimesFirst (arguments : List ((Bool × Tokens) × Bool)) : Tokens :=
  let written (a : (Bool × Tokens) × Bool) : Tokens :=
    a.1.2 ++ if a.2 then punctTokens "," else []
  let lifetimes := arguments.filter (·.1.1)
  let others := arguments.filter (!·.1.1)
  let between : Tokens :=
    match lifetimes.getLast?, others with
    | some (_, false), _ :: _ => punctTokens ","
    | _, _ => []
  lifetimes.flatMap written ++ between ++ joined others
where
  /-- The other arguments, with the commas between them. -/
  joined : List ((Bool × Tokens) × Bool) → Tokens
    | [] => []
    | [((_, tokens), comma)] => tokens ++ if comma then punctTokens "," else []
    | ((_, tokens), _) :: rest => tokens ++ punctTokens "," ++ joined rest

/-- Generic arguments in angle brackets, after the colons if there are any. -/
def angledArguments (colons : Bool) : Parser PathArguments := do
  let (arguments, _) ← silently do
    punct "<"
    let arguments ← separated (peekPunct ">") "," (captured (genericArgument g))
    punct ">"
    return arguments
  let content := lifetimesFirst arguments
  write (punctTokens "<" ++ content ++ punctTokens ">")
  return .angled colons content

/-- The type that a function answers, if one is named. -/
def returnType (plus : Bool) : Parser Unit := do
  if ← punct? "->" then
    let _ ← g.type plus

/-- Arguments in parentheses, with the type that may follow them. -/
def parenthesizedArguments : Parser PathArguments :=
  groupThen .parenthesis (captured (commaSeparated (g.type true))) fun (_, content) => do
    return .parenthesized content (← tokensOf (returnType g false))

/-! ### Paths -/

/-- Whether colons and then arguments in parentheses stand here. -/
def peekColonsParens : Parser Bool := return (← peekPunct "::") && (← peekThird parens)

/-- A segment of a path. Inside of expressions, arguments need colons. -/
def pathSegment (inExpression : Bool) : Parser PathSegment := do
  if ← peekAny [theWord "super", theWord "self", theWord "crate", theWord "try"] then
    return { word := ← wordOfAnyKind }
  let w ← if ← peekWord "Self" then wordOfAnyKind else name
  if !inExpression && (← peekPunctNot "<" ["<=", "<<="]) then
    return { word := w, arguments := ← angledArguments g false }
  else if (← peekPunct "::") && (← peekThird (punctuation "<")) then
    punct "::"
    return { word := w, arguments := ← angledArguments g true }
  else return { word := w }

/-- The segments of a path after one. -/
def pathSegments (inExpression : Bool) : Parser (List PathSegment) :=
  loop do
    if (← peekPunct "::") && !(← peekThird parens) then
      punct "::"
      return some (← pathSegment g inExpression)
    else return none

/-- **A path.** -/
def path (inExpression : Bool) : Parser Path := do
  let leading ← punct? "::"
  let first ← pathSegment g inExpression
  return { leading, segments := first :: (← pathSegments g inExpression) }

/-- The start of a path in angle brackets: a type, and maybe a trait. -/
def selfType : Parser Unit := do
  punct "<"
  let _ ← g.type true
  if ← word? "as" then
    let _ ← path g false
  punct ">"
  punct "::"

/-- A path that may start with a type in angle brackets, which is not written. The answer gives the
tokens of that start, and the path, or what follows of it. -/
def qualifiedPath (inExpression : Bool) : Parser (Option Tokens × Path) := do
  let (answer, _) ← silently do
    if ← peekPunct "<" then
      let start ← tokensOf (selfType g)
      let first ← pathSegment g inExpression
      let more ← loop do
        if ← punct? "::" then return some (← pathSegment g inExpression) else return none
      return (some start, { segments := first :: more })
    else return (none, ← path g inExpression)
  return answer

end Parser

end RecordStore.Source
