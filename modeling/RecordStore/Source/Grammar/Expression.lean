import RecordStore.Source.Grammar.Operator

/-!
# Expressions

An expression is an atom with calls, fields and the like after it, signs before it, and operators
between. Where a block follows an expression, as after `if`, the fields of a struct cannot stand
directly after its name. An expression that ends with a block may stand in a statement or an arm
without anything after it, and then no operator goes on with it.
-/

namespace RecordStore.Source.Parser

variable (g : Grammar)

/-! ### Blocks and loops -/

/-- An expression that a block follows. -/
def headExpression : Parser Unit := discard (g.expr false)

/-- A choice by a condition, with further conditions; `fuel` bounds their number. -/
def ifExpressionFrom : Nat → Parser Unit
  | 0 => return ()
  | fuel + 1 => do
    word "if"
    headExpression g
    block g
    if ← word? "else" then
      if ← peekWord "if" then ifExpressionFrom fuel
      else if ← peek braces then block g
      else noneOf [theWord "if", braces]

/-- A choice by conditions. -/
def ifExpression : Parser Unit := do ifExpressionFrom g ((← get).rest.length + 1)

/-- A loop under a condition. -/
def whileLoop : Parser Unit := do
  word "while"
  headExpression g
  blockWithAttributes g

/-- A loop over values. -/
def forLoop : Parser Unit := do
  word "for"
  let _ ← choiceWithBar g
  word "in"
  headExpression g
  blockWithAttributes g

/-- A loop without end. -/
def endlessLoop : Parser Unit := do
  word "loop"
  blockWithAttributes g

/-- A block after a word. -/
def unsafeBlock : Parser Unit := do
  word "unsafe"
  blockWithAttributes g

/-- A block that is a constant. -/
def constantBlock : Parser Unit := do
  word "const"
  blockWithAttributes g

/-- A block that may be left early. -/
def tryBlock : Parser Unit := do
  word "try"
  block g

/-- A loop or block after its label. -/
def labelled : Parser Unit := do
  lifetime
  punct ":"
  if ← peekWord "while" then whileLoop g
  else if ← peekWord "for" then forLoop g
  else if ← peekWord "loop" then endlessLoop g
  else if ← peek braces then blockWithAttributes g
  else expected "loop or block expression"

/-! ### After an atom -/

/-- Expressions with commas between them. -/
def expressions : Parser Unit := discard (commaSeparated (g.expr true))

/-- The parts of a float between its points. -/
def floatParts (text : List Char) : List (List Char) :=
  match text with
  | [] => [[]]
  | '.' :: rest => [] :: floatParts rest
  | c :: rest =>
    match floatParts rest with
    | part :: parts => (c :: part) :: parts
    | [] => [[c]]

/-- Positions that a float stands for, as after a point in `pair.0.1`. The answer tells whether the
float ends with a point. -/
def floatPositions (l : Literal) (span : Span) : Parser Bool := do
  let text := l.text.toList
  let endsWithPoint := text.getLast? == some '.'
  let parts := floatParts (if endsWithPoint then text.dropLast else text)
  let tokens ← parts.mapM fun part =>
    if (scanFloat part).isSome then failAt span (.expected ["integer literal"])
    else
      match position? (String.ofList part) with
      | .ok n => pure [integerToken n]
      | .error fault => failAt span fault
  let point := punctTokens "."
  write (point.intercalate tokens ++ if endsWithPoint then point else [])
  return endsWithPoint

/-- A member after a point, with the arguments of a call if it is a method. -/
def memberAccess : Parser Unit := do
  if ← word? "await" then return ()
  let named ← member
  let arguments ←
    if named && (← peekPunct "::") then
      punct "::"
      let _ ← angledArguments g true
      pure true
    else peek parens
  if named && arguments then group .parenthesis (expressions g)

/-- What follows a point. -/
def afterPoint : Parser Unit := do
  match (← get).rest with
  | .token (.literal l) span :: rest =>
    if l.kind == .float then
      moveTo (.token (.literal l) span) rest
      if ← floatPositions l span then memberAccess g
    else memberAccess g
  | _ => memberAccess g

/-- Reads what follows an atom and belongs to it. -/
def trailersFrom (form : ExpressionForm) : Nat → Parser ExpressionForm
  | 0 => return form
  | fuel + 1 => do
    if ← peek parens then
      group .parenthesis (expressions g)
      trailersFrom .other fuel
    else if (← peekPunctNot "." [".."]) && form != .range then
      punct "."
      afterPoint g
      trailersFrom .other fuel
    else if ← peek brackets then
      let _ ← group .bracket (g.expr true)
      trailersFrom .other fuel
    else if (← peekPunct "?") && form != .range then
      punct "?"
      trailersFrom .other fuel
    else return form

/-- Calls, fields, indices and the like after an atom. -/
def trailers (form : ExpressionForm) : Parser ExpressionForm := do
  trailersFrom g form ((← get).rest.length + 1)

/-! ### Atoms -/

/-- The value of a field of a struct. -/
def fieldValue : Parser Unit := do
  let _ ← outerAttributes g
  let named ← member
  if (← peekPunct ":") || !named then
    punct ":"
    let _ ← g.expr true

/-- The values of the fields of a struct; `fuel` bounds their number. -/
def fieldValues : Nat → Parser Unit
  | 0 => return ()
  | fuel + 1 => do
    if ← atEnd then return ()
    else if ← punct? ".." then
      if !(← atEnd) then
        let _ ← g.expr true
    else
      fieldValue g
      if ← atEnd then return ()
      punct ","
      fieldValues fuel

/-- An expression that starts with a path. -/
def pathExpression (allowStruct : Bool) : Parser ExpressionForm := do
  let (start, p) ← qualifiedPath g true
  write (start.getD [] ++ p.tokens)
  if start.isNone && (← peekPunctNot "!" ["!="]) && p.isPlain then
    punct "!"
    let (d, _) ← rawGroup
    return .macroCall (d == .brace)
  else if allowStruct && (← peek braces) then
    group .brace do fieldValues g ((← get).rest.length + 1)
    return .other
  else return .other

/-- A parameter of a closure. -/
def closureParameter : Parser Unit := do
  let _ ← outerAttributes g
  let _ ← g.pattern
  if ← punct? ":" then
    let _ ← g.type true

/-- A closure. With the type of its answer named, its body is a block. -/
def closure (allowStruct : Bool) : Parser ExpressionForm := do
  if ← peekWord "for" then g.quantifier
  let _ ← word? "const"
  let _ ← word? "static"
  let _ ← word? "async"
  let _ ← word? "move"
  punct "|"
  let _ ← separated (peekPunct "|") "," (closureParameter g)
  punct "|"
  if ← punct? "->" then
    let _ ← g.type true
    block g
  else
    let _ ← g.expr allowStruct
  return .other

/-- Whether a closure starts here. -/
def peekClosure : Parser Bool := do
  if ← peekAny [punctuation "|", theWord "move", theWord "static"] then return true
  else if ← peekWord "for" then
    return (← peekSecond (punctuation "<")) &&
      ((← peekThird aLifetime) || (← peekThird (punctuation ">")))
  else if ← peekWord "const" then return !(← peekSecond braces)
  else if ← peekWord "async" then
    return (← peekSecond (punctuation "|")) || (← peekSecond (theWord "move"))
  else return false

/-- What the compiler offers under a name of its own, kept as it stands. -/
def builtinExpression : Parser ExpressionForm := do
  verbatim do
    word "builtin"
    punct "#"
    let _ ← name
    group .parenthesis remaining
  return .other

/-- Whether an expression can start here. -/
def peekExpression : Parser Bool := do
  if ← peekWord "as" then return false
  else if ← peekAny
      [anyWord, parens, brackets, braces, aLiteral, punctuation "..", punctuation "::", aLifetime,
        punctuation "#"] then
    return true
  else if ← peekPunctNot "!" ["!="] then return true
  else if ← peekPunctNot "-" ["-=", "->"] then return true
  else if ← peekPunctNot "*" ["*="] then return true
  else if ← peekPunctNot "|" ["|="] then return true
  else if ← peekPunctNot "&" ["&="] then return true
  else peekPunctNot "<" ["<=", "<<="]

/-- A value that may be left out. -/
def optionalValue : Parser Unit := do
  if ← peekExpression then
    let _ ← g.expr true

/-- Leaving a loop or block. -/
def breakExpression (allowStruct : Bool) : Parser ExpressionForm := do
  word "break"
  if (← peek aLifetime) && (← peekSecond (punctuation ":")) then
    let (_, span) ← spanned (g.expr true)
    failAt span .labelNeedsParentheses
  if ← peek aLifetime then lifetime
  if allowStruct || !(← peek braces) then optionalValue g
  return .other

/-- Values in brackets, or one value and how often. -/
def arrayExpression : Parser ExpressionForm := do
  group .bracket do
    if ← atEnd then return ()
    let _ ← g.expr true
    if (← atEnd) || (← punct? ",") then expressions g
    else if ← punct? ";" then
      let _ ← g.expr true
    else expected "`,` or `;`"
  return .other

/-- An arm of a choice by patterns. -/
def arm : Parser Unit := do
  let _ ← outerAttributes g
  let _ ← choiceWithBar g
  if ← word? "if" then
    let _ ← g.expr true
  punct "=>"
  let form ← g.early
  if form != .block && !(← atEnd) then punct ","
  else
    let _ ← punct? ","

/-- A choice by patterns. -/
def matchExpression : Parser Unit := do
  word "match"
  headExpression g
  group .brace do
    innerAttributes g
    let _ ← untilEnd (arm g)

/-- A pattern with what is matched against it. -/
def letExpression (allowStruct : Bool) : Parser ExpressionForm := do
  word "let"
  let _ ← choiceWithBar g
  punct "="
  let form ← g.unary allowStruct
  let _ ← g.operators allowStruct .compare form
  return .other

/-- The words that an expression with a path may start with, besides names. -/
def expressionWords : List Peek :=
  [punctuation "::", punctuation "<", theWord "self", theWord "Self", theWord "super",
    theWord "crate"]

/-- Whether an expression here starts with a path. -/
def peekPathExpression : Parser Bool := do
  if ← peekAny (aName :: expressionWords) then return true
  else if ← peekWord "try" then
    return (← peekSecond (punctuation "!")) || (← peekSecond (punctuation "::"))
  else return false

/-- Whether a block that waits for other work starts here. -/
def peekAsyncBlock : Parser Bool := do
  if ← peekWord "async" then
    return (← peekSecond braces) || ((← peekSecond (theWord "move")) && (← peekThird braces))
  else return false

/-- A block that waits for other work. -/
def asyncBlock : Parser Unit := do
  word "async"
  let _ ← word? "move"
  block g

/-- An expression that ends with a block. -/
def blockExpression? : Parser (Option Unit) := do
  if ← peekWord "if" then return some (← ifExpression g)
  else if ← peekWord "while" then return some (← whileLoop g)
  else if ← peekWord "for" then return some (← forLoop g)
  else if ← peekWord "loop" then return some (← endlessLoop g)
  else if ← peekWord "match" then return some (← matchExpression g)
  else if (← peekWord "try") && (← peekSecond braces) then return some (← tryBlock g)
  else if ← peekWord "unsafe" then return some (← unsafeBlock g)
  else if (← peekWord "const") && (← peekSecond braces) then return some (← constantBlock g)
  else if ← peek braces then return some (← blockWithAttributes g)
  else if ← peek aLifetime then return some (← labelled g)
  else return none

/-- An atom that ends with no block, or not always. -/
def plainAtom? (allowStruct : Bool) : Parser (Option ExpressionForm) := do
  if ← peek aLiteral then return some (← literalForm)
  else if ← peekAsyncBlock then
    asyncBlock g
    return some .other
  else if ← peekClosure then return some (← closure g allowStruct)
  else if (← peekWord "builtin") && (← peekSecond (punctuation "#")) then
    return some (← builtinExpression)
  else if ← peekPathExpression then return some (← pathExpression g allowStruct)
  else if ← peek parens then
    group .parenthesis (expressions g)
    return some .other
  else if ← peekWord "break" then return some (← breakExpression g allowStruct)
  else if ← word? "continue" then
    if ← peek aLifetime then lifetime
    return some .other
  else if ← word? "return" then
    optionalValue g
    return some .other
  else if ← peekWord "become" then
    verbatim do
      word "become"
      let _ ← g.expr true
    return some .other
  else if ← peek brackets then return some (← arrayExpression g)
  else if ← peekWord "let" then return some (← letExpression g allowStruct)
  else if ← word? "yield" then
    optionalValue g
    return some .other
  else if ← peekPunct ".." then return some (← rangeExpression g allowStruct)
  else if ← word? "_" then return some .other
  else return none

/-- An atom. -/
def atom (allowStruct : Bool) : Parser ExpressionForm := do
  match ← plainAtom? g allowStruct with
  | some form => return form
  | none =>
    match ← blockExpression? g with
    | some _ => return .block
    | none => expected "an expression"

/-! ### All expressions -/

/-- The place of the points that a range starts with. -/
def pointsAhead : Parser Span := do
  match ← ahead (rangePoints false) with
  | some (_, span) => return span
  | none => return .whole

/-- An expression without signs before it. -/
def postfixed (allowStruct attributed : Bool) : Parser ExpressionForm := do
  let points ← pointsAhead
  let form ← atom g allowStruct
  let form ← trailers g form
  if attributed && form == .range then failAt points .attributeOnRange
  return form

/-- **An expression without binary operators.** -/
def unary (allowStruct : Bool) : Parser ExpressionForm := do
  let attributes ← outerAttributes g
  if ← punct? "&" then
    let raw ←
      if (← peekSecond (theWord "mut")) || (← peekSecond (theWord "const")) then word? "raw"
      else pure false
    let changing ← word? "mut"
    if raw && !changing then word "const"
    let _ ← g.unary allowStruct
    return .other
  else if (← punct? "*") || (← punct? "!") || (← punct? "-") then
    let _ ← g.unary allowStruct
    return .other
  else postfixed g allowStruct (!attributes.isEmpty)

/-- **An expression that ends as early as it can**: where a block ends one, no operator follows. -/
def early : Parser ExpressionForm := do
  let _ ← outerAttributes g
  match ← if ← peekClosure then pure none else blockExpression? g with
  | some _ =>
    if (← peekPunctNot "." [".."]) || (← peekPunct "?") then
      let form ← trailers g .block
      operators g true .jump form
    else return .block
  | none =>
    let form ← unary g true
    operators g true .jump form

/-- **An expression.** -/
def expression (allowStruct : Bool) : Parser Expression := do
  let (form, tokens) ← captured do
    let form ← unary g allowStruct
    operators g allowStruct .jump form
  return { form, tokens }

end RecordStore.Source.Parser
