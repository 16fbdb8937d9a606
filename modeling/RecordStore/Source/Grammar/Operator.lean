import RecordStore.Source.Grammar.Pattern

/-!
# Binary operators

Operators bind by their precedence, and all but assignments to the left. A comparison cannot be
compared, a range takes no further operator, and a type after `as` ends the operand that it stands
in.
-/

namespace RecordStore.Source.Parser

variable (g : Grammar)

/-! ### The operators -/

/-- The operators between two operands, in the order in which they are looked for. -/
def binaryOperators : List (String × Precedence) :=
  [("+=", .assign), ("-=", .assign), ("*=", .assign), ("/=", .assign), ("%=", .assign),
    ("^=", .assign), ("&=", .assign), ("|=", .assign), ("<<=", .assign), (">>=", .assign),
    ("&&", .conjunction), ("||", .disjunction), ("<<", .shift), (">>", .shift), ("==", .compare),
    ("<=", .compare), ("!=", .compare), (">=", .compare), ("+", .sum), ("-", .sum),
    ("*", .product), ("/", .product), ("%", .product), ("^", .bitXor), ("&", .bitAnd),
    ("|", .bitOr), ("<", .compare), (">", .compare)]

/-- The operator that stands here. -/
def operator? : Parser (Option (String × Precedence)) := do
  let ts := (← get).rest
  return binaryOperators.find? fun op => (punctuation op.1).holds ts

/-- How strongly what stands here binds to the operand before it. -/
def nextPrecedence : Parser Precedence := do
  match ← operator? with
  | some (_, p) => return p
  | none =>
    if ← peekPunctNot "=" ["=>"] then return .assign
    else if ← peekPunct ".." then return .range
    else if ← peekWord "as" then return .cast
    else return .jump

/-! ### Operands -/

/-- Reads the operators after an operand that bind to it more strongly than the one before it. -/
def operandAfter (allowStruct : Bool) (p : Precedence) (form : ExpressionForm) : Nat → Parser Unit
  | 0 => return ()
  | fuel + 1 => do
    let next ← nextPrecedence
    if p.rank < next.rank || (next == .assign && p == .assign) then
      let before := (← get).rest.length
      let form ← g.operators allowStruct next form
      if (← get).rest.length = before then return ()
      operandAfter allowStruct p form fuel
    else return ()

/-- The right operand of an operator. -/
def operand (allowStruct : Bool) (p : Precedence) : Parser Unit := do
  let form ← g.unary allowStruct
  operandAfter g allowStruct p form ((← get).rest.length + 1)

/-- What may stand after a range without upper bound. -/
def afterOpenRange : List Peek :=
  ([",", ";", "?", "=>", "=", "+", "/", "%", "^", ">", "<=", "!=", "-=", "*=", "&=", "|=", "<<="].map
    punctuation) ++ [theWord "as"]

/-- A range from its points on. -/
def rangeExpression (allowStruct : Bool) : Parser ExpressionForm := do
  let (closed, _) ← rangePoints false
  let isOpen ← do
    if closed then pure false
    else if (← atEnd) || (← peekAny afterOpenRange) then pure true
    else if ← peekPunctNot "." [".."] then pure true
    else if allowStruct then pure false
    else peek braces
  if !isOpen then operand g allowStruct .range
  return .range

/-- What follows a cast and must not. -/
def castSuffix? : Parser (Option CastSuffix) := do
  if ← peekPunctNot "." [".."] then
    if ← peekSecond (theWord "await") then return some .await
    else if (← peekSecond aName) && ((← peekThird parens) || (← peekThird (punctuation "::"))) then
      return some .methodCall
    else return some .fieldAccess
  else if ← peekPunct "?" then return some .questionMark
  else if ← peek brackets then return some .indexing
  else if ← peek parens then return some .call
  else return none

/-- A cast from its word on. -/
def cast : Parser ExpressionForm := do
  word "as"
  let _ ← g.type false
  match ← castSuffix? with
  | some suffix => fail (.castSuffix suffix)
  | none => return .other

/-! ### Chains of operators -/

/-- Reads the operators after an operand that bind at least as strongly as `base`. -/
def operatorsFrom (allowStruct : Bool) (base : Precedence) (form : ExpressionForm) :
    Nat → Parser ExpressionForm
  | 0 => return form
  | fuel + 1 => do
    if form == .range then return form
    match ← operator? with
    | some (text, p) =>
      if p.rank < base.rank then return form
      if p == .compare && form == .comparison then fail .chainedComparison
      punct text
      operand g allowStruct p
      operatorsFrom allowStruct base (if p == .compare then .comparison else .other) fuel
    | none =>
      if base.rank ≤ Precedence.assign.rank && (← peekPunctNot "=" ["=>"]) then
        punct "="
        operand g allowStruct .assign
        operatorsFrom allowStruct base .other fuel
      else if base.rank ≤ Precedence.range.rank && (← peekPunct "..") then
        operatorsFrom allowStruct base (← rangeExpression g allowStruct) fuel
      else if ← peekWord "as" then
        operatorsFrom allowStruct base (← cast g) fuel
      else return form

/-- **The operators after an operand** that bind at least as strongly as `base`. -/
def operators (allowStruct : Bool) (base : Precedence) (form : ExpressionForm) :
    Parser ExpressionForm := do
  operatorsFrom g allowStruct base form ((← get).rest.length + 1)

end RecordStore.Source.Parser
