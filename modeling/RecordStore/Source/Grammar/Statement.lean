import RecordStore.Source.Grammar.Expression

/-!
# Statements

The statements of a block follow each other without separators. One that is an expression without a
block at its end needs a semicolon, unless it is the last.
-/

namespace RecordStore.Source.Parser

variable (g : Grammar)

/-! ### Macro calls -/

/-- What a macro call at the start of a statement is. -/
inductive MacroStatement
  /-- The start of an item. -/
  | item
  /-- A statement by itself. -/
  | whole
  /-- The start of an expression, or no macro call. -/
  | other
  deriving DecidableEq

/-- What macro call a statement here starts with. -/
def macroAhead : Parser MacroStatement := do
  let found ← ahead do
    let _ ← plainPath
    if !(← peekPunct "!") then return .other
    else if (← peekSecond aName) || (← peekSecond (theWord "try")) then return .item
    else
      let goesOn :=
        ((← peekThird (punctuation ".")) && !(← peekThird (punctuation ".."))) ||
          (← peekThird (punctuation "?"))
      return if (← peekSecond braces) && !goesOn then .whole else .other
  return found.getD .other

/-- A macro call that is a statement. -/
def macroStatement : Parser Unit := do
  let _ ← plainPath
  punct "!"
  let _ ← rawGroup
  let _ ← punct? ";"

/-! ### Bindings -/

/-- Whether tokens end with braces. -/
def endsWithBraces (tokens : Tokens) : Bool :=
  match tokens.getLast? with
  | some (.group .brace _ _ _) => true
  | _ => false

/-- A statement that binds names, maybe with a block for values that do not match. -/
def letStatement : Parser Unit := do
  word "let"
  let _ ← g.pattern
  if ← punct? ":" then
    let _ ← g.type true
  if ← punct? "=" then
    let value ← g.expr true
    if !endsWithBraces value.tokens then
      if ← word? "else" then block g
  punct ";"

/-! ### Items in blocks -/

/-- Whether an item that a word starts stands here, for words that need a look at what follows. -/
def peekMixedItem : Parser Bool := do
  if ← peekWord "crate" then return !(← peekSecond (punctuation "::"))
  else if ← peekWord "static" then return (← peekSecond (theWord "mut")) || (← peekSecond aName)
  else if ← peekWord "const" then
    if (← peekSecond braces) || (← peekSecond (theWord "static")) ||
        (← peekSecond (theWord "move")) || (← peekSecond (punctuation "|")) then
      return false
    else if ← peekSecond (theWord "async") then
      return (← peekThird (theWord "unsafe")) || (← peekThird (theWord "extern")) ||
        (← peekThird (theWord "fn"))
    else return true
  else if ← peekWord "unsafe" then return !(← peekSecond braces)
  else if ← peekWord "async" then
    return (← peekSecond (theWord "unsafe")) || (← peekSecond (theWord "extern")) ||
      (← peekSecond (theWord "fn"))
  else if ← peekWord "union" then peekSecond aName
  else if ← peekWord "auto" then peekSecond (theWord "trait")
  else if ← peekWord "default" then
    return (← peekSecond (theWord "unsafe")) || (← peekSecond (theWord "impl"))
  else return false

/-- The words that always start an item in a block. -/
def itemWords : List Peek :=
  [theWord "pub", theWord "extern", theWord "use", theWord "fn", theWord "mod", theWord "type",
    theWord "struct", theWord "enum", theWord "trait", theWord "impl", theWord "macro"]

/-! ### Statements -/

/-- A statement. The answer tells whether it has to be the last, for want of a semicolon. -/
def statement : Parser Bool := do
  let _ ← outerAttributes g
  let found ← macroAhead
  if found == .whole then
    macroStatement
    return false
  else if ← peekWord "let" then
    letStatement g
    return false
  else if found == .item || (← peekAny itemWords) || (← peekMixedItem) then
    let _ ← g.item
    return false
  else
    let form ← g.early
    if ← punct? ";" then return false
    else return form != .block && form != .macroCall true

/-- **The statements of a block.** -/
def statements : Parser Unit := do
  let _ ← loop do
    let _ ← loop do
      if ← punct? ";" then return some () else return none
    if ← atEnd then return none
    let isLast ← statement g
    if ← atEnd then return none
    else if isLast then fail .unfinishedStatement
    else return some ()

end RecordStore.Source.Parser
