import RecordStore.Source.Grammar.Struct

/-!
# Functions

A signature names the arguments with their types. The first may be a receiver, and the last may
stand for any number of further arguments.
-/

namespace RecordStore.Source.Parser

variable (g : Grammar)

/-! ### Arguments -/

/-- A receiver. The answer is the place of its word. -/
def receiver : Parser Span := do
  let byReference ← punct? "&"
  if byReference && (← peek aLifetime) then lifetime
  let _ ← word? "mut"
  let (_, span) ← spanned (word "self")
  if !byReference then
    if ← punct? ":" then
      let _ ← g.type true
  return span

/-- What an argument is. -/
inductive Argument
  | receiver (span : Span)
  | typed
  /-- It stands for any number of arguments. -/
  | variadic

/-- An argument. -/
def argument : Parser Argument := do
  let _ ← outerAttributes g
  if ← punct? "..." then return .variadic
  match ← attempt (receiver g) with
  | some span => return .receiver span
  | none =>
    if (← peek aName) && (← peekSecond (punctuation "<")) then
      write (wordToken "_" :: punctTokens ":")
      let _ ← g.type true
      return .typed
    else
      let _ ← g.pattern
      punct ":"
      if ← punct? "..." then return .variadic
      let _ ← g.type true
      return .typed

/-- The arguments of a function, after some number of them, with the receiver if there was one. -/
def argumentsFrom (count : Nat) (received : Bool) : Nat → Parser Unit
  | 0 => return ()
  | fuel + 1 => do
    if ← atEnd then return ()
    let received ←
      match ← argument g with
      | .variadic =>
        if !(← atEnd) then punct ","
        return ()
      | .receiver span =>
        if received then failAt span .secondReceiver
        if count ≠ 0 then failAt span .misplacedReceiver
        pure true
      | .typed => pure received
    if ← atEnd then return ()
    punct ","
    argumentsFrom (count + 1) received fuel

/-! ### Signatures -/

/-- Reads the words that a function starts with. The answer tells whether a function follows. -/
def functionWords (safe : Bool) : Parser Bool := do
  let _ ← word? "const"
  let _ ← word? "async"
  let marked ← if safe then word? "safe" else pure false
  if !marked then
    let _ ← word? "unsafe"
  abi
  peekWord "fn"

/-- Whether a function starts here. -/
def peekSignature (safe : Bool) : Parser Bool := do
  return (← ahead (functionWords safe)).getD false

/-- **The signature of a function.** -/
def signature (safe : Bool) : Parser Unit := do
  let _ ← functionWords safe
  word "fn"
  let _ ← name
  let _ ← generics g
  groupThen .parenthesis (do argumentsFrom g 0 false ((← get).rest.length + 1)) fun _ => do
    returnType g true
    let _ ← conditions g

end RecordStore.Source.Parser
