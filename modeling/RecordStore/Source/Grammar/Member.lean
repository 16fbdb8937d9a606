import RecordStore.Source.Grammar.Path

/-!
# Members

A field is called by its name, or by its position in a struct without names. A position is a whole
number without a suffix that fits in 32 bits, and it is written in decimal.
-/

namespace RecordStore.Source

/-- The value of the digits at the start of a text, and what follows them. -/
def digitsValue (base value : Nat) : List Char → Nat × List Char
  | [] => (value, [])
  | c :: rest =>
    if c = '_' then digitsValue base value rest
    else
      match digitValue? c with
      | some d => if d < base then digitsValue base (value * base + d) rest else (value, c :: rest)
      | none => (value, c :: rest)

/-- The value of an integer and its suffix. -/
def integerValue (cs : List Char) : Nat × List Char :=
  match cs with
  | '0' :: 'x' :: digits => digitsValue 16 0 digits
  | '0' :: 'o' :: digits => digitsValue 8 0 digits
  | '0' :: 'b' :: digits => digitsValue 2 0 digits
  | _ => digitsValue 10 0 cs

/-- The position that an integer stands for. -/
def position? (text : String) : Except SyntaxFault Nat :=
  match integerValue text.toList with
  | (_, _ :: _) => .error .suffixedIndex
  | (n, []) => if n < UInt32.size then .ok n else .error .indexTooLarge

namespace Parser

/-- An integer as a token. -/
def integerToken (n : Nat) : TokenTree := (Token.literal (.ofNat n)).bare

/-- Whether an integer stands here; one with a sign counts. -/
def peekInteger : Parser Bool := do
  match (← get).rest with
  | .token (.literal l) _ :: _ => return l.kind == .integer
  | .token (.punct ⟨'-', _⟩ _) _ :: .token (.literal l) _ :: _ => return l.kind == .integer
  | _ => return false

/-- A position. -/
def position : Parser Unit := do
  match (← get).rest with
  | .token (.literal l) span :: rest =>
    match position? l.text with
    | .ok n => do
      moveTo (.token (.literal l) span) rest
      write [integerToken n]
    | .error fault => failAt span fault
  | .token (.punct ⟨'-', _⟩ _) sign :: .token (.literal l) span :: _ =>
    match position? l.text with
    | .error .suffixedIndex => failAt ⟨sign.start, span.stop⟩ .suffixedIndex
    | _ => failAt ⟨sign.start, span.stop⟩ .indexNoNumber
  | _ => expected "integer literal"

/-- **A member.** The answer tells whether it is a name. -/
def member : Parser Bool := do
  if ← peek aName then
    let _ ← name
    return true
  else if ← peekInteger then
    position
    return false
  else expected "identifier or integer"

end Parser

end RecordStore.Source
