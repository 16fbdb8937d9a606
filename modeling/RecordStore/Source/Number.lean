import RecordStore.Source.Token
import RecordStore.Text.Identifier

/-!
# Numbers in source text

A number is a float if it has a point or an exponent, and an integer otherwise. Digits may have low
lines between them, and a name may follow directly as a suffix. A point does not belong to the
number if another point or a name follows it.
-/

namespace RecordStore.Source

open Text (isIdentifierStart isIdentifierContinue)

/-- The name at the start of a text, with what follows it. -/
def scanName : List Char → Option (List Char × List Char)
  | [] => none
  | c :: rest =>
    if isIdentifierStart c then
      some (c :: rest.takeWhile isIdentifierContinue, rest.dropWhile isIdentifierContinue)
    else none

/-- Whether a text starts with a character that an identifier may go on with. -/
def startsInsideName (cs : List Char) : Bool :=
  match cs with
  | [] => false
  | c :: _ => isIdentifierContinue c

/-- A number with its suffix, if it has one; nothing may follow that could belong to it. -/
def withSuffix (digits rest : List Char) : Option (List Char × List Char) :=
  match scanName rest with
  | some (suffix, rest) => some (digits ++ suffix, rest)
  | none => if startsInsideName rest then none else some (digits, rest)

/-- Whether a character is a decimal digit. -/
def isDigit (c : Char) : Bool := '0' ≤ c && c ≤ '9'

/-- Whether a character may stand between the digits of a number. -/
def isDigitOrLine (c : Char) : Bool := isDigit c || c == '_'

/-! ### Floats -/

/-- Reads an exponent after its letter: the characters of it, and whether it has a digit. Nothing
if it has two signs. -/
def scanExponent (hasSign hasDigit : Bool) : List Char → Option (List Char × List Char × Bool)
  | [] => some ([], [], hasDigit)
  | c :: rest =>
    if isDigit c then
      (scanExponent hasSign true rest).map fun (text, rest, ok) => (c :: text, rest, ok)
    else if c = '_' then
      (scanExponent hasSign hasDigit rest).map fun (text, rest, ok) => (c :: text, rest, ok)
    else if (c = '+' ∨ c = '-') ∧ !hasDigit then
      if hasSign then none
      else (scanExponent true hasDigit rest).map fun (text, rest, ok) => (c :: text, rest, ok)
    else some ([], c :: rest, hasDigit)

/-- The digits of a float, split off after the whole number and the fraction: an exponent if there
is a complete one. A number with neither point nor exponent is no float. -/
def scanFloatEnd (text : List Char) (hasPoint : Bool) (rest : List Char) :
    Option (List Char × List Char) :=
  let withoutExponent := if hasPoint then some (text, rest) else none
  match rest with
  | [] => withoutExponent
  | c :: after =>
    if c = 'e' ∨ c = 'E' then
      match scanExponent false false after with
      | some (exponent, rest, true) => some (text ++ c :: exponent, rest)
      | _ => withoutExponent
    else withoutExponent

/-- The digits of a float. -/
def scanFloatDigits (cs : List Char) : Option (List Char × List Char) :=
  match cs with
  | [] => none
  | first :: _ =>
    if !isDigit first then none
    else
      let whole := cs.takeWhile isDigitOrLine
      match cs.dropWhile isDigitOrLine with
      | '.' :: rest =>
        match rest.head? with
        | some c =>
          if c = '.' ∨ isIdentifierStart c then none
          else
            scanFloatEnd (whole ++ '.' :: rest.takeWhile isDigitOrLine) true
              (rest.dropWhile isDigitOrLine)
        | none => some (whole ++ ['.'], [])
      | rest => scanFloatEnd whole false rest

/-- A float at the start of a text. -/
def scanFloat (cs : List Char) : Option (List Char × List Char) := do
  let (digits, rest) ← scanFloatDigits cs
  withSuffix digits rest

/-! ### Integers -/

/-- The value of a digit or letter as a digit. -/
def digitValue? (c : Char) : Option Nat :=
  if isDigit c then some (c.toNat - 48)
  else if 'a' ≤ c ∧ c ≤ 'f' then some (c.toNat - 87)
  else if 'A' ≤ c ∧ c ≤ 'F' then some (c.toNat - 55)
  else none

/-- The digits of an integer in a base, with low lines; `isEmpty` tells that none was read yet. A
decimal digit that is too large makes the number malformed, a letter that is too large ends it. -/
def scanDigits (base : Nat) (isEmpty : Bool) : List Char → Option (List Char × List Char)
  | [] => if isEmpty then none else some ([], [])
  | c :: rest =>
    let stop := if isEmpty then none else some ([], c :: rest)
    if c = '_' then
      if isEmpty ∧ base = 10 then none
      else (scanDigits base isEmpty rest).map fun (text, rest) => (c :: text, rest)
    else
      match digitValue? c with
      | none => stop
      | some d =>
        if base ≤ d then if isDigit c then none else stop
        else (scanDigits base false rest).map fun (text, rest) => (c :: text, rest)

/-- An integer at the start of a text. -/
def scanInteger (cs : List Char) : Option (List Char × List Char) := do
  let (base, mark, body) :=
    match cs with
    | '0' :: 'x' :: body => (16, ['0', 'x'], body)
    | '0' :: 'o' :: body => (8, ['0', 'o'], body)
    | '0' :: 'b' :: body => (2, ['0', 'b'], body)
    | _ => (10, [], cs)
  let (digits, rest) ← scanDigits base true body
  withSuffix (mark ++ digits) rest

end RecordStore.Source
