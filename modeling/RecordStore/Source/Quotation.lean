import RecordStore.Source.Token

/-!
# Quoted literals

Strings and characters between quotes, as they stand in source text. What may stand there depends on
the kind of literal; a `Quoting` says it. The characters between the quotes are read one by one in a
`QuoteState`, which tells how much of an escape has been read. A backslash at the end of a line
takes the line end and all blanks after it away.
-/

namespace RecordStore.Source

/-- What may stand between the quotes of a literal. -/
structure Quoting where
  /-- Characters beyond ASCII. -/
  wide : Bool
  /-- Escapes by code point. -/
  codePoints : Bool
  /-- Escapes by two hexadecimal digits beyond ASCII. -/
  bytes : Bool
  /-- The character zero, in any form. -/
  zero : Bool
  deriving DecidableEq, Repr

namespace Quoting

/-- Strings and characters. -/
def text : Quoting := { wide := true, codePoints := true, bytes := false, zero := true }

/-- Strings of bytes and single bytes. -/
def byte : Quoting := { wide := false, codePoints := false, bytes := true, zero := true }

/-- Strings that end in a zero, which must not occur inside of them. -/
def terminated : Quoting := { wide := true, codePoints := true, bytes := true, zero := false }

end Quoting

/-- The value of a hexadecimal digit. -/
def hexValue? (c : Char) : Option Nat :=
  if '0' ≤ c ∧ c ≤ '9' then some (c.toNat - 48)
  else if 'a' ≤ c ∧ c ≤ 'f' then some (c.toNat - 87)
  else if 'A' ≤ c ∧ c ≤ 'F' then some (c.toNat - 55)
  else none

/-- The character for the letter of a short escape. -/
def shortEscape? (c : Char) : Option Char :=
  match c with
  | 'n' => some '\n'
  | 'r' => some '\r'
  | 't' => some '\t'
  | '\\' => some '\\'
  | '0' => some '\x00'
  | '\'' => some '\''
  | '"' => some '"'
  | _ => none

/-- How far the reading of a character between quotes has come. -/
inductive QuoteState
  /-- Between two characters. -/
  | plain
  /-- After a carriage return, which a line feed must follow. -/
  | afterReturn
  /-- After a backslash. -/
  | escape
  /-- Before the first digit of an escape by two digits. -/
  | firstDigit
  /-- Before the second one, after a digit with this value. -/
  | secondDigit (first : Nat)
  /-- Before the brace of an escape by code point. -/
  | openBrace
  /-- Inside its braces, after so many digits with this value. -/
  | codePoint (digits value : Nat)
  /-- In the blanks after a backslash at the end of a line; a line feed must follow if the last of
  them is a carriage return. -/
  | skipping (afterReturn : Bool)
  deriving DecidableEq, Repr

namespace QuoteState

/-- The state after a complete character, which is part of the value. -/
def emit (q : Quoting) (c : Char) : Option (QuoteState × Option Char) :=
  if c = '\x00' ∧ !q.zero then none else some (plain, some c)

/-- The state after a character that stands for itself or starts something. -/
def stepPlain (q : Quoting) (c : Char) : Option (QuoteState × Option Char) :=
  if c = '\\' then some (escape, none)
  else if c = '\r' then some (afterReturn, none)
  else if 0x80 ≤ c.toNat ∧ !q.wide then none
  else emit q c

/-- **The state after a character**, with the character of the value that is complete by then.
Nothing if the character must not stand there. -/
def step (q : Quoting) (state : QuoteState) (c : Char) : Option (QuoteState × Option Char) :=
  match state with
  | plain => stepPlain q c
  | afterReturn => if c = '\n' then some (plain, some '\n') else none
  | escape =>
    if c = 'x' then some (firstDigit, none)
    else if c = 'u' then if q.codePoints then some (openBrace, none) else none
    else if c = '\n' then some (skipping false, none)
    else if c = '\r' then some (skipping true, none)
    else (shortEscape? c).bind (emit q)
  | firstDigit =>
    match hexValue? c with
    | some d => if d < 8 ∨ q.bytes then some (secondDigit d, none) else none
    | none => none
  | secondDigit first => (hexValue? c).bind fun d => emit q (Char.ofNat (first * 16 + d))
  | openBrace => if c = '\x7b' then some (codePoint 0 0, none) else none
  | codePoint digits value =>
    if c = '_' then if digits = 0 then none else some (codePoint digits value, none)
    else if c = '\x7d' then
      if digits = 0 ∨ !(value.isValidChar) then none else emit q (Char.ofNat value)
    else
      match hexValue? c with
      | some d => if digits = 6 then none else some (codePoint (digits + 1) (value * 16 + d), none)
      | none => none
  | skipping true => if c = '\n' then some (skipping false, none) else none
  | skipping false =>
    if c = ' ' ∨ c = '\t' ∨ c = '\n' then some (skipping false, none)
    else if c = '\r' then some (skipping true, none)
    else stepPlain q c

/-- Whether a quote ends the literal. -/
def canEnd : QuoteState → Bool
  | plain | skipping false => true
  | _ => false

end QuoteState

/-- What was scanned: the characters taken, the value in them, and what follows. -/
structure Quotation where
  text : List Char
  value : List Char
  rest : List Char
  deriving DecidableEq, Repr

/-- The quotation with another character in front. -/
def Quotation.cons (c : Char) (emitted : Option Char) (q : Quotation) : Quotation :=
  { q with text := c :: q.text, value := emitted.toList ++ q.value }

/-- Scans a string after its opening quote, up to its closing quote. -/
def scanQuoted (q : Quoting) (state : QuoteState) : List Char → Option Quotation
  | [] => none
  | c :: rest =>
    if c = '"' ∧ state.canEnd then some ⟨[c], [], rest⟩
    else
      match state.step q c with
      | none => none
      | some (next, emitted) => (scanQuoted q next rest).map (Quotation.cons c emitted)

/-- Scans an escape, or what is left of it, up to its end. -/
def scanEscape (q : Quoting) (state : QuoteState) : List Char → Option Quotation
  | [] => none
  | c :: rest =>
    match state.step q c with
    | none | some (.skipping _, _) => none
    | some (.plain, emitted) => some ⟨[c], emitted.toList, rest⟩
    | some (next, emitted) => (scanEscape q next rest).map (Quotation.cons c emitted)

/-- Scans a single character after its opening quote, with its closing quote. -/
def scanSingle (q : Quoting) (cs : List Char) : Option Quotation := do
  let one ←
    match cs with
    | [] => none
    | '\\' :: rest => (scanEscape q .escape rest).map (Quotation.cons '\\' none)
    | c :: rest => if 0x80 ≤ c.toNat ∧ !q.wide then none else some ⟨[c], [c], rest⟩
  match one.rest with
  | '\'' :: rest => some { one with text := one.text ++ ['\''], rest }
  | _ => none

/-! ### Raw strings -/

/-- The text before and after the first quote that so many number signs follow, carriage returns
being allowed before line feeds only. -/
def scanRawBody (q : Quoting) (hashes : Nat) : List Char → Option Quotation
  | [] => none
  | c :: rest =>
    if c = '"' ∧ (rest.take hashes) = List.replicate hashes '#' then
      some ⟨c :: rest.take hashes, [], rest.drop hashes⟩
    else if c = '\r' ∧ rest.head? ≠ some '\n' then none
    else if (0x80 ≤ c.toNat ∧ !q.wide) ∨ (c = '\x00' ∧ !q.zero) then none
    else (scanRawBody q hashes rest).map (Quotation.cons c (some c))

/-- The largest number of number signs around a raw string. -/
def maxHashes : Nat := 255

/-- Scans a raw string after its letters. -/
def scanRaw (q : Quoting) (cs : List Char) : Option Quotation :=
  let hashes := cs.takeWhile (· = '#')
  match cs.dropWhile (· = '#') with
  | '"' :: rest =>
    if maxHashes < hashes.length then none
    else
      (scanRawBody q hashes.length rest).map fun body =>
        { body with text := hashes ++ '"' :: body.text }
  | _ => none

end RecordStore.Source
