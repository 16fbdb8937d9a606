import RecordStore.Json.Fault
import RecordStore.Text.Utf8

/-!
# Reading JSON

The text is read from the left, one glyph at a time, and never looked at more than one glyph ahead,
so that the place of a fault is the place where reading stopped. This module holds the steps that
all readers share: white space, words, numbers, strings, and the commas and brackets of arrays and
objects. Loops are bounded by the length of what is left to read.
-/

namespace RecordStore.Json

open Text (Glyph)

/-- What is left to read, and the place reached. -/
structure Cursor where
  /-- The glyphs not read yet. -/
  rest : List Glyph
  /-- The place of the first of them. -/
  place : Place := ⟨1, 0⟩

/-- **A reader**: takes something off the front of the text or fails. -/
abbrev Reader (α : Type) := StateT Cursor (Except Fault) α

namespace Reader

/-- The place after a glyph. -/
def placeAfter (p : Place) : Glyph → Place
  | .char c => if c = '\n' then ⟨p.line + 1, 0⟩ else ⟨p.line, p.column + c.utf8Size⟩
  | .stray _ => ⟨p.line, p.column + 1⟩

/-- The place after the next byte, or the place reached if nothing is left. -/
def Cursor.nextPlace (c : Cursor) : Place :=
  match c.rest with
  | [] => c.place
  | .char '\n' :: _ => ⟨c.place.line + 1, 0⟩
  | _ => ⟨c.place.line, c.place.column + 1⟩

/-- Fails at the place reached. -/
def fail {α : Type} (cause : Cause) : Reader α := fun c => .error ⟨cause, c.place⟩

/-- Fails at the next byte. -/
def failNext {α : Type} (cause : Cause) : Reader α := fun c => .error ⟨cause, Cursor.nextPlace c⟩

/-- The next glyph. -/
def peek : Reader (Option Glyph) := fun c => .ok (c.rest.head?, c)

/-- Passes over the next glyph. -/
def skip : Reader Unit := fun c =>
  match c.rest with
  | [] => .ok ((), c)
  | g :: rest => .ok ((), ⟨rest, placeAfter c.place g⟩)

/-- The number of glyphs left. -/
def left : Reader Nat := fun c => .ok (c.rest.length, c)

/-- Passes over glyphs as long as they satisfy a condition, and gives them. -/
def takeWhile (p : Glyph → Bool) : Reader (List Glyph) := fun c =>
  let taken := c.rest.takeWhile p
  .ok (taken, ⟨c.rest.dropWhile p, taken.foldl placeAfter c.place⟩)

/-- Whether a glyph is white space. -/
def isSpace : Glyph → Bool
  | .char c => c = ' ' || c = '\n' || c = '\t' || c = '\r'
  | .stray _ => false

/-- Passes over white space and gives the next glyph. -/
def peekToken : Reader (Option Glyph) := do
  let _ ← takeWhile isSpace
  peek

/-- Passes over the letters of a word. -/
def word : List Char → Reader Unit
  | [] => pure ()
  | c :: rest => do
    match ← peek with
    | none => fail .endInValue
    | some g =>
      if g = .char c then
        skip
        word rest
      else failNext .expectedIdent

/-! ### Numbers -/

/-- The value of a glyph that is a decimal digit. -/
def digit? : Glyph → Option Nat
  | .char c => if c.isDigit then some (c.toNat - 48) else none
  | .stray _ => none

/-- Passes over decimal digits and gives them. -/
def digits : Reader (List Nat) := do
  let taken ← takeWhile fun g => (digit? g).isSome
  return taken.filterMap digit?

/-- Appends digits to a number as long as it stays below 2⁶⁴; gives the number and the digits that
found no place. -/
def absorb (n : Nat) : List Nat → Nat × List Nat
  | [] => (n, [])
  | d :: rest => if n * 10 + d < UInt64.size then absorb (n * 10 + d) rest else (n, d :: rest)

/-- A power of ten in double precision. -/
def powerOfTen (k : Nat) : Float := Float.ofScientific 1 false k

/-- `f · 10 ^ exponent` in double precision, in steps of at most 308 powers of ten; nothing if it
is too large. -/
def scale (f : Float) (exponent : Int) : Nat → Option Float
  | 0 => some f
  | fuel + 1 =>
    if 0 ≤ exponent then
      if exponent ≤ 308 then
        let scaled := f * powerOfTen exponent.toNat
        if scaled.isInf then none else some scaled
      else if f == 0.0 then some f
      else none
    else if -308 ≤ exponent then some (f / powerOfTen (-exponent).toNat)
    else if f == 0.0 then some f
    else scale (f / powerOfTen 308) (exponent + 308) fuel

/-- The number in double precision with a sign. -/
def signed (negative : Bool) (f : Float) : Number := .real (if negative then -f else f).toBits

/-- The number with the given digits and exponent. -/
def realOfParts (negative : Bool) (significand : Nat) (exponent : Int) : Reader Number :=
  match scale significand.toUInt64.toFloat exponent 8 with
  | some f => pure (signed negative f)
  | none => fail .numberOutOfRange

/-- Reads the further digits of an exponent; nothing if it becomes too large for 31 bits, in which
case reading stops after the digit that is too much. -/
def exponentDigits (exponent : Nat) : Nat → Reader (Option Nat)
  | 0 => pure (some exponent)
  | fuel + 1 => do
    match (← peek).bind digit? with
    | none => return some exponent
    | some d =>
      skip
      if exponent * 10 + d < Nat.pow 2 31 then exponentDigits (exponent * 10 + d) fuel
      else return none

/-- Reads an exponent, starting with its letter, and gives the whole number. -/
def exponentPart (negative : Bool) (significand : Nat) (start : Int) : Reader Number := do
  skip
  let negativeExponent ←
    match ← peek with
    | some (.char '+') => do
      skip
      pure false
    | some (.char '-') => do
      skip
      pure true
    | _ => pure false
  match ← peek with
  | none => fail .endInValue
  | some g =>
    match digit? g with
    | none => failNext .invalidNumber
    | some d =>
      skip
      match ← exponentDigits d (← left) with
      | some e =>
        realOfParts negative significand (if negativeExponent then start - e else start + e)
      | none =>
        if significand ≠ 0 ∧ ¬ negativeExponent then fail .numberOutOfRange
        else
          let _ ← digits
          return signed negative 0.0

/-- Whether a glyph starts an exponent. -/
def startsExponent (g : Option Glyph) : Bool := g = some (.char 'e') || g = some (.char 'E')

/-- Reads the digits after a point, starting with the point, and gives the whole number. -/
def decimalPart (negative : Bool) (significand : Nat) (start : Int) : Reader Number := do
  skip
  let ds ← digits
  if ds.isEmpty then
    match ← peek with
    | some _ => failNext .invalidNumber
    | none => failNext .endInValue
  else
    let (significand, dropped) := absorb significand ds
    let exponent := start - ((ds.length - dropped.length : Nat) : Int)
    if startsExponent (← peek) then exponentPart negative significand exponent
    else realOfParts negative significand exponent

/-- Reads what follows the whole part of a number whose digits all found a place. -/
def afterWhole (negative : Bool) (significand : Nat) : Reader Number := do
  let next ← peek
  if next = some (.char '.') then decimalPart negative significand 0
  else if startsExponent next then exponentPart negative significand 0
  else if ¬ negative then return .int significand
  else if significand = 0 ∨ Nat.pow 2 63 < significand then
    return signed true significand.toUInt64.toFloat
  else return .int (-significand)

/-- **Reads a number** after its sign. -/
def unsignedNumber (negative : Bool) : Reader Number := do
  match ← peek with
  | none => fail .endInValue
  | some g =>
    match digit? g with
    | none => failNext .invalidNumber
    | some 0 =>
      skip
      if ((← peek).bind digit?).isSome then failNext .invalidNumber else afterWhole negative 0
    | some _ =>
      let (significand, dropped) := absorb 0 (← digits)
      if dropped.isEmpty then afterWhole negative significand
      else
        let exponent : Int := dropped.length
        let next ← peek
        if next = some (.char '.') then decimalPart negative significand exponent
        else if startsExponent next then exponentPart negative significand exponent
        else realOfParts negative significand exponent

/-- Whether a glyph starts a number. -/
def startsNumber (g : Glyph) : Bool := g = .char '-' || (digit? g).isSome

/-- Reads a number with its sign. -/
def readNumber : Reader Number := do
  if (← peek) = some (.char '-') then
    skip
    unsignedNumber true
  else unsignedNumber false

/-! ### Strings -/

/-- The value of a glyph that is a hexadecimal digit. -/
def hexValue? : Glyph → Option Nat
  | .char c =>
    if c.isDigit then some (c.toNat - 48)
    else if 'a' ≤ c ∧ c ≤ 'f' then some (c.toNat - 87)
    else if 'A' ≤ c ∧ c ≤ 'F' then some (c.toNat - 55)
    else none
  | .stray _ => none

/-- The place after the next `n` bytes. -/
def placeAfterBytes (p : Place) : Nat → List Glyph → Place
  | 0, _ => p
  | _, [] => p
  | n + 1, g :: rest =>
    if g.size ≤ n + 1 then placeAfterBytes (placeAfter p g) (n + 1 - g.size) rest
    else ⟨p.line, p.column + (n + 1)⟩

/-- Reads the four digits of a hexadecimal escape. -/
def hexEscape : Reader Nat := fun c =>
  match c.rest with
  | a :: b :: d :: e :: rest =>
    match hexValue? a, hexValue? b, hexValue? d, hexValue? e with
    | some a', some b', some d', some e' =>
      .ok (((a' * 16 + b') * 16 + d') * 16 + e', ⟨rest, ⟨c.place.line, c.place.column + 4⟩⟩)
    | _, _, _, _ => .error ⟨.invalidEscape, placeAfterBytes c.place 4 c.rest⟩
  | _ =>
    if 4 ≤ c.rest.foldl (fun size g => size + g.size) 0 then
      .error ⟨.invalidEscape, placeAfterBytes c.place 4 c.rest⟩
    else .error ⟨.endInString, c.rest.foldl placeAfter c.place⟩

/-- Passes over the next glyph, which must be the given character. -/
def demand (wanted : Char) : Reader Unit := do
  match ← peek with
  | none => fail .endInString
  | some g => if g = .char wanted then skip else failNext .endOfHexEscape

/-- Reads the character of a hexadecimal escape, of two if it lies beyond 16 bits. -/
def escapedCodePoint : Reader Char := do
  let n ← hexEscape
  if 0xDC00 ≤ n ∧ n ≤ 0xDFFF then fail .loneSurrogate
  else if n < 0xD800 ∨ 0xDBFF < n then return Char.ofNat n
  else
    demand '\\'
    demand 'u'
    let m ← hexEscape
    if m < 0xDC00 ∨ 0xDFFF < m then fail .loneSurrogate
    else return Char.ofNat ((n - 0xD800) * 1024 + (m - 0xDC00) + 0x10000)

/-- The character of a one-letter escape. -/
def simpleEscape? : Glyph → Option Char
  | .char '"' => some '"'
  | .char '\\' => some '\\'
  | .char '/' => some '/'
  | .char 'b' => some '\x08'
  | .char 'f' => some '\x0c'
  | .char 'n' => some '\n'
  | .char 'r' => some '\r'
  | .char 't' => some '\t'
  | _ => none

/-- Whether a glyph must be escaped in a string. -/
def isControl : Glyph → Bool
  | .char c => c.toNat < 0x20
  | .stray _ => false

/-- Reads a string after its opening quote. `stray` is the place after the first byte that belongs
to no character; it is reported when the string is complete. -/
def stringRest (stray : Option Place) : Nat → Reader (List Char)
  | 0 => fail .endInString
  | fuel + 1 => do
    match ← peek with
    | none => fail .endInString
    | some (.char '"') =>
      skip
      match stray with
      | some place => fun _ => .error ⟨.invalidCodePoint, place⟩
      | none => return []
    | some (.char '\\') =>
      skip
      match ← peek with
      | none => fail .endInString
      | some g =>
        match simpleEscape? g with
        | some c =>
          skip
          return c :: (← stringRest stray fuel)
        | none =>
          if g = .char 'u' then
            skip
            let c ← escapedCodePoint
            return c :: (← stringRest stray fuel)
          else failNext .invalidEscape
    | some g =>
      if isControl g then failNext .controlCharacter
      else
        skip
        match g with
        | .char c => return c :: (← stringRest stray fuel)
        | .stray _ => stringRest (stray <|> some (← get).place) fuel

/-- **Reads a string** after its opening quote. -/
def readString : Reader String := do
  let chars ← stringRest none ((← left) + 1)
  return String.ofList chars

/-- Passes over a string after its opening quote without regard to the characters it stands for. -/
def skipString : Nat → Reader Unit
  | 0 => fail .endInString
  | fuel + 1 => do
    match ← peek with
    | none => fail .endInString
    | some (.char '"') => skip
    | some (.char '\\') =>
      skip
      match ← peek with
      | none => fail .endInString
      | some g =>
        if (simpleEscape? g).isSome then
          skip
          skipString fuel
        else if g = .char 'u' then
          skip
          let _ ← hexEscape
          skipString fuel
        else failNext .invalidEscape
    | some g =>
      if isControl g then fail .controlCharacter
      else
        skip
        skipString fuel

/-! ### Arrays and objects -/

/-- Enters a nested value, of which `levels` may stand inside each other. -/
def nested {α : Type} (levels : Nat) (body : Nat → Reader α) : Reader α :=
  match levels with
  | 0 => failNext .recursionLimit
  | n + 1 => do
    skip
    body n

/-- Whether another item of an array follows, with the comma before it if it is not the first. -/
def hasItem (isFirst : Bool) : Reader Bool := do
  match ← peekToken with
  | none => failNext .endInList
  | some g =>
    if g = .char ']' then return false
    else if isFirst then return true
    else if g = .char ',' then
      skip
      match ← peekToken with
      | none => failNext .endInValue
      | some g => if g = .char ']' then failNext .trailingComma else return true
    else failNext .expectedListCommaOrEnd

/-- Passes over the end of an array. -/
def endArray : Reader Unit := do
  match ← peekToken with
  | none => failNext .endInList
  | some g =>
    if g = .char ']' then skip
    else if g = .char ',' then
      skip
      match ← peekToken with
      | some g => if g = .char ']' then failNext .trailingComma else failNext .trailingCharacters
      | none => failNext .trailingCharacters
    else failNext .trailingCharacters

/-- Reads the items of an array after its bracket. -/
def items {α : Type} (item : Reader α) (isFirst : Bool) : Nat → Reader (List α)
  | 0 => pure []
  | fuel + 1 => do
    if ← hasItem isFirst then
      let a ← item
      return a :: (← items item false fuel)
    else return []

/-- Reads an array after its bracket, which has been passed over. -/
def arrayRest {α : Type} (item : Reader α) : Reader (List α) := do
  let as ← items item true ((← left) + 1)
  endArray
  return as

/-- Whether another member of an object follows, with the comma before it if it is not the first. -/
def hasMember (isFirst : Bool) : Reader Bool := do
  match ← peekToken with
  | none => failNext .endInObject
  | some g =>
    if g = .char '\x7d' then return false
    else if isFirst then
      if g = .char '"' then return true else failNext .keyMustBeString
    else if g = .char ',' then
      skip
      match ← peekToken with
      | none => failNext .endInValue
      | some g =>
        if g = .char '"' then return true
        else if g = .char '\x7d' then failNext .trailingComma
        else failNext .keyMustBeString
    else failNext .expectedObjectCommaOrEnd

/-- Reads the name of a member, starting with its quote. -/
def memberName : Reader String := do
  skip
  readString

/-- Passes over the colon after the name of a member. -/
def colon : Reader Unit := do
  match ← peekToken with
  | none => failNext .endInObject
  | some g => if g = .char ':' then skip else failNext .expectedColon

/-- Passes over the end of an object. -/
def endObject : Reader Unit := do
  match ← peekToken with
  | none => failNext .endInObject
  | some g =>
    if g = .char '\x7d' then skip
    else if g = .char ',' then failNext .trailingComma
    else failNext .trailingCharacters

/-- Reads the members of an object after its brace. -/
def members {α : Type} (value : Reader α) (isFirst : Bool) : Nat → Reader (List (String × α))
  | 0 => pure []
  | fuel + 1 => do
    if ← hasMember isFirst then
      let name ← memberName
      colon
      let a ← value
      return (name, a) :: (← members value false fuel)
    else return []

/-- Reads an object after its brace, which has been passed over. -/
def objectRest {α : Type} (value : Reader α) : Reader (List (String × α)) := do
  let ms ← members value true ((← left) + 1)
  endObject
  return ms

/-! ### Values of another kind -/

/-- Fails because the value that follows is not what was expected; a fault in it comes first. -/
def mismatch {α : Type} (expected : String) : Reader α := do
  match ← peek with
  | some (.char 'n') =>
    skip
    word "ull".toList
    fail (.invalidType .null expected)
  | some (.char 't') =>
    skip
    word "rue".toList
    fail (.invalidType (.bool true) expected)
  | some (.char 'f') =>
    skip
    word "alse".toList
    fail (.invalidType (.bool false) expected)
  | some (.char '"') =>
    skip
    let s ← readString
    fail (.invalidType (.string s) expected)
  | some (.char '[') => fail (.invalidType .array expected)
  | some (.char '\x7b') => fail (.invalidType .object expected)
  | some g =>
    if startsNumber g then
      let n ← readNumber
      fail (.invalidType (.number n) expected)
    else failNext .expectedValue
  | none => failNext .expectedValue

/-- The next glyph after white space; a value must follow. -/
def peekValue : Reader Glyph := do
  match ← peekToken with
  | none => failNext .endInValue
  | some g => return g

/-! ### Values that are passed over -/

/-- Passes over decimal digits, one of which at least must follow. -/
def skipDigits : Reader Bool := do
  let ds ← digits
  return !ds.isEmpty

/-- Passes over an exponent, starting with its letter. -/
def skipExponent : Reader Unit := do
  skip
  let next ← peek
  if next = some (.char '+') ∨ next = some (.char '-') then skip
  if ((← peek).bind digit?).isNone then failNext .invalidNumber
  let _ ← digits

/-- Passes over a number after its sign. -/
def skipUnsigned : Reader Unit := do
  match (← peek).bind digit? with
  | none => failNext .invalidNumber
  | some 0 =>
    skip
    if ((← peek).bind digit?).isSome then failNext .invalidNumber
  | some _ =>
    let _ ← digits
  if (← peek) = some (.char '.') then
    skip
    unless ← skipDigits do failNext .invalidNumber
    if startsExponent (← peek) then skipExponent
  else if startsExponent (← peek) then skipExponent

/-- What encloses a value that is passed over. -/
inductive Enclosure
  | array
  | object
  deriving DecidableEq, Repr

/-- The bracket that closes an enclosure. -/
def Enclosure.closing : Enclosure → Glyph
  | .array => .char ']'
  | .object => .char '\x7d'

/-- The cause when the text ends in an enclosure. -/
def Enclosure.endCause : Enclosure → Cause
  | .array => .endInList
  | .object => .endInObject

/-- The cause when neither a comma nor the end follows in an enclosure. -/
def Enclosure.commaCause : Enclosure → Cause
  | .array => .expectedListCommaOrEnd
  | .object => .expectedObjectCommaOrEnd

/-- After a value inside the given enclosures, innermost first: the enclosures that the next value
stands in, or nothing if all are closed. -/
def skipEnds : List Enclosure → Reader (Option (List Enclosure))
  | [] => pure none
  | e :: outer => do
    match ← peekToken with
    | none => failNext e.endCause
    | some g =>
      if g = .char ',' then
        skip
        return some (e :: outer)
      else if g = e.closing then
        skip
        skipEnds outer
      else failNext e.commaCause

/-- After the opening bracket of an enclosure: the enclosures that the next value stands in. -/
def skipOpened (e : Enclosure) (outer : List Enclosure) : Reader (Option (List Enclosure)) := do
  skip
  match ← peekToken with
  | none => failNext e.endCause
  | some g =>
    if g = e.closing then
      skip
      skipEnds outer
    else return some (e :: outer)

/-- Passes over the name and the colon if the next value is a member of an object. -/
def skipName : List Enclosure → Reader Unit
  | .object :: _ => do
    match ← peekToken with
    | none => failNext .endInObject
    | some g =>
      if g = .char '"' then
        skip
        skipString ((← left) + 1)
        match ← peekToken with
        | none => failNext .endInObject
        | some g => if g = .char ':' then skip else failNext .expectedColon
      else failNext .keyMustBeString
  | _ => pure ()

/-- Passes over values until all enclosures are closed. -/
def skipValues (enclosures : List Enclosure) : Nat → Reader Unit
  | 0 => pure ()
  | fuel + 1 => do
    let next ←
      match ← peekValue with
      | .char '[' => skipOpened .array enclosures
      | .char '\x7b' => skipOpened .object enclosures
      | g => do
        match g with
        | .char 'n' => do
          skip
          word "ull".toList
        | .char 't' => do
          skip
          word "rue".toList
        | .char 'f' => do
          skip
          word "alse".toList
        | .char '-' => do
          skip
          skipUnsigned
        | .char '"' => do
          skip
          skipString ((← left) + 1)
        | g => if (digit? g).isSome then skipUnsigned else failNext .expectedValue
        skipEnds enclosures
    match next with
    | none => pure ()
    | some enclosures =>
      skipName enclosures
      skipValues enclosures fuel

/-- Passes over a value, however deep it is. -/
def skipValue : Reader Unit := do skipValues [] ((← left) + 1)

end Reader

end RecordStore.Json
