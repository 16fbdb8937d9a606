import RecordStore.Text.Utf8

/-!
# Base64

Bytes as text over an alphabet of 64 characters, each for six bits, with `=` filling the last group
of four. Reading accepts exactly what writing produces: padding is required, and the bits of the
last character that carry nothing must be zero. A text that is refused is refused for one reason,
which names the first place that is wrong.
-/

namespace RecordStore.Base64

/-! ### The alphabet -/

/-- The byte of the character for six bits. -/
def symbol (n : Nat) : UInt8 :=
  if n < 26 then (65 + n).toUInt8
  else if n < 52 then (71 + n).toUInt8
  else if n < 62 then (n - 4).toUInt8
  else if n = 62 then 43
  else 47

/-- The six bits of a character, if it is in the alphabet. -/
def value? (b : UInt8) : Option Nat :=
  let n := b.toNat
  if 65 ≤ n ∧ n ≤ 90 then some (n - 65)
  else if 97 ≤ n ∧ n ≤ 122 then some (n - 71)
  else if 48 ≤ n ∧ n ≤ 57 then some (n + 4)
  else if n = 43 then some 62
  else if n = 47 then some 63
  else none

/-- The padding character. -/
def pad : UInt8 := 61

/-! ### Writing -/

/-- The characters for a group of three bytes, and for a shorter last one. -/
def encodeBytes : Bytes → Bytes
  | [] => []
  | [a] =>
    let n := a.toNat * 16
    [symbol (n / 64), symbol (n % 64), pad, pad]
  | [a, b] =>
    let n := (a.toNat * 256 + b.toNat) * 4
    [symbol (n / 4096), symbol (n / 64 % 64), symbol (n % 64), pad]
  | a :: b :: c :: rest =>
    let n := (a.toNat * 256 + b.toNat) * 256 + c.toNat
    symbol (n / 262144) :: symbol (n / 4096 % 64) :: symbol (n / 64 % 64) :: symbol (n % 64) ::
      encodeBytes rest

/-- **The Base64 text of some bytes.** -/
def encode (bytes : Bytes) : String :=
  String.ofList ((encodeBytes bytes).map fun b => Char.ofNat b.toNat)

/-! ### Reading -/

/-- Why a text is not in Base64; offsets count bytes. -/
inductive Fault
  /-- A byte outside the alphabet, or padding where none may be. -/
  | invalidByte (offset : Nat) (byte : UInt8)
  /-- One character is left over after groups of four. -/
  | invalidLength
  /-- The last character has bits that carry nothing. -/
  | invalidLastSymbol (offset : Nat) (byte : UInt8)
  /-- The padding is missing or too short. -/
  | invalidPadding
  deriving DecidableEq, Repr

/-- The wording of a fault. -/
def Fault.message : Fault → String
  | .invalidByte offset byte => s!"Invalid byte {byte}, offset {offset}."
  | .invalidLength => "Encoded text cannot have a 6-bit remainder."
  | .invalidLastSymbol offset byte => s!"Invalid last symbol {byte}, offset {offset}."
  | .invalidPadding => "Invalid padding"

/-- The bytes that groups of six bits hold, with the bits that are left over at the end. -/
def joinBits : List Nat → Bytes × Nat
  | a :: b :: c :: d :: rest =>
    let n := ((a * 64 + b) * 64 + c) * 64 + d
    let (bytes, left) := joinBits rest
    ((n / 65536).toUInt8 :: (n / 256 % 256).toUInt8 :: (n % 256).toUInt8 :: bytes, left)
  | [a, b, c] =>
    let n := (a * 64 + b) * 64 + c
    ([(n / 1024).toUInt8, (n / 4 % 256).toUInt8], n % 4)
  | [a, b] =>
    let n := a * 64 + b
    ([(n / 16).toUInt8], n % 16)
  | [a] => ([], a)
  | [] => ([], 0)

/-- Reads a text whose length is not one more than a multiple of four. The characters up to the
first that is not in the alphabet must be followed by nothing but padding that fills the group of
four they end in, and this group must hold two of them at least. -/
def decodeGroups (bytes : Bytes) : Except Fault Bytes :=
  let symbols := bytes.takeWhile fun b => (value? b).isSome
  let ending := bytes.dropWhile fun b => (value? b).isSome
  let count := symbols.length
  let misplaced : Option UInt8 :=
    match ending with
    | [] => none
    | b :: _ =>
      if b ≠ pad ∨ count % 4 < 2 ∨ ending.any (· ≠ pad) ∨ 4 < count % 4 + ending.length then some b
      else none
  match misplaced with
  | some b => .error (.invalidByte count b)
  | none =>
    if bytes.length % 4 ≠ 0 then .error .invalidPadding
    else
      let (decoded, left) := joinBits (symbols.filterMap value?)
      if left ≠ 0 then .error (.invalidLastSymbol (count - 1) (symbols.getLastD 0))
      else .ok decoded

/-- **The bytes that a Base64 text stands for.** A character too many is reported as such, unless
it is itself no character of the alphabet. -/
def decode (text : String) : Except Fault Bytes :=
  let bytes := Text.utf8 text
  if bytes.length % 4 = 1 then
    match bytes.getLast? with
    | some last =>
      if last ≠ pad ∧ (value? last).isNone then .error (.invalidByte (bytes.length - 1) last)
      else .error .invalidLength
    | none => .error .invalidLength
  else decodeGroups bytes

end RecordStore.Base64
