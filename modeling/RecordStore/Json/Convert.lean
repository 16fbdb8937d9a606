import RecordStore.Json.Reader

/-!
# Lean values as JSON

How values of a type are written as JSON and read back. A reader is told how many arrays and
objects may still stand inside each other; a whole text may nest 127 of them.
-/

namespace RecordStore.Json

open Reader

/-- Types whose values can be written. -/
class Writable (α : Type) where
  /-- The text of a value. -/
  encode : α → Except WriteFault (List Char)

/-- Types whose values can be read. -/
class Readable (α : Type) where
  /-- Reads a value in which so many arrays and objects may stand inside each other. -/
  decode : Nat → Reader α

/-- The number of arrays and objects that may stand inside each other. -/
def maxDepth : Nat := 127

/-- Nothing but white space is left. -/
def endOfText : Reader Unit := do
  match ← peekToken with
  | none => return ()
  | some _ => failNext .trailingCharacters

/-- **Reads a value that makes up the whole text.** -/
def parse (α : Type) [Readable α] (bytes : Bytes) : Except Fault α :=
  let reader : Reader α := do
    let a ← Readable.decode maxDepth
    endOfText
    return a
  (reader.run { rest := Text.glyphs bytes }).map Prod.fst

/-! ### Integers -/

/-- Reads a number that `fit` accepts. -/
def decodeInteger {α : Type} (expected : String) (fit : Int → Option α) : Reader α := do
  if startsNumber (← peekValue) then
    match ← readNumber with
    | .int n =>
      match fit n with
      | some a => return a
      | none => fail (.invalidValue (.number (.int n)) expected)
    | .real bits => fail (.invalidType (.number (.real bits)) expected)
  else mismatch expected

/-- The unsigned number of 32 bits with a value. -/
def fitUInt32 (n : Int) : Option UInt32 :=
  if 0 ≤ n ∧ n.toNat < UInt32.size then some (UInt32.ofNat n.toNat) else none

/-- The signed number of 64 bits with a value. -/
def fitInt64 (n : Int) : Option Int64 :=
  if Int64.minValue.toInt ≤ n ∧ n ≤ Int64.maxValue.toInt then some (Int64.ofInt n) else none

instance : Writable UInt32 := ⟨fun n => .ok (renderInt n.toNat)⟩

instance : Readable UInt32 := ⟨fun _ => decodeInteger "u32" fitUInt32⟩

instance : Writable Int64 := ⟨fun n => .ok (renderInt n.toInt)⟩

instance : Readable Int64 := ⟨fun _ => decodeInteger "i64" fitInt64⟩

/-! ### Truth values and strings -/

/-- Reads a truth value. -/
def decodeBool : Reader Bool := do
  match ← peekValue with
  | .char 't' => do
    skip
    word "rue".toList
    return true
  | .char 'f' => do
    skip
    word "alse".toList
    return false
  | _ => mismatch "a boolean"

instance : Writable Bool := ⟨fun b => .ok (render (.bool b))⟩

instance : Readable Bool := ⟨fun _ => decodeBool⟩

/-- Reads a string. -/
def decodeString : Reader String := do
  if (← peekValue) = .char '"' then
    skip
    readString
  else mismatch "a string"

instance : Writable String := ⟨fun s => .ok (renderString s)⟩

instance : Readable String := ⟨fun _ => decodeString⟩

/-! ### Optional values, lists and maps -/

/-- Reads a value or `null`. -/
def decodeOption {α : Type} (value : Reader α) : Reader (Option α) := do
  if (← peekToken) = some (.char 'n') then
    skip
    word "ull".toList
    return none
  else return some (← value)

instance {α : Type} [Writable α] : Writable (Option α) :=
  ⟨fun
    | none => .ok (render .null)
    | some a => Writable.encode a⟩

instance {α : Type} [Readable α] : Readable (Option α) :=
  ⟨fun levels => decodeOption (Readable.decode levels)⟩

/-- The texts of the items of a list. -/
def encodeItems {α : Type} [Writable α] : List α → Except WriteFault (List (List Char))
  | [] => .ok []
  | a :: rest => do return (← Writable.encode a) :: (← encodeItems rest)

instance {α : Type} [Writable α] : Writable (List α) :=
  ⟨fun as => do return '[' :: joinCommas (← encodeItems as) ++ [']']⟩

/-- Reads an array. -/
def decodeList {α : Type} (levels : Nat) (item : Nat → Reader α) : Reader (List α) := do
  if (← peekValue) = .char '[' then nested levels fun inner => arrayRest (item inner)
  else mismatch "a sequence"

instance {α : Type} [Readable α] : Readable (List α) :=
  ⟨fun levels => decodeList levels Readable.decode⟩

/-- The texts of the members of a map. -/
def encodeMembers {α : Type} [Writable α] :
    List (String × α) → Except WriteFault (List (List Char))
  | [] => .ok []
  | (name, a) :: rest => do
    let text ← Writable.encode a
    return (renderString name ++ ':' :: text) :: (← encodeMembers rest)

instance {α : Type} [Writable α] : Writable (SortedMap α) :=
  ⟨fun m => do return '\x7b' :: joinCommas (← encodeMembers m.entries) ++ ['\x7d']⟩

/-- Reads an object as a map; of two members with one name the later counts. -/
def decodeMap {α : Type} (levels : Nat) (value : Nat → Reader α) : Reader (SortedMap α) := do
  if (← peekValue) = .char '\x7b' then
    nested levels fun inner => do return .ofList (← objectRest (value inner))
  else mismatch "a map"

instance {α : Type} [Readable α] : Readable (SortedMap α) :=
  ⟨fun levels => decodeMap levels Readable.decode⟩

/-- A map whose keys are pairs of numbers. No object has such keys, so only the empty map has a
text. -/
structure PairMap where
  /-- The keys with their values. -/
  entries : List ((UInt32 × UInt32) × UInt32)

instance : Writable PairMap :=
  ⟨fun m => if m.entries.isEmpty then .ok ['\x7b', '\x7d'] else .error .keyMustBeString⟩

/-! ### Values of any kind -/

/-- Reads any value, an array or an object with the given readers. -/
def decodeAny (array object : Reader Json) : Reader Json := do
  match ← peekValue with
  | .char 'n' => do
    skip
    word "ull".toList
    return .null
  | .char 't' => do
    skip
    word "rue".toList
    return .bool true
  | .char 'f' => do
    skip
    word "alse".toList
    return .bool false
  | .char '"' => do
    skip
    return .string (← readString)
  | .char '[' => array
  | .char '\x7b' => object
  | g => do
    if startsNumber g then return .number (← readNumber) else failNext .expectedValue

/-- Reads any value with so many arrays and objects inside each other. -/
def decodeValue : Nat → Reader Json
  | 0 => decodeAny (failNext .recursionLimit) (failNext .recursionLimit)
  | levels + 1 =>
    decodeAny
      (do
        skip
        return .array (← arrayRest (decodeValue levels)))
      (do
        skip
        let ms ← objectRest (decodeValue levels)
        return .object (SortedMap.ofList ms).entries)

instance : Writable Json := ⟨fun v => .ok v.render⟩

instance : Readable Json := ⟨decodeValue⟩

end RecordStore.Json
