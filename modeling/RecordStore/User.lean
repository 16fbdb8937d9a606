import RecordStore.Json.Convert

/-!
# Users

A user, the record that the sample store keeps. A user is written as an object with the fields in
order of declaration. It can be read from an object with these members in any order, others being
passed over, or from an array of exactly the three values.
-/

namespace RecordStore

/-- Types whose values are stored under a string that they hold. -/
class Record (α : Type) where
  /-- The value of the primary-key field. -/
  primaryKey : α → String

/-- **A user.** -/
structure User where
  /-- The primary key. -/
  id : String
  name : String
  age : UInt32
  deriving DecidableEq, Repr

instance : Record User := ⟨User.id⟩

namespace User

open Json Json.Reader

instance : Writable User :=
  ⟨fun u => .ok <|
    '\x7b' :: joinCommas
      [renderString "id" ++ ':' :: renderString u.id,
        renderString "name" ++ ':' :: renderString u.name,
        renderString "age" ++ ':' :: renderInt u.age.toNat] ++ ['\x7d']⟩

/-- The members of a user read so far. -/
structure Draft where
  id : Option String := none
  name : Option String := none
  age : Option UInt32 := none

/-- Where reading the members of an object has got to. -/
inductive Progress
  /-- All members are read. -/
  | complete (draft : Draft)
  /-- A member occurs a second time; its value has not been read. -/
  | duplicate (name : String)

/-- Reads the members of an object after its brace. -/
def readMembers (draft : Draft) (isFirst : Bool) : Nat → Reader Progress
  | 0 => return .complete draft
  | fuel + 1 => do
    if ← hasMember isFirst then
      let name ← memberName
      if name = "id" then
        if draft.id.isSome then return .duplicate name
        colon
        let id ← decodeString
        readMembers { draft with id := some id } false fuel
      else if name = "name" then
        if draft.name.isSome then return .duplicate name
        colon
        let value ← decodeString
        readMembers { draft with name := some value } false fuel
      else if name = "age" then
        if draft.age.isSome then return .duplicate name
        colon
        let age ← decodeInteger "u32" fitUInt32
        readMembers { draft with age := some age } false fuel
      else
        colon
        skipValue
        readMembers draft false fuel
    else return .complete draft

/-- The user with the members read, or the first one that is missing. -/
def Draft.finish (draft : Draft) : Reader User :=
  match draft.id, draft.name, draft.age with
  | some id, some name, some age => return { id, name, age }
  | none, _, _ => fail (.missingField "id")
  | _, none, _ => fail (.missingField "name")
  | _, _, none => fail (.missingField "age")

/-- Reads a user from an object. -/
def ofObject : Reader User := do
  match ← readMembers {} true ((← left) + 1) with
  | .complete draft =>
    endObject
    draft.finish
  | .duplicate name =>
    if (← peekToken) = some (.char '\x7d') then skip
    fail (.duplicateField name)

/-- Reads the next item of an array that stands for a user; `count` items are read already. -/
def item {α : Type} (count : Nat) (value : Reader α) : Reader α := do
  if ← hasItem (count = 0) then value
  else
    skip
    fail (.invalidLength count "struct User with 3 elements")

/-- Reads a user from an array. -/
def ofArray : Reader User := do
  let id ← item 0 decodeString
  let name ← item 1 decodeString
  let age ← item 2 (decodeInteger "u32" fitUInt32)
  endArray
  return { id, name, age }

/-- Reads a user. -/
def decode (levels : Nat) : Reader User := do
  match ← peekValue with
  | .char '[' => nested levels fun _ => ofArray
  | .char '\x7b' => nested levels fun _ => ofObject
  | _ => mismatch "struct User"

instance : Readable User := ⟨decode⟩

end User

end RecordStore
