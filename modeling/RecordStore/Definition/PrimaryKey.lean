import RecordStore.Definition.Struct

/-!
# Primary keys

The primary key of a struct is its one field with the value `primary_key` in the namespace `data`.
It must be of the string type. A struct without such a field, with several, or with one of another
type has none, and each of the three is an error of its own.
-/

namespace RecordStore

/-- The namespace of the key marker. -/
def keyNamespace : String := "data"

/-- The key marker. -/
def keyMarker : String := "primary_key"

/-- Whether a field carries the key marker. -/
def FieldDef.isPrimaryKey (field : FieldDef) : Bool := field.tags.contains keyNamespace keyMarker

/-- Why a struct has no primary key. -/
inductive PrimaryKeyError
  /-- No field is marked. -/
  | noPrimaryKey (struct : String)
  /-- Several fields are marked. -/
  | ambiguous (struct : String) (fields : List String)
  /-- The marked field is not a string. -/
  | invalidType (struct field type : String)
  deriving DecidableEq, Repr

/-- The wording of an error. -/
def PrimaryKeyError.message : PrimaryKeyError → String
  | .noPrimaryKey struct =>
    s!"no field of struct '{struct}' is tagged with `#[data(primary_key)]`"
  | .ambiguous struct fields =>
    let names := String.intercalate ", " fields
    s!"multiple fields of struct '{struct}' are tagged with `#[data(primary_key)]`: {names}"
  | .invalidType struct field type =>
    s!"primary key field '{struct}.{field}' must be of type `String`, found `{type}`"

/-- The marked fields with their positions, the first field standing at `start`. -/
def markedFrom (start : Nat) : List FieldDef → List (Nat × FieldDef)
  | [] => []
  | f :: rest =>
    if f.isPrimaryKey then (start, f) :: markedFrom (start + 1) rest
    else markedFrom (start + 1) rest

/-- **The primary key of a struct** and its position among the fields. -/
def StructDef.primaryKey (s : StructDef) : Except PrimaryKeyError (Nat × FieldDef) :=
  match markedFrom 0 s.fields with
  | [] => .error (.noPrimaryKey s.name)
  | [(i, f)] =>
    if f.isString then .ok (i, f) else .error (.invalidType s.name f.name f.type)
  | marked => .error (.ambiguous s.name (marked.map (·.2.name)))

end RecordStore
