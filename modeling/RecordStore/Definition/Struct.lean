import RecordStore.Definition.Tags

/-!
# Struct definitions

What the generator keeps of a struct declaration: its name and, for each field, the name, the
declared type as text and the tags.
-/

namespace RecordStore

/-- A field of a struct. -/
structure FieldDef where
  /-- The identifier, or the position in decimal for a field without one. -/
  name : String
  /-- The declared type as written, in canonical spacing. -/
  type : String
  /-- The attributes as data. -/
  tags : Tags := {}
  /-- The attributes as text, documentation left out. -/
  rawTags : List String := []
  deriving DecidableEq

/-- **A struct definition**, its fields in order of declaration. -/
structure StructDef where
  /-- The name of the struct. -/
  name : String
  /-- The fields in order of declaration. -/
  fields : List FieldDef
  deriving DecidableEq

/-- The spellings of the string type. -/
def stringTypes : List String :=
  ["String", "std::string::String", "::std::string::String", "alloc::string::String",
    "::alloc::string::String"]

/-- Whether the declared type is the string type in one of its spellings. -/
def FieldDef.isString (field : FieldDef) : Bool := stringTypes.contains field.type

/-- The first field with a name. -/
def StructDef.field? (s : StructDef) (name : String) : Option FieldDef :=
  s.fields.find? (·.name == name)

end RecordStore
