import RecordStore.Text.SnakeCase

/-!
# Template contexts

The values that a template can refer to, and the names it refers to them by.
-/

namespace RecordStore

/-- The variables of a template. -/
inductive Variable
  | package
  | type
  | name
  | primaryKey
  | typeImport
  | table
  | snakeName
  deriving DecidableEq, Repr

namespace Variable

/-- Every variable. -/
def all : List Variable :=
  [.package, .type, .name, .primaryKey, .typeImport, .table, .snakeName]

/-- The name of a variable in a template. -/
def spelling : Variable → String
  | .package => "package"
  | .type => "type"
  | .name => "name"
  | .primaryKey => "primary_key"
  | .typeImport => "type_import"
  | .table => "table"
  | .snakeName => "snake_name"

/-- The variable with a name. -/
def ofName? (name : String) : Option Variable := all.find? (·.spelling == name)

end Variable

/-- **The values of the variables** for one store. -/
structure TemplateContext where
  /-- The module that the code is written for. -/
  package : String := ""
  /-- The stored type as the code must spell it. -/
  type : String := ""
  /-- The bare name of the struct. -/
  name : String := ""
  /-- The name of the primary-key field. -/
  primaryKey : String := ""
  /-- The module to import for the type; empty when none is needed. -/
  typeImport : String := ""
  /-- The table that the store keeps its values in. -/
  table : String := ""
  deriving DecidableEq, Repr

namespace TemplateContext

/-- The struct's name in snake case. -/
def snakeName (context : TemplateContext) : String := Text.snakeCase context.name

/-- The value of a variable. -/
def value (context : TemplateContext) : Variable → String
  | .package => context.package
  | .type => context.type
  | .name => context.name
  | .primaryKey => context.primaryKey
  | .typeImport => context.typeImport
  | .table => context.table
  | .snakeName => context.snakeName

end TemplateContext

end RecordStore
