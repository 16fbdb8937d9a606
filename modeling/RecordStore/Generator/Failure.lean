import RecordStore.Definition.PrimaryKey
import RecordStore.ModulePath
import RecordStore.Template.Parser

/-!
# Why a generator run fails

Each stage of a run fails in its own way, and the wording starts with the name of the stage.
-/

namespace RecordStore

/-- Why a template cannot be used. -/
inductive TemplateFailure
  | unreadable (path : String) (fault : FileFault)
  | malformed (e : TemplateError)
  /-- What the built-in template gave cannot be read as source text. -/
  | invalidOutput (e : Source.SyntaxError)
  deriving DecidableEq, Repr

/-- The wording of why a template cannot be used. -/
def TemplateFailure.message : TemplateFailure → String
  | .unreadable path fault => s!"cannot read {path}: " ++ fault.message
  | .malformed e => e.message
  | .invalidOutput e => "rendered output is not valid Rust: " ++ e.message

/-- **Why a generator run fails.** -/
inductive GenerateError
  /-- The source file cannot be read. -/
  | unreadable (path : String) (fault : FileFault)
  /-- The source file is not in the grammar. -/
  | malformed (path : String) (e : Source.SyntaxError)
  | noStructs (path : String)
  | structNotFound (name path : String)
  | ambiguousStruct (name path : String) (count : Nat)
  | primaryKey (e : PrimaryKeyError)
  /-- The module path of the source file is needed, and there is none. -/
  | modulePath (path : String) (fault : ModulePathFault)
  | template (e : TemplateFailure)
  /-- The destination cannot be written. -/
  | unwritable (path : String) (fault : FileFault)
  deriving DecidableEq, Repr

/-- The wording of an error. Lines and columns are counted from 1. -/
def GenerateError.message : GenerateError → String
  | .unreadable path fault => s!"parse: cannot read {path}: " ++ fault.message
  | .malformed path e =>
    let p := e.span.start
    s!"parse: {path}:{p.line}:{p.column + 1}: " ++ e.message
  | .noStructs path => s!"parse: no struct definitions found in {path}"
  | .structNotFound name path => s!"lookup: no struct named '{name}' found in {path}"
  | .ambiguousStruct name path count => s!"lookup: {count} structs named '{name}' found in {path}"
  | .primaryKey e => "primary key: " ++ e.message
  | .modulePath path fault =>
    s!"import path: cannot resolve the module of {path}: " ++ fault.message
  | .template e => "template: " ++ e.message
  | .unwritable path fault => s!"output: cannot write {path}: " ++ fault.message

end RecordStore
