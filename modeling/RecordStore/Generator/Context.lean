import RecordStore.Definition.File
import RecordStore.Generator.Failure

/-!
# From a struct to the values of a template

A store is generated for one struct of a source file. In the module of the file the struct is called
by its name; in another module it is called through its own module, which has to be imported, unless
it is at the root of the package. The table is named after the module path of the struct, and
where there is none, after the struct as it is called.
-/

namespace RecordStore

/-! ### Lookup -/

/-- The structs with a name. -/
def SourceFile.named (source : SourceFile) (name : String) : List StructDef :=
  source.structs.filter fun s => s.name == name

/-- **The one struct with a name.** -/
def SourceFile.find (source : SourceFile) (name : String) : Except GenerateError StructDef :=
  if source.structs.isEmpty then .error (.noStructs source.path)
  else
    match source.named name with
    | [] => .error (.structNotFound name source.path)
    | [found] => .ok found
    | several => .error (.ambiguousStruct name source.path several.length)

/-! ### Contexts -/

/-- The package that a store is generated for: the one of the source if none is named. -/
def SourceFile.target (source : SourceFile) (package : Option String) : String :=
  match package with
  | none => source.package
  | some name => if name.isEmpty then source.package else name

/-- How a struct is called in a package, and what has to be imported for that. `modulePath` is the
module path of the source file. -/
def SourceFile.reference (source : SourceFile) (modulePath : Except ModulePathFault String)
    (struct : StructDef) (package : String) : Except GenerateError (String × String) :=
  if package = source.package then .ok (struct.name, "")
  else if source.package = "crate" then .ok ("crate::" ++ struct.name, "")
  else
    match modulePath with
    | .ok path => .ok (source.package ++ "::" ++ struct.name, path)
    | .error fault => .error (.modulePath source.path fault)

/-- **The values of the template** for a struct and its primary key. -/
def SourceFile.context (source : SourceFile) (modulePath : Except ModulePathFault String)
    (struct : StructDef) (primaryKey : String) (package : Option String) :
    Except GenerateError TemplateContext :=
  let package := source.target package
  match source.reference modulePath struct package with
  | .error e => .error e
  | .ok (type, typeImport) =>
    let table :=
      match modulePath with
      | .ok path => path ++ "::" ++ struct.name
      | .error _ => type
    .ok { package, type, name := struct.name, primaryKey, typeImport, table }

end RecordStore
