import RecordStore.Definition.Struct
import RecordStore.FileTree.Basic
import RecordStore.Source.File
import RecordStore.Text.Spacing

/-!
# Struct definitions from source text

Every struct at the top level of a file is kept, in order. The attributes of a field become tags:
the path is the namespace, and the values are what is listed, or the value after an equals sign. A
list that does not consist of items gives no values, but its namespace is present. Documentation is
no tag.
-/

namespace RecordStore

open Source

/-! ### Texts -/

/-- The text of a path. -/
def Source.Path.text (p : Path) : String := Text.respace p.tokens.print

/-- The text of an expression. A string stands for its value. -/
def Source.Expression.text (e : Expression) : String :=
  match e.form with
  | .literal ⟨.string value, _, _⟩ => value
  | _ => Text.respace e.tokens.print

/-- **The text of a type.** -/
def Source.TypeExpr.text (t : TypeExpr) : String := Text.respace t.tokens.print

/-! ### Tags -/

/-- The value that an item of a list stands for. -/
def Source.NestedItem.value (item : NestedItem) : String :=
  match item.content with
  | .nothing => item.path.text
  | .value e => item.path.text ++ "=" ++ e.text
  | .list body => item.path.text ++ "(" ++ Tokens.print body ++ ")"

/-- The values that an attribute lists. -/
def Source.AttributeContent.values : AttributeContent → List String
  | .path _ => []
  | .nameValue _ e => [e.text]
  | .list _ _ body => ((NestedItem.parseAll? body).getD []).map NestedItem.value

/-- The tags that attributes stand for. -/
def Tags.ofAttributes (attributes : List Attribute) : Tags :=
  Tags.ofList ((attributes.filter fun a => !a.isDoc).map fun a =>
    (a.content.subject.text, a.content.values))

/-! ### Structs -/

/-- The definition of a field at some position. -/
def FieldDef.ofField (index : Nat) (field : Field) : FieldDef where
  name := (field.name.map Word.text).getD (toString index)
  type := field.type.text
  tags := .ofAttributes field.attributes
  rawTags := (field.attributes.filter fun a => !a.isDoc).map fun a => a.tokens.print

/-- **The definition of a struct.** -/
def StructDef.ofItem (s : StructItem) : StructDef where
  name := s.name.text
  fields := s.fields.mapIdx FieldDef.ofField

/-! ### Files -/

/-- **A file with struct definitions.** -/
structure SourceFile where
  /-- Where the file is, as it was asked for. -/
  path : String
  /-- The name of the module that the file defines. -/
  package : String
  /-- The structs at its top level, in order. -/
  structs : List StructDef

/-- The last name in a path, unless it leads upwards. -/
def lastName? (names : List String) : Option String :=
  names.getLast?.bind fun name => if name = ".." then none else some name

/-- A file name without the part from its last point on. A point in front counts as part of the
name. -/
def stem (name : String) : String :=
  match name.toList.reverse.span (· ≠ '.') with
  | (_, _ :: rest) => if rest.isEmpty then name else String.ofList rest.reverse
  | (_, []) => name

/-- **The module that a file defines**: its stem, or for `mod` files the directory that holds it. A
file at the root of a package defines `crate`. -/
def packageName (path : String) : String :=
  let names := (FileTree.namesOf path).filter (· ≠ ".")
  match ((lastName? names).map stem).getD "" with
  | "" | "lib" | "main" => "crate"
  | "mod" => (lastName? names.dropLast).getD "crate"
  | other => other

/-- **Reads the text of a file.** The path only names the module. -/
def SourceFile.parse (path text : String) : Except SyntaxError SourceFile := do
  let file ← SourceText.parse text
  return { path, package := packageName path, structs := file.structs.map StructDef.ofItem }

end RecordStore
