import RecordStore.Template.Context

/-!
# Templates

A template is a sequence of constant texts, variables and conditionals. A conditional takes its
first branch when its variable has a value and its second branch when the value is empty.
Rendering replaces each variable by its value once; values are never read as templates.
-/

namespace RecordStore

/-- A part of a template. -/
inductive Node
  /-- Constant text. -/
  | text (chars : List Char)
  /-- The value of a variable. -/
  | variable (v : Variable)
  /-- One of two branches, the first if the variable has a value. -/
  | conditional (v : Variable) (first second : List Node)
  deriving Repr

/-- **A template**: parts in order. -/
abbrev Template := List Node

/-! ### Rendering -/

mutual

/-- The text of one part. -/
def Node.render (context : TemplateContext) : Node → List Char
  | .text chars => chars
  | .variable v => (context.value v).toList
  | .conditional v first second =>
    if (context.value v).isEmpty then renderNodes context second else renderNodes context first

/-- The text of parts in order. -/
def renderNodes (context : TemplateContext) : List Node → List Char
  | [] => []
  | node :: rest => node.render context ++ renderNodes context rest

end

/-- **The text of a template** for the given values. -/
def Template.render (template : Template) (context : TemplateContext) : String :=
  String.ofList (renderNodes context template)

/-! ### Adding text -/

/-- Appends constant text, joined to constant text at the end. -/
def appendText (nodes : List Node) (chars : List Char) : List Node :=
  if chars.isEmpty then nodes
  else
    match nodes with
    | [] => [.text chars]
    | [.text before] => [.text (before ++ chars)]
    | node :: rest => node :: appendText rest chars

end RecordStore
