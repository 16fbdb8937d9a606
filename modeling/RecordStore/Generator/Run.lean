import RecordStore.Generator.Context
import RecordStore.Template.Store

/-!
# Generator runs

A run reads a source file, finds a struct in it and its primary key, and fills a template. What it
reads is fetched first, so that everything else is a function of that. Only at the end, when nothing
can fail any more but the writing itself, the code is written to its destination.
-/

namespace RecordStore

/-! ### Options -/

/-- Where generated code goes. -/
inductive Output
  | stdout
  | file (path : String)
  deriving DecidableEq, Repr

namespace Output

/-- The destination that a text names: `stdout` and `-` the standard output, anything else a
file. -/
def ofText (text : String) : Output :=
  if text = "stdout" ∨ text = "-" then .stdout else .file text

/-- The text of a destination. -/
def text : Output → String
  | stdout => "stdout"
  | file path => path

end Output

/-- **What a run is asked for.** -/
structure GenerateOptions where
  /-- The source file. -/
  source : String
  /-- The struct to generate a store for. -/
  structName : String
  output : Output := .stdout
  /-- The module that the code is for; without a name the one of the source. -/
  package : Option String := none
  /-- The file with the template, if it is not the built-in one. -/
  template : Option String := none
  deriving DecidableEq, Repr

/-! ### Rendering -/

/-- What a run reads. -/
structure RunInputs where
  /-- The text of the source file. -/
  source : Except FileFault String
  /-- The module path of the source file. -/
  modulePath : Except ModulePathFault String
  /-- The text of a template by its path. -/
  template : String → Except FileFault String

/-- A rendered store. -/
structure Generated where
  context : TemplateContext
  code : String
  deriving DecidableEq, Repr

/-- The definitions in the source file. -/
def parseSource (options : GenerateOptions) (inputs : RunInputs) :
    Except GenerateError SourceFile :=
  match inputs.source with
  | .error fault => .error (.unreadable options.source fault)
  | .ok text =>
    match SourceFile.parse options.source text with
    | .error e => .error (.malformed options.source e)
    | .ok source => .ok source

/-- The values of the template. -/
def resolveContext (options : GenerateOptions) (inputs : RunInputs) :
    Except GenerateError TemplateContext := do
  let source ← parseSource options inputs
  let struct ← source.find options.structName
  let (_, key) ← struct.primaryKey.mapError .primaryKey
  source.context inputs.modulePath struct key.name options.package

/-- Code that has to be source text. -/
def checkCode (code : String) : Except TemplateFailure String :=
  match Source.SourceText.parse code with
  | .ok _ => .ok code
  | .error e => .error (.invalidOutput e)

/-- The built-in template with values, which has to give source text. -/
def renderStore (context : TemplateContext) : Except TemplateFailure String :=
  checkCode (Template.store.render context)

/-- The template of a file with values. -/
def renderFile (path : String) (text : Except FileFault String) (context : TemplateContext) :
    Except TemplateFailure String :=
  match text with
  | .error fault => .error (.unreadable path fault)
  | .ok text =>
    match Template.parse text with
    | .error e => .error (.malformed e)
    | .ok template => .ok (template.render context)

/-- The code for some values. -/
def renderCode (options : GenerateOptions) (inputs : RunInputs) (context : TemplateContext) :
    Except GenerateError String :=
  match options.template with
  | none => (renderStore context).mapError .template
  | some path => (renderFile path (inputs.template path) context).mapError .template

/-- **Everything but the writing.** -/
def render (options : GenerateOptions) (inputs : RunInputs) : Except GenerateError Generated := do
  let context ← resolveContext options inputs
  return { context, code := ← renderCode options inputs context }

/-! ### Runs in a file tree -/

/-- What a run reads from a file tree. -/
def FileTree.runInputs (tree : FileTree) (options : GenerateOptions) : RunInputs where
  source := tree.readText options.source
  modulePath := tree.modulePath options.source
  template := tree.readText

/-- Computations on a file tree. One that fails too says what the tree is afterwards. -/
abbrev RunM (α : Type) := ExceptT GenerateError (StateM FileTree) α

/-- The name that errors have for the standard output. -/
def stdoutName : String := "<stdout>"

/-- Brings code to its destination. The standard output cannot be written if there is a fault
in it. -/
def Output.write (output : Output) (stdoutFault : Option FileFault) (code : String) :
    RunM Unit := do
  match output with
  | .stdout =>
    if let some fault := stdoutFault then throw (.unwritable stdoutName fault)
  | .file path =>
    match (← get).write path (Text.utf8 code) with
    | .ok after => set after
    | .error fault => throw (.unwritable path fault)

namespace GenerateOptions

/-- **A run up to the writing**, which only looks at the tree. -/
def rendering (options : GenerateOptions) : RunM Generated := do
  match render options ((← get).runInputs options) with
  | .ok generated => return generated
  | .error e => throw e

/-- **A run in a file tree.** -/
def run (options : GenerateOptions) (stdoutFault : Option FileFault := none) : RunM Generated := do
  let generated ← options.rendering
  options.output.write stdoutFault generated.code
  return generated

end GenerateOptions

/-- A run in a file tree that succeeds, with the tree after it. -/
def FileTree.generate (tree : FileTree) (options : GenerateOptions) :
    Except GenerateError (Generated × FileTree) :=
  match options.run none tree with
  | (.ok generated, after) => .ok (generated, after)
  | (.error e, _) => .error e

end RecordStore
