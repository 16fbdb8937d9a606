import RecordStore.Generator.Run

/-!
# The command line

The generator is called with the source file and the name of the struct, and with options in any
place between them. An option is given once, its value attached or as the next argument; after two
dashes nothing counts as an option any more. The version and the help are given as soon as they are
asked for, unless an earlier argument is wrong.
-/

namespace RecordStore

namespace CommandLine

/-! ### Settings -/

/-- The options that have a value. -/
inductive Setting
  | output
  | package
  | template
  deriving DecidableEq, Repr

/-- What the arguments so far have set. -/
structure Settings where
  source : Option String := none
  structName : Option String := none
  output : Option String := none
  package : Option String := none
  template : Option String := none
  deriving DecidableEq, Repr

namespace Settings

/-- The settings with a value for an option. An option is set only once, and the file of a template
has a name. -/
def set (s : Settings) (setting : Setting) (value : String) : Option Settings :=
  match setting with
  | .output => if s.output.isSome then none else some { s with output := some value }
  | .package => if s.package.isSome then none else some { s with package := some value }
  | .template =>
    if s.template.isSome || value.isEmpty then none else some { s with template := some value }

/-- The settings with one more argument that is no option. The source file has a name. -/
def add (s : Settings) (value : String) : Option Settings :=
  match s.source, s.structName with
  | none, _ => if value.isEmpty then none else some { s with source := some value }
  | some _, none => some { s with structName := some value }
  | some _, some _ => none

/-- The options of a run, if everything that is needed is set. -/
def options? (s : Settings) : Option GenerateOptions :=
  match s.source, s.structName with
  | some source, some structName =>
    some {
      source, structName
      output := .ofText (s.output.getD "stdout")
      package := s.package
      template := s.template }
  | _, _ => none

end Settings

/-! ### Arguments -/

/-- What the program is asked to do. -/
inductive Request
  | version
  | help
  | generate (options : GenerateOptions)
  deriving DecidableEq, Repr

/-- An argument, when no value is waited for. -/
inductive Argument
  /-- It is no option. -/
  | plain (value : String)
  /-- No option follows. -/
  | noMoreOptions
  | version
  | help
  /-- An option with its value, or waiting for it. -/
  | setting (s : Setting) (value : Option String)
  | unknown
  deriving DecidableEq, Repr

/-- The option with a long name. -/
def longSetting? (name : String) : Option Setting :=
  match name with
  | "output" => some .output
  | "package" => some .package
  | "template" => some .template
  | _ => none

/-- The option with a short name. -/
def shortSetting? (name : Char) : Option Setting :=
  match name with
  | 'o' => some .output
  | 'p' => some .package
  | 't' => some .template
  | _ => none

/-- What follows the first equals sign of a text, and what stands before it. -/
def splitValue (cs : List Char) : String × Option String :=
  match cs.span (· ≠ '=') with
  | (name, _ :: value) => (String.ofList name, some (String.ofList value))
  | (name, []) => (String.ofList name, none)

/-- An argument after two dashes. -/
def longArgument (cs : List Char) : Argument :=
  match splitValue cs with
  | ("version", none) => .version
  | ("help", none) => .help
  | (name, value) =>
    match longSetting? name with
    | some s => .setting s value
    | none => .unknown

/-- The value that is attached to a short option, an equals sign before it left out. -/
def attachedValue : List Char → Option String
  | [] => none
  | '=' :: value => some (String.ofList value)
  | value => some (String.ofList value)

/-- An argument after one dash. -/
def shortArgument (name : Char) (rest : List Char) : Argument :=
  if name = 'V' then .version
  else if name = 'h' then .help
  else
    match shortSetting? name with
    | some s => .setting s (attachedValue rest)
    | none => .unknown

/-- What an argument is. A dash alone is no option. -/
def Argument.ofText (text : String) : Argument :=
  match text.toList with
  | ['-', '-'] => .noMoreOptions
  | '-' :: '-' :: rest => longArgument rest
  | '-' :: name :: rest => shortArgument name rest
  | _ => .plain text

/-- Reads arguments, with the option whose value is waited for. -/
def parseFrom (s : Settings) (waiting : Option Setting) : List String → Option Request
  | [] => if waiting.isSome then none else s.options?.map .generate
  | text :: rest =>
    match waiting, Argument.ofText text with
    | some setting, .plain value => do parseFrom (← s.set setting value) none rest
    | some _, _ => none
    | none, .plain value => do parseFrom (← s.add value) none rest
    | none, .noMoreOptions => do
      let s ← rest.foldlM Settings.add s
      return .generate (← s.options?)
    | none, .version => some .version
    | none, .help => some .help
    | none, .setting setting none => parseFrom s (some setting) rest
    | none, .setting setting (some value) => do parseFrom (← s.set setting value) none rest
    | none, .unknown => none

/-- **Reads the arguments of a call.** -/
def parse (arguments : List String) : Option Request := parseFrom {} none arguments

/-! ### Calls -/

/-- The line that tells the version. -/
def versionText : String := "sdata-gen 0.1.0\n"

/-- The line that tells how the program is called. -/
def usageText : String := "Usage: sdata-gen [OPTIONS] <PATH> <STRUCT>\n"

/-- The text that tells what the program does. -/
def helpText : String :=
  String.join <| List.map (· ++ "\n")
    ["Data persistence made simple: generate a typed store for a struct", "",
      "Usage: sdata-gen [OPTIONS] <PATH> <STRUCT>", "", "Arguments:",
      "  <PATH>    Path to the source file", "  <STRUCT>  Name of the source struct", "",
      "Options:",
      "  -o, --output <OUTPUT>      Path to the destination file, or `stdout` / `-` " ++
        "[default: stdout]",
      "  -p, --package <PACKAGE>    Module name for the destination file",
      "  -t, --template <TEMPLATE>  Path to the template file",
      "  -h, --help                 Print help",
      "  -V, --version              Print version"]

/-- **What a call leaves behind**: its exit code and what it printed. -/
structure Outcome where
  exit : Nat
  stdout : String := ""
  stderr : String := ""
  deriving DecidableEq, Repr

/-- The outcome of a call with arguments that cannot be read. -/
def Outcome.refused : Outcome := { exit := 2, stderr := usageText }

/-- The outcome of a call that printed something. -/
def Outcome.printed (text : String) : Outcome := { exit := 0, stdout := text }

/-- The outcome of a failed run. -/
def Outcome.failed (e : GenerateError) : Outcome :=
  { exit := 1, stderr := "[ERROR] " ++ e.message ++ "\n" }

/-- The outcome of a run that succeeded. -/
def Outcome.generated (options : GenerateOptions) (g : Generated) : Outcome :=
  match options.output with
  | .stdout => .printed g.code
  | .file _ => .printed ""

/-- **A call in a file tree**, with the tree after it. -/
def run (arguments : List String) (tree : FileTree) : Outcome × FileTree :=
  match parse arguments with
  | none => (.refused, tree)
  | some .version => (.printed versionText, tree)
  | some .help => (.printed helpText, tree)
  | some (.generate options) =>
    match options.run none tree with
    | (.ok g, after) => (.generated options g, after)
    | (.error e, after) => (.failed e, after)

end CommandLine

end RecordStore
