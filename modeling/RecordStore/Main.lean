import RecordStore.CommandLine

/-!
# The program

Reads what a run needs from the system, and writes and prints what it gives.
-/

namespace RecordStore.Program

/-- The fault that an error of the system stands for. -/
def faultOf : IO.Error → FileFault
  | .noFileOrDirectory .. => .notFound
  | e => .other (toString e)

/-- The text of a file. -/
def readText (path : String) : IO (Except FileFault String) := do
  match ← (IO.FS.readBinFile path).toBaseIO with
  | .error e => return .error (faultOf e)
  | .ok content =>
    match Text.decode content.toList with
    | .ok text => return .ok text
    | .error _ => return .error .notText

/-- The text of an absolute path. -/
def absolute (names : List String) : String := "/" ++ String.intercalate "/" names

/-- Whether a directory holds a manifest. -/
def holdsManifest (dir : List String) : IO Bool := do
  match ← (IO.FS.readBinFile (absolute (dir ++ [manifestName]))).toBaseIO with
  | .ok _ => return true
  | .error _ => return false

/-- The module path of a file. -/
def modulePath (path : String) : IO (Except ModulePathFault String) := do
  match ← (IO.FS.realPath path).toBaseIO with
  | .error e => return .error (.unresolved (faultOf e))
  | .ok found =>
    let names := FileTree.namesOf found.toString
    let packages ← (ancestors names).filterM holdsManifest
    return modulePathAt packages.contains absolute names

/-- What a run reads. -/
def inputs (options : GenerateOptions) : IO RunInputs := do
  let template ←
    match options.template with
    | some path => readText path
    | none => pure (.error .notFound)
  return {
    source := ← readText options.source
    modulePath := ← modulePath options.source
    template := fun _ => template }

/-- Writes the code of a run where it has to go. -/
def write (options : GenerateOptions) (g : Generated) : IO (Except GenerateError Unit) := do
  match options.output with
  | .stdout => return .ok ()
  | .file path =>
    match ← (IO.FS.writeFile path g.code).toBaseIO with
    | .ok _ => return .ok ()
    | .error e => return .error (.unwritable path (faultOf e))

/-- A run, with what it leaves behind. -/
def generate (options : GenerateOptions) : IO CommandLine.Outcome := do
  match render options (← inputs options) with
  | .error e => return .failed e
  | .ok g =>
    match ← write options g with
    | .ok _ => return .generated options g
    | .error e => return .failed e

/-- A call, with what it leaves behind. -/
def call (arguments : List String) : IO CommandLine.Outcome := do
  match CommandLine.parse arguments with
  | none => return .refused
  | some .version => return .printed CommandLine.versionText
  | some .help => return .printed CommandLine.helpText
  | some (.generate options) => generate options

end RecordStore.Program

/-- **Calls the generator** with the arguments of the command line. -/
def main (arguments : List String) : IO UInt32 := do
  let outcome ← RecordStore.Program.call arguments
  IO.print outcome.stdout
  IO.eprint outcome.stderr
  return UInt32.ofNat outcome.exit
