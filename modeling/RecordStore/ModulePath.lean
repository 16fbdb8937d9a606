import RecordStore.FileTree.Basic
import RecordStore.Source.File

/-!
# Module paths

A file under the `src` directory of a package defines a module of it, and the path of the module
follows the path of the file: `src/models/user.rs` is `crate::models::user`, `src/models/mod.rs` is
`crate::models`, and the files at the root of a package are `crate` itself. The package is the
nearest directory above the file that holds a manifest.
-/

namespace RecordStore

/-- Why a file has no module path. -/
inductive ModulePathFault
  /-- The path of the file leads nowhere. -/
  | unresolved (fault : FileFault)
  /-- No directory above the file holds a manifest. -/
  | noPackage
  /-- The file is not in the given directory, where the sources of its package are. -/
  | outsideSources (dir : String)
  /-- The path leads to the directory of the sources itself. -/
  | noFile
  | notSource (file : String)
  /-- The file belongs to a program of its own. -/
  | binary
  /-- The file would define the root of the package, but is not called like one. -/
  | rootModule
  | invalidName (name : String)
  deriving DecidableEq, Repr

/-- The wording of a fault. -/
def ModulePathFault.message : ModulePathFault → String
  | .unresolved fault => "cannot canonicalize path: " ++ fault.message
  | .noPackage => "no Cargo.toml found in any parent directory"
  | .outsideSources dir => "file is not under " ++ dir
  | .noFile => "empty path"
  | .notSource file => s!"'{file}' is not a Rust source file"
  | .binary => "binary targets under src/bin cannot be imported"
  | .rootModule => "src/mod.rs is not a module of the crate"
  | .invalidName name => s!"'{name}' is not a valid module name"

/-- The name of the manifest of a package. -/
def manifestName : String := "Cargo.toml"

/-- The name of the directory with the sources of a package. -/
def sourcesName : String := "src"

/-! ### Segments -/

/-- The name of a source file without its ending. -/
def sourceStem? (file : String) : Option String :=
  match file.toList.reverse with
  | 's' :: 'r' :: '.' :: rest => some (String.ofList rest.reverse)
  | _ => none

/-- The segments that a file with a stem, in nested directories, gives to its module path. -/
def stemSegments (dirs : List String) (stem : String) : Except ModulePathFault (List String) :=
  match stem, dirs with
  | "lib", [] => .ok []
  | "main", [] => .ok []
  | "mod", [] => .error .rootModule
  | "mod", _ => .ok dirs
  | _, _ => .ok (dirs ++ [stem])

/-- **The module path of a file** with a path in the directory of the sources. -/
def modulePathOf (names : List String) : Except ModulePathFault String := do
  match names.getLast? with
  | none => throw .noFile
  | some file =>
    match sourceStem? file with
    | none => throw (.notSource file)
    | some stem =>
      let dirs := names.dropLast
      if dirs.head? = some "bin" then throw .binary
      let segments ← stemSegments dirs stem
      match segments.find? fun s => !Source.isSingleName s with
      | some bad => throw (.invalidName bad)
      | none => return String.intercalate "::" ("crate" :: segments)

/-! ### Packages -/

/-- The directories above a canonical path, the nearest first. -/
def ancestors (path : List String) : List (List String) :=
  (List.range path.length).reverse.map path.take

/-- The names that lead from the sources of a package to a file. -/
def namesInSources? (package path : List String) : Option (List String) :=
  match path.drop package.length with
  | name :: rest => if name = sourcesName then some rest else none
  | [] => none

/-- The module path of the file at a canonical path, where `holdsManifest` tells which directories
are packages and `outside` how a path is written. -/
def modulePathAt (holdsManifest : List String → Bool) (outside : List String → String)
    (path : List String) : Except ModulePathFault String :=
  match (ancestors path).find? holdsManifest with
  | none => .error .noPackage
  | some package =>
    match namesInSources? package path with
    | none => .error (.outsideSources (outside (package ++ [sourcesName])))
    | some names => modulePathOf names

/-- **The module path of the file** that a path leads to. -/
def FileTree.modulePath (tree : FileTree) (path : String) : Except ModulePathFault String :=
  match tree.canonical path with
  | .error fault => .error (.unresolved fault)
  | .ok names => modulePathAt (tree.holdsFileIn · manifestName) tree.outside names

end RecordStore
