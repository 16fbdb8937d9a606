import RecordStore.Text.Utf8

/-!
# File trees

A directory with everything below it, as far as programs can tell by reading and writing files. An
entry is found under its canonical path, the list of names that lead to it from the top directory.
Path texts are resolved as a POSIX system does it: `.` and `..` are followed name by name, symbolic
links are replaced by their targets, a name in the middle of a path must be a directory, and each
way to fail has its own fault.

The tree ends at its top directory: nothing above it can be reached.
-/

namespace RecordStore

/-- What a name can stand for. -/
inductive FileEntry
  | file (content : Bytes)
  | directory
  | symlink (target : String)
  deriving DecidableEq, Repr

/-- Why a file operation fails. -/
inductive FileFault
  | notFound
  | notDirectory
  | isDirectory
  | nameTooLong
  | tooManyLinks
  /-- The path text holds a zero character. -/
  | zeroCharacter
  /-- The file was to be read as text and is none. -/
  | notText
  /-- Anything else that a system may report, in its own words. -/
  | other (text : String)
  deriving DecidableEq, Repr

/-- The wording of a fault. -/
def FileFault.message : FileFault → String
  | .notFound => "No such file or directory (os error 2)"
  | .notDirectory => "Not a directory (os error 20)"
  | .isDirectory => "Is a directory (os error 21)"
  | .nameTooLong => "File name too long (os error 36)"
  | .tooManyLinks => "Too many levels of symbolic links (os error 40)"
  | .zeroCharacter => "file name contained an unexpected NUL byte"
  | .notText => "stream did not contain valid UTF-8"
  | .other text => text

/-- **A file tree.** -/
structure FileTree where
  /-- What stands at a canonical path, the top directory apart. -/
  entry : List String → Option FileEntry
  /-- Where the top directory is, for those who look at it from outside. -/
  root : String := ""

namespace FileTree

/-- The tree with an empty top directory. -/
def empty : FileTree := { entry := fun _ => none }

/-- The tree with another entry at a canonical path. -/
def set (tree : FileTree) (path : List String) (entry : Option FileEntry) : FileTree :=
  { tree with entry := fun p => if p = path then entry else tree.entry p }

/-! ### Path texts -/

/-- The names in a path text, empty ones left out. -/
def namesOf (path : String) : List String :=
  ((path.toList.splitOn '/').filter fun name => !name.isEmpty).map String.ofList

/-- The names in the target of a link; a slash at the end asks for a directory. -/
def linkNames (target : String) : List String :=
  if target.endsWith "/" then namesOf target ++ ["."] else namesOf target

/-- The names of a path text that can be looked up at all. Absolute paths lead out of the tree. -/
def checkPath (path : String) : Except FileFault (List String) :=
  if path.toList.contains '\x00' then .error .zeroCharacter
  else if path.isEmpty then .error .notFound
  else if 4096 ≤ path.utf8ByteSize then .error .nameTooLong
  else if path.startsWith "/" then .error .notFound
  else .ok (namesOf path)

/-! ### Resolving paths -/

/-- Where a path leads. Canonical paths are given from the last name to the first. -/
inductive Resolved
  /-- To a directory. -/
  | directory (path : List String)
  /-- To a file. -/
  | file (path : List String) (content : Bytes)
  /-- To a name that is free in an existing directory. -/
  | free (path : List String)
  deriving DecidableEq, Repr

/-- The number of links that are followed for one path. -/
def maxLinks : Nat := 40

/-- The number of bytes that a name can have. -/
def maxNameSize : Nat := 255

/-- Follows names from a directory, given by its canonical path from the last name to the first. -/
def walk (tree : FileTree) (links : Nat) (dir : List String) (names : List String) :
    Except FileFault Resolved :=
  match names with
  | [] => .ok (.directory dir)
  | name :: rest =>
    if name = "." then walk tree links dir rest
    else if name = ".." then
      match dir with
      | [] => .error .notFound
      | _ :: up => walk tree links up rest
    else if maxNameSize < name.utf8ByteSize then .error .nameTooLong
    else
      match tree.entry (name :: dir).reverse with
      | none => if rest.isEmpty then .ok (.free (name :: dir)) else .error .notFound
      | some (.file content) =>
        if rest.isEmpty then .ok (.file (name :: dir) content) else .error .notDirectory
      | some .directory => walk tree links (name :: dir) rest
      | some (.symlink target) =>
        match links with
        | 0 => .error .tooManyLinks
        | links + 1 =>
          if target.isEmpty || target.startsWith "/" then .error .notFound
          else walk tree links dir (linkNames target ++ rest)
termination_by (links, names.length)

/-- Where a path text leads, links followed to the end. -/
def resolve (tree : FileTree) (path : String) : Except FileFault Resolved := do
  walk tree maxLinks [] (← checkPath path)

/-! ### Operations -/

/-- **The content of a file.** -/
def read (tree : FileTree) (path : String) : Except FileFault Bytes := do
  match ← tree.resolve path with
  | .directory _ => throw .isDirectory
  | .free _ => throw .notFound
  | .file _ content => if path.endsWith "/" then throw .notDirectory else return content

/-- The content of a file that holds text. -/
def readText (tree : FileTree) (path : String) : Except FileFault String := do
  match Text.decode (← tree.read path) with
  | .ok text => return text
  | .error _ => throw .notText

/-- **The tree after a file was written**, which is created if its name is free. -/
def write (tree : FileTree) (path : String) (content : Bytes) : Except FileFault FileTree := do
  match ← tree.resolve path with
  | .directory _ => throw .isDirectory
  | .free at_ | .file at_ _ =>
    if path.endsWith "/" then throw .isDirectory
    else return tree.set at_.reverse (some (.file content))

/-- Whether a path leads to a file or a directory. -/
def holds (tree : FileTree) (path : String) : Bool :=
  match tree.resolve path with
  | .ok (.directory _) => true
  | .ok (.file _ _) => !path.endsWith "/"
  | _ => false

/-- **The canonical path** of what a path leads to. -/
def canonical (tree : FileTree) (path : String) : Except FileFault (List String) := do
  match ← tree.resolve path with
  | .directory at_ => return at_.reverse
  | .free _ => throw .notFound
  | .file at_ _ => if path.endsWith "/" then throw .notDirectory else return at_.reverse

/-- The path text of a canonical path, from outside of the tree. -/
def outside (tree : FileTree) (path : List String) : String :=
  String.intercalate "/" (tree.root :: path)

/-- Whether a name in the directory at a canonical path leads to a file. -/
def holdsFileIn (tree : FileTree) (dir : List String) (name : String) : Bool :=
  match tree.walk maxLinks dir.reverse [name] with
  | .ok (.file _ _) => true
  | _ => false

/-- The tree without a file. A link at the end of the path is removed, not followed. -/
def remove (tree : FileTree) (path : String) : Except FileFault FileTree := do
  let names ← checkPath path
  match names.getLast? with
  | none => throw .isDirectory
  | some name =>
    match ← tree.walk maxLinks [] names.dropLast with
    | .directory dir =>
      let at_ := (name :: dir).reverse
      match tree.entry at_ with
      | none => throw .notFound
      | some .directory => throw .isDirectory
      | some _ => if path.endsWith "/" then throw .notDirectory else return tree.set at_ none
    | .file _ _ => throw .notDirectory
    | .free _ => throw .notFound

/-! ### Building trees -/

/-- The tree with an entry at a canonical path and directories on the way to it. -/
def place (tree : FileTree) (path : List String) (entry : FileEntry) : FileTree :=
  let ancestors := (List.range path.length).filterMap fun n =>
    if n = 0 then none else some (path.take n)
  (ancestors.foldl (fun t dir => if (t.entry dir).isSome then t else t.set dir (some .directory))
    tree).set path (some entry)

end FileTree

end RecordStore
