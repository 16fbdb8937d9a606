import RecordStore.Json.Convert

/-!
# Table documents

The text in which a container keeps its tables in a file: an object with one member for each table,
which is an object again, with one string for each entry. It is written with one member to a line,
indented by four spaces for each level, in ascending order of the names. It is read in any layout;
a file that is blank or holds `null` has no tables.
-/

namespace RecordStore

/-- **A table document**: strings by table and key. -/
abbrev Document := SortedMap (SortedMap String)

namespace Document

/-! ### Writing -/

/-- The start of a line at a level. -/
def newLine (level : Nat) : List Char := '\n' :: List.replicate (4 * level) ' '

/-- Members of an object at a level, each on a line of its own, with commas between them. -/
def layoutMembers (level : Nat) : List (String × List Char) → List Char
  | [] => []
  | [(name, value)] => newLine level ++ Json.renderString name ++ [':', ' '] ++ value
  | (name, value) :: rest =>
    newLine level ++ Json.renderString name ++ [':', ' '] ++ value ++ ',' ::
      layoutMembers level rest

/-- An object whose members stand at a level. -/
def layoutObject (level : Nat) (members : List (String × List Char)) : List Char :=
  if members.isEmpty then ['\x7b', '\x7d']
  else '\x7b' :: layoutMembers level members ++ newLine (level - 1) ++ ['\x7d']

/-- The layout of the entries of a table. -/
def layoutTable (entries : SortedMap String) : List Char :=
  layoutObject 2 (entries.entries.map fun e => (e.1, Json.renderString e.2))

/-- **The layout of a document.** -/
def layout (document : Document) : List Char :=
  layoutObject 1 (document.entries.map fun e => (e.1, layoutTable e.2))

/-- The bytes of a document. -/
def toBytes (document : Document) : Bytes := Text.utf8 (String.ofList document.layout)

/-! ### Reading -/

/-- Whether a byte is white space in ASCII, the vertical tab left out. -/
def isBlankByte (b : UInt8) : Bool := b == 32 || b == 9 || b == 10 || b == 12 || b == 13

/-- **The document in the bytes of a file.** -/
def ofBytes (bytes : Bytes) : Except Json.Fault Document :=
  if bytes.all isBlankByte then .ok .empty
  else (Json.parse (Option Document) bytes).map fun document => document.getD .empty

/-! ### Tables of a document -/

/-- The strings of a table; a table that does not exist has none. -/
def table (document : Document) (name : String) : SortedMap String :=
  (document.get? name).getD .empty

/-- The document with a table of this name, an empty one if there was none. -/
def withTable (document : Document) (name : String) : Document :=
  document.insert name (document.table name)

end Document

end RecordStore
