import RecordStore.Proofs.Template.Spelling
import RecordStore.Proofs.Template.Store

/-!
# The program of the built-in template

The code of a store is one program with open names (`RecordStore.storeProgram`): a struct that holds a
container, and an implementation whose methods create, read and delete the values of the table. The
built-in template spells it, which is checked here once (`RecordStore.exists_symbols_store`).
-/

namespace RecordStore

open Source

namespace StoreProgram

/-! ### Names and types -/

/-- A name that is written out. -/
def name (text : String)
    (isName : isKnown text = false ∧ isWordText text.toList = true := by decide +kernel) : PlainName :=
  ⟨text, isName.2, isName.1⟩

/-- A type with a name. -/
def type (n : PlainName) : TypeTree := .named (.plain n)

/-- The type of the stored values. -/
def stored : TypeTree := .named .stored

def container : PlainName := name "container"

/-- The parameter for the type of the container. -/
def containerType : PlainName := name "C"

def table : PlainName := name "TABLE"

def query : PlainName := name "query"

def filter : PlainName := name "filter"

def value : PlainName := name "value"

def payload : PlainName := name "payload"

def entries : PlainName := name "entries"

def key : PlainName := name "key"

def codec : PlainName := name "codec"

def queryType : PlainName := name "Query"

def filterType : PlainName := name "Filter"

def selection : PlainName := name "Selection"

def str : TypeTree := type (name "str")

def bool : TypeTree := type (name "bool")

/-- A type with an argument. -/
def of (n : PlainName) (argument : TypeTree) : TypeTree := .applied n false argument

/-- What a method answers that can fail. -/
def result (answer : TypeTree) : TypeTree := of (name "StoreResult") answer

def vec : TypeTree := of (name "Vec") stored

def staticStr : TypeTree := .reference (some "static") str

/-! ### Expressions -/

/-- Arguments in order. -/
def args (es : List Expr) : Arguments := es.foldr .cons .nil

/-- A name as an expression. -/
def nameExpr (n : PlainName) : Expr := .path (.name n) [] .nil

/-- The name of the table. -/
def tableName : Expr := .path .type [table] .nil

/-- A call of a method. -/
def calling (n : PlainName) (es : List Expr) (more : Trailers := .nil) : Trailers :=
  .method n (args es) more

/-- A call of a method of the store. -/
def ownCall (n : PlainName) (es : List Expr) (more : Trailers := .nil) : Expr :=
  .path .self [] (calling n es more)

/-- A call of a method of the container. -/
def containerCall (n : PlainName) (es : List Expr) (more : Trailers := .nil) : Expr :=
  .path .self [] (.field (.name container) (calling n es more))

/-- A container that is borrowed. -/
def borrowedContainer : Expr := .reference (.path .self [] (.field (.name container) .nil))

/-- **The key of a value**, borrowed. -/
def borrowedKey : Expr := .reference (.path (.name value) [] (.field .key .nil))

/-- A query of the table by one of the functions that make queries. -/
def queried (n : PlainName) (es : List Expr) : Expr :=
  .reference (.call (.name queryType) [n] (args (tableName :: es)) .nil)

/-- What is selected, turned into something. -/
def selected (q : Expr) (into : PlainName) : Expr :=
  ownCall (name "execute") [q] (calling (name "map") [.path (.name selection) [into] .nil])

/-! ### Methods -/

def newMethod : Method where
  name := name "new"
  receiver := false
  params := [⟨container, type containerType⟩]
  answer := .named .self
  body := { result := .record container }

def tableMethod : Method where
  name := name "table"
  answer := staticStr
  body := { result := tableName }

def containerMethod : Method where
  name := container
  answer := .reference none (type containerType)
  body := { result := borrowedContainer }

def initMethod : Method where
  docs := 1
  name := name "init"
  answer := result .unit
  body := { result := containerCall (name "init") [tableName] }

/-- The entry that a value becomes: its payload under its key. -/
def insertion : Expr := containerCall (name "insert") [tableName, borrowedKey, nameExpr payload]

/-- **The insertion of a value under its key.** -/
def insertMethod : Method where
  docs := 4
  name := name "insert"
  params := [⟨value, .reference none stored⟩]
  answer := result .unit
  body :=
    { bindings := [⟨payload, none, .call (.name codec) [name "encode"] (args [nameExpr value]) (.mark .nil)⟩]
      result := insertion }

def createMethod : Method where
  docs := 1
  name := name "create"
  params := [⟨value, .reference none stored⟩]
  answer := result .unit
  body := { result := ownCall (name "insert") [nameExpr value] }

def executeMethod : Method where
  docs := 1
  name := name "execute"
  params := [⟨query, .reference none (.applied queryType true stored)⟩]
  answer := result (of selection stored)
  body :=
    { result := .call (.name (name "sdata")) [query, name "execute"]
        (args [borrowedContainer, nameExpr query]) .nil }

def selectAllMethod : Method where
  docs := 1
  name := name "select_all"
  answer := result vec
  body := { result := selected (queried (name "all") []) (name "into_vec") }

/-- The parameter for the functions that accept values. -/
def predicate : FunctionParam where
  name := name "F"
  trait := name "Fn"
  argument := .reference none stored
  answer := bool

def selectWhereMethod : Method where
  docs := 1
  name := name "select_where"
  param := some predicate
  params := [⟨filter, type predicate.name⟩]
  answer := result vec
  body := { result := selected (queried (name "filtered") [nameExpr filter]) (name "into_vec") }

def firstMethod : Method where
  docs := 1
  name := name "first_or_none"
  param := some predicate
  params := [⟨filter, type predicate.name⟩]
  answer := result (of (name "Option") stored)
  body :=
    { bindings :=
        [⟨filter, some (.applied filterType true stored),
          .call (.name (name "Box")) [name "new"] (args [nameExpr filter]) .nil⟩]
      result :=
        selected (queried (name "first") [.call (.name (name "Some")) [] (args [nameExpr filter]) .nil])
          (name "into_first") }

def selectMethod : Method where
  docs := 2
  name := name "select"
  params := [⟨query, .reference none str⟩]
  answer := result vec
  body :=
    { bindings :=
        [⟨entries, none, containerCall (name "select_query") [tableName, nameExpr query] (.mark .nil)⟩]
      result :=
        .call (.name codec) [name "decode_table"] (args [tableName, .reference (nameExpr entries)]) .nil }

def deleteMethod : Method where
  docs := 1
  name := name "delete"
  params := [⟨key, .reference none str⟩]
  answer := result bool
  body := { result := containerCall (name "delete") [tableName, nameExpr key] }

end StoreProgram

open StoreProgram in
/-- **The program of a store.** -/
def storeProgram : Program where
  imports :=
    [⟨name "sdata", .name (name "StoreResult")⟩,
      ⟨name "sdata", .name codec⟩,
      ⟨name "sdata", .path container (.name (name "Container"))⟩,
      ⟨name "sdata", .path query (.group filterType [queryType, selection])⟩]
  docs := 1
  param := containerType
  bound := name "Container"
  field := container
  constant := { docs := 1, name := table, type := staticStr }
  methods :=
    [newMethod, tableMethod, containerMethod, initMethod, insertMethod, createMethod, executeMethod,
      selectAllMethod, selectWhereMethod, firstMethod, selectMethod, deleteMethod]

open StoreProgram in
/-- **The entry of a value has its key for a key**: the text of the insertion, for all names. -/
theorem print_insertion (names : StoreNames) : printTrees (trees names insertion.shapes) =
    "self . container . insert (Self :: TABLE , & value . ".toList ++ names.key.token.print ++
      " , payload)".toList := by
  -- names and positions are printed alike, but they are different tokens
  cases hkey : names.key <;>
  · simp [insertion, containerCall, calling, args, tableName, borrowedKey, nameExpr, Expr.shapes,
      Trailers.shapes, Arguments.shapes, Head.shape, MemberName.shape, pathShapes, keyword, sign,
      PlainName.shape, doubleColon, groupOf, hkey, Member.token, Token.bare, TokenTree.print,
      printTrees, Token.print, Token.isJoint, Word.text, container, name, table, value, payload]

/-- A store has one method that inserts. -/
theorem methods_insert :
    (storeProgram.methods.filter fun m => m.name.text == "insert") = [StoreProgram.insertMethod] := by
  rfl

/-- Whether a template spells the program of a store. -/
def spellsStore (template : Template) : Bool :=
  (allSymbols? template).any fun symbols => spells symbols.length symbols (marksOf storeProgram.shapes)

theorem readStore_spells : (readStore.toOption.any spellsStore) = true := by
  decide +kernel

/-- **The built-in template spells the program of a store.** -/
theorem exists_symbols_store : ∃ symbols, allSymbols? Template.store = some symbols ∧
    spells symbols.length symbols (marksOf storeProgram.shapes) = true :=
  (Option.any_eq_true _ _).1 (test_store readStore_spells)

end RecordStore
