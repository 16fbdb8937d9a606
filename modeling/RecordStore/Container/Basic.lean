import RecordStore.FileTree.Basic
import RecordStore.Json.Fault
import RecordStore.SortedMap

/-!
# Containers

A container keeps tables: maps from keys to payloads, which are bytes that only their owner
understands. It knows five operations. Each of them runs in a state and either answers or fails; a
failing operation too says what the state is afterwards, so that it is a theorem, and not a matter
of types, that failures change nothing.
-/

namespace RecordStore

/-- **A table**: its payloads by key. -/
abbrev Table := SortedMap Bytes

/-- Why an operation on a store fails. -/
inductive StoreError
  /-- The table has an entry under this key already. -/
  | duplicateKey (table key : String)
  /-- The container cannot select by a query text. -/
  | unsupportedQuery (container table : String)
  /-- A value has no payload. -/
  | encode (fault : Json.WriteFault)
  /-- A payload holds no value of the type asked for. -/
  | decode (table key : String) (fault : Json.Fault)
  /-- A payload cannot be written into the document, or read from it. -/
  | invalidPayload (table key reason : String)
  /-- The file holds no document. -/
  | document (fault : Json.Fault)
  /-- The file cannot be read or written. -/
  | io (fault : FileFault)
  /-- There is no file, and none may be created. -/
  | missingDocument (path : String)
  /-- The lock was held by an operation that never finished. -/
  | lockPoisoned
  deriving DecidableEq, Repr

/-- The wording of an error. -/
def StoreError.message : StoreError → String
  | .duplicateKey table key => s!"Key '{key}' already exists for table '{table}'"
  | .unsupportedQuery container table =>
    s!"Select by query string is not implemented for {container} (table '{table}')"
  | .encode fault => s!"Failed to encode value: {fault.message}"
  | .decode table key fault =>
    s!"Failed to decode entry '{key}' of table '{table}': {fault.message}"
  | .invalidPayload table key reason =>
    s!"Invalid payload for entry '{key}' of table '{table}': {reason}"
  | .document fault => s!"Invalid table document: {fault.message}"
  | .io fault => fault.message
  | .missingDocument path => s!"{path} does not exist"
  | .lockPoisoned => "Container lock poisoned"

/-- Computations on a store with states in `σ`. The state is kept when one fails. -/
abbrev StoreM (σ α : Type) := ExceptT StoreError (StateM σ) α

/-- A result as a computation that changes nothing. -/
def StoreM.ofExcept {σ α : Type} (r : Except StoreError α) : StoreM σ α := fun s => (r, s)

/-- **A container** with states in `σ`. -/
structure Container (σ : Type) where
  /-- The name of its kind. -/
  name : String
  /-- Creates a table unless it exists. -/
  init : String → StoreM σ Unit
  /-- The entries of a table; a table that does not exist has none. -/
  select : String → StoreM σ Table
  /-- Adds an entry to a table, which is created if need be, unless the key is taken. -/
  insert : String → String → Bytes → StoreM σ Unit
  /-- Removes an entry and tells whether there was one. -/
  delete : String → String → StoreM σ Bool

namespace Container

variable {σ τ : Type}

/-- The entries of a table that a query text selects. No container supports such texts. -/
def selectQuery (c : Container σ) (table _query : String) : StoreM σ Table :=
  throw (.unsupportedQuery c.name table)

/-- A computation on a part of a larger state. -/
def focusM {α : Type} (get : τ → σ) (set : σ → τ → τ) (x : StoreM σ α) : StoreM τ α :=
  fun t => (fun r => (r.1, set r.2 t)) (x (get t))

/-- A container whose state is a part of a larger one. -/
def focus (c : Container σ) (get : τ → σ) (set : σ → τ → τ) : Container τ where
  name := c.name
  init table := focusM get set (c.init table)
  select table := focusM get set (c.select table)
  insert table key payload := focusM get set (c.insert table key payload)
  delete table key := focusM get set (c.delete table key)

end Container

end RecordStore
