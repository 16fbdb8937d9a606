import RecordStore.Container.Basic

/-!
# Tables in memory

The container that keeps nothing but its tables. It is what the other container is measured by.
-/

namespace RecordStore

/-- **The tables of a container** by name. -/
abbrev Tables := SortedMap Table

namespace Tables

/-- Empty tables with the given names. -/
def ofNames (names : List String) : Tables := .ofList (names.map fun name => (name, .empty))

/-- The entries of a table; a table that does not exist has none. -/
def table (tables : Tables) (name : String) : Table := (tables.get? name).getD .empty

/-- The number of entries of a table. -/
def count (tables : Tables) (name : String) : Nat := (tables.table name).size

end Tables

namespace MemoryContainer

/-- Creates a table unless it exists. -/
def init (table : String) : StoreM Tables Unit := do
  let tables ← get
  if !tables.contains table then set (tables.insert table .empty)

/-- The entries of a table. -/
def select (table : String) : StoreM Tables Table := return (← get).table table

/-- Adds an entry unless its key is taken. The table is created first. -/
def insert (table key : String) (payload : Bytes) : StoreM Tables Unit := do
  MemoryContainer.init table
  let tables ← get
  let entries := tables.table table
  if entries.contains key then throw (.duplicateKey table key)
  set (tables.insert table (entries.insert key payload))

/-- Removes an entry and tells whether there was one. -/
def delete (table key : String) : StoreM Tables Bool := do
  let tables ← get
  match tables.get? table with
  | none => return false
  | some entries =>
    if entries.contains key then
      set (tables.insert table (entries.erase key))
      return true
    else return false

end MemoryContainer

/-- **The container in memory.** -/
def memoryContainer : Container Tables where
  name := "MemoryContainer"
  init := MemoryContainer.init
  select := MemoryContainer.select
  insert := MemoryContainer.insert
  delete := MemoryContainer.delete

end RecordStore
