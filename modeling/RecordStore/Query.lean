import RecordStore.Codec
import RecordStore.Text.Quoted

/-!
# Queries

A query asks for the values of a table that a filter accepts, for all of them or for the first.
To execute it means to read the whole table, so that a payload that cannot be read fails every
query, even one that would have been answered by an entry before it.
-/

namespace RecordStore

/-- **A query** for values of type `α`. -/
structure Query (α : Type) where
  /-- The table that is read. -/
  table : String
  /-- What is asked of a value; nothing if absent. -/
  filter : Option (α → Bool) := none
  /-- Whether only the first value is asked for. -/
  first : Bool := false

/-- **The answer to a query**, in the shape that the query asks for. -/
inductive Selection (α : Type)
  /-- All values. -/
  | many (values : List α)
  /-- The first value, if there is one. -/
  | first (value : Option α)
  deriving DecidableEq, Repr

namespace Selection

variable {α : Type}

/-- The values of an answer in a list. -/
def toList : Selection α → List α
  | .many values => values
  | .first value => value.toList

/-- The first value of an answer. -/
def head? : Selection α → Option α
  | .many values => values.head?
  | .first value => value

end Selection

namespace Query

variable {α σ : Type}

/-- The query for every value of a table. -/
def all (table : String) : Query α := { table }

/-- The query for the values of a table that a filter accepts. -/
def filtered (table : String) (filter : α → Bool) : Query α := { table, filter := some filter }

/-- The query for the first value of a table, or the first that a filter accepts. -/
def firstOf (table : String) (filter : Option (α → Bool)) : Query α :=
  { table, filter, first := true }

/-- Whether a value belongs to the answer. -/
def accepts (q : Query α) (a : α) : Bool := q.filter.all (· a)

/-- A query in one line. Of a filter it tells only that there is one. -/
def describe (q : Query α) : String :=
  let filter := if q.filter.isSome then "Some(\"<fn>\")" else "None"
  "Query \x7b table: " ++ Text.quoted q.table ++ ", filter: " ++ filter ++ ", first: " ++
    toString q.first ++ " \x7d"

/-- The answer to a query from the values of its table. -/
def answer (q : Query α) (values : List α) : Selection α :=
  if q.first then .first (values.find? q.accepts) else .many (values.filter q.accepts)

/-- **Executes a query** on a container. -/
def execute [Json.Readable α] (q : Query α) (c : Container σ) : StoreM σ (Selection α) := do
  let entries ← c.select q.table
  let values ← StoreM.ofExcept (Codec.decodeTable α q.table entries)
  return q.answer values

end Query

end RecordStore
