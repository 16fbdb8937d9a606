import RecordStore.Query
import RecordStore.User

/-!
# The store of users

Typed access to the users in a container: a map from the identifier of a user to the user. All of
it is said in terms of the operations of the container and of queries.
-/

namespace RecordStore.UserStore

variable {σ : Type}

/-- The table that holds the users. -/
def table : String := "User"

/-- Creates the table unless it exists. -/
def init (c : Container σ) : StoreM σ Unit := c.init table

/-- **Adds a user** under its primary key, unless the key is taken. -/
def insert (c : Container σ) (user : User) : StoreM σ Unit := do
  let payload ← StoreM.ofExcept (Codec.encode user)
  c.insert table (Record.primaryKey user) payload

/-- Adds a user; the same as `insert`. -/
def create (c : Container σ) (user : User) : StoreM σ Unit := insert c user

/-- Executes a prepared query. -/
def execute (c : Container σ) (query : Query User) : StoreM σ (Selection User) := query.execute c

/-- **Every user**, in ascending order of the keys. -/
def selectAll (c : Container σ) : StoreM σ (List User) := do
  return (← execute c (.all table)).toList

/-- The users that a filter accepts, in ascending order of the keys. -/
def selectWhere (c : Container σ) (filter : User → Bool) : StoreM σ (List User) := do
  return (← execute c (.filtered table filter)).toList

/-- The first user that a filter accepts. -/
def firstOrNone (c : Container σ) (filter : User → Bool) : StoreM σ (Option User) := do
  return (← execute c (.firstOf table (some filter))).head?

/-- The users that a query text selects. No container supports such texts. -/
def select (c : Container σ) (query : String) : StoreM σ (List User) := do
  let entries ← c.selectQuery table query
  StoreM.ofExcept (Codec.decodeTable User table entries)

/-- Removes the user with a key and tells whether there was one. -/
def delete (c : Container σ) (key : String) : StoreM σ Bool := c.delete table key

end RecordStore.UserStore
