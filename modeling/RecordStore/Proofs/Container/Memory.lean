import RecordStore.Container.Memory
import RecordStore.Proofs.Container.Run
import RecordStore.Proofs.SortedMap

/-!
# What each operation in memory does

Each operation of the container in memory as one equation on its tables. Adding an
entry creates the table first, but nothing of this shows: a table that was not there
has no key to be taken (`RecordStore.MemoryContainer.insert_apply`).
-/

namespace RecordStore

namespace Tables

variable {tables : Tables} {table : String}

theorem table_insert (tables : Tables) (table t : String) (entries : Table) :
    Tables.table (tables.insert table entries) t =
      if t = table then entries else tables.table t :=
  SortedMap.getD_get?_insert tables table t entries .empty

theorem table_of_not_contains (h : tables.contains table = false) :
    tables.table table = .empty := by
  rw [Tables.table, SortedMap.contains_eq_false.1 h]
  rfl

/-- The tables with a table of this name, an empty one if there was none. -/
def withTable (tables : Tables) (table : String) : Tables :=
  tables.insert table (tables.table table)

theorem withTable_of_contains (h : tables.contains table = true) :
    tables.withTable table = tables := by
  obtain ⟨entries, hget⟩ := SortedMap.contains_eq_true.1 h
  have htable : tables.table table = entries := by rw [Tables.table, hget]; rfl
  rw [withTable, htable, SortedMap.insert_of_get? hget]

end Tables

namespace MemoryContainer

theorem init_apply (table : String) (tables : Tables) :
    init table tables = (.ok (), tables.withTable table) := by
  rw [init, StoreM.bind_of_ok (StoreM.get_apply tables)]
  cases h : tables.contains table with
  | true =>
    rw [Tables.withTable_of_contains h]
    rfl
  | false =>
    rw [Tables.withTable, Tables.table_of_not_contains h]
    rfl

theorem select_apply (table : String) (tables : Tables) :
    select table tables = (.ok (tables.table table), tables) := rfl

theorem insert_apply (table key : String) (payload : Bytes) (tables : Tables) :
    insert table key payload tables =
      if (tables.table table).contains key then (.error (.duplicateKey table key), tables)
      else (.ok (), tables.insert table ((tables.table table).insert key payload)) := by
  have htable : (tables.withTable table).table table = tables.table table := by
    rw [Tables.withTable, Tables.table_insert, if_pos rfl]
  rw [insert, StoreM.bind_of_ok (init_apply table tables),
    StoreM.bind_of_ok (StoreM.get_apply (tables.withTable table))]
  dsimp only
  rw [htable]
  cases hkey : (tables.table table).contains key with
  | true =>
    -- a table with a key exists, so creating it changed nothing
    have hcontains : tables.contains table = true := by
      cases hc : tables.contains table with
      | true => rfl
      | false =>
        rw [Tables.table_of_not_contains hc] at hkey
        cases hkey
    rw [Tables.withTable_of_contains hcontains]
    rfl
  | false =>
    have hinsert : (tables.withTable table).insert table
        ((tables.table table).insert key payload) =
        tables.insert table ((tables.table table).insert key payload) :=
      SortedMap.insert_insert _ _ _ _
    rw [← hinsert]
    rfl

theorem delete_apply (table key : String) (tables : Tables) :
    delete table key tables =
      if (tables.table table).contains key then
        (.ok true, tables.insert table ((tables.table table).erase key))
      else (.ok false, tables) := by
  rw [delete, StoreM.bind_of_ok (StoreM.get_apply tables)]
  cases hget : tables.get? table with
  | none =>
    have htable : tables.table table = .empty := by rw [Tables.table, hget]; rfl
    rw [htable]
    rfl
  | some entries =>
    have htable : tables.table table = entries := by rw [Tables.table, hget]; rfl
    rw [htable]
    dsimp only
    cases entries.contains key <;> rfl

/-! ### The outcomes of calls -/

theorem outcome_init (table : String) (tables : Tables) :
    memoryContainer.outcome (.init table) tables = (.ok .done, tables.withTable table) := by
  refine (memoryContainer.outcome_init table tables).trans ?_
  change ((init table tables).1.map _, (init table tables).2) = _
  rw [init_apply]
  rfl

theorem outcome_select (table : String) (tables : Tables) :
    memoryContainer.outcome (.select table) tables =
      (.ok (.entries (tables.table table)), tables) :=
  memoryContainer.outcome_select table tables

theorem outcome_insert (table key : String) (payload : Bytes) (tables : Tables) :
    memoryContainer.outcome (.insert table key payload) tables =
      if (tables.table table).contains key then (.error (.duplicateKey table key), tables)
      else (.ok .done, tables.insert table ((tables.table table).insert key payload)) := by
  refine (memoryContainer.outcome_insert table key payload tables).trans ?_
  change ((insert table key payload tables).1.map _, (insert table key payload tables).2) = _
  rw [insert_apply]
  split <;> rfl

theorem outcome_delete (table key : String) (tables : Tables) :
    memoryContainer.outcome (.delete table key) tables =
      if (tables.table table).contains key then
        (.ok (.existed true), tables.insert table ((tables.table table).erase key))
      else (.ok (.existed false), tables) := by
  refine (memoryContainer.outcome_delete table key tables).trans ?_
  change ((delete table key tables).1.map _, (delete table key tables).2) = _
  rw [delete_apply]
  split <;> rfl

/-- Of all calls in memory only the insertion of a taken key fails, and it changes nothing. -/
theorem outcome_error {call : Call} {tables : Tables} {e : StoreError}
    (h : (memoryContainer.outcome call tables).1 = .error e) :
    ∃ table key payload, call = .insert table key payload ∧ e = .duplicateKey table key ∧
      (memoryContainer.outcome call tables).2 = tables := by
  cases call with
  | init table =>
    rw [outcome_init] at h
    cases h
  | select table =>
    rw [outcome_select] at h
    cases h
  | insert table key payload =>
    rw [outcome_insert] at h ⊢
    split at h
    · rename_i hkey
      cases h
      exact ⟨table, key, payload, rfl, rfl, by rw [if_pos hkey]⟩
    · cases h
  | delete table key =>
    rw [outcome_delete] at h
    split at h <;> cases h

end MemoryContainer

end RecordStore
