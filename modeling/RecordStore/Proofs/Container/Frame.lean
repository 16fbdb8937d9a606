import RecordStore.Proofs.Container.File
import RecordStore.Proofs.Container.Memory

/-!
# What a call leaves alone

A call that fails changes nothing at all, in a file as in memory, although the
container in memory creates the table before it looks for the key
(`RecordStore.failed_calls_change_nothing`): a table that had to be created holds no
key, so such an insertion never fails.

A call on a file that succeeds changes one entry
(`RecordStore.FileContainer.ownEntryOnly_of_document`). The whole document is read and
written again, but every other string comes back as it was, also where the container
itself could not decode it, and every table stays.
-/

namespace RecordStore

/-! ### Tables and strings of a document -/

namespace Document

variable {document : Document}

/-- The string of an entry, if there is one. -/
def string? (document : Document) (table key : String) : Option String :=
  (document.table table).get? key

theorem table_insert (document : Document) (table t : String) (entries : SortedMap String) :
    Document.table (document.insert table entries) t =
      if t = table then entries else document.table t :=
  SortedMap.getD_get?_insert document table t entries .empty

theorem string?_insert (document : Document) (table t k : String) (entries : SortedMap String) :
    Document.string? (document.insert table entries) t k =
      if t = table then entries.get? k else document.string? t k := by
  rw [string?, table_insert]
  split
  · rfl
  · rfl

theorem string?_withTable (document : Document) (table t k : String) :
    (document.withTable table).string? t k = document.string? t k := by
  rw [withTable, string?_insert]
  split
  · rename_i h
    rw [h]
    rfl
  · rfl

/-- A table that has a string exists. -/
theorem contains_of_string? {table key stored : String}
    (h : document.string? table key = some stored) : document.contains table = true := by
  rw [string?, Document.table] at h
  cases hget : document.get? table with
  | none =>
    rw [hget] at h
    cases h
  | some entries => exact SortedMap.contains_eq_true.2 ⟨entries, hget⟩

end Document

/-! ### Calls that fail -/

/-- **A call that fails changes nothing**, and neither does one that selects or one that finds
nothing to delete. -/
theorem failed_calls_change_nothing (c : FileContainer) (disk : Disk) (tables : Tables) :
    (∀ call e, (c.container.outcome call disk).1 = .error e →
      (c.container.outcome call disk).2 = disk) ∧
    (∀ table, (c.container.outcome (.select table) disk).2 = disk) ∧
    (∀ table key, (c.container.outcome (.delete table key) disk).1 = .ok (.existed false) →
      (c.container.outcome (.delete table key) disk).2 = disk) ∧
    ∀ call e, (memoryContainer.outcome call tables).1 = .error e →
      (memoryContainer.outcome call tables).2 = tables := by
  refine ⟨?_, ?_, ?_, ?_⟩
  · intro call e h
    rcases c.outcome_cases call disk with ⟨e', hcall⟩ | ⟨a, hcall⟩ | ⟨_, disk', a, -, hcall⟩
    · rw [hcall]
    · rw [hcall]
    · rw [hcall] at h
      cases h
  · intro table
    rw [FileContainer.container_outcome_select, FileContainer.select_snd]
  · intro table key h
    rw [FileContainer.container_outcome_delete] at h ⊢
    rcases c.delete_cases table key disk with ⟨e, hdel⟩ | hdel | ⟨_, _, disk', -, -, -, hdel⟩
    · rw [hdel]
    · rw [hdel]
    · rw [hdel] at h
      cases h
  · intro call e h
    obtain ⟨_, _, _, -, -, hsame⟩ := MemoryContainer.outcome_error h
    exact hsame

/-- A key that is taken, in a table of a file and in memory. -/
theorem failed_calls_change_nothing_of_taken :
    let c : FileContainer := { config := { path := "db" }, lock := 0 }
    let disk := Disk.holding "db" (.ofList [("User", .ofList [("ü", "%")])])
    let tables : Tables := .ofList [("User", .ofList [("ü", [])])]
    let call : Call := .insert "User" "ü" []
    let e : StoreError := .duplicateKey "User" "ü"
    ((c.container.outcome call disk).1 = .error e ∧
      (memoryContainer.outcome call tables).1 = .error e) ∧
    (c.container.outcome call disk).2 = disk ∧
    (memoryContainer.outcome call tables).2 = tables := by
  intro c disk tables call e
  have hfile : (c.container.outcome call disk).1 = .error e := by
    rw [FileContainer.container_outcome_insert, FileContainer.insert_apply,
      Disk.document_holding FileTree.isName_db]
    rfl
  have hmemory : (memoryContainer.outcome call tables).1 = .error e := rfl
  have h := failed_calls_change_nothing c disk tables
  exact ⟨⟨hfile, hmemory⟩, h.1 call e hfile, h.2.2.2 call e hmemory⟩

/-! ### Calls that succeed -/

namespace FileContainer

/-- **What calls on one table may do** where the file holds a document: a call that succeeds
changes the strings of the document at its own key only, it creates its own table at most,
and whether the table can be selected depends on its own strings only. -/
structure OwnEntryOnly (c : FileContainer) (disk : Disk) (document : Document)
    (table : String) : Prop where
  /-- Creating a table keeps every string. -/
  init : ∀ disk', c.init table disk = (.ok (), disk') →
    ∃ document', disk'.document c.config.path = .ok document' ∧
      (∀ t, document'.contains t = (t == table || document.contains t)) ∧
      ∀ t k, document'.string? t k = document.string? t k
  /-- Adding an entry adds one string, the payload in the encoding of the container. -/
  insert : ∀ key payload disk', c.insert table key payload disk = (.ok (), disk') →
    ∃ document' stored, disk'.document c.config.path = .ok document' ∧
      document.string? table key = none ∧ c.config.encoding.encode payload = .ok stored ∧
      (∀ t, document'.contains t = (t == table || document.contains t)) ∧
      ∀ t k, document'.string? t k =
        if t = table ∧ k = key then some stored else document.string? t k
  /-- Deleting an entry removes one string, and keeps the table. -/
  delete : ∀ key disk', c.delete table key disk = (.ok true, disk') →
    ∃ document', disk'.document c.config.path = .ok document' ∧
      (∃ stored, document.string? table key = some stored) ∧
      (∀ t, document'.contains t = document.contains t) ∧
      ∀ t k, document'.string? t k =
        if t = table ∧ k = key then none else document.string? t k
  /-- Selecting succeeds if the strings of the table can be decoded, whatever the others are. -/
  select : disk.poisoned c.lock = false →
    ((∃ entries, (c.select table disk).1 = .ok entries) ↔
      ∀ key stored, document.string? table key = some stored →
        ∃ payload, c.config.encoding.decode stored = .ok payload)
  /-- Containers of one encoding select alike where the table has the same strings. -/
  select_congr : disk.poisoned c.lock = false →
    ∀ (c' : FileContainer) disk' document', c'.config.encoding = c.config.encoding →
      disk'.poisoned c'.lock = false → disk'.document c'.config.path = .ok document' →
      (∀ k, document'.string? table k = document.string? table k) →
      (c'.select table disk').1 = (c.select table disk).1

theorem decodePayload_eq_ok_iff {c : FileContainer} {table key stored : String}
    {payload : Bytes} : c.decodePayload table key stored = .ok payload ↔
      c.config.encoding.decode stored = .ok payload := by
  rw [decodePayload]
  cases c.config.encoding.decode stored with
  | error reason =>
    constructor
    · intro h
      cases h
    · intro h
      cases h
  | ok payload' =>
    constructor
    · intro h
      cases h
      rfl
    · intro h
      cases h
      rfl

/-- **A call that succeeds touches exactly its own entry**, whatever document it found. -/
theorem ownEntryOnly_of_document {c : FileContainer} {disk : Disk} {document : Document}
    (hdoc : disk.document c.config.path = .ok document) (table : String) :
    c.OwnEntryOnly disk document table where
  init disk' h := by
    rcases c.init_cases table disk with ⟨e, he⟩ | ⟨d, disk'', hd, hw, ho⟩
    · rw [h] at he
      cases he
    · rw [h] at ho
      cases ho
      rw [hdoc] at hd
      cases hd
      exact ⟨_, document_of_written hw, fun t => SortedMap.contains_insert _ _ _ _,
        document.string?_withTable table⟩
  insert key payload disk' h := by
    -- the document that was read is the one that the file holds
    rcases c.insert_cases table key payload disk with
      ⟨e, he⟩ | ⟨d, stored, disk'', hd, hnone, henc, hw, ho⟩
    · rw [h] at he
      cases he
    · rw [h] at ho
      cases ho
      rw [hdoc] at hd
      cases hd
      refine ⟨_, stored, document_of_written hw, hnone, henc,
        fun t => SortedMap.contains_insert _ _ _ _, fun t k => ?_⟩
      rw [Document.string?_insert, SortedMap.get?_insert]
      -- another table, another key of the table, or the entry itself
      by_cases ht : t = table
      · by_cases hk : k = key
        · rw [if_pos ht, if_pos hk, if_pos ⟨ht, hk⟩]
        · rw [if_pos ht, if_neg hk, if_neg fun h => hk h.2, ht]
          rfl
      · rw [if_neg ht, if_neg fun h => ht h.1]
  delete key disk' h := by
    rcases c.delete_cases table key disk with
      ⟨e, he⟩ | he | ⟨d, stored, disk'', hd, hsome, hw, ho⟩
    · rw [h] at he
      cases he
    · rw [h] at he
      cases he
    · rw [h] at ho
      cases ho
      rw [hdoc] at hd
      cases hd
      refine ⟨_, document_of_written hw, ⟨stored, hsome⟩, fun t => ?_, fun t k => ?_⟩
      · -- the table had an entry, so it existed before
        rw [SortedMap.contains_insert]
        by_cases ht : t = table
        · rw [ht, document.contains_of_string? hsome]
          simp
        · simp [ht]
      · rw [Document.string?_insert, SortedMap.get?_erase]
        by_cases ht : t = table
        · by_cases hk : k = key
          · rw [if_pos ht, if_pos hk, if_pos ⟨ht, hk⟩]
          · rw [if_pos ht, if_neg hk, if_neg fun h => hk h.2, ht]
            rfl
        · rw [if_neg ht, if_neg fun h => ht h.1]
  select hlock := by
    rw [select_apply, hlock, hdoc]
    refine (SortedMap.exists_mapM_eq_ok_iff).trans ?_
    simp only [decodePayload_eq_ok_iff]
    rfl
  select_congr hlock c' disk' document' henc hlock' hdoc' hstrings := by
    have htable : document'.table table = document.table table := SortedMap.ext_get? hstrings
    have hdecode : c'.decodePayload table = c.decodePayload table := by
      funext key stored
      rw [decodePayload, decodePayload, henc]
    rw [select_apply, select_apply, hlock, hlock', hdoc, hdoc', hdecode]
    simp only [htable]
    rfl

/-- A document with a string that is not Base64, and with a table of no entries. -/
theorem ownEntryOnly_of_undecodable :
    let c : FileContainer := { config := { path := "db" }, lock := 0 }
    let document : Document := .ofList [("Note", .empty), ("User", .ofList [("ü", "%")])]
    let disk := Disk.holding "db" document
    disk.document c.config.path = .ok document ∧ c.OwnEntryOnly disk document "User" := by
  intro c document disk
  have hdoc : disk.document c.config.path = .ok document :=
    Disk.document_holding FileTree.isName_db document
  exact ⟨hdoc, ownEntryOnly_of_document hdoc "User"⟩

end FileContainer

end RecordStore
