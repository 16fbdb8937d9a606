import RecordStore.Proofs.Base64
import RecordStore.Proofs.Container.File
import RecordStore.Proofs.Container.Memory

/-!
# A file is as good as memory

A container in a file answers every call as the container in memory does, and the
file holds the same tables after it (`RecordStore.FileContainer.refines_memory`). What
ties the two together is the table document with all its payloads decoded
(`RecordStore.FileContainer.storedTables`), and that is a map over maps: a change of one entry
of the document is the change of the same entry of the tables. So the proof is one step
for each operation, between a disk and the tables it mirrors
(`RecordStore.FileContainer.Mirrors`), and the run follows by induction.

The file may start out in more than one way. That there is no file, that it is blank
and that it holds `null` all say that there are no tables yet.
-/

namespace RecordStore

/-! ### Payloads written and read back -/

namespace PayloadEncoding

variable {encoding : PayloadEncoding} {payload : Bytes}

/-- The payloads that an encoding can write: Base64 takes all bytes, text only those of a
text. -/
def Writes (encoding : PayloadEncoding) (payload : Bytes) : Prop :=
  encoding = .text → ∃ text, payload = Text.utf8 text

/-- **A payload that can be written is read back.** -/
theorem Writes.exists_encode (h : encoding.Writes payload) :
    ∃ stored, encoding.encode payload = .ok stored ∧ encoding.decode stored = .ok payload := by
  cases encoding with
  | base64 =>
    refine ⟨Base64.encode payload, rfl, ?_⟩
    rw [decode, Base64.decode_encode]
    rfl
  | text =>
    obtain ⟨text, rfl⟩ := h rfl
    refine ⟨text, ?_, rfl⟩
    rw [encode, Text.decode_utf8]
    rfl

/-- **A string that a payload was written as is read as this payload.** -/
theorem decode_of_encode {stored : String} (h : encoding.encode payload = .ok stored) :
    encoding.decode stored = .ok payload := by
  cases encoding with
  | base64 =>
    cases h
    rw [decode, Base64.decode_encode]
    rfl
  | text =>
    rw [encode] at h
    cases hdec : Text.decode payload with
    | error fault =>
      rw [hdec] at h
      cases h
    | ok text =>
      rw [hdec] at h
      cases h
      rw [decode, Text.utf8_of_decode hdec]

end PayloadEncoding

namespace FileContainer

variable {c : FileContainer} {disk : Disk} {tables : Tables} {document : Document}
  {table key : String} {payload : Bytes}

/-! ### The tables in a file -/

/-- The tables of a document, every payload decoded. -/
def decodeTables (c : FileContainer) (document : Document) : Except StoreError Tables :=
  document.mapM fun table entries => entries.mapM (c.decodePayload table)

/-- **The tables in the file**, or why they cannot be read. -/
def storedTables (c : FileContainer) (disk : Disk) : Except StoreError Tables := do
  c.decodeTables (← disk.document c.config.path)

/-- The strings of a table are what its payloads are decoded from. -/
theorem mapM_table (h : c.decodeTables document = .ok tables) (table : String) :
    (document.table table).mapM (c.decodePayload table) = .ok (tables.table table) :=
  SortedMap.mapM_getD_get? h table

theorem contains_table (h : c.decodeTables document = .ok tables) (table key : String) :
    (document.table table).contains key = (tables.table table).contains key :=
  (SortedMap.contains_of_mapM (mapM_table h table) key).symm

/-! ### Calls that leave the tables as they are

What these three answer shows in the tables alone. -/

theorem exists_document_of_storedTables (h : c.storedTables disk = .ok tables) :
    ∃ document, disk.document c.config.path = .ok document ∧
      c.decodeTables document = .ok tables := by
  rw [storedTables] at h
  cases hdoc : disk.document c.config.path with
  | error e =>
    rw [hdoc] at h
    cases h
  | ok document =>
    rw [hdoc] at h
    exact ⟨document, rfl, h⟩

theorem select_of_storedTables (hlock : disk.poisoned c.lock = false)
    (h : c.storedTables disk = .ok tables) (table : String) :
    c.select table disk = (.ok (tables.table table), disk) := by
  obtain ⟨document, hdoc, hd⟩ := exists_document_of_storedTables h
  rw [select_apply, hlock, hdoc, ← mapM_table hd table]
  rfl

theorem insert_of_contains (hlock : disk.poisoned c.lock = false)
    (h : c.storedTables disk = .ok tables) (hkey : (tables.table table).contains key = true)
    (payload : Bytes) :
    c.insert table key payload disk = (.error (.duplicateKey table key), disk) := by
  obtain ⟨document, hdoc, hd⟩ := exists_document_of_storedTables h
  rw [insert_apply, hlock, hdoc]
  simp only [contains_table hd, hkey, Bool.false_eq_true, if_false, if_true]

theorem delete_of_not_contains (hlock : disk.poisoned c.lock = false)
    (h : c.storedTables disk = .ok tables) (hkey : (tables.table table).contains key = false) :
    c.delete table key disk = (.ok false, disk) := by
  obtain ⟨document, hdoc, hd⟩ := exists_document_of_storedTables h
  rw [delete_apply, hlock, hdoc]
  simp only [contains_table hd, hkey, Bool.false_eq_true, if_false]

/-! ### A disk that mirrors tables -/

/-- **A disk mirrors tables** if they are the tables in the file, and if nothing keeps the
container from writing it. -/
structure Mirrors (c : FileContainer) (disk : Disk) (tables : Tables) : Prop where
  /-- The file may be created. -/
  create : c.config.createIfMissing = true
  /-- The lock can be taken. -/
  unlocked : disk.poisoned c.lock = false
  /-- The path can be written. -/
  accepts : disk.files.Accepts c.config.path
  /-- The file holds the tables. -/
  stored : c.storedTables disk = .ok tables

theorem Mirrors.canSave (h : c.Mirrors disk tables) : c.CanSave disk :=
  ⟨h.unlocked, by rw [mayWrite, h.create, Bool.true_or], h.accepts⟩

/-- **Saving a document leads to a disk that mirrors its tables.** -/
theorem Mirrors.save (h : c.Mirrors disk tables) {document : Document} {tables' : Tables}
    (hd : c.decodeTables document = .ok tables') :
    ∃ disk', c.save document disk = (.ok (), disk') ∧ c.Mirrors disk' tables' := by
  obtain ⟨disk', hwritten, hcanSave⟩ := h.canSave.exists_written document
  refine ⟨disk', save_eq_ok_iff.2 hwritten, h.create, hcanSave.unlocked, hcanSave.accepts, ?_⟩
  rw [FileContainer.storedTables, document_of_written hwritten]
  exact hd

/-! ### One call -/

theorem Mirrors.init (h : c.Mirrors disk tables) (table : String) :
    ∃ disk', c.init table disk = (.ok (), disk') ∧ c.Mirrors disk' (tables.withTable table) := by
  obtain ⟨document, hdoc, hd⟩ := exists_document_of_storedTables h.stored
  obtain ⟨disk', hsave, hmirrors⟩ := h.save (SortedMap.mapM_insert hd (mapM_table hd table))
  refine ⟨disk', ?_, hmirrors⟩
  rw [init_apply, h.unlocked, mayWrite, h.create, hdoc]
  exact hsave

theorem Mirrors.select (h : c.Mirrors disk tables) (table : String) :
    c.select table disk = (.ok (tables.table table), disk) :=
  select_of_storedTables h.unlocked h.stored table

theorem Mirrors.insert_of_not_contains (h : c.Mirrors disk tables)
    (hkey : (tables.table table).contains key = false)
    (hpayload : c.config.encoding.Writes payload) :
    ∃ disk', c.insert table key payload disk = (.ok (), disk') ∧
      c.Mirrors disk' (tables.insert table ((tables.table table).insert key payload)) := by
  obtain ⟨document, hdoc, hd⟩ := exists_document_of_storedTables h.stored
  -- the string is read back as the payload, so the new document has the new tables
  obtain ⟨stored, hencode, hdecode⟩ := hpayload.exists_encode
  have hstored : c.encodePayload table key payload = .ok stored := by
    rw [encodePayload, hencode]
    rfl
  have hpayload' : c.decodePayload table key stored = .ok payload := by
    rw [decodePayload, hdecode]
    rfl
  have hentries := SortedMap.mapM_insert (mapM_table hd table) hpayload'
  obtain ⟨disk', hsave, hmirrors⟩ := h.save (SortedMap.mapM_insert hd hentries)
  refine ⟨disk', ?_, hmirrors⟩
  rw [insert_apply, h.unlocked, hdoc]
  simp only [contains_table hd, hkey, hstored, Bool.false_eq_true, if_false]
  exact hsave

theorem Mirrors.delete_of_contains (h : c.Mirrors disk tables)
    (hkey : (tables.table table).contains key = true) :
    ∃ disk', c.delete table key disk = (.ok true, disk') ∧
      c.Mirrors disk' (tables.insert table ((tables.table table).erase key)) := by
  obtain ⟨document, hdoc, hd⟩ := exists_document_of_storedTables h.stored
  have hentries := SortedMap.mapM_erase (mapM_table hd table) key
  obtain ⟨disk', hsave, hmirrors⟩ := h.save (SortedMap.mapM_insert hd hentries)
  refine ⟨disk', ?_, hmirrors⟩
  rw [delete_apply, h.unlocked, hdoc]
  simp only [contains_table hd, hkey, Bool.false_eq_true, if_false, if_true]
  rw [hsave]

/-- The calls that a container can carry out: it can write what they insert. -/
def CanWrite (c : FileContainer) : Call → Prop
  | .insert _ _ payload => c.config.encoding.Writes payload
  | _ => True

/-- **Every call is answered as in memory**, and leads to a disk that mirrors the tables in
memory again. -/
theorem alike_memory (c : FileContainer) :
    c.container.Alike memoryContainer c.Mirrors c.CanWrite := by
  intro call hcall disk tables h
  -- whether a key is there is the same in the document and in the tables
  cases call with
  | init table =>
    obtain ⟨disk', hinit, hmirrors⟩ := h.init table
    rw [container_outcome_init, MemoryContainer.outcome_init, hinit]
    exact ⟨rfl, hmirrors⟩
  | select table =>
    rw [container_outcome_select, MemoryContainer.outcome_select, h.select]
    exact ⟨rfl, h⟩
  | insert table key payload =>
    rw [container_outcome_insert, MemoryContainer.outcome_insert]
    cases hkey : (tables.table table).contains key with
    | true =>
      rw [insert_of_contains h.unlocked h.stored hkey]
      exact ⟨rfl, h⟩
    | false =>
      obtain ⟨disk', hinsert, hmirrors⟩ := h.insert_of_not_contains hkey hcall
      rw [hinsert]
      exact ⟨rfl, hmirrors⟩
  | delete table key =>
    rw [container_outcome_delete, MemoryContainer.outcome_delete]
    cases hkey : (tables.table table).contains key with
    | true =>
      obtain ⟨disk', hdelete, hmirrors⟩ := h.delete_of_contains hkey
      rw [hdelete]
      exact ⟨rfl, hmirrors⟩
    | false =>
      rw [delete_of_not_contains h.unlocked h.stored hkey]
      exact ⟨rfl, h⟩

/-! ### Runs -/

/-- **How a file may start out** for a container in memory with the same tables: there is
none, it is blank, it holds `null`, or it holds a document all of whose strings can be
decoded. -/
inductive StartsAs (c : FileContainer) (disk : Disk) : Tables → Prop
  | absent (h : disk.files.read c.config.path = .error .notFound) : StartsAs c disk .empty
  | blank (bytes : Bytes) (h : disk.files.read c.config.path = .ok bytes)
    (hblank : bytes.all Document.isBlankByte = true) : StartsAs c disk .empty
  | null (before after : List Char)
    (h : disk.files.read c.config.path =
      .ok (Text.utf8 (String.ofList (before ++ "null".toList ++ after))))
    (hbefore : Json.Reader.Blank (before.map .char))
    (hafter : Json.Reader.Blank (after.map .char)) : StartsAs c disk .empty
  | document (bytes : Bytes) (document : Document) (tables : Tables)
    (h : disk.files.read c.config.path = .ok bytes) (hdoc : Document.ofBytes bytes = .ok document)
    (htables : c.decodeTables document = .ok tables) : StartsAs c disk tables

/-- However the file starts out, it holds the tables. -/
theorem StartsAs.storedTables (h : c.StartsAs disk tables) : c.storedTables disk = .ok tables := by
  rw [FileContainer.storedTables, Disk.document]
  cases h with
  | absent h =>
    rw [h]
    rfl
  | blank bytes h hblank =>
    rw [h]
    simp only [Document.ofBytes_of_blank hblank]
    rfl
  | null before after h hbefore hafter =>
    rw [h]
    simp only [Document.ofBytes_null hbefore hafter]
    rfl
  | document bytes document tables h hdoc htables =>
    rw [h]
    simp only [hdoc]
    exact htables

/-- **The container in a file refines the container in memory.** From corresponding states
every run of calls is answered alike, call by call, and after every call the file holds the
tables in memory. The only way for a call to fail is that its key is taken. -/
theorem refines_memory (c : FileContainer) (hcreate : c.config.createIfMissing = true)
    (disk : Disk) (hlock : disk.poisoned c.lock = false)
    (haccepts : disk.files.Accepts c.config.path) (tables : Tables)
    (hstart : c.StartsAs disk tables) (calls : List Call)
    (hcalls : ∀ call ∈ calls, c.CanWrite call) :
    List.Forall₂ (fun onFile inMemory =>
        onFile.1 = inMemory.1 ∧ c.storedTables onFile.2 = .ok inMemory.2)
      (c.container.trace calls disk) (memoryContainer.trace calls tables) ∧
    ∀ inMemory ∈ memoryContainer.trace calls tables, ∀ e, inMemory.1 = .error e →
      ∃ table key, e = .duplicateKey table key := by
  have hmirrors : c.Mirrors disk tables := ⟨hcreate, hlock, haccepts, hstart.storedTables⟩
  constructor
  · refine (Container.forall₂_trace c.alike_memory hcalls hmirrors).imp ?_
    rintro onFile inMemory ⟨hanswer, h⟩
    exact ⟨hanswer, h.stored⟩
  · refine Container.forall_mem_trace (fun call tables e h => ?_) calls tables
    obtain ⟨table, key, _, -, he, -⟩ := MemoryContainer.outcome_error h
    exact ⟨table, key, he⟩

/-- Where there is no file yet, a user is added twice and removed. -/
theorem refines_memory_of_no_file :
    let c : FileContainer := { config := { path := "db", encoding := .text }, lock := 0 }
    let calls : List Call := [.insert "User" "ü" (Text.utf8 "\"ü\""), .select "User",
      .insert "User" "ü" (Text.utf8 "1"), .delete "User" "ü"]
    (c.config.createIfMissing = true ∧ Disk.empty.poisoned c.lock = false ∧
      Disk.empty.files.Accepts c.config.path ∧ c.StartsAs .empty .empty ∧
      ∀ call ∈ calls, c.CanWrite call) ∧
    List.Forall₂ (fun onFile inMemory =>
        onFile.1 = inMemory.1 ∧ c.storedTables onFile.2 = .ok inMemory.2)
      (c.container.trace calls .empty) (memoryContainer.trace calls .empty) ∧
    ∀ inMemory ∈ memoryContainer.trace calls .empty, ∀ e, inMemory.1 = .error e →
      ∃ table key, e = .duplicateKey table key := by
  intro c calls
  obtain ⟨habsent, haccepts⟩ : FileTree.empty.read "db" = .error .notFound ∧
      FileTree.empty.Accepts "db" := FileTree.isName_db.of_free rfl
  have hcalls : ∀ call ∈ calls, c.CanWrite call := by
    simp only [calls, List.forall_mem_cons]
    exact ⟨fun _ => ⟨_, rfl⟩, trivial, fun _ => ⟨_, rfl⟩, trivial, by simp⟩
  exact ⟨⟨rfl, rfl, haccepts, .absent habsent, hcalls⟩,
    refines_memory c rfl .empty rfl haccepts .empty (.absent habsent) calls hcalls⟩

end FileContainer

end RecordStore
