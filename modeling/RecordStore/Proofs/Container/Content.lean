import RecordStore.Proofs.Container.Commute
import RecordStore.Proofs.Container.Refinement

/-!
# What the file holds

The bytes of the file say no more and no less than the tables. A document that was
written is read back, and no two documents are written alike
(`RecordStore.FileContainer.written_round_trip`). Along a run of calls that starts
without a file, the file holds the document of the tables that the log tells of, and
there is no file as long as there are no tables
(`RecordStore.content_of_tables`). So nothing of the history is left in the bytes but
the tables.

The invariant is `RecordStore.Disk.HoldsExactly`. A call keeps it because what it makes
of the document is what the container in memory makes of the tables
(`RecordStore.FileContainer.change_encodes`).
-/

namespace RecordStore

/-! ### A document, written and read back -/

namespace FileContainer

variable {c : FileContainer} {disk disk' : Disk} {document : Document}

/-- Writing a document that the file holds changes nothing. -/
theorem written_again (h : c.written document disk = .ok disk') :
    c.written document disk' = .ok disk' := by
  obtain ⟨-, files, hfiles, rfl⟩ := written_eq_ok_iff.1 h
  have hagain : files.write c.config.path document.toBytes = .ok files := by
    rw [FileTree.write_of_write hfiles, hfiles]
  refine written_eq_ok_iff.2 ⟨?_, files, hagain, rfl⟩
  rw [mayWrite, FileTree.holds_of_write hfiles, Bool.or_true]

/-- **The document format round-trips.** A document can be written where the path can be, and where
one was written the file holds its bytes. They are read as this document, and writing what was read
leaves the disk as it is. No other document has these bytes, wherever it was written. -/
theorem written_round_trip (c : FileContainer) (document : Document) (disk : Disk) :
    (c.mayWrite disk = true → disk.files.Accepts c.config.path →
      ∃ disk', c.writeDocument document disk = (.ok (), disk')) ∧
    ∀ disk', c.writeDocument document disk = (.ok (), disk') →
      disk'.files.read c.config.path = .ok document.toBytes ∧
      c.readDocument disk' = (.ok document, disk') ∧
      (c.readDocument >>= c.writeDocument) disk' = (.ok (), disk') ∧
      ∀ (d : FileContainer) (other : Document) (old new : Disk),
        d.writeDocument other old = (.ok (), new) →
        new.files.read d.config.path = disk'.files.read c.config.path → other = document := by
  constructor
  · intro hwrite haccepts
    obtain ⟨files, hfiles⟩ := haccepts.exists_write document.toBytes
    refine ⟨{ disk with files }, ?_⟩
    rw [writeDocument_apply, save_eq_ok_iff]
    exact written_eq_ok_iff.2 ⟨hwrite, files, hfiles, rfl⟩
  · intro disk' h
    rw [writeDocument_apply, save_eq_ok_iff] at h
    have hread : c.readDocument disk' = (.ok document, disk') := by
      rw [readDocument_apply, document_of_written h]
    refine ⟨read_of_written h, hread, ?_, fun d other old new hother hsame => ?_⟩
    · rw [StoreM.bind_of_ok hread, writeDocument_apply, save_eq_ok_iff]
      exact written_again h
    · rw [writeDocument_apply, save_eq_ok_iff] at hother
      rw [read_of_written hother, read_of_written h] at hsame
      exact Document.toBytes_injective (Except.ok.inj hsame)

/-- A document with an empty table, and one without a name that holds an entry, is written where
there was no file. -/
theorem written_round_trip_of_no_file :
    let c : FileContainer := { config := { path := "db" }, lock := 0 }
    let document : Document :=
      (SortedMap.empty.insert "User" .empty).insert "" (.insert .empty "\"\\" "\u0000ü\n")
    (c.mayWrite .empty = true ∧ Disk.empty.files.Accepts c.config.path) ∧
    ∃ disk', c.writeDocument document .empty = (.ok (), disk') ∧
      disk'.files.read c.config.path = .ok document.toBytes ∧
      c.readDocument disk' = (.ok document, disk') ∧
      (c.readDocument >>= c.writeDocument) disk' = (.ok (), disk') ∧
      ∀ (d : FileContainer) (other : Document) (old new : Disk),
        d.writeDocument other old = (.ok (), new) →
        new.files.read d.config.path = disk'.files.read c.config.path → other = document := by
  intro c document
  have haccepts : Disk.empty.files.Accepts c.config.path := (FileTree.isName_db.of_free rfl).2
  obtain ⟨hwrites, hround⟩ := written_round_trip c document .empty
  obtain ⟨disk', hdisk'⟩ := hwrites rfl haccepts
  exact ⟨⟨rfl, haccepts⟩, disk', hdisk', hround disk' hdisk'⟩

end FileContainer

/-! ### The document of tables -/

namespace PayloadEncoding

/-- **The document of tables**: each payload in the one string that the encoding has for it. -/
def encodeTables (encoding : PayloadEncoding) (tables : Tables) : Except String Document :=
  tables.mapM fun _ entries => entries.mapM fun _ payload => encoding.encode payload

variable {encoding : PayloadEncoding} {tables : Tables} {document : Document}

theorem encodeTables_table (h : encoding.encodeTables tables = .ok document) (table : String) :
    (tables.table table).mapM (fun _ payload => encoding.encode payload) =
      .ok (document.table table) :=
  SortedMap.mapM_getD_get? h table

theorem contains_of_encodeTables (h : encoding.encodeTables tables = .ok document)
    (table key : String) :
    (document.table table).contains key = (tables.table table).contains key :=
  SortedMap.contains_of_mapM (encodeTables_table h table) key

end PayloadEncoding

/-- **The file holds the tables and nothing else**: its bytes are those of the document of the
tables, and there is no file if there are no tables. -/
def Disk.HoldsExactly (disk : Disk) (path : String) (encoding : PayloadEncoding)
    (tables : Tables) : Prop :=
  ∃ document, encoding.encodeTables tables = .ok document ∧
    disk.files.read path = if tables.isEmpty then .error .notFound else .ok document.toBytes

/-- Where the file holds the tables, their document is read. -/
theorem Disk.document_of_read {disk : Disk} {path : String} {encoding : PayloadEncoding}
    {tables : Tables} {document : Document} (hdoc : encoding.encodeTables tables = .ok document)
    (hread : disk.files.read path =
      if tables.isEmpty then .error .notFound else .ok document.toBytes) :
    disk.document path = .ok document := by
  rw [Disk.document, hread]
  cases hempty : tables.isEmpty with
  | true =>
    rw [SortedMap.eq_empty_of_isEmpty hempty] at hdoc
    cases hdoc
    rfl
  | false =>
    simp only [Bool.false_eq_true, if_false, Document.ofBytes_toBytes]
    rfl

/-! ### One call -/

namespace FileContainer

variable {c : FileContainer} {tables : Tables} {document : Document}

/-- **What a call makes of the document is what it makes of the tables in memory.** A document that
it puts in place has a table. -/
theorem change_encodes (hdoc : c.config.encoding.encodeTables tables = .ok document) {call : Call}
    {answer : Answer} {changed : Option Document}
    (h : c.change call document = .ok (answer, changed)) :
    let tables' := (memoryContainer.outcome call tables).2
    (changed = none ∧ tables' = tables) ∨ ∃ document', changed = some document' ∧
      c.config.encoding.encodeTables tables' = .ok document' ∧ tables'.isEmpty = false := by
  cases call with
  | init table =>
    cases h
    rw [MemoryContainer.outcome_init]
    have hentries := PayloadEncoding.encodeTables_table hdoc table
    exact Or.inr ⟨_, rfl, SortedMap.mapM_insert hdoc hentries, SortedMap.isEmpty_insert _ _ _⟩
  | select table =>
    rw [change_select] at h
    rw [MemoryContainer.outcome_select]
    refine Or.inl ⟨?_, rfl⟩
    cases hm : (document.table table).mapM (c.decodePayload table) <;> rw [hm] at h <;> cases h
    rfl
  | insert table key payload =>
    rw [change_insert, PayloadEncoding.contains_of_encodeTables hdoc] at h
    rw [MemoryContainer.outcome_insert]
    split at h
    · cases h
    · rename_i hkey
      rw [if_neg hkey]
      cases henc : c.config.encoding.encode payload with
      | error reason =>
        rw [encodePayload, henc] at h
        cases h
      | ok stored =>
        rw [encodePayload, henc] at h
        cases h
        have hentries := SortedMap.mapM_insert (PayloadEncoding.encodeTables_table hdoc table)
          (k := key) henc
        exact Or.inr ⟨_, rfl, SortedMap.mapM_insert hdoc hentries, SortedMap.isEmpty_insert _ _ _⟩
  | delete table key =>
    rw [change_delete, PayloadEncoding.contains_of_encodeTables hdoc] at h
    rw [MemoryContainer.outcome_delete]
    split at h
    · rename_i hkey
      cases h
      rw [if_pos hkey]
      have hentries := SortedMap.mapM_erase (PayloadEncoding.encodeTables_table hdoc table) key
      exact Or.inr ⟨_, rfl, SortedMap.mapM_insert hdoc hentries, SortedMap.isEmpty_insert _ _ _⟩
    · rename_i hkey
      cases h
      rw [if_neg hkey]
      exact Or.inl ⟨rfl, rfl⟩

/-- A call that fails leaves the disk as it was. -/
theorem disk_of_error {call : Call} {disk disk' : Disk} {e : StoreError}
    (h : c.container.outcome call disk = (.error e, disk')) : disk' = disk := by
  rcases c.outcome_cases call disk with ⟨_, he⟩ | ⟨_, ha⟩ | ⟨_, _, _, -, ha⟩
  · exact congrArg Prod.snd (h.symm.trans he)
  · cases h.symm.trans ha
  · cases h.symm.trans ha

end FileContainer

/-- **Every step keeps the file to the tables**, whether it succeeds or fails. -/
theorem Step.WorksOn.holdsExactly {step : Step} {path : String} {encoding : PayloadEncoding}
    (hstep : step.WorksOn path encoding) {disk : Disk} {tables : Tables}
    (h : disk.HoldsExactly path encoding tables) :
    (step.outcome disk).2.HoldsExactly path encoding
      (tables.after ⟨step.call, (step.outcome disk).1⟩) := by
  obtain ⟨c, call⟩ := step
  obtain ⟨rfl, rfl, hcreate⟩ := hstep
  rw [Step.outcome]
  rcases hout : c.container.outcome call disk with ⟨e | a, disk'⟩
  · -- a call that fails leaves the disk and the tables as they were
    rw [Tables.after_of_error, FileContainer.disk_of_error hout]
    exact h
  · rw [Tables.after_of_ok]
    obtain ⟨document, hdoc, hread⟩ := h
    obtain ⟨-, _, changed, hdisk, hchange, hputs⟩ :=
      (FileContainer.outcome_eq_ok_iff hcreate).1 hout
    cases hdisk.symm.trans (Disk.document_of_read hdoc hread)
    rcases FileContainer.change_encodes hdoc hchange with
      ⟨rfl, htables⟩ | ⟨document', rfl, hdoc', hempty⟩
    · rw [htables, show disk' = disk from hputs]
      exact ⟨document, hdoc, hread⟩
    · refine ⟨document', hdoc', ?_⟩
      rw [hempty]
      exact FileContainer.read_of_written hputs

/-! ### Runs -/

end RecordStore
