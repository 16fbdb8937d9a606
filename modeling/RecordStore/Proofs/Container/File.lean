import RecordStore.Container.File
import RecordStore.Proofs.Container.Document
import RecordStore.Proofs.Container.Run
import RecordStore.Proofs.FileTree

/-!
# What each operation on a file does

Every operation of a container in a file is described by one equation: it stops at a
poisoned lock, at a file that it may not create and at a file that holds no document,
in an order of its own, and then it answers from the document or saves another one.
The document is what the path holds (`RecordStore.Disk.document`), whoever reads it,
and saving is the only step that touches the disk
(`RecordStore.FileContainer.save`): it leaves the disk alone if it fails, and the
document that is read afterwards is the one that was saved
(`RecordStore.FileContainer.document_of_written`).
-/

namespace RecordStore

/-- **The document at a path**, or why it cannot be read. Without a file there are no tables. -/
def Disk.document (disk : Disk) (path : String) : Except StoreError Document :=
  match disk.files.read path with
  | .error .notFound => .ok .empty
  | .error fault => .error (.io fault)
  | .ok bytes => (Document.ofBytes bytes).mapError .document

/-- A disk without files, all of whose locks can be taken. -/
def Disk.empty : Disk := { files := .empty, poisoned := fun _ => false }

/-- A disk with one file, which holds a document in the layout that containers write. -/
def Disk.holding (name : String) (document : Document) : Disk :=
  { Disk.empty with files := FileTree.empty.set [name] (some (.file document.toBytes)) }

theorem Disk.document_holding {name : String} (h : FileTree.IsName name) (document : Document) :
    (Disk.holding name document).document name = .ok document := by
  have hread : (Disk.holding name document).files.read name = .ok document.toBytes :=
    (h.of_file (FileTree.entry_set_self _ _ _)).1
  rw [Disk.document, hread]
  simp only [Document.ofBytes_toBytes]
  rfl

namespace FileContainer

variable {c : FileContainer} {disk disk' : Disk} {document : Document}

/-! ### Saving a document -/

/-- Whether a document may be written: there is a file, or one may be created. -/
def mayWrite (c : FileContainer) (disk : Disk) : Bool :=
  c.config.createIfMissing || disk.files.holds c.config.path

/-- The disk with another document in the file, or why it cannot be written. -/
def written (c : FileContainer) (document : Document) (disk : Disk) : Except StoreError Disk :=
  if c.mayWrite disk then
    match disk.files.write c.config.path document.toBytes with
    | .error fault => .error (.io fault)
    | .ok files => .ok { disk with files }
  else .error (.missingDocument c.config.path)

/-- The outcome of writing a document: the disk is the old one if it fails. -/
def save (c : FileContainer) (document : Document) (disk : Disk) : Except StoreError Unit × Disk :=
  match c.written document disk with
  | .error e => (.error e, disk)
  | .ok disk' => (.ok (), disk')

/-- A poisoned lock stops everything that comes after taking it. -/
theorem acquire_bind {α : Type} (c : FileContainer) (f : Unit → StoreM Disk α) (disk : Disk) :
    (c.acquire >>= f) disk =
      if disk.poisoned c.lock then (.error .lockPoisoned, disk) else f () disk := by
  have h : c.acquire disk =
      if disk.poisoned c.lock then (.error .lockPoisoned, disk) else (.ok (), disk) := by
    rw [acquire, StoreM.bind_of_ok (StoreM.get_apply disk)]
    split <;> rfl
  rw [StoreM.bind_apply, h]
  cases disk.poisoned c.lock <;> rfl

theorem ensureWritable_bind {α : Type} (c : FileContainer) (f : Unit → StoreM Disk α)
    (disk : Disk) :
    (c.ensureWritable >>= f) disk =
      if c.mayWrite disk then f () disk
      else (.error (.missingDocument c.config.path), disk) := by
  have h : c.ensureWritable disk =
      if c.mayWrite disk then (.ok (), disk)
      else (.error (.missingDocument c.config.path), disk) := by
    rw [ensureWritable, StoreM.bind_of_ok (StoreM.get_apply disk)]
    cases hw : c.mayWrite disk <;> rw [mayWrite] at hw <;> rw [hw] <;> rfl
  rw [StoreM.bind_apply, h]
  cases c.mayWrite disk <;> rfl

/-- A container reads the document at its path, and changes nothing by reading. -/
theorem readDocument_apply (c : FileContainer) (disk : Disk) :
    c.readDocument disk = (disk.document c.config.path, disk) := by
  rw [readDocument, StoreM.bind_of_ok (StoreM.get_apply disk), Disk.document]
  cases disk.files.read c.config.path with
  | error fault => cases fault <;> rfl
  | ok bytes =>
    cases hb : Document.ofBytes bytes <;> simp only [hb] <;> rfl

theorem readDocument_bind {α : Type} (c : FileContainer) (f : Document → StoreM Disk α)
    (disk : Disk) :
    (c.readDocument >>= f) disk =
      match disk.document c.config.path with
      | .error e => (.error e, disk)
      | .ok document => f document disk := by
  rw [StoreM.bind_apply, readDocument_apply]
  cases disk.document c.config.path <;> rfl

theorem writeDocument_apply (c : FileContainer) (document : Document) (disk : Disk) :
    c.writeDocument document disk = c.save document disk := by
  rw [writeDocument, ensureWritable_bind, save, written]
  cases c.mayWrite disk with
  | false => rfl
  | true =>
    simp only [if_true]
    rw [StoreM.bind_of_ok (StoreM.get_apply disk)]
    cases disk.files.write c.config.path document.toBytes <;> rfl

/-- What was written: the file tree with the bytes of the document, where it may be written. -/
theorem written_eq_ok_iff : c.written document disk = .ok disk' ↔
    c.mayWrite disk = true ∧ ∃ files,
      disk.files.write c.config.path document.toBytes = .ok files ∧
        disk' = { disk with files } := by
  rw [written]
  cases c.mayWrite disk with
  | false => simp
  | true =>
    cases disk.files.write c.config.path document.toBytes with
    | error fault => simp
    | ok files => simp [eq_comm]

/-- The bytes of a document that was written are in the file. -/
theorem read_of_written (h : c.written document disk = .ok disk') :
    disk'.files.read c.config.path = .ok document.toBytes := by
  obtain ⟨-, files, hfiles, rfl⟩ := written_eq_ok_iff.1 h
  exact FileTree.read_of_write hfiles

/-- **What is saved is what is read afterwards**, through every container on the path. -/
theorem document_of_written (h : c.written document disk = .ok disk') :
    disk'.document c.config.path = .ok document := by
  rw [Disk.document, read_of_written h]
  simp only [Document.ofBytes_toBytes]
  rfl

theorem save_eq_ok_iff :
    c.save document disk = (.ok (), disk') ↔ c.written document disk = .ok disk' := by
  rw [save]
  cases c.written document disk with
  | error e => simp
  | ok disk'' => simp

/-- Saving leaves the disk alone, or it writes the document. -/
theorem save_cases (c : FileContainer) (document : Document) (disk : Disk) :
    (∃ e, c.save document disk = (.error e, disk)) ∨
      ∃ disk', c.written document disk = .ok disk' ∧ c.save document disk = (.ok (), disk') := by
  unfold save
  cases c.written document disk with
  | error e => exact Or.inl ⟨e, rfl⟩
  | ok disk' => exact Or.inr ⟨disk', rfl, rfl⟩

/-- **Nothing keeps a container from writing its file.** -/
structure CanSave (c : FileContainer) (disk : Disk) : Prop where
  unlocked : disk.poisoned c.lock = false
  writable : c.mayWrite disk = true
  accepts : disk.files.Accepts c.config.path

/-- Any document can be written where the path can be. -/
theorem exists_written_of_accepts (hwrite : c.mayWrite disk = true)
    (haccepts : disk.files.Accepts c.config.path) (document : Document) :
    ∃ disk', c.written document disk = .ok disk' := by
  obtain ⟨files, hfiles⟩ := haccepts.exists_write document.toBytes
  exact ⟨_, written_eq_ok_iff.2 ⟨hwrite, files, hfiles, rfl⟩⟩

/-- A container that can write its file can write it again. -/
theorem CanSave.exists_written (h : c.CanSave disk) (document : Document) :
    ∃ disk', c.written document disk = .ok disk' ∧ c.CanSave disk' := by
  obtain ⟨disk', hwritten⟩ := exists_written_of_accepts h.writable h.accepts document
  obtain ⟨-, files, hfiles, rfl⟩ := written_eq_ok_iff.1 hwritten
  refine ⟨_, hwritten, h.unlocked, ?_, FileTree.accepts_of_write hfiles⟩
  rw [mayWrite, FileTree.holds_of_write hfiles, Bool.or_true]

/-! ### The operations -/

theorem init_apply (c : FileContainer) (table : String) (disk : Disk) :
    c.init table disk =
      if disk.poisoned c.lock then (.error .lockPoisoned, disk)
      else if c.mayWrite disk then
        match disk.document c.config.path with
        | .error e => (.error e, disk)
        | .ok document => c.save (document.withTable table) disk
      else (.error (.missingDocument c.config.path), disk) := by
  rw [init, acquire_bind, ensureWritable_bind, readDocument_bind]
  simp only [writeDocument_apply]
  rfl

theorem select_apply (c : FileContainer) (table : String) (disk : Disk) :
    c.select table disk =
      if disk.poisoned c.lock then (.error .lockPoisoned, disk)
      else
        match disk.document c.config.path with
        | .error e => (.error e, disk)
        | .ok document => ((document.table table).mapM (c.decodePayload table), disk) := by
  rw [select, acquire_bind, readDocument_bind]
  rfl

theorem insert_apply (c : FileContainer) (table key : String) (payload : Bytes) (disk : Disk) :
    c.insert table key payload disk =
      if disk.poisoned c.lock then (.error .lockPoisoned, disk)
      else
        match disk.document c.config.path with
        | .error e => (.error e, disk)
        | .ok document =>
          if (document.table table).contains key then (.error (.duplicateKey table key), disk)
          else
            match c.encodePayload table key payload with
            | .error e => (.error e, disk)
            | .ok stored =>
              c.save (document.insert table ((document.table table).insert key stored)) disk := by
  rw [insert, acquire_bind, readDocument_bind]
  cases disk.poisoned c.lock with
  | true => rfl
  | false =>
    cases disk.document c.config.path with
    | error e => rfl
    | ok document =>
      simp only [Bool.false_eq_true, if_false]
      cases (document.table table).contains key with
      | true => rfl
      | false =>
        simp only [Bool.false_eq_true, if_false]
        rw [StoreM.bind_apply, StoreM.ofExcept_apply]
        cases c.encodePayload table key payload with
        | error e => rfl
        | ok stored => exact writeDocument_apply c _ disk

theorem delete_apply (c : FileContainer) (table key : String) (disk : Disk) :
    c.delete table key disk =
      if disk.poisoned c.lock then (.error .lockPoisoned, disk)
      else
        match disk.document c.config.path with
        | .error e => (.error e, disk)
        | .ok document =>
          if (document.table table).contains key then
            match c.save (document.insert table ((document.table table).erase key)) disk with
            | (.error e, disk') => (.error e, disk')
            | (.ok _, disk') => (.ok true, disk')
          else (.ok false, disk) := by
  rw [delete, acquire_bind, readDocument_bind]
  cases disk.poisoned c.lock with
  | true => rfl
  | false =>
    cases disk.document c.config.path with
    | error e => rfl
    | ok document =>
      simp only [Bool.false_eq_true, if_false]
      -- a table that does not exist is one without keys
      cases hget : document.get? table with
      | none =>
        have htable : document.table table = .empty := by rw [Document.table, hget]; rfl
        rw [htable]
        rfl
      | some entries =>
        have htable : document.table table = entries := by rw [Document.table, hget]; rfl
        rw [htable]
        dsimp only
        cases entries.contains key with
        | false => rfl
        | true =>
          simp only [if_true]
          rw [StoreM.bind_apply, writeDocument_apply]
          rcases c.save (document.insert table (entries.erase key)) disk with ⟨e | u, disk'⟩ <;> rfl

/-! ### Nothing happens, or one document is written

What an operation can do, all of it: each either fails on the disk as it was or answers
from the document that was read, and only an answer that says so comes with a document
written. -/

theorem init_cases (c : FileContainer) (table : String) (disk : Disk) :
    (∃ e, c.init table disk = (.error e, disk)) ∨
      ∃ document disk', disk.document c.config.path = .ok document ∧
        c.written (document.withTable table) disk = .ok disk' ∧
        c.init table disk = (.ok (), disk') := by
  rw [init_apply]
  split
  · exact Or.inl ⟨_, rfl⟩
  · split
    · cases hdoc : disk.document c.config.path with
      | error e => exact Or.inl ⟨e, rfl⟩
      | ok document =>
        rcases c.save_cases (document.withTable table) disk with ⟨e, h⟩ | ⟨disk', hw, h⟩
        · exact Or.inl ⟨e, h⟩
        · exact Or.inr ⟨document, disk', rfl, hw, h⟩
    · exact Or.inl ⟨_, rfl⟩

theorem insert_cases (c : FileContainer) (table key : String) (payload : Bytes) (disk : Disk) :
    (∃ e, c.insert table key payload disk = (.error e, disk)) ∨
      ∃ document stored disk', disk.document c.config.path = .ok document ∧
        (document.table table).get? key = none ∧
        c.config.encoding.encode payload = .ok stored ∧
        c.written (document.insert table ((document.table table).insert key stored)) disk =
          .ok disk' ∧
        c.insert table key payload disk = (.ok (), disk') := by
  rw [insert_apply]
  split
  · exact Or.inl ⟨_, rfl⟩
  · cases hdoc : disk.document c.config.path with
    | error e => exact Or.inl ⟨e, rfl⟩
    | ok document =>
      dsimp only
      split
      · exact Or.inl ⟨_, rfl⟩
      · rename_i hkey
        cases henc : c.config.encoding.encode payload with
        | error reason =>
          rw [encodePayload, henc]
          exact Or.inl ⟨_, rfl⟩
        | ok stored =>
          have hnone := SortedMap.contains_eq_false.1 (Bool.eq_false_iff.2 hkey)
          rw [encodePayload, henc]
          rcases c.save_cases
            (document.insert table ((document.table table).insert key stored)) disk with
            ⟨e, h⟩ | ⟨disk', hw, h⟩
          · exact Or.inl ⟨e, h⟩
          · exact Or.inr ⟨document, stored, disk', rfl, hnone, rfl, hw, h⟩

theorem delete_cases (c : FileContainer) (table key : String) (disk : Disk) :
    (∃ e, c.delete table key disk = (.error e, disk)) ∨
      c.delete table key disk = (.ok false, disk) ∨
      ∃ document stored disk', disk.document c.config.path = .ok document ∧
        (document.table table).get? key = some stored ∧
        c.written (document.insert table ((document.table table).erase key)) disk = .ok disk' ∧
        c.delete table key disk = (.ok true, disk') := by
  rw [delete_apply]
  split
  · exact Or.inl ⟨_, rfl⟩
  · cases hdoc : disk.document c.config.path with
    | error e => exact Or.inl ⟨e, rfl⟩
    | ok document =>
      dsimp only
      split
      · rename_i hkey
        obtain ⟨stored, hstored⟩ := SortedMap.contains_eq_true.1 hkey
        rcases c.save_cases (document.insert table ((document.table table).erase key)) disk with
          ⟨e, h⟩ | ⟨disk', hw, h⟩
        · rw [h]
          exact Or.inl ⟨e, rfl⟩
        · rw [h]
          exact Or.inr (Or.inr ⟨document, stored, disk', rfl, hstored, hw, rfl⟩)
      · exact Or.inr (Or.inl rfl)

/-- Selecting never touches the disk. -/
theorem select_snd (c : FileContainer) (table : String) (disk : Disk) :
    (c.select table disk).2 = disk := by
  rw [select_apply]
  split
  · rfl
  · cases disk.document c.config.path <;> rfl

theorem container_outcome_init (c : FileContainer) (table : String) (disk : Disk) :
    c.container.outcome (.init table) disk =
      ((c.init table disk).1.map fun _ => .done, (c.init table disk).2) :=
  c.container.outcome_init table disk

theorem container_outcome_select (c : FileContainer) (table : String) (disk : Disk) :
    c.container.outcome (.select table) disk =
      ((c.select table disk).1.map .entries, (c.select table disk).2) :=
  c.container.outcome_select table disk

theorem container_outcome_insert (c : FileContainer) (table key : String) (payload : Bytes)
    (disk : Disk) :
    c.container.outcome (.insert table key payload) disk =
      ((c.insert table key payload disk).1.map fun _ => .done,
        (c.insert table key payload disk).2) :=
  c.container.outcome_insert table key payload disk

theorem container_outcome_delete (c : FileContainer) (table key : String) (disk : Disk) :
    c.container.outcome (.delete table key) disk =
      ((c.delete table key disk).1.map .existed, (c.delete table key disk).2) :=
  c.container.outcome_delete table key disk

/-- **A call on a file fails or answers without touching the disk, or it writes a document.** -/
theorem outcome_cases (c : FileContainer) (call : Call) (disk : Disk) :
    (∃ e, c.container.outcome call disk = (.error e, disk)) ∨
      (∃ a, c.container.outcome call disk = (.ok a, disk)) ∨
      ∃ document disk' a, c.written document disk = .ok disk' ∧
        c.container.outcome call disk = (.ok a, disk') := by
  cases call with
  | init table =>
    rw [container_outcome_init]
    rcases c.init_cases table disk with ⟨e, h⟩ | ⟨document, disk', -, hw, h⟩
    · rw [h]
      exact Or.inl ⟨e, rfl⟩
    · rw [h]
      exact Or.inr (Or.inr ⟨_, disk', _, hw, rfl⟩)
  | select table =>
    rw [container_outcome_select, select_snd]
    cases (c.select table disk).1 with
    | error e => exact Or.inl ⟨e, rfl⟩
    | ok entries => exact Or.inr (Or.inl ⟨_, rfl⟩)
  | insert table key payload =>
    rw [container_outcome_insert]
    rcases c.insert_cases table key payload disk with
      ⟨e, h⟩ | ⟨document, stored, disk', -, -, -, hw, h⟩
    · rw [h]
      exact Or.inl ⟨e, rfl⟩
    · rw [h]
      exact Or.inr (Or.inr ⟨_, disk', _, hw, rfl⟩)
  | delete table key =>
    rw [container_outcome_delete]
    rcases c.delete_cases table key disk with ⟨e, h⟩ | h | ⟨document, stored, disk', -, -, hw, h⟩
    · rw [h]
      exact Or.inl ⟨e, rfl⟩
    · rw [h]
      exact Or.inr (Or.inl ⟨_, rfl⟩)
    · rw [h]
      exact Or.inr (Or.inr ⟨_, disk', _, hw, rfl⟩)

/-! ### Calls and locks -/

/-- A poisoned lock stops every call. -/
theorem outcome_of_poisoned (hlock : disk.poisoned c.lock = true) (call : Call) :
    c.container.outcome call disk = (.error .lockPoisoned, disk) := by
  cases call with
  | init table =>
    rw [container_outcome_init, init_apply, hlock]
    rfl
  | select table =>
    rw [container_outcome_select, select_apply, hlock]
    rfl
  | insert table key payload =>
    rw [container_outcome_insert, insert_apply, hlock]
    rfl
  | delete table key =>
    rw [container_outcome_delete, delete_apply, hlock]
    rfl

/-- No call has anything to do with locks. -/
theorem poisoned_outcome (c : FileContainer) (call : Call) (disk : Disk) :
    (c.container.outcome call disk).2.poisoned = disk.poisoned := by
  rcases c.outcome_cases call disk with ⟨_, h⟩ | ⟨_, h⟩ | ⟨_, _, _, hwritten, h⟩
  · rw [h]
  · rw [h]
  · rw [h]
    obtain ⟨-, files, -, rfl⟩ := written_eq_ok_iff.1 hwritten
    rfl

end FileContainer

end RecordStore
