import RecordStore.Proofs.Container.Commute
import RecordStore.Proofs.Container.Refinement

/-!
# Files that may not be created

Whether a container may create its file makes no difference but to whether the file
comes into existence (`RecordStore.only_creation_differs`).

* Where there is no file, containers that may not create it never do. A call that
  would have to write fails, and the others answer as if there were no tables. So the
  disk stays as it is, and the answers of a run are those of its single calls.
* Where there is a file, it is written whether or not it might be created
  (`RecordStore.FileContainer.outcome_creating`). A file is never removed, so this
  lasts, and the run of the containers that may create files is the same run.
-/

namespace RecordStore

/-! ### Runs of steps, with the disk after each -/

/-- **The outcomes of a run of steps**: the answer to each, with the disk after it. -/
def traceSteps : List Step → Disk → List (Except StoreError Answer × Disk)
  | [], _ => []
  | step :: steps, disk => step.outcome disk :: traceSteps steps (step.outcome disk).2

section Runs

variable {p : Step → Prop} {I : Disk → Prop} {steps : List Step} {disk : Disk}

/-- What holds of every step that starts from an invariant holds all along a run. -/
theorem forall₂_traceSteps {Q : Step → Except StoreError Answer × Disk → Prop}
    (hstep : ∀ step disk, p step → I disk → Q step (step.outcome disk) ∧ I (step.outcome disk).2)
    (hsteps : ∀ step ∈ steps, p step) (h : I disk) :
    List.Forall₂ Q steps (traceSteps steps disk) := by
  induction steps generalizing disk with
  | nil => exact .nil
  | cons step steps ih =>
    obtain ⟨hq, hnext⟩ := hstep step disk (hsteps step (by simp)) h
    exact .cons hq (ih (fun s hs => hsteps s (List.mem_cons_of_mem _ hs)) hnext)

/-- Steps that do the same under an invariant make the same run. -/
theorem traceSteps_map {f : Step → Step}
    (hstep : ∀ step disk, p step → I disk →
      (f step).outcome disk = step.outcome disk ∧ I (step.outcome disk).2)
    (hsteps : ∀ step ∈ steps, p step) (h : I disk) :
    traceSteps (steps.map f) disk = traceSteps steps disk := by
  induction steps generalizing disk with
  | nil => rfl
  | cons step steps ih =>
    obtain ⟨hsame, hnext⟩ := hstep step disk (hsteps step (by simp)) h
    rw [List.map_cons, traceSteps, traceSteps, hsame,
      ih (fun s hs => hsteps s (List.mem_cons_of_mem _ hs)) hnext]

end Runs

namespace PayloadEncoding

/-- A payload that cannot be written has no string. -/
theorem exists_error_of_not_writes {encoding : PayloadEncoding} {payload : Bytes}
    (h : ¬encoding.Writes payload) : ∃ reason, encoding.encode payload = .error reason := by
  cases hencode : encoding.encode payload with
  | error reason => exact ⟨reason, rfl⟩
  | ok stored =>
    refine absurd (fun htext => ?_) h
    subst htext
    have hdecode := decode_of_encode hencode
    exact ⟨stored, (Except.ok.inj hdecode).symm⟩

end PayloadEncoding

namespace FileContainer

variable {c : FileContainer} {disk : Disk}

/-! ### Without a file -/

/-- **What a call answers where there is no file and none may be created.** Every fault of a
missing document is that the file was not found. -/
inductive AnswersWithoutFile (c : FileContainer) : Call → Except StoreError Answer → Prop
  | init (table : String) :
      c.AnswersWithoutFile (.init table) (.error (.missingDocument c.config.path))
  | select (table : String) : c.AnswersWithoutFile (.select table) (.ok (.entries .empty))
  | insert (table key : String) {payload : Bytes} (h : c.config.encoding.Writes payload) :
      c.AnswersWithoutFile (.insert table key payload) (.error (.missingDocument c.config.path))
  /-- That the payload is no text is found before the file is missed. -/
  | refuse (table key : String) {payload : Bytes} (reason : String)
      (h : ¬c.config.encoding.Writes payload) :
      c.AnswersWithoutFile (.insert table key payload) (.error (.invalidPayload table key reason))
  | delete (table key : String) : c.AnswersWithoutFile (.delete table key) (.ok (.existed false))

/-- A container that may not create its file writes nothing where there is none. -/
theorem save_without_file (hcreate : c.config.createIfMissing = false)
    (hholds : disk.files.holds c.config.path = false) (document : Document) :
    c.save document disk = (.error (.missingDocument c.config.path), disk) := by
  have hmay : c.mayWrite disk = false := by rw [mayWrite, hcreate, hholds]; rfl
  rw [save, written, hmay]
  rfl

/-- **Without a file, a container that may not create it leaves the disk as it is.** -/
theorem outcome_without_file (hlock : disk.poisoned c.lock = false)
    (hcreate : c.config.createIfMissing = false)
    (habsent : disk.files.read c.config.path = .error .notFound) (call : Call) :
    (c.container.outcome call disk).2 = disk ∧
      c.AnswersWithoutFile call (c.container.outcome call disk).1 := by
  have hholds := FileTree.holds_of_notFound habsent
  have hmay : c.mayWrite disk = false := by rw [mayWrite, hcreate, hholds]; rfl
  have hdoc : disk.document c.config.path = .ok .empty := by rw [Disk.document, habsent]
  cases call with
  | init table =>
    rw [container_outcome_init, init_apply, hlock, hmay]
    exact ⟨rfl, .init table⟩
  | select table =>
    rw [container_outcome_select, select_apply, hlock, hdoc]
    exact ⟨rfl, .select table⟩
  | insert table key payload =>
    rw [container_outcome_insert, insert_apply, hlock, hdoc]
    by_cases hwrites : c.config.encoding.Writes payload
    · obtain ⟨stored, hencode, -⟩ := hwrites.exists_encode
      rw [encodePayload, hencode]
      simp only [Except.mapError, save_without_file hcreate hholds]
      exact ⟨rfl, .insert table key hwrites⟩
    · obtain ⟨reason, hencode⟩ := PayloadEncoding.exists_error_of_not_writes hwrites
      rw [encodePayload, hencode]
      exact ⟨rfl, .refuse table key reason hwrites⟩
  | delete table key =>
    rw [container_outcome_delete, delete_apply, hlock, hdoc]
    exact ⟨rfl, .delete table key⟩

/-! ### With a file -/

/-- The same container, which may create its file. -/
def creating (c : FileContainer) : FileContainer :=
  { c with config := { c.config with createIfMissing := true } }

/-- **Where there is a file, it makes no difference whether it might be created**: a document may be
written anyway, and the call is the same change of it. -/
theorem outcome_creating (hholds : disk.files.holds c.config.path = true) (call : Call) :
    c.creating.container.outcome call disk = c.container.outcome call disk := by
  have hmay : c.mayWrite disk = true := by rw [mayWrite, hholds, Bool.or_true]
  have hmay' : c.creating.mayWrite disk = true := rfl
  have hsave (document : Document) : c.creating.save document disk = c.save document disk := by
    rw [save, save, written, written, hmay, hmay']
    rfl
  have hsettle : c.creating.settle disk = c.settle disk := by
    funext changed
    rcases changed with e | ⟨answer, _ | document⟩
    · rfl
    · rfl
    · rw [settle, settle, hsave]
  rw [outcome_eq_settle hmay, outcome_eq_settle hmay', hsettle]
  rfl

/-- No call removes the file. -/
theorem holds_outcome (hholds : disk.files.holds c.config.path = true) (call : Call) :
    (c.container.outcome call disk).2.files.holds c.config.path = true := by
  rcases c.outcome_cases call disk with ⟨_, h⟩ | ⟨_, h⟩ | ⟨_, _, _, hwritten, h⟩
  · rw [h]
    exact hholds
  · rw [h]
    exact hholds
  · rw [h]
    obtain ⟨-, files, hfiles, rfl⟩ := written_eq_ok_iff.1 hwritten
    exact FileTree.holds_of_write hfiles

end FileContainer

/-! ### Runs -/

/-- The same step of a container that may create its file. -/
def Step.creating (step : Step) : Step := { step with container := step.container.creating }

/-- **Permission to create the file governs only whether it comes into existence.** Containers on
one path that are denied it never create the file where there is none: the disk is the same after
every step, and every call is answered as without a file, unless its lock is poisoned. Where
there is a file, every answer and the disk after every step are those of the same run with
permission. -/
theorem only_creation_differs (path : String) (steps : List Step)
    (hpath : ∀ step ∈ steps, step.container.config.path = path) :
    (∀ disk : Disk, disk.files.read path = .error .notFound →
      (∀ step ∈ steps, step.container.config.createIfMissing = false) →
      disk.files.holds path = false ∧
      List.Forall₂ (fun step outcome => outcome.2 = disk ∧
          (disk.poisoned step.container.lock = true → outcome.1 = .error .lockPoisoned) ∧
          (disk.poisoned step.container.lock = false →
            step.container.AnswersWithoutFile step.call outcome.1))
        steps (traceSteps steps disk)) ∧
    ∀ disk : Disk, disk.files.holds path = true →
      traceSteps (steps.map Step.creating) disk = traceSteps steps disk := by
  refine ⟨fun disk habsent hcreate => ⟨FileTree.holds_of_notFound habsent, ?_⟩,
    fun disk hholds => ?_⟩
  · -- the disk is the invariant: no step changes it
    refine forall₂_traceSteps (I := (· = disk))
      (p := fun step => step.container.config.path = path ∧
        step.container.config.createIfMissing = false)
      ?_ (fun step hstep => ⟨hpath step hstep, hcreate step hstep⟩) rfl
    rintro ⟨c, call⟩ _ ⟨rfl, hoff⟩ rfl
    cases hlock : Disk.poisoned _ c.lock with
    | true =>
      have hout := FileContainer.outcome_of_poisoned hlock call
      rw [Step.outcome, hout]
      exact ⟨⟨rfl, fun _ => rfl, nofun⟩, rfl⟩
    | false =>
      obtain ⟨hsame, hanswer⟩ := FileContainer.outcome_without_file hlock hoff habsent call
      exact ⟨⟨hsame, nofun, fun _ => hanswer⟩, hsame⟩
  · refine traceSteps_map (I := fun disk => disk.files.holds path = true)
      (p := fun step => step.container.config.path = path) ?_ hpath hholds
    rintro ⟨c, call⟩ disk rfl hholds
    exact ⟨FileContainer.outcome_creating hholds call, FileContainer.holds_outcome hholds call⟩

/-- A container for Base64 and one for text, neither of which may create the file: first where there
is none, then where it holds a table. -/
theorem only_creation_differs_of_db :
    let c : FileContainer := { config := { path := "db", createIfMissing := false }, lock := 0 }
    let d : FileContainer :=
      { config := { path := "db", createIfMissing := false, encoding := .text }, lock := 0 }
    let steps : List Step := [⟨c, .init "User"⟩, ⟨d, .insert "User" "ü" [0xFF]⟩,
      ⟨c, .insert "User" "ü" [0xFF]⟩, ⟨c, .select "User"⟩, ⟨c, .delete "User" "ü"⟩]
    let disk := Disk.holding "db" (.ofList [("User", .empty)])
    ((∀ step ∈ steps, step.container.config.path = "db") ∧
      (∀ step ∈ steps, step.container.config.createIfMissing = false) ∧
      Disk.empty.files.read "db" = .error .notFound ∧ disk.files.holds "db" = true) ∧
    (Disk.empty.files.holds "db" = false ∧
      List.Forall₂ (fun step outcome => outcome.2 = .empty ∧
          (Disk.empty.poisoned step.container.lock = true → outcome.1 = .error .lockPoisoned) ∧
          (Disk.empty.poisoned step.container.lock = false →
            step.container.AnswersWithoutFile step.call outcome.1))
        steps (traceSteps steps .empty)) ∧
    traceSteps (steps.map Step.creating) disk = traceSteps steps disk := by
  intro c d steps disk
  have hpath : ∀ step ∈ steps, step.container.config.path = "db" := by simp [steps, c, d]
  have hcreate : ∀ step ∈ steps, step.container.config.createIfMissing = false := by
    simp [steps, c, d]
  have habsent : Disk.empty.files.read "db" = .error .notFound :=
    (FileTree.isName_db.of_free rfl).1
  have hholds : disk.files.holds "db" = true :=
    FileTree.holds_of_read (FileTree.isName_db.of_file (FileTree.entry_set_self _ _ _)).1
  have h := only_creation_differs "db" steps hpath
  exact ⟨⟨hpath, hcreate, habsent, hholds⟩, h.1 .empty habsent hcreate, h.2 disk hholds⟩

end RecordStore
