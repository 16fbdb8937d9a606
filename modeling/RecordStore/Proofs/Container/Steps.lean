import RecordStore.Proofs.Container.File
import RecordStore.Proofs.Container.Memory

/-!
# Runs of several containers

Several containers can work on one disk, each with its own lock and its own way to
write payloads. A run of their calls leaves a log: what was called, and what was
answered. The log alone tells what the tables are
(`RecordStore.Tables.ofLog`): a call that was done changes them as it changes the
tables of a container in memory, and a call that failed does not change them.
-/

namespace RecordStore

/-! ### Steps -/

/-- A call on one of the containers that work on a disk. -/
structure Step where
  container : FileContainer
  call : Call

/-- The outcome of a step: the answer, and the disk after it. -/
def Step.outcome (step : Step) (disk : Disk) : Except StoreError Answer × Disk :=
  step.container.container.outcome step.call disk

/-- The container of a step keeps its tables at this path in this encoding, and may create the
file. -/
structure Step.WorksOn (step : Step) (path : String) (encoding : PayloadEncoding) : Prop where
  path : step.container.config.path = path
  encoding : step.container.config.encoding = encoding
  create : step.container.config.createIfMissing = true

/-- What a log tells of a call. -/
structure Event where
  call : Call
  answer : Except StoreError Answer

/-- **A run of steps**, one after the other: the log of the calls and the disk at the end. -/
def runSteps : List Step → Disk → List Event × Disk
  | [], disk => ([], disk)
  | step :: steps, disk =>
    let outcome := step.outcome disk
    let later := runSteps steps outcome.2
    (⟨step.call, outcome.1⟩ :: later.1, later.2)

/-! ### The tables that a log tells of -/

namespace Tables

/-- The tables after a call, which changes them if it was done. -/
def after (tables : Tables) (event : Event) : Tables :=
  if event.answer.isOk then (memoryContainer.outcome event.call tables).2 else tables

/-- **The tables that a log tells of**, where there were none at the start. -/
def ofLog (log : List Event) : Tables := log.foldl after .empty

theorem after_of_error (tables : Tables) (call : Call) (e : StoreError) :
    tables.after ⟨call, .error e⟩ = tables := rfl

theorem after_of_ok (tables : Tables) (call : Call) (a : Answer) :
    tables.after ⟨call, .ok a⟩ = (memoryContainer.outcome call tables).2 := rfl

end Tables

/-! ### What holds along a run -/

theorem Tables.ofLog_concat (log : List Event) (event : Event) :
    Tables.ofLog (log ++ [event]) = (Tables.ofLog log).after event := by
  rw [Tables.ofLog, List.foldl_append]
  rfl

/-- **What every step keeps, every run keeps**: a relation between the disk and the log so far. -/
theorem runSteps_induction_log {R : Disk → List Event → Prop} {p : Step → Prop}
    (hstep : ∀ step disk log, p step → R disk log →
      R (step.outcome disk).2 (log ++ [⟨step.call, (step.outcome disk).1⟩]))
    {steps : List Step} (hsteps : ∀ step ∈ steps, p step) {disk : Disk} (h : R disk []) :
    R (runSteps steps disk).2 (runSteps steps disk).1 := by
  have hrun : ∀ (steps : List Step), (∀ step ∈ steps, p step) → ∀ disk log, R disk log →
      R (runSteps steps disk).2 (log ++ (runSteps steps disk).1) := by
    intro steps hsteps
    induction steps with
    | nil => exact fun disk log h => (List.append_nil log).symm ▸ h
    | cons step steps ih =>
      intro disk log h
      have hrest := ih (fun s hs => hsteps s (List.mem_cons_of_mem _ hs)) _ _
        (hstep step disk log (hsteps step (by simp)) h)
      rwa [List.append_assoc] at hrest
  exact hrun steps hsteps disk [] h

end RecordStore
