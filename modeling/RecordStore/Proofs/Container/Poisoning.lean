import RecordStore.Proofs.Container.Steps

/-!
# Poisoned locks

Whoever dies while holding a lock leaves it poisoned, and the files in whatever state they are
in then. From there on every call of a container with this lock is turned away, whatever the
files hold by then, and nothing ever lets one through again. Nobody else notices: the calls of
containers with other locks return and change what they do in the run without those that are
turned away, also where they work on the same file (`RecordStore.poisoned_lock_confined`).

* A call looks at its lock before it looks at anything else, and only at its own: it finds it
  poisoned exactly if it is (`RecordStore.FileContainer.outcome_eq_lockPoisoned_iff`).
* So the poisoned locks at any time are those of the start and those left behind since
  (`RecordStore.poisoned_before_iff`), and calls that are turned away can be left out of a run
  (`RecordStore.turns_filter`).
-/

namespace RecordStore

/-! ### Computations that find fault with no lock -/

namespace StoreM

variable {σ α β : Type} {x : StoreM σ α} {f : α → StoreM σ β}

/-- A computation that finds fault with no lock. -/
def SparesLocks (x : StoreM σ α) : Prop := ∀ s, (x s).1 ≠ .error .lockPoisoned

theorem sparesLocks_pure (a : α) : (pure a : StoreM σ α).SparesLocks := nofun

theorem sparesLocks_throw {e : StoreError} (he : e ≠ .lockPoisoned) :
    (throw e : StoreM σ α).SparesLocks :=
  fun _ h => he (Except.error.inj h)

theorem sparesLocks_ofExcept {r : Except StoreError α} (hr : r ≠ .error .lockPoisoned) :
    (ofExcept r : StoreM σ α).SparesLocks := fun _ => hr

theorem SparesLocks.bind (hx : x.SparesLocks) (hf : ∀ a, (f a).SparesLocks) :
    (x >>= f).SparesLocks := by
  intro s
  have hfirst := hx s
  rw [bind_apply]
  revert hfirst
  rcases x s with ⟨e | a, s'⟩
  · exact fun hfirst h => hfirst (congrArg _ (Except.error.inj h))
  · exact fun _ => hf a s'

end StoreM

namespace FileContainer

variable {disk : Disk} (c : FileContainer)

theorem sparesLocks_readDocument : c.readDocument.SparesLocks := by
  intro disk
  rw [readDocument_apply, Disk.document]
  split
  · rintro ⟨⟩
  · rintro ⟨⟩
  · rename_i bytes _
    cases Document.ofBytes bytes <;> rintro ⟨⟩

theorem sparesLocks_ensureWritable : c.ensureWritable.SparesLocks := by
  rw [ensureWritable]
  refine StoreM.SparesLocks.bind (fun _ => by rintro ⟨⟩) fun disk => ?_
  split
  · exact StoreM.sparesLocks_throw (by rintro ⟨⟩)
  · exact StoreM.sparesLocks_pure _

theorem sparesLocks_writeDocument (document : Document) :
    (c.writeDocument document).SparesLocks := by
  refine c.sparesLocks_ensureWritable.bind fun _ => ?_
  refine StoreM.SparesLocks.bind (fun _ => by rintro ⟨⟩) fun disk => ?_
  cases disk.files.write c.config.path document.toBytes with
  | error fault => exact StoreM.sparesLocks_throw (by rintro ⟨⟩)
  | ok files => rintro disk ⟨⟩

theorem encodePayload_ne_lockPoisoned (table key : String) (payload : Bytes) :
    c.encodePayload table key payload ≠ .error .lockPoisoned := by
  rw [encodePayload]
  cases c.config.encoding.encode payload <;> rintro ⟨⟩

theorem decodePayload_ne_lockPoisoned (table key stored : String) :
    c.decodePayload table key stored ≠ .error .lockPoisoned := by
  rw [decodePayload]
  cases c.config.encoding.decode stored <;> rintro ⟨⟩

/-- A call that gets its lock finds fault with no other. -/
theorem outcome_ne_lockPoisoned (hlock : disk.poisoned c.lock = false) (call : Call) :
    (c.container.outcome call disk).1 ≠ .error .lockPoisoned := by
  -- all that comes after taking the lock spares locks, and so does the call
  have hacquired {α : Type} {f : Unit → StoreM Disk α} {g : α → Answer}
      (hf : (f ()).SparesLocks) : ((c.acquire >>= f) disk).1.map g ≠ .error .lockPoisoned := by
    have hrest := hf disk
    rw [acquire_bind, hlock, if_neg Bool.false_ne_true]
    cases hresult : (f () disk).1 with
    | error e => exact fun h => hrest (hresult.trans (congrArg _ (Except.error.inj h)))
    | ok a => rintro ⟨⟩
  cases call with
  | init table =>
    rw [container_outcome_init]
    exact hacquired (c.sparesLocks_ensureWritable.bind fun _ =>
      c.sparesLocks_readDocument.bind fun _ => c.sparesLocks_writeDocument _)
  | select table =>
    rw [container_outcome_select]
    refine hacquired (c.sparesLocks_readDocument.bind fun document => ?_)
    refine StoreM.sparesLocks_ofExcept fun h => ?_
    obtain ⟨key, stored, hstored⟩ := SortedMap.exists_error_of_mapM h
    exact c.decodePayload_ne_lockPoisoned table key stored hstored
  | insert table key payload =>
    rw [container_outcome_insert]
    refine hacquired (c.sparesLocks_readDocument.bind fun document => ?_)
    dsimp only
    split
    · exact StoreM.sparesLocks_throw (by rintro ⟨⟩)
    · refine StoreM.SparesLocks.bind ?_ fun stored => c.sparesLocks_writeDocument _
      exact StoreM.sparesLocks_ofExcept (c.encodePayload_ne_lockPoisoned table key payload)
  | delete table key =>
    rw [container_outcome_delete]
    refine hacquired (c.sparesLocks_readDocument.bind fun document => ?_)
    split
    · exact StoreM.sparesLocks_pure _
    · split
      · exact (c.sparesLocks_writeDocument _).bind fun _ => StoreM.sparesLocks_pure _
      · exact StoreM.sparesLocks_pure _

/-- **A call finds its lock poisoned exactly if it is.** -/
theorem outcome_eq_lockPoisoned_iff (call : Call) :
    (c.container.outcome call disk).1 = .error .lockPoisoned ↔ disk.poisoned c.lock = true := by
  constructor
  · intro h
    by_contra hlock
    exact c.outcome_ne_lockPoisoned (Bool.eq_false_iff.2 hlock) call h
  · intro hlock
    rw [outcome_of_poisoned hlock]

end FileContainer

/-! ### Runs in which locks are left behind -/

/-- What happens to a disk. A container that is called need not have been there before: it is opened
by saying how it works and which lock it takes. -/
inductive Move
  /-- A container is called. -/
  | step (step : Step)
  /-- Whoever holds a lock dies, and leaves the files as they are then. -/
  | abandon (lock : Nat) (files : FileTree)

/-- A move of a run, what was answered if it was a call, and the disk before and after. -/
structure Turn where
  move : Move
  before : Disk
  answer : Option (Except StoreError Answer)
  after : Disk

/-- The disk once a lock was left behind. -/
def Disk.abandoned (disk : Disk) (lock : Nat) (files : FileTree) : Disk where
  files := files
  poisoned l := l == lock || disk.poisoned l

namespace Move

/-- Whether a move is a call that takes this lock. -/
def takes (lock : Nat) : Move → Bool
  | step s => s.container.lock == lock
  | abandon _ _ => false

/-- A move as a turn that starts from a disk. -/
def turn (move : Move) (disk : Disk) : Turn :=
  match move with
  | step s => ⟨move, disk, some (s.outcome disk).1, (s.outcome disk).2⟩
  | abandon lock files => ⟨move, disk, none, disk.abandoned lock files⟩

theorem move_turn (move : Move) (disk : Disk) : (move.turn disk).move = move := by
  cases move <;> rfl

theorem before_turn (move : Move) (disk : Disk) : (move.turn disk).before = disk := by
  cases move <;> rfl

/-- **Only leaving a lock behind poisons it**, and nothing heals it. -/
theorem poisoned_after_turn (move : Move) (disk : Disk) (lock : Nat) :
    (move.turn disk).after.poisoned lock = true ↔
      disk.poisoned lock = true ∨ ∃ files, move = .abandon lock files := by
  cases move with
  | step s =>
    change (s.container.container.outcome s.call disk).2.poisoned lock = true ↔ _
    rw [FileContainer.poisoned_outcome]
    simp
  | abandon l files =>
    change (lock == l || disk.poisoned lock) = true ↔ _
    rw [Bool.or_eq_true, beq_iff_eq, or_comm]
    refine or_congr_right ⟨?_, ?_⟩
    · rintro rfl
      exact ⟨files, rfl⟩
    · rintro ⟨left, h⟩
      cases h
      rfl

end Move

/-- **A run of moves**, turn by turn. -/
def turns : List Move → Disk → List Turn
  | [], _ => []
  | move :: moves, disk => move.turn disk :: turns moves (move.turn disk).after

/-- The disk after a run of moves. -/
def diskAfter (moves : List Move) (disk : Disk) : Disk :=
  moves.foldl (fun disk move => (move.turn disk).after) disk

theorem length_turns (moves : List Move) (disk : Disk) :
    (turns moves disk).length = moves.length := by
  induction moves generalizing disk with
  | nil => rfl
  | cons move moves ih => rw [turns, List.length_cons, ih, List.length_cons]

theorem turns_append (moves more : List Move) (disk : Disk) :
    turns (moves ++ more) disk = turns moves disk ++ turns more (diskAfter moves disk) := by
  induction moves generalizing disk with
  | nil => rfl
  | cons move moves ih =>
    rw [List.cons_append, turns, ih, turns]
    rfl

/-- Every turn of a run is its move, made on the disk before it. -/
theorem eq_turn_of_mem {moves : List Move} {disk : Disk} {turn : Turn}
    (h : turn ∈ turns moves disk) : turn = turn.move.turn turn.before := by
  induction moves generalizing disk with
  | nil => cases h
  | cons move moves ih =>
    rcases List.mem_cons.1 h with rfl | h
    · rw [Move.move_turn, Move.before_turn]
    · exact ih h

/-- **The poisoned locks before a turn** are those of the start and those left behind since. -/
theorem poisoned_before_iff {moves : List Move} {disk : Disk} {i : Nat} {turn : Turn}
    (h : (turns moves disk)[i]? = some turn) (lock : Nat) :
    turn.before.poisoned lock = true ↔
      disk.poisoned lock = true ∨ ∃ files, Move.abandon lock files ∈ moves.take i := by
  induction moves generalizing disk i with
  | nil => cases h
  | cons move moves ih =>
    cases i with
    | zero =>
      obtain rfl : move.turn disk = turn := Option.some.inj h
      simp [Move.before_turn]
    | succ i =>
      have hlater : (turns moves (move.turn disk).after)[i]? = some turn := h
      rw [ih hlater, move.poisoned_after_turn, or_assoc, List.take_succ_cons]
      simp only [List.mem_cons, exists_or, @eq_comm _ move]

/-- A call is turned away if its lock is not to be had, and the disk stays as it is. -/
def Turn.TurnedAway (turn : Turn) : Prop :=
  turn.answer = some (.error .lockPoisoned) ∧ turn.after = turn.before

theorem turnedAway_of_poisoned {lock : Nat} {disk : Disk} {move : Move}
    (hlock : disk.poisoned lock = true) (htakes : move.takes lock = true) :
    (move.turn disk).TurnedAway := by
  cases move with
  | step s =>
    obtain rfl : s.container.lock = lock := eq_of_beq htakes
    have hout : s.outcome disk = (.error .lockPoisoned, disk) :=
      FileContainer.outcome_of_poisoned hlock s.call
    rw [Turn.TurnedAway, Move.turn, hout]
    exact ⟨rfl, rfl⟩
  | abandon l files => cases htakes

/-- **Calls that are turned away can be left out of a run**: the other turns stay the same. -/
theorem turns_filter {lock : Nat} {disk : Disk} (hlock : disk.poisoned lock = true)
    (moves : List Move) :
    turns (moves.filter fun move => !move.takes lock) disk =
      (turns moves disk).filter fun turn => !turn.move.takes lock := by
  induction moves generalizing disk with
  | nil => rfl
  | cons move moves ih =>
    rw [turns, List.filter_cons, List.filter_cons, Move.move_turn]
    cases htakes : move.takes lock with
    | true =>
      -- the disk is the same after the call, so the others start from where they would
      have haway := turnedAway_of_poisoned hlock htakes
      rw [haway.2, Move.before_turn]
      exact ih hlock
    | false =>
      have hnext : (move.turn disk).after.poisoned lock = true :=
        (move.poisoned_after_turn disk lock).2 (Or.inl hlock)
      exact congrArg _ (ih hnext)

/-- **A poisoned lock is confined and permanent.** Take any run in which a lock is left behind, in
files of any content.

From there on every call that takes the lock is turned away, and the disk stays as it is. The run
without these calls is the same run, turn by turn: every other call has the same answer, and the
same disk before and after it. And all along the run a call is told of a poisoned lock only if its
own was poisoned at the start, or was left behind before. -/
theorem poisoned_lock_confined (lock : Nat) (files : FileTree) (earlier later : List Move)
    (disk : Disk) :
    let moves := earlier ++ .abandon lock files :: later
    let others := earlier ++ .abandon lock files :: later.filter fun move => !move.takes lock
    let n := earlier.length + 1
    (∀ turn ∈ (turns moves disk).drop n, turn.move.takes lock = true → turn.TurnedAway) ∧
      turns others disk = (turns moves disk).take n ++
        ((turns moves disk).drop n).filter (fun turn => !turn.move.takes lock) ∧
      ∀ i turn step, (turns moves disk)[i]? = some turn → turn.move = .step step →
        (turn.answer = some (.error .lockPoisoned) ↔
          disk.poisoned step.container.lock = true ∨
            ∃ left, .abandon step.container.lock left ∈ moves.take i) := by
  intro moves others n
  let start := turns (earlier ++ [.abandon lock files]) disk
  let poisoned := diskAfter (earlier ++ [.abandon lock files]) disk
  have hlock : poisoned.poisoned lock = true := by
    simp [poisoned, diskAfter, Move.turn, Disk.abandoned]
  have hrun (more : List Move) : turns (earlier ++ .abandon lock files :: more) disk =
      start ++ turns more poisoned := by
    rw [← turns_append, List.append_assoc, List.singleton_append]
  have hlength : start.length = n := by rw [length_turns, List.length_append, List.length_singleton]
  have hdrop : (turns moves disk).drop n = turns later poisoned := by
    rw [hrun, ← hlength, List.drop_left]
  have htake : (turns moves disk).take n = start := by rw [hrun, ← hlength, List.take_left]
  refine ⟨fun turn hturn htakes => ?_, ?_, fun i turn step hturn hstep => ?_⟩
  · rw [hdrop] at hturn
    obtain ⟨i, hi⟩ := List.mem_iff_getElem?.1 hturn
    rw [eq_turn_of_mem hturn]
    exact turnedAway_of_poisoned ((poisoned_before_iff hi lock).2 (Or.inl hlock)) htakes
  · rw [hdrop, htake, hrun, turns_filter hlock]
  · have hanswer : turn.answer = some (step.outcome turn.before).1 := by
      rw [eq_turn_of_mem (List.mem_of_getElem? hturn), hstep, Move.before_turn]
      rfl
    rw [hanswer, Option.some.injEq, ← poisoned_before_iff hturn]
    exact step.container.outcome_eq_lockPoisoned_iff step.call

end RecordStore
