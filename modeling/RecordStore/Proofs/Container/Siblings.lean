import RecordStore.Proofs.Container.Content
import Mathlib.Data.List.Chain

/-!
# Siblings

Containers that share a path, an encoding and a lock are siblings. Clients work through
them, each with calls of its own, and the lock lets one call after the other through.
Whatever order the calls come in, no update is lost and none is done twice: under every
key additions and removals take turns, and what a sibling sees of the tables is what the
log of all the calls tells, whoever made them (`RecordStore.siblings_agree`).

The log is read one entry at a time. The calls that were done change the entry under a
key by adding or by removing it (`RecordStore.changesOf`), and the last change says what
is there (`RecordStore.held`). That the tables of the log hold just this
(`RecordStore.Disk.Follows`) is what every step keeps: a call that is done is answered as
the container in memory answers it, so it adds an entry only where none is held, and
removes one only where one is.
-/

namespace RecordStore

/-! ### The history of an entry -/

/-- A change of the entry under a key. -/
inductive EntryChange
  | added (payload : Bytes)
  | removed
  deriving DecidableEq

namespace EntryChange

/-- Whether there is an entry after the change. -/
def adds : EntryChange → Bool
  | added _ => true
  | removed => false

/-- The payload of the entry after the change, if there is one. -/
def payload? : EntryChange → Option Bytes
  | added payload => some payload
  | removed => none

theorem isNone_payload? (change : EntryChange) : change.payload?.isNone = !change.adds := by
  cases change <;> rfl

end EntryChange

/-- What a call changed under a key of a table: a call that was done adds the entry, and one that
removed it says so. -/
def Event.changeOf? (table key : String) : Event → Option EntryChange
  | ⟨.insert t k payload, .ok _⟩ => if t = table ∧ k = key then some (.added payload) else none
  | ⟨.delete t k, .ok (.existed true)⟩ => if t = table ∧ k = key then some .removed else none
  | _ => none

/-- **The changes of an entry** that a log tells of, in their order. -/
def changesOf (log : List Event) (table key : String) : List EntryChange :=
  log.filterMap (Event.changeOf? table key)

/-- **What is held under a key** after all that a log tells of: the payload that was added last,
unless it was removed since. -/
def held (log : List Event) (table key : String) : Option Bytes :=
  (changesOf log table key).getLast?.bind EntryChange.payload?

/-- **Additions and removals alternate**, and the first change is an addition. -/
structure Alternates (changes : List EntryChange) : Prop where
  starts : ∀ change ∈ changes.head?, change.adds = true
  turns : changes.IsChain fun a b => a.adds ≠ b.adds

theorem changesOf_concat (log : List Event) (event : Event) (table key : String) :
    changesOf (log ++ [event]) table key =
      changesOf log table key ++ (event.changeOf? table key).toList := by
  rw [changesOf, List.filterMap_append, changesOf]
  cases h : event.changeOf? table key <;> simp [h]

/-- The last change decides what is held. -/
theorem held_concat (log : List Event) (event : Event) (table key : String) :
    held (log ++ [event]) table key =
      match event.changeOf? table key with
      | some change => change.payload?
      | none => held log table key := by
  rw [held, changesOf_concat]
  cases event.changeOf? table key with
  | none => rw [Option.toList_none, List.append_nil, held]
  | some change => rw [Option.toList_some, List.getLast?_concat]; rfl

/-- A change keeps the turns if it adds an entry exactly where none is held. -/
theorem Alternates.concat {changes : List EntryChange} (h : Alternates changes)
    {change : EntryChange}
    (hadds : change.adds = (changes.getLast?.bind EntryChange.payload?).isNone) :
    Alternates (changes ++ [change]) := by
  cases hlast : changes.getLast? with
  | none =>
    obtain rfl := List.getLast?_eq_none_iff.1 hlast
    exact ⟨by simpa using hadds, List.isChain_singleton change⟩
  | some last =>
    rw [hlast, Option.bind_some, last.isNone_payload?] at hadds
    refine ⟨?_, h.turns.append (List.isChain_singleton change) ?_⟩
    · rw [List.head?_append_of_ne_nil]
      · exact h.starts
      · rintro rfl
        cases hlast
    · intro a ha b hb
      cases hlast.symm.trans ha
      cases hb
      simp [hadds]

/-! ### One call -/

namespace FileContainer

variable {c : FileContainer} {disk disk' : Disk} {tables : Tables}

/-- **A call that is done is answered as in memory.** -/
theorem answer_of_ok (h : c.storedTables disk = .ok tables) {call : Call} {a : Answer}
    (hout : c.container.outcome call disk = (.ok a, disk')) :
    (memoryContainer.outcome call tables).1 = .ok a := by
  obtain ⟨document, hdoc, hd⟩ := exists_document_of_storedTables h
  cases call with
  | init table =>
    rw [container_outcome_init] at hout
    rw [MemoryContainer.outcome_init]
    cases hinit : (c.init table disk).1 <;> rw [hinit] at hout <;> cases hout
    rfl
  | select table =>
    rw [container_outcome_select, select_apply, hdoc] at hout
    rw [MemoryContainer.outcome_select]
    split at hout
    · cases hout
    · simp only [mapM_table hd table] at hout
      cases hout
      rfl
  | insert table key payload =>
    rw [container_outcome_insert] at hout
    rw [MemoryContainer.outcome_insert]
    rcases c.insert_cases table key payload disk with
      ⟨e, hinsert⟩ | ⟨document', stored, _, hdoc', hkey, -, -, hinsert⟩
    · rw [hinsert] at hout
      cases hout
    · rw [hinsert] at hout
      cases hout
      cases hdoc.symm.trans hdoc'
      rw [← contains_table hd, SortedMap.contains_eq_false.2 hkey]
      rfl
  | delete table key =>
    rw [container_outcome_delete, delete_apply, hdoc] at hout
    rw [MemoryContainer.outcome_delete, ← contains_table hd]
    split at hout
    · cases hout
    · dsimp only at hout
      split at hout
      · rename_i hkey
        rw [if_pos hkey]
        rcases c.save_cases (document.insert table ((document.table table).erase key)) disk with
          ⟨e, hsave⟩ | ⟨_, -, hsave⟩
        · rw [hsave] at hout
          cases hout
        · rw [hsave] at hout
          cases hout
          rfl
      · rename_i hkey
        cases hout
        rw [if_neg hkey]

/-- A container reads the tables that the file holds. -/
theorem storedTables_of_holdsExactly
    (h : disk.HoldsExactly c.config.path c.config.encoding tables) :
    c.storedTables disk = .ok tables := by
  obtain ⟨document, hdoc, hread⟩ := h
  rw [storedTables, Disk.document_of_read hdoc hread]
  refine SortedMap.mapM_of_mapM hdoc fun table entries stored hentries => ?_
  refine SortedMap.mapM_of_mapM hentries fun key payload text htext => ?_
  rw [decodePayload, PayloadEncoding.decode_of_encode htext]
  rfl

end FileContainer

/-- The entry under a key once the entries of a table are replaced. -/
theorem Tables.get?_table_insert (tables : Tables) (t table key : String) (entries : Table) :
    (Tables.table (tables.insert t entries) table).get? key =
      if t = table then entries.get? key else (tables.table table).get? key := by
  rw [Tables.table_insert]
  by_cases h : t = table
  · rw [if_pos h, if_pos h.symm]
  · rw [if_neg h, if_neg (Ne.symm h)]

/-- **What a call can do that is answered as in memory**: it changes no table, or it adds an entry
under a key that is free, or it removes the entry under a key. -/
theorem Event.cases_of_answer {event : Event} {tables : Tables}
    (h : ∀ a, event.answer = .ok a → (memoryContainer.outcome event.call tables).1 = .ok a) :
    ((∀ table key, event.changeOf? table key = none) ∧
      ∀ table, (tables.after event).table table = tables.table table) ∨
    (∃ t k payload, event = ⟨.insert t k payload, .ok .done⟩ ∧
      (tables.table t).get? k = none ∧
      tables.after event = tables.insert t ((tables.table t).insert k payload)) ∨
    ∃ t k, event = ⟨.delete t k, .ok (.existed true)⟩ ∧
      (tables.table t).contains k = true ∧
      tables.after event = tables.insert t ((tables.table t).erase k) := by
  obtain ⟨call, e | a⟩ := event
  · exact Or.inl ⟨fun _ _ => by cases call <;> rfl, fun _ => rfl⟩
  · have h := h a rfl
    rw [Tables.after_of_ok]
    cases call with
    | init t =>
      refine Or.inl ⟨fun _ _ => rfl, fun table => ?_⟩
      rw [MemoryContainer.outcome_init, Tables.withTable, Tables.table_insert]
      split
      · rename_i ht
        rw [ht]
      · rfl
    | select t => exact Or.inl ⟨fun _ _ => rfl, fun _ => rfl⟩
    | insert t k payload =>
      rw [MemoryContainer.outcome_insert] at h ⊢
      cases hkey : (tables.table t).contains k with
      | true =>
        rw [hkey] at h
        cases h
      | false =>
        rw [hkey] at h
        cases h
        exact Or.inr (Or.inl ⟨t, k, payload, rfl, SortedMap.contains_eq_false.1 hkey, rfl⟩)
    | delete t k =>
      rw [MemoryContainer.outcome_delete] at h ⊢
      cases hkey : (tables.table t).contains k with
      | true =>
        rw [hkey] at h
        cases h
        exact Or.inr (Or.inr ⟨t, k, rfl, hkey, rfl⟩)
      | false =>
        rw [hkey] at h
        cases h
        exact Or.inl ⟨fun _ _ => rfl, fun _ => rfl⟩

/-- Such a call changes an entry as the log tells. -/
theorem Event.get?_after {event : Event} {tables : Tables}
    (h : ∀ a, event.answer = .ok a → (memoryContainer.outcome event.call tables).1 = .ok a)
    (table key : String) :
    ((tables.after event).table table).get? key =
      match event.changeOf? table key with
      | some change => change.payload?
      | none => (tables.table table).get? key := by
  rcases event.cases_of_answer h with
    ⟨hnone, hafter⟩ | ⟨t, k, payload, rfl, -, hafter⟩ | ⟨t, k, rfl, -, hafter⟩
  · rw [hnone, hafter]
  · rw [hafter, Tables.get?_table_insert, SortedMap.get?_insert, changeOf?]
    by_cases ht : t = table <;> by_cases hk : k = key <;>
      simp [ht, hk, @eq_comm _ key k, EntryChange.payload?]
  · rw [hafter, Tables.get?_table_insert, SortedMap.get?_erase, changeOf?]
    by_cases ht : t = table <;> by_cases hk : k = key <;>
      simp [ht, hk, @eq_comm _ key k, EntryChange.payload?]

/-- Such a call adds an entry only where there is none, and removes one only where there is one. -/
theorem Event.adds_of_changeOf? {event : Event} {tables : Tables}
    (h : ∀ a, event.answer = .ok a → (memoryContainer.outcome event.call tables).1 = .ok a)
    {table key : String} {change : EntryChange}
    (hchange : event.changeOf? table key = some change) :
    change.adds = ((tables.table table).get? key).isNone := by
  rcases event.cases_of_answer h with
    ⟨hnone, -⟩ | ⟨t, k, payload, rfl, hkey, -⟩ | ⟨t, k, rfl, hkey, -⟩
  · cases (hnone table key).symm.trans hchange
  · rw [changeOf?] at hchange
    split at hchange
    · rename_i htk
      obtain ⟨rfl, rfl⟩ := htk
      cases hchange
      rw [hkey]
      rfl
    · cases hchange
  · rw [changeOf?] at hchange
    split at hchange
    · rename_i htk
      obtain ⟨rfl, rfl⟩ := htk
      obtain ⟨payload, hpayload⟩ := SortedMap.contains_eq_true.1 hkey
      cases hchange
      rw [hpayload]
      rfl
    · cases hchange

/-! ### What siblings see -/

/-- A container keeps its tables at this path in this encoding, and takes this lock. -/
structure FileContainer.Shares (c : FileContainer) (path : String) (encoding : PayloadEncoding)
    (lock : Nat) : Prop where
  path : c.config.path = path
  encoding : c.config.encoding = encoding
  lock : c.lock = lock

/-- **A disk shows a history** to all the containers that share a path, an encoding and a lock: they
see the entries that the log tells of, and answer by them. -/
structure Disk.ShowsHistory (disk : Disk) (path : String) (encoding : PayloadEncoding) (lock : Nat)
    (log : List Event) : Prop where
  /-- Under every key additions and removals alternate. -/
  alternates : ∀ table key, Alternates (changesOf log table key)
  /-- A selection answers with what is held. -/
  selected : ∀ c : FileContainer, c.Shares path encoding lock → ∀ table, ∃ entries,
    c.container.outcome (.select table) disk = (.ok (.entries entries), disk) ∧
      ∀ key, entries.get? key = held log table key
  /-- Where an entry is held, none is added. -/
  taken : ∀ c : FileContainer, c.Shares path encoding lock → ∀ table key payload,
    held log table key ≠ none →
      c.container.outcome (.insert table key payload) disk =
        (.error (.duplicateKey table key), disk)
  /-- Where no entry is held, none is removed. -/
  missing : ∀ c : FileContainer, c.Shares path encoding lock → ∀ table key,
    held log table key = none →
      c.container.outcome (.delete table key) disk = (.ok (.existed false), disk)
  /-- Where no entry is held, one is added, unless it cannot be written. -/
  added : ∀ c : FileContainer, c.Shares path encoding lock → c.config.createIfMissing = true →
    disk.files.Accepts path → ∀ table key payload, encoding.Writes payload →
      held log table key = none →
        (c.container.outcome (.insert table key payload) disk).1 = .ok .done
  /-- Where an entry is held, it is removed, unless the file cannot be written. -/
  removed : ∀ c : FileContainer, c.Shares path encoding lock → c.config.createIfMissing = true →
    disk.files.Accepts path → ∀ table key, held log table key ≠ none →
      (c.container.outcome (.delete table key) disk).1 = .ok (.existed true)

/-- **A disk follows a log**: the file holds the tables of the log, these hold what the log tells,
and the lock can be taken. -/
structure Disk.Follows (disk : Disk) (path : String) (encoding : PayloadEncoding) (lock : Nat)
    (log : List Event) : Prop where
  unlocked : disk.poisoned lock = false
  holds : disk.HoldsExactly path encoding (.ofLog log)
  entries : ∀ table key, ((Tables.ofLog log).table table).get? key = held log table key
  alternates : ∀ table key, Alternates (changesOf log table key)

namespace Disk.Follows

variable {disk : Disk} {path : String} {encoding : PayloadEncoding} {lock : Nat}
  {log : List Event}

theorem of_absent (hlock : disk.poisoned lock = false)
    (habsent : disk.files.read path = .error .notFound) : disk.Follows path encoding lock [] where
  unlocked := hlock
  holds := ⟨.empty, rfl, habsent⟩
  entries _ _ := rfl
  alternates _ _ := ⟨nofun, List.isChain_nil⟩

theorem storedTables {c : FileContainer} (h : disk.Follows path encoding lock log)
    (hc : c.Shares path encoding lock) : c.storedTables disk = .ok (.ofLog log) := by
  obtain ⟨rfl, rfl, -⟩ := hc
  exact FileContainer.storedTables_of_holdsExactly h.holds

theorem lockFree {c : FileContainer} (h : disk.Follows path encoding lock log)
    (hc : c.Shares path encoding lock) : disk.poisoned c.lock = false :=
  hc.lock ▸ h.unlocked

theorem contains_table (h : disk.Follows path encoding lock log) (table key : String) :
    ((Tables.ofLog log).table table).contains key = (held log table key).isSome := by
  rw [SortedMap.contains, h.entries]

/-- Where the file can be written, a container mirrors the tables of the log. -/
theorem mirrors {c : FileContainer} (h : disk.Follows path encoding lock log)
    (hc : c.Shares path encoding lock) (hcreate : c.config.createIfMissing = true)
    (haccepts : disk.files.Accepts path) : c.Mirrors disk (.ofLog log) where
  create := hcreate
  unlocked := h.lockFree hc
  accepts := hc.path ▸ haccepts
  stored := h.storedTables hc

/-- **Every step is followed**: what it changes is what the log tells. -/
theorem step {step : Step} (h : disk.Follows path encoding lock log)
    (hstep : step.container.Shares path encoding lock)
    (hcreate : step.container.config.createIfMissing = true) :
    (step.outcome disk).2.Follows path encoding lock
      (log ++ [⟨step.call, (step.outcome disk).1⟩]) := by
  have hanswer : ∀ a, (step.outcome disk).1 = .ok a →
      (memoryContainer.outcome step.call (.ofLog log)).1 = .ok a := fun a ha =>
    FileContainer.answer_of_ok (h.storedTables hstep) (Prod.ext ha rfl)
  constructor
  · rw [Step.outcome, FileContainer.poisoned_outcome]
    exact h.unlocked
  · rw [Tables.ofLog_concat]
    exact Step.WorksOn.holdsExactly ⟨hstep.path, hstep.encoding, hcreate⟩ h.holds
  · intro table key
    rw [Tables.ofLog_concat, held_concat, Event.get?_after hanswer, h.entries]
  · intro table key
    rw [changesOf_concat]
    cases hchange : Event.changeOf? table key ⟨step.call, (step.outcome disk).1⟩ with
    | none =>
      rw [Option.toList_none, List.append_nil]
      exact h.alternates table key
    | some change =>
      have hadds := Event.adds_of_changeOf? hanswer hchange
      rw [h.entries] at hadds
      exact (h.alternates table key).concat hadds

/-- **A disk that follows a log shows it.** -/
theorem showsHistory (h : disk.Follows path encoding lock log) :
    disk.ShowsHistory path encoding lock log where
  alternates := h.alternates
  selected c hc table := by
    refine ⟨(Tables.ofLog log).table table, ?_, h.entries table⟩
    rw [FileContainer.container_outcome_select,
      FileContainer.select_of_storedTables (h.lockFree hc) (h.storedTables hc)]
    rfl
  taken c hc table key payload hheld := by
    have hkey : ((Tables.ofLog log).table table).contains key = true := by
      rw [h.contains_table, Option.isSome_iff_ne_none]
      exact hheld
    rw [FileContainer.container_outcome_insert,
      FileContainer.insert_of_contains (h.lockFree hc) (h.storedTables hc) hkey]
    rfl
  missing c hc table key hheld := by
    have hkey : ((Tables.ofLog log).table table).contains key = false := by
      rw [h.contains_table, hheld]
      rfl
    rw [FileContainer.container_outcome_delete,
      FileContainer.delete_of_not_contains (h.lockFree hc) (h.storedTables hc) hkey]
    rfl
  added c hc hcreate haccepts table key payload hwrites hheld := by
    have hkey : ((Tables.ofLog log).table table).contains key = false := by
      rw [h.contains_table, hheld]
      rfl
    obtain ⟨disk', hinsert, -⟩ := (h.mirrors hc hcreate haccepts).insert_of_not_contains hkey
      (hc.encoding ▸ hwrites)
    rw [FileContainer.container_outcome_insert, hinsert]
    rfl
  removed c hc hcreate haccepts table key hheld := by
    have hkey : ((Tables.ofLog log).table table).contains key = true := by
      rw [h.contains_table, Option.isSome_iff_ne_none]
      exact hheld
    obtain ⟨disk', hdelete, -⟩ := (h.mirrors hc hcreate haccepts).delete_of_contains hkey
    rw [FileContainer.container_outcome_delete, hdelete]
    rfl

end Disk.Follows

/-! ### Clients that take turns -/

/-- A client: the container it works with, and the calls that it makes, one after the other. -/
structure Client where
  container : FileContainer
  calls : List Call

/-- The steps that a client takes. -/
def Client.steps (client : Client) : List Step := client.calls.map (⟨client.container, ·⟩)

/-- **The ways to interleave** some lists: at every turn the first element of one of them is
next. -/
inductive Interleaves {α : Type} : List (List α) → List α → Prop
  | done {queues : List (List α)} (h : ∀ queue ∈ queues, queue = []) : Interleaves queues []
  | next {before after : List (List α)} {queue rest : List α} {a : α}
    (h : Interleaves (before ++ queue :: after) rest) :
    Interleaves (before ++ (a :: queue) :: after) (a :: rest)

/-- Interleaving makes up no elements. -/
theorem Interleaves.exists_mem {α : Type} {queues : List (List α)} {merged : List α}
    (h : Interleaves queues merged) : ∀ a ∈ merged, ∃ queue ∈ queues, a ∈ queue := by
  induction h with
  | done h => simp
  | @next before after queue rest a h ih =>
    intro b hb
    rcases List.mem_cons.1 hb with rfl | hb
    · exact ⟨b :: queue, by simp, by simp⟩
    · obtain ⟨queue', hqueue', hb⟩ := ih b hb
      rcases List.mem_append.1 hqueue' with hbefore | hafter
      · exact ⟨queue', by simp [hbefore], hb⟩
      · rcases List.mem_cons.1 hafter with rfl | hafter
        · exact ⟨a :: queue', by simp, by simp [hb]⟩
        · exact ⟨queue', by simp [hafter], hb⟩

/-- **No update is lost or done twice between siblings.** Any number of clients share a path, an
encoding and a lock, and may create the file, of which there is none at first. At every point of
every interleaving of their calls the disk shows the history so far: under every key additions and
removals alternate, an insertion where an entry is held fails for its key, a deletion where none is
held says so, and a selection through any container that shares what the clients share, whenever it
was opened, answers with the entries that were added last and not removed since. -/
theorem siblings_agree (path : String) (encoding : PayloadEncoding) (lock : Nat)
    (clients : List Client)
    (hclients : ∀ client ∈ clients, client.container.Shares path encoding lock ∧
      client.container.config.createIfMissing = true)
    (disk : Disk) (hlock : disk.poisoned lock = false)
    (habsent : disk.files.read path = .error .notFound)
    (steps : List Step) (hsteps : Interleaves (clients.map Client.steps) steps) :
    ∀ before, before <+: steps →
      (runSteps before disk).2.ShowsHistory path encoding lock (runSteps before disk).1 := by
  intro before hbefore
  have hshares : ∀ step ∈ before, step.container.Shares path encoding lock ∧
      step.container.config.createIfMissing = true := by
    intro step hstep
    obtain ⟨queue, hqueue, hmem⟩ := hsteps.exists_mem step (hbefore.subset hstep)
    obtain ⟨client, hclient, rfl⟩ := List.mem_map.1 hqueue
    obtain ⟨call, -, rfl⟩ := List.mem_map.1 hmem
    exact hclients client hclient
  have hrun : (runSteps before disk).2.Follows path encoding lock (runSteps before disk).1 :=
    runSteps_induction_log (R := fun disk log => disk.Follows path encoding lock log)
      (fun _ _ _ hstep h => h.step hstep.1 hstep.2) hshares (.of_absent hlock habsent)
  exact hrun.showsHistory

/-- Two clients add an entry under one key, and the one that came first removes it again before the
other adds one more. -/
theorem siblings_agree_on_one_key :
    let c : FileContainer := { config := { path := "db", encoding := .text }, lock := 0 }
    let one : Client := ⟨c, [.insert "User" "ü" (Text.utf8 "1"), .delete "User" "ü"]⟩
    let other : Client :=
      ⟨c, [.insert "User" "ü" (Text.utf8 "2"), .insert "User" "ü" (Text.utf8 "3")]⟩
    let steps : List Step := [⟨c, .insert "User" "ü" (Text.utf8 "1")⟩,
      ⟨c, .insert "User" "ü" (Text.utf8 "2")⟩, ⟨c, .delete "User" "ü"⟩,
      ⟨c, .insert "User" "ü" (Text.utf8 "3")⟩]
    ((∀ client ∈ [one, other], client.container.Shares "db" .text 0 ∧
        client.container.config.createIfMissing = true) ∧
      Disk.empty.poisoned 0 = false ∧ Disk.empty.files.read "db" = .error .notFound ∧
      Interleaves ([one, other].map Client.steps) steps) ∧
    changesOf (runSteps steps .empty).1 "User" "ü" =
      [.added (Text.utf8 "1"), .removed, .added (Text.utf8 "3")] ∧
    ∀ before, before <+: steps →
      (runSteps before .empty).2.ShowsHistory "db" .text 0 (runSteps before .empty).1 := by
  intro c one other steps
  have hclients : ∀ client ∈ [one, other], client.container.Shares "db" .text 0 ∧
      client.container.config.createIfMissing = true := by
    simp only [one, other, List.forall_mem_cons]
    exact ⟨⟨⟨rfl, rfl, rfl⟩, rfl⟩, ⟨⟨rfl, rfl, rfl⟩, rfl⟩, by simp⟩
  obtain ⟨habsent, haccepts⟩ : Disk.empty.files.read "db" = .error .notFound ∧
      Disk.empty.files.Accepts "db" := FileTree.isName_db.of_free rfl
  -- one, other, one, other
  have hsteps : Interleaves ([one, other].map Client.steps) steps := by
    apply @Interleaves.next _ [] [other.steps]
    apply @Interleaves.next _ [_] []
    apply @Interleaves.next _ [] [_]
    apply @Interleaves.next _ [_] []
    exact .done (by simp)
  -- the calls are answered as in memory
  have hstart : c.StartsAs .empty .empty := .absent habsent
  have hmirrors : c.Mirrors .empty .empty := ⟨rfl, rfl, haccepts, hstart.storedTables⟩
  obtain ⟨h₁, hmirrors⟩ := c.alike_memory (.insert "User" "ü" (Text.utf8 "1")) (fun _ => ⟨_, rfl⟩)
    _ _ hmirrors
  obtain ⟨h₂, hmirrors⟩ := c.alike_memory (.insert "User" "ü" (Text.utf8 "2")) (fun _ => ⟨_, rfl⟩)
    _ _ hmirrors
  obtain ⟨h₃, hmirrors⟩ := c.alike_memory (.delete "User" "ü") trivial _ _ hmirrors
  obtain ⟨h₄, -⟩ := c.alike_memory (.insert "User" "ü" (Text.utf8 "3")) (fun _ => ⟨_, rfl⟩)
    _ _ hmirrors
  have hchanges : changesOf (runSteps steps .empty).1 "User" "ü" =
      [.added (Text.utf8 "1"), .removed, .added (Text.utf8 "3")] := by
    simp only [steps, runSteps, Step.outcome, h₁, h₂, h₃, h₄]
    rfl
  exact ⟨⟨hclients, rfl, habsent, hsteps⟩, hchanges,
    siblings_agree "db" .text 0 [one, other] hclients .empty rfl habsent steps hsteps⟩

end RecordStore
