import RecordStore.Proofs.Container.Frame
import RecordStore.Proofs.Container.Refinement
import RecordStore.Proofs.Container.Steps

/-!
# Copying a table

For each payload there is one string and for each string that is read one payload
(`RecordStore.PayloadEncoding.encode_eq_ok_iff`). So a table whose entries are selected from one
container and inserted into another one, in any order, has the same strings there
(`RecordStore.FileContainer.copy_reproduces`), even if a person wrote them.

The invariant of the run, `RecordStore.FileContainer.Restores`, does not mention what was inserted
so far but what is still to come: the new table lacks these keys and agrees with the old one in all
the others. In this way it makes no difference in which order the entries come.
-/

namespace RecordStore

/-! ### Payloads and strings -/

namespace PayloadEncoding

variable {encoding : PayloadEncoding} {payload : Bytes} {stored : String}

/-- **A string that is read as a payload is what the payload is written as.** -/
theorem encode_of_decode (h : encoding.decode stored = .ok payload) :
    encoding.encode payload = .ok stored := by
  cases encoding with
  | base64 =>
    rw [decode] at h
    cases hdecode : Base64.decode stored with
    | error fault =>
      rw [hdecode] at h
      cases h
    | ok bytes =>
      rw [hdecode] at h
      cases h
      rw [encode, Base64.encode_of_decode hdecode]
  | text =>
    cases h
    rw [encode, Text.decode_utf8]
    rfl

/-- **Writing and reading payloads are inverse to each other.** -/
theorem encode_eq_ok_iff :
    encoding.encode payload = .ok stored ↔ encoding.decode stored = .ok payload :=
  ⟨decode_of_encode, encode_of_decode⟩

/-- Which payloads have a string: in Base64 all of them, as text those of a text. -/
theorem exists_encode_iff :
    (∃ stored, encoding.encode payload = .ok stored) ↔ encoding.Writes payload := by
  constructor
  · rintro ⟨stored, h⟩ rfl
    exact ⟨stored, (Except.ok.inj (decode_of_encode h)).symm⟩
  · intro h
    obtain ⟨stored, hencode, -⟩ := h.exists_encode
    exact ⟨stored, hencode⟩

end PayloadEncoding

namespace FileContainer

variable {c d : FileContainer} {disk target : Disk} {table key : String} {payload : Bytes}
  {strings : SortedMap String} {keys : List String} {l : List (String × Bytes)} {entries : Table}

theorem encodePayload_eq_ok_iff {stored : String} :
    c.encodePayload table key payload = .ok stored ↔
      c.config.encoding.encode payload = .ok stored := by
  rw [encodePayload]
  cases c.config.encoding.encode payload <;> simp [Except.mapError]

/-! ### Where a table can be copied to -/

/-- **A container that a table can be copied to**: nothing keeps it from writing its file, and the
table has no entries there. -/
structure IsVacant (d : FileContainer) (disk : Disk) (table : String) : Prop
    extends d.CanSave disk where
  vacant : ∃ document : Document, disk.document d.config.path = .ok document ∧
    document.table table = .empty

/-- Where there is no file yet, any table can be copied to a container that may create it. -/
theorem isVacant_of_no_file (hlock : disk.poisoned d.lock = false)
    (hcreate : d.config.createIfMissing = true) (haccepts : disk.files.Accepts d.config.path)
    (habsent : disk.files.read d.config.path = .error .notFound) (table : String) :
    d.IsVacant disk table where
  unlocked := hlock
  writable := by rw [mayWrite, hcreate, Bool.true_or]
  accepts := haccepts
  vacant := ⟨.empty, by rw [Disk.document, habsent], rfl⟩

/-! ### The run -/

/-- **The table agrees with some strings but for keys it lacks**, and nothing keeps the container
from writing its file. -/
structure Restores (d : FileContainer) (disk : Disk) (table : String) (strings : SortedMap String)
    (keys : List String) : Prop extends d.CanSave disk where
  agrees : ∃ document : Document, disk.document d.config.path = .ok document ∧
    ∀ k, (document.table table).get? k = if k ∈ keys then none else strings.get? k

/-- Inserting an entry under a key that is lacking leaves the others lacking. -/
theorem Restores.insert (h : d.Restores disk table strings (key :: keys)) (hkey : key ∉ keys)
    {stored : String} (hstored : strings.get? key = some stored)
    (hencode : d.config.encoding.encode payload = .ok stored) :
    ∃ disk', d.insert table key payload disk = (.ok (), disk') ∧
      d.Restores disk' table strings keys := by
  obtain ⟨document, hdocument, hagrees⟩ := h.agrees
  have hfree : (document.table table).contains key = false := by
    rw [SortedMap.contains_eq_false, hagrees, if_pos (List.mem_cons_self ..)]
  obtain ⟨disk', hwritten, hsave⟩ :=
    h.exists_written (document.insert table ((document.table table).insert key stored))
  refine ⟨disk', ?_, hsave, _, document_of_written hwritten, fun k => ?_⟩
  · rw [insert_apply, h.unlocked, hdocument]
    simp only [Bool.false_eq_true, if_false, hfree, encodePayload_eq_ok_iff.2 hencode]
    exact save_eq_ok_iff.2 hwritten
  · rw [Document.table_insert, if_pos rfl, SortedMap.get?_insert, hagrees]
    by_cases hk : k = key
    · subst hk
      rw [if_pos rfl, if_neg hkey, hstored]
    · simp [hk]

/-- The calls that insert entries into a table. -/
def insertions (d : FileContainer) (table : String) (l : List (String × Bytes)) : List Step :=
  l.map fun e => ⟨d, .insert table e.1 e.2⟩

/-- Inserting an entry for every key that is lacking leaves none lacking. -/
theorem Restores.run (h : d.Restores disk table strings (l.map Prod.fst))
    (hkeys : (l.map Prod.fst).Nodup)
    (hl : ∀ e ∈ l, ∃ stored, strings.get? e.1 = some stored ∧
      d.config.encoding.encode e.2 = .ok stored) :
    (runSteps (d.insertions table l) disk).1 = l.map (fun e => ⟨.insert table e.1 e.2, .ok .done⟩) ∧
      d.Restores (runSteps (d.insertions table l) disk).2 table strings [] := by
  induction l generalizing disk with
  | nil => exact ⟨rfl, h⟩
  | cons e l ih =>
    obtain ⟨hkey, hkeys⟩ := List.nodup_cons.1 hkeys
    obtain ⟨⟨stored, hstored, hencode⟩, hl⟩ := List.forall_mem_cons.1 hl
    obtain ⟨disk', hinsert, hrestores⟩ := h.insert hkey hstored hencode
    have hstep : Step.outcome ⟨d, .insert table e.1 e.2⟩ disk = (.ok .done, disk') := by
      rw [Step.outcome, container_outcome_insert, hinsert]
      rfl
    obtain ⟨hlog, hend⟩ := ih hrestores hkeys hl
    rw [insertions, List.map_cons, runSteps]
    simp only [hstep]
    exact ⟨congrArg _ hlog, hend⟩

/-! ### Copies -/

/-- What is selected are the payloads of the strings of the table. -/
theorem exists_document_of_select (h : (c.select table disk).1 = .ok entries) :
    ∃ document, disk.document c.config.path = .ok document ∧
      (document.table table).mapM (c.decodePayload table) = .ok entries := by
  rw [select_apply] at h
  split at h
  · cases h
  · cases hdocument : disk.document c.config.path with
    | error e =>
      rw [hdocument] at h
      cases h
    | ok document =>
      rw [hdocument] at h
      exact ⟨document, rfl, h⟩

/-- At the start the copy lacks all keys of the table, in whatever order they come. -/
theorem IsVacant.restores (h : d.IsVacant target table)
    (hstrings : strings.mapM (c.decodePayload table) = .ok entries) (hl : l.Perm entries.entries) :
    d.Restores target table strings (l.map Prod.fst) := by
  obtain ⟨document, hdocument, hempty⟩ := h.vacant
  refine ⟨h.toCanSave, document, hdocument, fun k => ?_⟩
  rw [hempty, SortedMap.get?_empty]
  split
  · rfl
  · rename_i hk
    have hnone : entries.get? k = none := by
      cases hget : entries.get? k with
      | none => rfl
      | some payload =>
        exact absurd (List.mem_map_of_mem (hl.mem_iff.2 (SortedMap.get?_eq_some_iff.1 hget))) hk
    have hvalue := SortedMap.get?_of_mapM hstrings k
    rw [hnone, Option.map_none] at hvalue
    exact (Option.map_eq_none_iff.1 hvalue.symm).symm

/-- **Copying a table reproduces its strings.** What is selected from a container can be inserted,
in any order, into another one with the same encoding that has no entries in the table, such as one
without a file yet. Every insertion is done, and the table has the same keys with the same strings
as the one it was copied from, which may have been written by hand. For a payload and a string, one
is written as the other just if the other is read as the one, and the payloads that can be written
are all of them in Base64, and those of a text as text. -/
theorem copy_reproduces (c : FileContainer) :
    (∀ (d : FileContainer) (disk target : Disk) (table : String) (entries : Table)
      (l : List (String × Bytes)), d.config.encoding = c.config.encoding →
      (c.select table disk).1 = .ok entries → l.Perm entries.entries → d.IsVacant target table →
      (runSteps (d.insertions table l) target).1 =
        l.map (fun e => ⟨.insert table e.1 e.2, .ok .done⟩) ∧
      ∃ source copy : Document, disk.document c.config.path = .ok source ∧
        (runSteps (d.insertions table l) target).2.document d.config.path = .ok copy ∧
        copy.table table = source.table table) ∧
    (∀ table key payload stored, c.encodePayload table key payload = .ok stored ↔
      c.decodePayload table key stored = .ok payload) ∧
    ∀ table key payload, (∃ stored, c.encodePayload table key payload = .ok stored) ↔
      c.config.encoding.Writes payload := by
  refine ⟨?_, ?_, ?_⟩
  · intro d disk target table entries l hencoding hselect hl hvacant
    obtain ⟨source, hsource, hstrings⟩ := exists_document_of_select hselect
    have hkeys : (l.map Prod.fst).Nodup := by
      have hascending := List.pairwise_map.2 entries.ascending
      refine (hl.map Prod.fst).nodup_iff.2 (hascending.imp ?_)
      rintro a b hlt rfl
      exact String.lt_irrefl a hlt
    have hentries : ∀ e ∈ l, ∃ stored, (source.table table).get? e.1 = some stored ∧
        d.config.encoding.encode e.2 = .ok stored := by
      intro e he
      have hvalue := SortedMap.get?_of_mapM hstrings e.1
      rw [SortedMap.get?_eq_some_iff.2 (hl.mem_iff.1 he), Option.map_some] at hvalue
      obtain ⟨stored, hstored, hdecode⟩ := Option.map_eq_some_iff.1 hvalue.symm
      refine ⟨stored, hstored, ?_⟩
      rw [hencoding]
      exact PayloadEncoding.encode_of_decode (decodePayload_eq_ok_iff.1 hdecode)
    obtain ⟨hlog, hend⟩ := (hvacant.restores hstrings hl).run hkeys hentries
    obtain ⟨copy, hcopy, hagrees⟩ := hend.agrees
    exact ⟨hlog, source, copy, hsource, hcopy, SortedMap.ext_get? fun k => by simp [hagrees k]⟩
  · intro table key payload stored
    rw [encodePayload_eq_ok_iff, decodePayload_eq_ok_iff, PayloadEncoding.encode_eq_ok_iff]
  · intro table key payload
    simp only [encodePayload_eq_ok_iff]
    exact PayloadEncoding.exists_encode_iff

/-- A table that was written by hand is copied to where there is no file yet, last entry first. -/
theorem copy_reproduces_of_no_file :
    let c : FileContainer := { config := { path := "db" }, lock := 0 }
    let strings : SortedMap String := .ofList [("a", "AA=="), ("b", "TWFu"), ("ü", "")]
    let disk := Disk.holding "db" (.ofList [("User", strings)])
    let entries : Table := .ofList [("a", [0]), ("b", [77, 97, 110]), ("ü", [])]
    let l : List (String × Bytes) := [("ü", []), ("b", [77, 97, 110]), ("a", [0])]
    ((c.select "User" disk).1 = .ok entries ∧ l.Perm entries.entries ∧ c.IsVacant .empty "User") ∧
    (runSteps (c.insertions "User" l) .empty).1 =
      l.map (fun e => ⟨.insert "User" e.1 e.2, .ok .done⟩) ∧
    ∃ copy : Document, (runSteps (c.insertions "User" l) .empty).2.document "db" = .ok copy ∧
      copy.table "User" = strings := by
  intro c strings disk entries l
  have hdocument := Disk.document_holding FileTree.isName_db (.ofList [("User", strings)])
  have htable : Document.table (.ofList [("User", strings)]) "User" = strings := rfl
  have hselect : (c.select "User" disk).1 = .ok entries := by
    have hentries : strings.mapM (c.decodePayload "User") = .ok entries :=
      SortedMap.mapM_eq_ok_iff_entries.2 (by decide)
    rw [select_apply, hdocument]
    exact hentries
  have hl : l.Perm entries.entries := by decide
  obtain ⟨habsent, haccepts⟩ : Disk.empty.files.read c.config.path = .error .notFound ∧
      Disk.empty.files.Accepts c.config.path := FileTree.isName_db.of_free rfl
  have hvacant : c.IsVacant .empty "User" := isVacant_of_no_file rfl rfl haccepts habsent "User"
  obtain ⟨hlog, source, copy, hsource, hcopy, hsame⟩ :=
    (copy_reproduces c).1 c disk .empty "User" entries l rfl hselect hl hvacant
  cases hsource.symm.trans hdocument
  exact ⟨⟨hselect, hl, hvacant⟩, hlog, copy, hcopy, hsame.trans htable⟩

end FileContainer

end RecordStore
