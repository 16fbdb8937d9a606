import RecordStore.Proofs.Container.File
import RecordStore.Proofs.Container.Memory
import RecordStore.Query

/-!
# Answers to queries

A query on a table all of whose payloads can be read is answered from the values in
ascending order of their keys (`RecordStore.Query.execute_of_select`), and the answer
for the first value is the first of the values that the filter accepts
(`RecordStore.Query.answer_firstOf`).

A payload that cannot be read fails every query of its table, also one for the first
value that a smaller key would have answered. Which payload it is does not depend on the
query: it is the first in the order of the keys
(`RecordStore.Codec.exists_firstUnreadable`). So a query for all values and one for the
first value, with the same filter, tell the same as far as they tell the same thing
(`RecordStore.Query.execute_spec`).
-/

namespace RecordStore

variable {α σ : Type}

/-- The values of a map in ascending order of their keys. -/
def SortedMap.values (m : SortedMap α) : List α := m.entries.map Prod.snd

namespace Codec

open Json

/-- The values in some entries, if there is one in each of them. -/
theorem decodeEntries_of_mapEntriesM [Readable α] {table : String}
    {entries : List (String × Bytes)} {values : List (String × α)}
    (h : SortedMap.mapEntriesM (Codec.decode α table) entries = .ok values) :
    decodeEntries α table entries = .ok (values.map Prod.snd) := by
  induction entries generalizing values with
  | nil =>
    cases h
    rfl
  | cons e entries ih =>
    obtain ⟨key, payload⟩ := e
    simp only [SortedMap.mapEntriesM, bind, Except.bind, pure, Except.pure] at h
    split at h
    · cases h
    · rename_i a ha
      split at h
      · cases h
      · rename_i more hmore
        cases h
        rw [decodeEntries, ha, ih hmore]
        rfl

theorem decodeTable_of_mapM [Readable α] {table : String} {entries : Table} {values : SortedMap α}
    (h : entries.mapM (Codec.decode α table) = .ok values) :
    decodeTable α table entries = .ok values.values :=
  decodeEntries_of_mapEntriesM (SortedMap.mapM_eq_ok_iff_entries.1 h)

/-! ### Tables that can be read, and those that cannot -/

section

variable [Readable α] {table key : String} {payload : Bytes} {entries : Table} {e : StoreError}

/-- An entry that cannot be read is named by its error. -/
theorem exists_fault_of_decode (h : decode α table key payload = .error e) :
    ∃ fault, e = .decode table key fault := by
  rw [decode] at h
  cases hparse : Json.parse α payload with
  | error fault =>
    rw [hparse] at h
    exact ⟨fault, (Except.error.inj h).symm⟩
  | ok a =>
    rw [hparse] at h
    cases h

/-- **The values of entries**, one for each. -/
def AreValues (table : String) (entries : List (String × Bytes)) (values : List α) : Prop :=
  List.Forall₂ (fun e a => decode α table e.1 e.2 = .ok a) entries values

/-- **The first entry of a table that cannot be read**: every smaller key has a value. -/
structure FirstUnreadable (α : Type) [Readable α] (table : String) (entries : Table)
    (key : String) (fault : Fault) : Prop where
  fails : ∃ payload, entries.get? key = some payload ∧
    decode α table key payload = .error (.decode table key fault)
  smallest : ∀ k payload, entries.get? k = some payload → k < key →
    ∃ a, decode α table k payload = .ok a

theorem areValues_of_decodeEntries {entries : List (String × Bytes)} {values : List α}
    (h : decodeEntries α table entries = .ok values) : AreValues table entries values := by
  induction entries generalizing values with
  | nil =>
    cases h
    exact .nil
  | cons entry entries ih =>
    obtain ⟨key, payload⟩ := entry
    simp only [decodeEntries, bind, Except.bind, pure, Except.pure] at h
    split at h
    · cases h
    · rename_i a ha
      split at h
      · cases h
      · rename_i more hmore
        cases h
        exact .cons ha (ih hmore)

/-- Reading entries stops at the first that cannot be read. -/
theorem exists_append_of_decodeEntries {entries : List (String × Bytes)}
    (h : decodeEntries α table entries = .error e) :
    ∃ before key payload after, entries = before ++ (key, payload) :: after ∧
      decode α table key payload = .error e ∧
      ∀ x ∈ before, ∃ a, decode α table x.1 x.2 = .ok a := by
  induction entries with
  | nil => cases h
  | cons entry entries ih =>
    obtain ⟨key, payload⟩ := entry
    simp only [decodeEntries, bind, Except.bind, pure, Except.pure] at h
    split at h
    · rename_i e' he
      cases h
      exact ⟨[], key, payload, entries, rfl, he, nofun⟩
    · rename_i a ha
      split at h
      · rename_i e' he
        cases h
        obtain ⟨before, key', payload', after, rfl, hfails, hbefore⟩ := ih he
        refine ⟨(key, payload) :: before, key', payload', after, rfl, hfails, fun x hx => ?_⟩
        rcases List.mem_cons.1 hx with rfl | hx
        · exact ⟨a, ha⟩
        · exact hbefore x hx
      · cases h

theorem exists_firstUnreadable (h : decodeTable α table entries = .error e) :
    ∃ key fault, e = .decode table key fault ∧ FirstUnreadable α table entries key fault := by
  obtain ⟨before, key, payload, after, hentries, hfails, hbefore⟩ :=
    exists_append_of_decodeEntries h
  obtain ⟨fault, rfl⟩ := exists_fault_of_decode hfails
  refine ⟨key, fault, rfl, ⟨payload, SortedMap.get?_eq_some_iff.2 (by simp [hentries]), hfails⟩, ?_⟩
  intro k p hk hlt
  -- the keys ascend, so a smaller one stands before the entry
  have hascending := entries.ascending
  have hmem := SortedMap.get?_eq_some_iff.1 hk
  rw [hentries] at hascending hmem
  obtain ⟨-, hbehind, -⟩ := List.pairwise_append.1 hascending
  rcases List.mem_append.1 hmem with hmem | hmem
  · exact hbefore _ hmem
  · rcases List.mem_cons.1 hmem with heq | hmem
    · cases heq
      exact absurd hlt (String.lt_irrefl key)
    · exact absurd (String.lt_trans hlt ((List.pairwise_cons.1 hbehind).1 _ hmem))
        (String.lt_irrefl k)

/-- A table can be read exactly if each of its entries can. -/
theorem exists_decodeTable_iff : (∃ values, decodeTable α table entries = .ok values) ↔
    ∀ key payload, entries.get? key = some payload → ∃ a, decode α table key payload = .ok a := by
  constructor
  · rintro ⟨values, h⟩ key payload hget
    obtain ⟨i, hi, heq⟩ := List.mem_iff_getElem.1 (SortedMap.get?_eq_some_iff.1 hget)
    have hvalues : AreValues table entries.entries values := areValues_of_decodeEntries h
    have hi' : i < values.length := hvalues.length_eq ▸ hi
    have ha := List.Forall₂.get hvalues hi hi'
    rw [List.get_eq_getElem, heq] at ha
    exact ⟨_, ha⟩
  · intro h
    cases hdecode : decodeTable α table entries with
    | ok values => exact ⟨values, rfl⟩
    | error e =>
      obtain ⟨key, fault, -, ⟨payload, hget, hfails⟩, -⟩ := exists_firstUnreadable hdecode
      obtain ⟨a, ha⟩ := h key payload hget
      cases hfails.symm.trans ha

end

end Codec

namespace Query

open Json

/-- **A query is answered from the values of its table**, if all of them can be read. -/
theorem execute_of_select [Readable α] {q : Query α} {c : Container σ} {s s' : σ}
    {entries : Table} {values : SortedMap α} (h : c.select q.table s = (.ok entries, s'))
    (hvalues : entries.mapM (Codec.decode α q.table) = .ok values) :
    q.execute c s = (.ok (q.answer values.values), s') := by
  rw [execute, StoreM.bind_of_ok h, Codec.decodeTable_of_mapM hvalues]
  rfl

theorem answer_all (table : String) (values : List α) :
    (Query.all table).answer values = .many values :=
  congrArg Selection.many (List.filter_eq_self.2 fun _ _ => rfl)

theorem answer_filtered (table : String) (filter : α → Bool) (values : List α) :
    (Query.filtered table filter).answer values = .many (values.filter filter) := rfl

/-- The first value that a filter accepts is the first of all that it accepts. -/
theorem answer_firstOf (table : String) (filter : α → Bool) (values : List α) :
    (Query.firstOf table (some filter)).answer values = .first (values.filter filter).head? :=
  congrArg Selection.first List.head?_filter.symm

/-! ### Queries with the same filter -/

/-- The values that a filter accepts, and all of them if there is none. -/
def chosen (filter : Option (α → Bool)) (values : List α) : List α :=
  match filter with
  | none => values
  | some p => values.filter p

theorem filter_accepts (q : Query α) (values : List α) :
    values.filter q.accepts = chosen q.filter values := by
  unfold accepts
  cases q.filter with
  | none => exact List.filter_eq_self.2 fun _ _ => rfl
  | some p => rfl

theorem answer_of_all {q : Query α} (h : q.first = false) (values : List α) :
    q.answer values = .many (chosen q.filter values) := by
  rw [answer, h, filter_accepts]
  rfl

theorem answer_of_first {q : Query α} (h : q.first = true) (values : List α) :
    q.answer values = .first (chosen q.filter values).head? := by
  rw [answer, h, ← filter_accepts, List.head?_filter]
  rfl

/-- What a query does, from what the container selects. -/
theorem execute_apply [Readable α] (q : Query α) (c : Container σ) (s : σ) :
    q.execute c s = ((c.select q.table s).1.bind fun entries =>
      (Codec.decodeTable α q.table entries).map q.answer, (c.select q.table s).2) := by
  rw [execute, StoreM.bind_apply]
  rcases c.select q.table s with ⟨e | entries, s'⟩
  · rfl
  · dsimp only
    rw [StoreM.bind_pure_apply]
    rfl

/-- **What queries for all values and for the first one have to do with each other**, where they ask
for the same table with the same filter. -/
structure Agree [Readable α] (c : Container σ) (s : σ) (all first : Query α) : Prop where
  /-- What the container cannot select fails both. -/
  failed : ∀ e, (c.select all.table s).1 = .error e →
    (all.execute c s).1 = .error e ∧ (first.execute c s).1 = .error e
  /-- A payload that cannot be read fails both; the smallest key of such a payload is named. -/
  unreadable : ∀ entries, (c.select all.table s).1 = .ok entries →
    (∃ key payload, entries.get? key = some payload ∧
      ¬∃ a, Codec.decode α all.table key payload = .ok a) →
    ∃ key fault, Codec.FirstUnreadable α all.table entries key fault ∧
      (all.execute c s).1 = .error (.decode all.table key fault) ∧
      (first.execute c s).1 = .error (.decode all.table key fault)
  /-- Otherwise both are answered from the values in ascending order of their keys. -/
  answered : ∀ entries, (c.select all.table s).1 = .ok entries →
    (∀ key payload, entries.get? key = some payload →
      ∃ a, Codec.decode α all.table key payload = .ok a) →
    ∃ values, Codec.AreValues all.table entries.entries values ∧
      (all.execute c s).1 = .ok (.many (chosen all.filter values)) ∧
      (first.execute c s).1 = .ok (.first (chosen all.filter values).head?)
  /-- Both have the same first value. -/
  head? : (all.execute c s).1.map Selection.head? = (first.execute c s).1.map Selection.head?
  /-- The values of the second are those of the first, but for all after the first one. -/
  toList : (first.execute c s).1.map Selection.toList =
    (all.execute c s).1.map fun answer => answer.toList.take 1
  /-- Nothing happens to the container but that it selects. -/
  state : (all.execute c s).2 = (c.select all.table s).2 ∧
    (first.execute c s).2 = (c.select all.table s).2

theorem agree_of_first [Readable α] (c : Container σ) (s : σ) {all first : Query α}
    (htable : first.table = all.table) (hfilter : first.filter = all.filter)
    (hall : all.first = false) (hfirst : first.first = true) : Agree c s all first where
  failed e h := by
    rw [execute_apply, execute_apply, htable, h]
    exact ⟨rfl, rfl⟩
  unreadable entries h hbad := by
    obtain ⟨key, payload, hget, hfails⟩ := hbad
    cases hdecode : Codec.decodeTable α all.table entries with
    | ok values =>
      exact absurd (Codec.exists_decodeTable_iff.1 ⟨values, hdecode⟩ key payload hget) hfails
    | error e =>
      obtain ⟨key, fault, rfl, hunreadable⟩ := Codec.exists_firstUnreadable hdecode
      refine ⟨key, fault, hunreadable, ?_⟩
      rw [execute_apply, execute_apply, htable, h]
      simp only [Except.bind, hdecode]
      exact ⟨rfl, rfl⟩
  answered entries h hgood := by
    obtain ⟨values, hdecode⟩ := Codec.exists_decodeTable_iff.2 hgood
    refine ⟨values, Codec.areValues_of_decodeEntries hdecode, ?_⟩
    rw [execute_apply, execute_apply, htable, h]
    simp only [Except.bind, hdecode, Except.map, answer_of_all hall, answer_of_first hfirst,
      hfilter, and_self]
  head? := by
    rw [execute_apply, execute_apply, htable]
    rcases c.select all.table s with ⟨e | entries, s'⟩
    · rfl
    · simp only [Except.bind]
      cases Codec.decodeTable α all.table entries with
      | error e => rfl
      | ok values =>
        simp only [Except.map, answer_of_all hall, answer_of_first hfirst, hfilter,
          Selection.head?]
  toList := by
    rw [execute_apply, execute_apply, htable]
    rcases c.select all.table s with ⟨e | entries, s'⟩
    · rfl
    · simp only [Except.bind]
      cases Codec.decodeTable α all.table entries with
      | error e => rfl
      | ok values =>
        simp only [Except.map, answer_of_all hall, answer_of_first hfirst, hfilter,
          Selection.toList]
        cases chosen all.filter values <;> rfl
  state := by
    rw [execute_apply, execute_apply, htable]
    exact ⟨rfl, rfl⟩

/-- **Queries are executed as they say**, in any container: a query for all values of a table and
one for the first value, with the same filter or without one, fail alike, and otherwise both are
answered from the values of the table. Neither changes the tables, be they in memory or in a
file. -/
theorem execute_spec [Readable α] (table : String) (filter : Option (α → Bool)) :
    (∀ (σ : Type) (c : Container σ) (s : σ),
      Agree c s { table, filter } (Query.firstOf table filter)) ∧
    (∀ (q : Query α) (tables : Tables), (q.execute memoryContainer tables).2 = tables) ∧
    ∀ (q : Query α) (c : FileContainer) (disk : Disk), (q.execute c.container disk).2 = disk := by
  refine ⟨fun σ c s => agree_of_first c s rfl rfl rfl rfl, fun q tables => ?_, fun q c disk => ?_⟩
  · rw [execute_apply]
    rfl
  · rw [execute_apply]
    exact c.select_snd q.table disk

/-- What cannot be read behind the first value fails the query for the first value. -/
example :
    let tables := SortedMap.ofList
      [("Flag", SortedMap.ofList [("a", Text.utf8 "true"), ("b", Text.utf8 "")])]
    ((Query.firstOf "Flag" none : Query Bool).execute memoryContainer tables).1 =
      .error (.decode "Flag" "b" ⟨.endInValue, ⟨1, 0⟩⟩) := by
  decide +kernel

end Query

end RecordStore
