import RecordStore.Proofs.Container.Refinement
import RecordStore.Proofs.Query
import RecordStore.Proofs.User
import RecordStore.UserStore

/-!
# The store of users is a map

Whatever is done to a new store of users, the answers are those of an ordered map from
identifiers to users (`RecordStore.UserStore.is_map`). The map is said by one step for
each call (`RecordStore.UserStore.Users.step`), which knows nothing of payloads, of
tables or of files.

Two things carry the proof. A payload is read back as the user that it was made of, so
the payloads of the table and the users of the map stay in step
(`RecordStore.UserStore.Holds`). And a store uses its container in four ways only, all of
them with payloads that are texts, so that a file in either encoding may stand in for
memory (`RecordStore.UserStore.related_perform`).
-/

namespace RecordStore

namespace UserStore

variable {σ τ : Type}

/-! ### Calls and runs -/

/-- A call on a store of users. -/
inductive Call
  | init
  | insert (user : User)
  | create (user : User)
  | selectAll
  | selectWhere (filter : User → Bool)
  | firstOrNone (filter : User → Bool)
  | delete (key : String)

/-- What a call answers when it does not fail. -/
inductive Answer
  /-- It is done, and there is nothing to tell. -/
  | done
  /-- Some users, in order. -/
  | users (users : List User)
  /-- One user, if there is one. -/
  | user (user : Option User)
  /-- Whether there was a user. -/
  | existed (existed : Bool)

/-- Makes a call on the store of users in a container. -/
def perform (c : Container σ) : Call → StoreM σ Answer
  | .init => do
    UserStore.init c
    return .done
  | .insert user => do
    UserStore.insert c user
    return .done
  | .create user => do
    UserStore.create c user
    return .done
  | .selectAll => return .users (← selectAll c)
  | .selectWhere filter => return .users (← selectWhere c filter)
  | .firstOrNone filter => return .user (← firstOrNone c filter)
  | .delete key => return .existed (← UserStore.delete c key)

/-- **A run of calls**: the answer to each of them, and the state at the end. -/
def run (c : Container σ) : List Call → σ → List (Except StoreError Answer) × σ
  | [], s => ([], s)
  | call :: calls, s =>
    ((perform c call s).1 :: (run c calls (perform c call s).2).1,
      (run c calls (perform c call s).2).2)

/-! ### The map -/

/-- **Users by identifier.** -/
abbrev Users := SortedMap User

namespace Users

/-- The map with one more user, unless the identifier is taken. -/
def add (users : Users) (user : User) : Except StoreError Answer × Users :=
  if users.contains user.id then (.error (.duplicateKey table user.id), users)
  else (.ok .done, users.insert user.id user)

/-- **What a call means for the map**: the answer, and the map after it. -/
def step (users : Users) : Call → Except StoreError Answer × Users
  | .init => (.ok .done, users)
  | .insert user => users.add user
  | .create user => users.add user
  | .selectAll => (.ok (.users users.values), users)
  | .selectWhere filter => (.ok (.users (users.values.filter filter)), users)
  | .firstOrNone filter => (.ok (.user (users.values.filter filter).head?), users)
  | .delete key => (.ok (.existed (users.contains key)), users.erase key)

/-- A run of calls on the map. -/
def run (users : Users) : List Call → List (Except StoreError Answer) × Users
  | [] => ([], users)
  | call :: calls =>
    ((users.step call).1 :: ((users.step call).2.run calls).1, ((users.step call).2.run calls).2)

/-- Every user stands under its own identifier. -/
def Keyed (users : Users) : Prop := ∀ key user, users.get? key = some user → user.id = key

variable {users : Users}

theorem keyed_empty : Keyed .empty := by
  intro key user h
  cases h

theorem Keyed.add (h : users.Keyed) (user : User) : (users.add user).2.Keyed := by
  unfold Users.add
  split
  · exact h
  · intro key user' hget
    rw [SortedMap.get?_insert] at hget
    split at hget
    · rename_i hkey
      cases hget
      exact hkey.symm
    · exact h key user' hget

theorem Keyed.step (h : users.Keyed) (call : Call) : (users.step call).2.Keyed := by
  cases call with
  | init => exact h
  | insert user => exact h.add user
  | create user => exact h.add user
  | selectAll => exact h
  | selectWhere filter => exact h
  | firstOrNone filter => exact h
  | delete key =>
    intro key' user hget
    rw [Users.step, SortedMap.get?_erase] at hget
    split at hget
    · cases hget
    · exact h key' user hget

theorem Keyed.run (h : users.Keyed) (calls : List Call) : (users.run calls).2.Keyed := by
  induction calls generalizing users with
  | nil => exact h
  | cons call calls ih => exact ih (h.step call)

/-- The users of a map in ascending order of their identifiers, byte by byte. -/
theorem Keyed.pairwise_values (h : users.Keyed) :
    users.values.Pairwise fun u v => Text.utf8 u.id < Text.utf8 v.id := by
  -- the keys ascend, and they are the identifiers
  refine List.pairwise_map.2 (users.ascending.imp_of_mem fun {a b} ha hb hlt => ?_)
  rw [h a.1 a.2 (SortedMap.get?_eq_some_iff.2 ha), h b.1 b.2 (SortedMap.get?_eq_some_iff.2 hb)]
  exact Text.utf8_lt_utf8 hlt

/-- The users of a map are those found under their own identifiers. -/
theorem Keyed.mem_values (h : users.Keyed) (user : User) :
    user ∈ users.values ↔ users.get? user.id = some user := by
  rw [SortedMap.get?_eq_some_iff]
  constructor
  · intro hmem
    obtain ⟨e, he, rfl⟩ := List.mem_map.1 hmem
    rwa [h e.1 e.2 (SortedMap.get?_eq_some_iff.2 he)]
  · exact fun hmem => List.mem_map.2 ⟨_, hmem, rfl⟩

end Users

/-! ### The store in memory -/

/-- **Tables hold users** if the payloads of the table are read as these users, key by key. -/
def Holds (tables : Tables) (users : Users) : Prop :=
  (tables.table table).mapM (Codec.decode User table) = .ok users

variable {tables : Tables} {users : Users}

theorem holds_empty : Holds .empty .empty := rfl

theorem Holds.contains (h : Holds tables users) (key : String) :
    (tables.table table).contains key = users.contains key :=
  (SortedMap.contains_of_mapM h key).symm

/-- Adding a user is adding the payload under the primary key. -/
theorem insert_eq (user : User) :
    ∃ payload, (∃ text, payload = Text.utf8 text) ∧
      (∀ key, Codec.decode User table key payload = .ok user) ∧
      ∀ {σ : Type} (c : Container σ),
        UserStore.insert c user = c.insert table (Record.primaryKey user) payload := by
  obtain ⟨payload, hencode, htext, hdecode⟩ := user.exists_encode
  refine ⟨payload, htext, hdecode table, fun c => ?_⟩
  funext s
  rw [UserStore.insert, hencode]
  exact StoreM.bind_of_ok (StoreM.ofExcept_apply _ s)

theorem Holds.insert (h : Holds tables users) (user : User) :
    (perform memoryContainer (.insert user) tables).1 = (users.add user).1 ∧
      Holds (perform memoryContainer (.insert user) tables).2 (users.add user).2 := by
  obtain ⟨payload, -, hdecode, hinsert⟩ := insert_eq user
  have happly : perform memoryContainer (.insert user) tables =
      ((MemoryContainer.insert table user.id payload tables).1.map fun _ => .done,
        (MemoryContainer.insert table user.id payload tables).2) := by
    rw [perform, hinsert]
    exact StoreM.bind_pure_apply _ _ tables
  rw [happly, MemoryContainer.insert_apply, h.contains, Users.add]
  cases users.contains user.id with
  | true => exact ⟨rfl, h⟩
  | false =>
    refine ⟨rfl, ?_⟩
    simp only [Bool.false_eq_true, if_false]
    rw [Holds, Tables.table_insert, if_pos rfl]
    exact SortedMap.mapM_insert h (hdecode user.id)

theorem Holds.delete (h : Holds tables users) (key : String) :
    (perform memoryContainer (.delete key) tables).1 = .ok (.existed (users.contains key)) ∧
      Holds (perform memoryContainer (.delete key) tables).2 (users.erase key) := by
  have happly : perform memoryContainer (.delete key) tables =
      ((MemoryContainer.delete table key tables).1.map .existed,
        (MemoryContainer.delete table key tables).2) := StoreM.bind_pure_apply _ _ tables
  rw [happly, MemoryContainer.delete_apply, h.contains]
  cases hkey : users.contains key with
  | true =>
    refine ⟨rfl, ?_⟩
    simp only [if_true]
    rw [Holds, Tables.table_insert, if_pos rfl]
    exact SortedMap.mapM_erase h key
  | false =>
    refine ⟨rfl, ?_⟩
    rw [SortedMap.erase_of_contains_eq_false hkey]
    exact h

/-- A query on the store in memory is answered from the users. -/
theorem Holds.execute (h : Holds tables users) {q : Query User} (hq : q.table = table) :
    execute memoryContainer q tables = (.ok (q.answer users.values), tables) := by
  have hselect : memoryContainer.select q.table tables = (.ok (tables.table table), tables) := by
    rw [hq]
    rfl
  rw [Holds, ← hq] at h
  rw [← hq] at hselect
  exact Query.execute_of_select hselect h

/-- **One call on the store in memory** is answered as the map answers it. -/
theorem Holds.perform (h : Holds tables users) (call : Call) :
    (perform memoryContainer call tables).1 = (users.step call).1 ∧
      Holds (perform memoryContainer call tables).2 (users.step call).2 := by
  cases call with
  | init =>
    have hinit : UserStore.perform memoryContainer .init tables =
        (.ok .done, tables.withTable table) :=
      StoreM.bind_of_ok (MemoryContainer.init_apply table tables)
    rw [hinit]
    refine ⟨rfl, ?_⟩
    rw [Holds, Tables.withTable, Tables.table_insert, if_pos rfl]
    exact h
  | insert user => exact h.insert user
  | create user => exact h.insert user
  | selectAll =>
    have hall : selectAll memoryContainer tables = (.ok users.values, tables) := by
      refine (StoreM.bind_of_ok (h.execute rfl)).trans ?_
      rw [Query.answer_all]
      rfl
    rw [UserStore.perform, StoreM.bind_of_ok hall]
    exact ⟨rfl, h⟩
  | selectWhere filter =>
    have hwhere : selectWhere memoryContainer filter tables =
        (.ok (users.values.filter filter), tables) := by
      refine (StoreM.bind_of_ok (h.execute rfl)).trans ?_
      rw [Query.answer_filtered]
      rfl
    rw [UserStore.perform, StoreM.bind_of_ok hwhere]
    exact ⟨rfl, h⟩
  | firstOrNone filter =>
    have hfirst : firstOrNone memoryContainer filter tables =
        (.ok (users.values.filter filter).head?, tables) := by
      refine (StoreM.bind_of_ok (h.execute rfl)).trans ?_
      rw [Query.answer_firstOf]
      rfl
    rw [UserStore.perform, StoreM.bind_of_ok hfirst]
    exact ⟨rfl, h⟩
  | delete key => exact h.delete key

/-- **A run on the store in memory** is answered as the map answers it. -/
theorem Holds.run (h : Holds tables users) (calls : List Call) :
    (run memoryContainer calls tables).1 = (users.run calls).1 ∧
      Holds (run memoryContainer calls tables).2 (users.run calls).2 := by
  induction calls generalizing tables users with
  | nil => exact ⟨rfl, h⟩
  | cons call calls ih =>
    obtain ⟨hanswer, hstate⟩ := h.perform call
    obtain ⟨hanswers, hend⟩ := ih hstate
    refine ⟨?_, hend⟩
    rw [UserStore.run, Users.run, hanswer, hanswers]

/-! ### The store in a file -/

section Alike

variable {c : Container σ} {d : Container τ} {R : σ → τ → Prop}
  {p : RecordStore.Call → Prop}

/-- The calls on a container that a store makes: what it inserts is text. -/
def UsesText : RecordStore.Call → Prop
  | .insert _ _ payload => ∃ text, payload = Text.utf8 text
  | _ => True

theorem related_insert (h : c.Alike d R p) (hp : ∀ call, UsesText call → p call) (user : User) :
    StoreM.Related R (perform c (.insert user)) (perform d (.insert user)) := by
  obtain ⟨payload, htext, -, hinsert⟩ := insert_eq user
  rw [perform, perform, hinsert, hinsert]
  exact (h.insert (hp _ htext)).bind fun _ => StoreM.related_pure _

theorem related_execute (h : c.Alike d R p) (hp : ∀ call, UsesText call → p call)
    (q : Query User) : StoreM.Related R (execute c q) (execute d q) :=
  (h.select (hp _ trivial)).bind fun _ =>
    (StoreM.related_ofExcept _).bind fun _ => StoreM.related_pure _

/-- **Stores in containers that are alike are alike**, if they are so for payloads that are
texts. -/
theorem related_perform (h : c.Alike d R p) (hp : ∀ call, UsesText call → p call) (call : Call) :
    StoreM.Related R (perform c call) (perform d call) := by
  cases call with
  | init => exact (h.init (hp _ trivial)).bind fun _ => StoreM.related_pure _
  | insert user => exact related_insert h hp user
  | create user => exact related_insert h hp user
  | selectAll =>
    exact ((related_execute h hp _).bind fun _ => StoreM.related_pure _).bind fun _ =>
      StoreM.related_pure _
  | selectWhere filter =>
    exact ((related_execute h hp _).bind fun _ => StoreM.related_pure _).bind fun _ =>
      StoreM.related_pure _
  | firstOrNone filter =>
    exact ((related_execute h hp _).bind fun _ => StoreM.related_pure _).bind fun _ =>
      StoreM.related_pure _
  | delete key => exact (h.delete (hp _ trivial)).bind fun _ => StoreM.related_pure _

theorem related_run (h : c.Alike d R p) (hp : ∀ call, UsesText call → p call)
    (calls : List Call) {s : σ} {t : τ} (hst : R s t) :
    (run c calls s).1 = (run d calls t).1 ∧ R (run c calls s).2 (run d calls t).2 := by
  induction calls generalizing s t with
  | nil => exact ⟨rfl, hst⟩
  | cons call calls ih =>
    obtain ⟨hanswer, hstate⟩ := related_perform h hp call s t hst
    obtain ⟨hanswers, hend⟩ := ih hstate
    refine ⟨?_, hend⟩
    rw [run, run, hanswer, hanswers]

end Alike

/-! ### New stores -/

/-- **A new store**: in memory without tables, or in a file that may be created and that
holds no tables yet, with either encoding of payloads. -/
inductive Fresh : {σ : Type} → Container σ → σ → Prop
  | memory : Fresh memoryContainer .empty
  | file (c : FileContainer) (disk : Disk) (hcreate : c.config.createIfMissing = true)
    (hlock : disk.poisoned c.lock = false) (haccepts : disk.files.Accepts c.config.path)
    (hstart : c.StartsAs disk .empty) : Fresh c.container disk

/-- A run on a new store is answered as the empty map answers it, and leaves a table whose
payloads are read as the users of the map. -/
theorem Fresh.run {c : Container σ} {s : σ} (h : Fresh c s) (calls : List Call) :
    (run c calls s).1 = (Users.run .empty calls).1 ∧
      ∃ entries, (c.select table (run c calls s).2).1 = .ok entries ∧
        entries.mapM (Codec.decode User table) = .ok (Users.run .empty calls).2 := by
  obtain ⟨hanswers, hholds⟩ := holds_empty.run calls
  cases h with
  | memory => exact ⟨hanswers, _, rfl, hholds⟩
  | file c disk hcreate hlock haccepts hstart =>
    -- the file mirrors what the store in memory would hold
    have hmirrors : c.Mirrors disk .empty := ⟨hcreate, hlock, haccepts, hstart.storedTables⟩
    have htext : ∀ call, UsesText call → c.CanWrite call := by
      intro call hcall
      cases call with
      | init => trivial
      | select => trivial
      | insert table key payload => exact fun _ => hcall
      | delete => trivial
    obtain ⟨hsame, hend⟩ := related_run c.alike_memory htext calls hmirrors
    refine ⟨hsame.trans hanswers, _, ?_, hholds⟩
    exact congrArg Prod.fst (hend.select table)

/-- **The store of users is a map from identifiers to users.** Every run on a new store has
the answers of the empty map, where what is selected stands in ascending order of the
identifiers, byte by byte. And at every time the payload of each entry of the table is read
as a user whose identifier, and whose primary key, is the key of the entry. -/
theorem is_map {c : Container σ} {s : σ} (h : Fresh c s) (calls : List Call) :
    (run c calls s).1 = (Users.run .empty calls).1 ∧
    ((Users.run .empty calls).2.values.Pairwise fun u v => Text.utf8 u.id < Text.utf8 v.id) ∧
    (∀ user, user ∈ (Users.run .empty calls).2.values ↔
      (Users.run .empty calls).2.get? user.id = some user) ∧
    ∃ entries, (c.select table (run c calls s).2).1 = .ok entries ∧
      ∀ key payload, entries.get? key = some payload →
        ∃ user, Codec.decode User table key payload = .ok user ∧ user.id = key ∧
          Record.primaryKey user = key ∧ (Users.run .empty calls).2.get? key = some user := by
  have hkeyed := Users.keyed_empty.run calls
  obtain ⟨hanswers, entries, hselect, hdecode⟩ := h.run calls
  refine ⟨hanswers, hkeyed.pairwise_values, hkeyed.mem_values, entries, hselect, ?_⟩
  intro key payload hget
  -- under this key the map has what the payload is read as
  have hkey := SortedMap.get?_of_mapM hdecode key
  rw [hget] at hkey
  obtain ⟨user, huser, hpayload⟩ := Option.map_eq_some_iff.1 hkey
  exact ⟨user, hpayload.symm, hkeyed key user huser, hkeyed key user huser, huser⟩

/-- A run on a store in a file that does not exist yet. -/
theorem is_map_of_no_file :
    let c : FileContainer := { config := { path := "db", encoding := .text }, lock := 0 }
    let uma : User := { id := "üma", name := "Uma \"U\"", age := 4294967295 }
    Fresh c.container Disk.empty ∧
    (run c.container
      [.init, .insert uma, .create { uma with age := 0 }, .selectAll,
        .firstOrNone fun user => user.age = 0, .delete "üma", .delete "üma", .selectAll]
      Disk.empty).1 =
      [.ok .done, .ok .done, .error (.duplicateKey "User" "üma"), .ok (.users [uma]),
        .ok (.user none), .ok (.existed true), .ok (.existed false), .ok (.users [])] := by
  intro c uma
  obtain ⟨habsent, haccepts⟩ : FileTree.empty.read "db" = .error .notFound ∧
      FileTree.empty.Accepts "db" := FileTree.isName_db.of_free rfl
  have hfresh : Fresh c.container Disk.empty :=
    .file c .empty rfl rfl haccepts (.absent habsent)
  exact ⟨hfresh, (is_map hfresh _).1.trans rfl⟩

end UserStore

end RecordStore
