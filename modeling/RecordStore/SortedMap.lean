/-!
# Ordered maps with text keys

A finite map from strings, kept as the list of its entries in ascending order of the keys. Strings
compare by code points, which is also the order of their UTF-8 bytes, so listing a map never
depends on how it was built: a map is determined by what it holds.
-/

namespace RecordStore

/-- **A finite map from strings**, its entries in strictly ascending order of the keys. -/
structure SortedMap (α : Type) where
  /-- The entries in ascending order of the keys. -/
  entries : List (String × α)
  /-- No key occurs twice, and the keys ascend. -/
  ascending : entries.Pairwise fun a b => a.1 < b.1

namespace SortedMap

variable {α β : Type}

theorem ext_entries {m n : SortedMap α} (h : m.entries = n.entries) : m = n := by
  cases m; cases n; cases h; rfl

instance [DecidableEq α] : DecidableEq (SortedMap α) := fun m n =>
  decidable_of_iff (m.entries = n.entries) ⟨ext_entries, fun h => h ▸ rfl⟩

/-! ### Building maps -/

/-- The map without entries. -/
def empty : SortedMap α := ⟨[], .nil⟩

instance : Inhabited (SortedMap α) := ⟨empty⟩

/-- Puts an entry into an ascending list, in place of one with the same key. -/
def insertEntry (key : String) (value : α) : List (String × α) → List (String × α)
  | [] => [(key, value)]
  | (k, v) :: rest =>
    if key < k then (key, value) :: (k, v) :: rest
    else if k < key then (k, v) :: insertEntry key value rest
    else (key, value) :: rest

theorem mem_insertEntry {key : String} {value : α} {l : List (String × α)} {e : String × α}
    (h : e ∈ insertEntry key value l) : e = (key, value) ∨ e ∈ l := by
  induction l with
  | nil => simp_all [insertEntry]
  | cons hd tl ih =>
    unfold insertEntry at h
    split at h
    · simpa using h
    · split at h
      · rcases List.mem_cons.1 h with h | h
        · exact Or.inr (by simp [h])
        · exact (ih h).imp_right (List.mem_cons_of_mem _)
      · rcases List.mem_cons.1 h with h | h
        · exact Or.inl h
        · exact Or.inr (List.mem_cons_of_mem _ h)

/-- Keys that compare neither way are equal. -/
theorem eq_of_not_lt {a b : String} (h₁ : ¬ a < b) (h₂ : ¬ b < a) : a = b :=
  String.le_antisymm (String.not_lt.1 h₂) (String.not_lt.1 h₁)

theorem pairwise_insertEntry (key : String) (value : α) {l : List (String × α)}
    (h : l.Pairwise fun a b => a.1 < b.1) :
    (insertEntry key value l).Pairwise fun a b => a.1 < b.1 := by
  induction l with
  | nil => simp [insertEntry]
  | cons hd tl ih =>
    obtain ⟨hd_lt, tl_asc⟩ := List.pairwise_cons.1 h
    unfold insertEntry
    split
    · rename_i hk
      refine List.pairwise_cons.2 ⟨fun e he => ?_, h⟩
      rcases List.mem_cons.1 he with rfl | he
      · exact hk
      · exact String.lt_trans hk (hd_lt e he)
    · split
      · rename_i hk
        refine List.pairwise_cons.2 ⟨fun e he => ?_, ih tl_asc⟩
        rcases mem_insertEntry he with rfl | he
        · exact hk
        · exact hd_lt e he
      · rename_i h₁ h₂
        obtain rfl := eq_of_not_lt h₁ h₂
        exact List.pairwise_cons.2 ⟨hd_lt, tl_asc⟩

/-- Adds an entry, in place of one with the same key. -/
def insert (m : SortedMap α) (key : String) (value : α) : SortedMap α :=
  ⟨insertEntry key value m.entries, pairwise_insertEntry key value m.ascending⟩

/-- The map with the given entries, of two with one key the later. -/
def ofList (l : List (String × α)) : SortedMap α :=
  l.foldl (fun m e => m.insert e.1 e.2) empty

/-- Removes the entry of a key, if there is one. -/
def erase (m : SortedMap α) (key : String) : SortedMap α :=
  ⟨m.entries.filter (·.1 != key), m.ascending.sublist List.filter_sublist⟩

/-- Applies a function to every value. -/
def map (f : α → β) (m : SortedMap α) : SortedMap β :=
  ⟨m.entries.map fun e => (e.1, f e.2), List.pairwise_map.2 m.ascending⟩

/-- The values of a list of entries through a function that may fail; the first failure wins. -/
def mapEntriesM {ε : Type} (f : String → α → Except ε β) :
    List (String × α) → Except ε (List (String × β))
  | [] => .ok []
  | (k, v) :: rest => do
    let v' ← f k v
    let rest' ← mapEntriesM f rest
    return (k, v') :: rest'

theorem keys_mapEntriesM {ε : Type} {f : String → α → Except ε β} {l : List (String × α)}
    {l' : List (String × β)} (h : mapEntriesM f l = .ok l') :
    l'.map Prod.fst = l.map Prod.fst := by
  induction l generalizing l' with
  | nil => cases h; rfl
  | cons hd tl ih =>
    obtain ⟨k, v⟩ := hd
    simp only [mapEntriesM, bind, Except.bind, pure, Except.pure] at h
    split at h
    · cases h
    · split at h
      · cases h
      · rename_i tl' htl
        cases h
        simp [ih htl]

/-- Applies a function that may fail to every value, in ascending order of the keys. -/
def mapM {ε : Type} (f : String → α → Except ε β) (m : SortedMap α) : Except ε (SortedMap β) :=
  match h : mapEntriesM f m.entries with
  | .error e => .error e
  | .ok l => .ok ⟨l, by
      have asc := m.ascending
      rw [← List.pairwise_map (f := Prod.fst) (R := (· < ·))] at asc ⊢
      rwa [keys_mapEntriesM h]⟩

/-! ### Looking at maps -/

/-- The value of a key. -/
def get? (m : SortedMap α) (key : String) : Option α := m.entries.lookup key

/-- Whether a key has a value. -/
def contains (m : SortedMap α) (key : String) : Bool := (m.get? key).isSome

/-- The keys in ascending order. -/
def keys (m : SortedMap α) : List String := m.entries.map Prod.fst

/-- The number of entries. -/
def size (m : SortedMap α) : Nat := m.entries.length

/-- Whether there is no entry. -/
def isEmpty (m : SortedMap α) : Bool := m.entries.isEmpty

end SortedMap

end RecordStore
