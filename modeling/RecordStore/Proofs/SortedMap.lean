import RecordStore.SortedMap

/-!
# What an ordered map holds

A map is determined by the values of its keys: two maps that give the same
answer for every key have the same entries, because both lists of entries ascend
(`RecordStore.SortedMap.ext_get?`). So every operation is described by what it
does to `RecordStore.SortedMap.get?`, and equations between maps are proved key
by key.

The one operation with more to say is `RecordStore.SortedMap.mapM`: it succeeds
exactly when the function succeeds on every entry, and the result holds under
each key what the function made of the value there
(`RecordStore.SortedMap.mapM_eq_ok_iff`).
-/

namespace RecordStore

namespace SortedMap

variable {α β : Type} {ε : Type}

/-! ### Values and entries -/

theorem lookup_cons_eq (k k' : String) (v : α) (l : List (String × α)) :
    ((k', v) :: l).lookup k = if k = k' then some v else l.lookup k := by
  rw [List.lookup_cons]
  by_cases h : k = k'
  · simp [h]
  · simp [h, beq_false_of_ne h]

theorem lookup_insertEntry (key k : String) (value : α) (l : List (String × α)) :
    (insertEntry key value l).lookup k = if k = key then some value else l.lookup k := by
  induction l with
  | nil => rw [insertEntry, lookup_cons_eq]
  | cons hd tl ih =>
    obtain ⟨k', v⟩ := hd
    unfold insertEntry
    split
    · -- the new entry stands in front of this one
      rw [lookup_cons_eq]
    · split
      · rename_i hlt
        have hne : key ≠ k' := fun he => String.lt_irrefl key (he ▸ hlt)
        rw [lookup_cons_eq, lookup_cons_eq, ih]
        by_cases h : k = key
        · rw [if_neg (h ▸ hne), if_pos h, if_pos h]
        · rw [if_neg h, if_neg h]
      · -- neither key is less, so the new entry takes the place of this one
        rename_i h₁ h₂
        obtain rfl := eq_of_not_lt h₁ h₂
        rw [lookup_cons_eq, lookup_cons_eq]
        by_cases h : k = key
        · rw [if_pos h, if_pos h]
        · rw [if_neg h, if_neg h, if_neg h]

theorem lookup_filter_ne (key k : String) (l : List (String × α)) :
    (l.filter (·.1 != key)).lookup k = if k = key then none else l.lookup k := by
  induction l with
  | nil => simp
  | cons hd tl ih =>
    obtain ⟨k', v⟩ := hd
    by_cases hk : k' = key
    · subst hk
      rw [List.filter_cons_of_neg (by simp), ih, lookup_cons_eq]
      by_cases h : k = k'
      · rw [if_pos h, if_pos h]
      · rw [if_neg h, if_neg h, if_neg h]
    · rw [List.filter_cons_of_pos (by simpa using hk), lookup_cons_eq, lookup_cons_eq, ih]
      by_cases h : k = key
      · rw [if_neg (h ▸ Ne.symm hk), if_pos h, if_pos h]
      · rw [if_neg h, if_neg h]

@[simp] theorem get?_empty (k : String) : (empty : SortedMap α).get? k = none := rfl

theorem get?_insert (m : SortedMap α) (key k : String) (value : α) :
    (m.insert key value).get? k = if k = key then some value else m.get? k :=
  lookup_insertEntry key k value m.entries

@[simp] theorem get?_insert_self (m : SortedMap α) (key : String) (value : α) :
    (m.insert key value).get? key = some value := by
  rw [get?_insert, if_pos rfl]

theorem getD_get?_insert (m : SortedMap α) (key k : String) (value d : α) :
    ((m.insert key value).get? k).getD d = if k = key then value else (m.get? k).getD d := by
  rw [get?_insert]
  split <;> rfl

theorem get?_erase (m : SortedMap α) (key k : String) :
    (m.erase key).get? k = if k = key then none else m.get? k :=
  lookup_filter_ne key k m.entries

@[simp] theorem get?_erase_self (m : SortedMap α) (key : String) :
    (m.erase key).get? key = none := by
  rw [get?_erase, if_pos rfl]

theorem contains_eq_true {m : SortedMap α} {k : String} :
    m.contains k = true ↔ ∃ v, m.get? k = some v := Option.isSome_iff_exists

theorem contains_eq_false {m : SortedMap α} {k : String} :
    m.contains k = false ↔ m.get? k = none :=
  Option.isSome_eq_false_iff.trans Option.isNone_iff_eq_none

theorem contains_insert (m : SortedMap α) (key k : String) (value : α) :
    (m.insert key value).contains k = (k == key || m.contains k) := by
  rw [contains, contains, get?_insert]
  by_cases h : k = key
  · simp [h]
  · simp [h]

/-- In an ascending list every entry is the one found under its key. -/
theorem lookup_eq_some_iff {l : List (String × α)} (h : l.Pairwise fun a b => a.1 < b.1)
    {k : String} {v : α} : l.lookup k = some v ↔ (k, v) ∈ l := by
  induction l with
  | nil => simp
  | cons hd tl ih =>
    obtain ⟨k', v'⟩ := hd
    obtain ⟨hd_lt, tl_asc⟩ := List.pairwise_cons.1 h
    rw [lookup_cons_eq, List.mem_cons]
    by_cases hk : k = k'
    · subst hk
      have hnot : (k, v) ∉ tl := fun hm => String.lt_irrefl k (hd_lt _ hm)
      simp [hnot, eq_comm]
    · simp [hk, ih tl_asc]

/-- The value of a key is what stands beside it in the entries. -/
theorem get?_eq_some_iff {m : SortedMap α} {k : String} {v : α} :
    m.get? k = some v ↔ (k, v) ∈ m.entries := lookup_eq_some_iff m.ascending

/-- Ascending lists with the same entries are equal. -/
theorem eq_of_mem_iff {l l' : List (String × α)} (h : l.Pairwise fun a b => a.1 < b.1)
    (h' : l'.Pairwise fun a b => a.1 < b.1) (hm : ∀ e, e ∈ l ↔ e ∈ l') : l = l' := by
  induction l generalizing l' with
  | nil =>
    cases l' with
    | nil => rfl
    | cons e tl => exact absurd ((hm e).2 (by simp)) (by simp)
  | cons e tl ih =>
    cases l' with
    | nil => exact absurd ((hm e).1 (by simp)) (by simp)
    | cons e' tl' =>
      obtain ⟨e_lt, tl_asc⟩ := List.pairwise_cons.1 h
      obtain ⟨e_lt', tl_asc'⟩ := List.pairwise_cons.1 h'
      -- each head is the least entry of its list, so each is at most the other
      have he : e = e' := by
        rcases List.mem_cons.1 ((hm e).1 (by simp)) with he | he
        · exact he
        · rcases List.mem_cons.1 ((hm e').2 (by simp)) with he' | he'
          · exact he'.symm
          · exact absurd (String.lt_trans (e_lt _ he') (e_lt' _ he)) (String.lt_irrefl _)
      subst he
      refine congrArg (e :: ·) (ih tl_asc tl_asc' fun x => ?_)
      have hx := hm x
      rw [List.mem_cons, List.mem_cons] at hx
      constructor
      · intro hxt
        refine (hx.1 (Or.inr hxt)).resolve_left ?_
        rintro rfl
        exact String.lt_irrefl _ (e_lt _ hxt)
      · intro hxt
        refine (hx.2 (Or.inr hxt)).resolve_left ?_
        rintro rfl
        exact String.lt_irrefl _ (e_lt' _ hxt)

/-- **A map is determined by the values of its keys.** -/
theorem ext_get? {m n : SortedMap α} (h : ∀ k, m.get? k = n.get? k) : m = n := by
  refine ext_entries (eq_of_mem_iff m.ascending n.ascending ?_)
  rintro ⟨k, v⟩
  rw [← get?_eq_some_iff, ← get?_eq_some_iff, h]

theorem eq_empty_of_isEmpty {m : SortedMap α} (h : m.isEmpty = true) : m = empty :=
  ext_entries (List.isEmpty_iff.1 h)

theorem isEmpty_insert (m : SortedMap α) (key : String) (value : α) :
    (m.insert key value).isEmpty = false := by
  cases h : (m.insert key value).isEmpty with
  | false => rfl
  | true =>
    have hget := get?_insert_self m key value
    rw [eq_empty_of_isEmpty h] at hget
    cases hget

/-- Erasing a key that is not there changes nothing. -/
theorem erase_of_contains_eq_false {m : SortedMap α} {k : String} (h : m.contains k = false) :
    m.erase k = m := by
  refine ext_get? fun k' => ?_
  rw [get?_erase]
  split
  · rename_i hk
    rw [hk, contains_eq_false.1 h]
  · rfl

/-- Putting back what a key has already changes nothing. -/
theorem insert_of_get? {m : SortedMap α} {k : String} {v : α} (h : m.get? k = some v) :
    m.insert k v = m := by
  refine ext_get? fun k' => ?_
  rw [get?_insert]
  split
  · rename_i hk
    rw [hk, h]
  · rfl

@[simp] theorem insert_insert (m : SortedMap α) (k : String) (v w : α) :
    (m.insert k v).insert k w = m.insert k w := by
  refine ext_get? fun k' => ?_
  by_cases h : k' = k <;> simp [get?_insert, h]

/-! ### Keys -/

theorem mem_keys_iff {m : SortedMap α} {k : String} : k ∈ m.keys ↔ m.contains k = true := by
  rw [contains_eq_true, keys, List.mem_map]
  constructor
  · rintro ⟨⟨_, v⟩, hmem, rfl⟩
    exact ⟨v, get?_eq_some_iff.2 hmem⟩
  · rintro ⟨v, hv⟩
    exact ⟨(k, v), get?_eq_some_iff.1 hv, rfl⟩

/-- The keys ascend, and none occurs twice. -/
theorem pairwise_keys (m : SortedMap α) : m.keys.Pairwise (· < ·) :=
  List.pairwise_map.2 m.ascending

/-! ### Rebuilding a map from its entries -/

theorem insertEntry_of_forall_lt {key : String} {value : α} {l : List (String × α)}
    (h : ∀ e ∈ l, e.1 < key) : insertEntry key value l = l ++ [(key, value)] := by
  induction l with
  | nil => rfl
  | cons hd tl ih =>
    have hlt : hd.1 < key := h hd (by simp)
    rw [insertEntry, if_neg (String.lt_asymm hlt), if_pos hlt,
      ih fun e he => h e (List.mem_cons_of_mem _ he), List.cons_append]

theorem entries_foldl_insert (m : SortedMap α) {l : List (String × α)}
    (h : (m.entries ++ l).Pairwise fun a b => a.1 < b.1) :
    (l.foldl (fun m e => m.insert e.1 e.2) m).entries = m.entries ++ l := by
  induction l generalizing m with
  | nil => simp
  | cons hd tl ih =>
    have hlast : (m.insert hd.1 hd.2).entries = m.entries ++ [hd] :=
      insertEntry_of_forall_lt fun e he =>
        (List.pairwise_append.1 h).2.2 e he hd (by simp)
    rw [List.foldl_cons, ih _ (by rw [hlast]; simpa using h), hlast]
    simp

/-- **The entries of a map make up the map again.** -/
theorem ofList_entries (m : SortedMap α) : ofList m.entries = m :=
  ext_entries ((entries_foldl_insert empty (by simpa [empty] using m.ascending)).trans
    (by simp [empty]))

/-! ### Functions that may fail -/

theorem mapM_eq_ok_iff_entries {f : String → α → Except ε β} {m : SortedMap α}
    {n : SortedMap β} : m.mapM f = .ok n ↔ mapEntriesM f m.entries = .ok n.entries := by
  unfold mapM
  split
  · rename_i he
    simp [he]
  · rename_i l hl
    constructor
    · intro h
      cases h
      exact hl
    · intro h
      exact congrArg Except.ok (ext_entries (Except.ok.inj (hl.symm.trans h)))

/-- A failure is that of one of the values. -/
theorem exists_error_of_mapM {f : String → α → Except ε β} {m : SortedMap α} {e : ε}
    (h : m.mapM f = .error e) : ∃ k v, f k v = .error e := by
  have hentries : mapEntriesM f m.entries = .error e := by
    unfold mapM at h
    split at h
    · rename_i he
      exact he.trans (congrArg _ (Except.error.inj h))
    · cases h
  generalize m.entries = l at hentries
  induction l with
  | nil => cases hentries
  | cons hd tl ih =>
    obtain ⟨k, v⟩ := hd
    simp only [mapEntriesM, bind, Except.bind, pure, Except.pure] at hentries
    split at hentries
    · rename_i hv
      exact ⟨k, v, hv.trans (congrArg _ (Except.error.inj hentries))⟩
    · split at hentries
      · rename_i hrest
        exact ih (hrest.trans (congrArg _ (Except.error.inj hentries)))
      · cases hentries

/-- The values that a successful function makes of entries, key by key. -/
theorem lookup_mapEntriesM {f : String → α → Except ε β} {l : List (String × α)}
    {l' : List (String × β)} (h : mapEntriesM f l = .ok l') (k : String) :
    (l'.lookup k).map Except.ok = (l.lookup k).map (f k) := by
  induction l generalizing l' with
  | nil => cases h; rfl
  | cons hd tl ih =>
    obtain ⟨k', v⟩ := hd
    simp only [mapEntriesM, bind, Except.bind, pure, Except.pure] at h
    split at h
    · cases h
    · rename_i w hw
      split at h
      · cases h
      · rename_i tl' htl
        cases h
        rw [lookup_cons_eq, lookup_cons_eq]
        by_cases hk : k = k'
        · rw [if_pos hk, if_pos hk, hk, Option.map_some, Option.map_some, hw]
        · rw [if_neg hk, if_neg hk, ih htl]

theorem mapEntriesM_isOk {f : String → α → Except ε β} {l : List (String × α)}
    (h : ∀ e ∈ l, ∃ w, f e.1 e.2 = .ok w) : ∃ l', mapEntriesM f l = .ok l' := by
  induction l with
  | nil => exact ⟨[], rfl⟩
  | cons hd tl ih =>
    obtain ⟨k, v⟩ := hd
    obtain ⟨w, hw⟩ := h (k, v) (by simp)
    obtain ⟨tl', htl⟩ := ih fun e he => h e (List.mem_cons_of_mem _ he)
    refine ⟨(k, w) :: tl', ?_⟩
    simp only [mapEntriesM, bind, Except.bind, pure, Except.pure]
    rw [hw, htl]

/-- Under each key a successful function leaves what it makes of the value. -/
theorem get?_of_mapM {f : String → α → Except ε β} {m : SortedMap α} {n : SortedMap β}
    (h : m.mapM f = .ok n) (k : String) : (n.get? k).map Except.ok = (m.get? k).map (f k) :=
  lookup_mapEntriesM (mapM_eq_ok_iff_entries.1 h) k

/-- **A function succeeds on a map exactly when it does on every entry.** -/
theorem exists_mapM_eq_ok_iff {f : String → α → Except ε β} {m : SortedMap α} :
    (∃ n, m.mapM f = .ok n) ↔ ∀ k v, m.get? k = some v → ∃ w, f k v = .ok w := by
  constructor
  · rintro ⟨n, h⟩ k v hv
    have hk := get?_of_mapM h k
    rw [hv, Option.map_some] at hk
    obtain ⟨w, -, hw⟩ := Option.map_eq_some_iff.1 hk
    exact ⟨w, hw.symm⟩
  · intro h
    obtain ⟨l', hl'⟩ := mapEntriesM_isOk (l := m.entries) fun e he =>
      h e.1 e.2 (get?_eq_some_iff.2 he)
    unfold mapM
    split
    · rename_i he
      rw [hl'] at he
      cases he
    · exact ⟨_, rfl⟩

/-- **What a function makes of a map** is the map that holds, under each key, what the
function makes of the value there. -/
theorem mapM_eq_ok_iff {f : String → α → Except ε β} {m : SortedMap α} {n : SortedMap β} :
    m.mapM f = .ok n ↔ ∀ k, (n.get? k).map Except.ok = (m.get? k).map (f k) := by
  refine ⟨fun h k => get?_of_mapM h k, fun h => ?_⟩
  have hall : ∀ k v, m.get? k = some v → ∃ w, f k v = .ok w := by
    intro k v hv
    have hk := h k
    rw [hv, Option.map_some] at hk
    obtain ⟨w, -, hw⟩ := Option.map_eq_some_iff.1 hk
    exact ⟨w, hw.symm⟩
  obtain ⟨n', hn'⟩ := exists_mapM_eq_ok_iff.2 hall
  rw [hn']
  -- the result has the values that `n` is said to have, so it is `n`
  refine congrArg Except.ok (ext_get? fun k => ?_)
  have hk := (get?_of_mapM hn' k).trans (h k).symm
  cases hl : n'.get? k <;> cases hr : n.get? k <;> simp_all

section MapM

variable {f : String → α → Except ε β} {m : SortedMap α} {n : SortedMap β}

theorem contains_of_mapM (h : m.mapM f = .ok n) (k : String) : n.contains k = m.contains k := by
  have hk := get?_of_mapM h k
  rw [contains, contains]
  cases hm : m.get? k with
  | none =>
    rw [hm] at hk
    rw [Option.map_eq_none_iff.1 hk]
    rfl
  | some v =>
    rw [hm] at hk
    obtain ⟨w, hw, -⟩ := Option.map_eq_some_iff.1 hk
    rw [hw]
    rfl

/-- A function that succeeds on one more entry makes one more entry of it. -/
theorem mapM_insert (h : m.mapM f = .ok n) {k : String} {v : α} {w : β} (hv : f k v = .ok w) :
    (m.insert k v).mapM f = .ok (n.insert k w) := by
  refine mapM_eq_ok_iff.2 fun k' => ?_
  rw [get?_insert, get?_insert]
  split
  · rename_i hk
    rw [hk, Option.map_some, Option.map_some, hv]
  · exact get?_of_mapM h k'

theorem mapM_erase (h : m.mapM f = .ok n) (k : String) :
    (m.erase k).mapM f = .ok (n.erase k) := by
  refine mapM_eq_ok_iff.2 fun k' => ?_
  rw [get?_erase, get?_erase]
  split
  · rfl
  · exact get?_of_mapM h k'

/-- What takes back a function on each value takes it back on the map. -/
theorem mapM_of_mapM {ε' : Type} {g : String → β → Except ε' α} (h : m.mapM f = .ok n)
    (hback : ∀ k v w, f k v = .ok w → g k w = .ok v) : n.mapM g = .ok m := by
  refine mapM_eq_ok_iff.2 fun k => ?_
  have hk := get?_of_mapM h k
  cases hm : m.get? k with
  | none =>
    rw [hm] at hk
    rw [Option.map_eq_none_iff.1 hk]
    rfl
  | some v =>
    rw [hm] at hk
    obtain ⟨w, hw, heq⟩ := Option.map_eq_some_iff.1 hk
    rw [hw, Option.map_some, Option.map_some, hback k v w heq.symm]

/-- A function on the values of the maps in a map, seen at one of them; a map that is not there
counts as empty. -/
theorem mapM_getD_get? {g : String → String → α → Except ε β} {m : SortedMap (SortedMap α)}
    {n : SortedMap (SortedMap β)} (h : m.mapM (fun k inner => inner.mapM (g k)) = .ok n)
    (k : String) :
    ((m.get? k).getD .empty).mapM (g k) = .ok ((n.get? k).getD .empty) := by
  have hk := get?_of_mapM h k
  cases hm : m.get? k with
  | none =>
    rw [hm] at hk
    rw [Option.map_eq_none_iff.1 hk]
    rfl
  | some inner =>
    rw [hm] at hk
    obtain ⟨inner', hn, heq⟩ := Option.map_eq_some_iff.1 hk
    rw [hn]
    exact heq.symm

end MapM

end SortedMap

end RecordStore
