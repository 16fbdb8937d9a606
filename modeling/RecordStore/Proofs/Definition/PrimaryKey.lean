import RecordStore.Definition.PrimaryKey

/-!
# Which field is the primary key

The marked fields of a struct are listed with their positions (`RecordStore.mem_markedFrom`). A
struct has a primary key if one of its fields is marked, and that one is a string
(`RecordStore.StructDef.primaryKey_eq_ok_iff`).
-/

namespace RecordStore

variable {i : Nat} {f : FieldDef} {fields : List FieldDef}

theorem markedFrom_eq (start : Nat) (fields : List FieldDef) : markedFrom start fields =
    ((fields.zipIdx start).filter fun p => p.1.isPrimaryKey).map Prod.swap := by
  induction fields generalizing start with
  | nil => rfl
  | cons g rest ih =>
    rw [markedFrom, List.zipIdx_cons, List.filter_cons, ih]
    split <;> rfl

/-- **What is listed** are the marked fields, each with its position. -/
theorem mem_markedFrom :
    (i, f) ∈ markedFrom 0 fields ↔ fields[i]? = some f ∧ f.isPrimaryKey = true := by
  rw [markedFrom_eq, List.mem_map]
  constructor
  · rintro ⟨⟨g, j⟩, hmem, hswap⟩
    cases hswap
    obtain ⟨hmem, hmarked⟩ := List.mem_filter.1 hmem
    exact ⟨List.mem_zipIdx_iff_getElem?.1 hmem, hmarked⟩
  · rintro ⟨hget, hmarked⟩
    exact ⟨(f, i), List.mem_filter.2 ⟨List.mem_zipIdx_iff_getElem?.2 hget, hmarked⟩, rfl⟩

namespace StructDef

variable {s : StructDef}

theorem primaryKey_eq_ok_iff : s.primaryKey = .ok (i, f) ↔
    markedFrom 0 s.fields = [(i, f)] ∧ f.isString = true := by
  rw [primaryKey]
  constructor
  · intro h
    split at h
    · cases h
    · rename_i j g hmarked
      split at h
      · rename_i hstring
        cases h
        exact ⟨hmarked, hstring⟩
      · cases h
    · cases h
  · rintro ⟨hmarked, hstring⟩
    rw [hmarked]
    exact if_pos hstring

/-- The position of the primary key is that of its field. -/
theorem getElem?_of_primaryKey (h : s.primaryKey = .ok (i, f)) : s.fields[i]? = some f := by
  obtain ⟨hmarked, -⟩ := primaryKey_eq_ok_iff.1 h
  have hmem : (i, f) ∈ markedFrom 0 s.fields := by
    rw [hmarked]
    exact List.mem_singleton_self _
  exact (mem_markedFrom.1 hmem).1

end StructDef

end RecordStore
