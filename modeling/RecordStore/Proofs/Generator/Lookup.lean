import Mathlib.Data.List.Nodup
import RecordStore.Proofs.Definition.PrimaryKey
import RecordStore.Proofs.Generator.Context

/-!
# What is found is the only candidate

A struct is looked up by its name, and its key by the marker. Both take an element of a list
exactly if no other one could have been meant (`RecordStore.OnlyAt`), and both tell the three ways
apart in which there is none to take: without any candidate, with several, and, for a struct, in a
file that has none at all, or for a key, with the only candidate of another type.

The errors are described by what is in the list (`RecordStore.SourceFile.LookupFault`,
`RecordStore.StructDef.KeyFault`), whatever the order in which the search looks at it. What ties
them to the search is that a list of candidates has one element exactly if it is that of the only
candidate (`RecordStore.candidates_eq_singleton_iff`).
-/

namespace RecordStore

/-! ### Candidates -/

section Candidates

variable {α : Type} {p : α → Bool} {xs : List α} {i : Nat} {a : α}

/-- **The only candidate of a list**: an element that has a property, at a position, which no
element at another position has. -/
structure OnlyAt (p : α → Bool) (xs : List α) (i : Nat) (a : α) : Prop where
  /-- The element stands at the position. -/
  stands : xs[i]? = some a
  /-- It has the property. -/
  meant : p a = true
  /-- Wherever an element has the property, it is at this position. -/
  alone : ∀ j b, xs[j]? = some b → p b = true → j = i

/-- The candidates of a list with their positions. -/
def candidates (p : α → Bool) (xs : List α) : List (α × Nat) := xs.zipIdx.filter fun x => p x.1

theorem mem_candidates : (a, i) ∈ candidates p xs ↔ xs[i]? = some a ∧ p a = true := by
  rw [candidates, List.mem_filter, List.mem_zipIdx_iff_getElem?]

theorem map_fst_candidates (p : α → Bool) (xs : List α) :
    (candidates p xs).map Prod.fst = xs.filter p := by
  rw [candidates, ← List.zipIdx_map_fst 0 xs, List.filter_map, List.zipIdx_map_fst]
  rfl

theorem nodup_candidates (p : α → Bool) (xs : List α) : (candidates p xs).Nodup := by
  refine List.Nodup.filter _ (List.Nodup.of_map Prod.snd ?_)
  rw [List.zipIdx_map_snd]
  exact List.nodup_range'

/-- **There is one candidate** exactly if it is the only one. -/
theorem candidates_eq_singleton_iff : candidates p xs = [(a, i)] ↔ OnlyAt p xs i a := by
  constructor
  · intro h
    have hmem {j : Nat} {b : α} : xs[j]? = some b ∧ p b = true ↔ (b, j) = (a, i) := by
      rw [← mem_candidates, h, List.mem_singleton]
    obtain ⟨hstands, hmeant⟩ := hmem.2 rfl
    exact ⟨hstands, hmeant, fun j b hj hb => congrArg Prod.snd (hmem.1 ⟨hj, hb⟩)⟩
  · rintro ⟨hstands, hmeant, halone⟩
    -- no position is listed twice, so it is enough to look at what is listed
    refine List.perm_singleton.1 ((List.perm_ext_iff_of_nodup (nodup_candidates p xs)
      (List.nodup_singleton _)).2 fun ⟨b, j⟩ => ?_)
    rw [mem_candidates, List.mem_singleton]
    constructor
    · rintro ⟨hj, hb⟩
      obtain rfl := halone j b hj hb
      rw [hstands] at hj
      cases hj
      rfl
    · rintro h
      cases h
      exact ⟨hstands, hmeant⟩

theorem filter_eq_singleton_iff : xs.filter p = [a] ↔ ∃ i, OnlyAt p xs i a := by
  rw [← map_fst_candidates, List.map_eq_singleton_iff]
  constructor
  · rintro ⟨⟨b, i⟩, h, rfl⟩
    exact ⟨i, candidates_eq_singleton_iff.1 h⟩
  · rintro ⟨i, h⟩
    exact ⟨(a, i), candidates_eq_singleton_iff.2 h, rfl⟩

end Candidates

/-! ### Structs by name -/

namespace SourceFile

variable {source : SourceFile} {name : String}

/-- **Why no struct is found under a name.** -/
inductive LookupFault (source : SourceFile) (name : String) : GenerateError → Prop
  /-- The file has no struct. -/
  | noStructs (h : source.structs = []) : LookupFault source name (.noStructs source.path)
  /-- It has structs, but none of this name. -/
  | structNotFound (hne : source.structs ≠ []) (h : ∀ s ∈ source.structs, s.name ≠ name) :
      LookupFault source name (.structNotFound name source.path)
  /-- It has several of this name; they are counted. -/
  | ambiguousStruct (h : 2 ≤ source.structs.countP (·.name == name)) :
      LookupFault source name
        (.ambiguousStruct name source.path (source.structs.countP (·.name == name)))

theorem length_named : (source.named name).length = source.structs.countP (·.name == name) :=
  List.countP_eq_length_filter.symm

theorem find_eq_ok_iff_onlyAt {struct : StructDef} :
    source.find name = .ok struct ↔ ∃ i, OnlyAt (·.name == name) source.structs i struct :=
  find_eq_ok_iff.trans filter_eq_singleton_iff

theorem find_eq_error_iff_lookupFault {e : GenerateError} :
    source.find name = .error e ↔ LookupFault source name e := by
  rw [find]
  cases hstructs : source.structs with
  | nil =>
    constructor
    · intro h
      cases h
      exact .noStructs hstructs
    · rintro (_ | ⟨hne, _⟩ | h)
      · rfl
      · exact absurd hstructs hne
      · rw [hstructs] at h
        cases h
  | cons s rest =>
    have hne : source.structs ≠ [] := hstructs ▸ List.cons_ne_nil s rest
    simp only [List.isEmpty_cons, Bool.false_eq_true, if_false]
    -- how many structs have the name decides
    rcases hnamed : source.named name with _ | ⟨found, _ | ⟨other, more⟩⟩
    · have hnone := named_eq_nil_iff.1 hnamed
      constructor
      · intro h
        cases h
        exact .structNotFound hne hnone
      · rintro (hnil | _ | h)
        · exact absurd hnil hne
        · rfl
        · rw [← length_named, hnamed] at h
          cases h
    · constructor
      · intro h
        cases h
      · rintro (hnil | ⟨_, hnone⟩ | h)
        · exact absurd hnil hne
        · rw [named_eq_nil_iff.2 hnone] at hnamed
          cases hnamed
        · rw [← length_named, hnamed] at h
          simp at h
    · have hlength : (found :: other :: more).length =
          source.structs.countP (·.name == name) := by
        rw [← hnamed, length_named]
      constructor
      · intro h
        cases h
        rw [hlength]
        exact .ambiguousStruct (by rw [← hlength]; simp)
      · rintro (hnil | ⟨_, hnone⟩ | _)
        · exact absurd hnil hne
        · rw [named_eq_nil_iff.2 hnone] at hnamed
          cases hnamed
        · exact congrArg Except.error
            (congrArg (GenerateError.ambiguousStruct name source.path) hlength)

end SourceFile

/-! ### Fields by their marker -/

namespace StructDef

variable {s : StructDef} {i : Nat} {f : FieldDef}

/-- **Why a struct has no primary key.** -/
inductive KeyFault (s : StructDef) : PrimaryKeyError → Prop
  /-- No field is marked. -/
  | noPrimaryKey (h : ∀ f ∈ s.fields, f.isPrimaryKey = false) : KeyFault s (.noPrimaryKey s.name)
  /-- Several fields are marked, of whatever types; they are named in order. -/
  | ambiguous (h : 2 ≤ s.fields.countP (·.isPrimaryKey)) :
      KeyFault s (.ambiguous s.name ((s.fields.filter (·.isPrimaryKey)).map (·.name)))
  /-- The one marked field is not a string. -/
  | invalidType {i : Nat} {f : FieldDef} (h : OnlyAt (·.isPrimaryKey) s.fields i f)
      (htype : f.isString = false) : KeyFault s (.invalidType s.name f.name f.type)

theorem markedFrom_eq_map_swap (fields : List FieldDef) :
    markedFrom 0 fields = (candidates (·.isPrimaryKey) fields).map Prod.swap :=
  markedFrom_eq 0 fields

theorem map_snd_markedFrom (fields : List FieldDef) :
    (markedFrom 0 fields).map Prod.snd = fields.filter (·.isPrimaryKey) := by
  rw [markedFrom_eq_map_swap, List.map_map, ← map_fst_candidates]
  rfl

theorem markedFrom_eq_nil_iff {fields : List FieldDef} :
    markedFrom 0 fields = [] ↔ ∀ f ∈ fields, f.isPrimaryKey = false := by
  rw [← List.map_eq_nil_iff (f := Prod.snd), map_snd_markedFrom, List.filter_eq_nil_iff]
  simp only [Bool.not_eq_true]

theorem markedFrom_eq_singleton_iff {fields : List FieldDef} :
    markedFrom 0 fields = [(i, f)] ↔ OnlyAt (·.isPrimaryKey) fields i f := by
  rw [← candidates_eq_singleton_iff, markedFrom_eq_map_swap, List.map_eq_singleton_iff]
  constructor
  · rintro ⟨⟨g, j⟩, h, heq⟩
    cases heq
    exact h
  · intro h
    exact ⟨(f, i), h, rfl⟩

theorem length_markedFrom (fields : List FieldDef) :
    (markedFrom 0 fields).length = fields.countP (·.isPrimaryKey) := by
  rw [List.countP_eq_length_filter, ← map_snd_markedFrom, List.length_map]

theorem primaryKey_eq_ok_iff_onlyAt : s.primaryKey = .ok (i, f) ↔
    OnlyAt (·.isPrimaryKey) s.fields i f ∧ f.isString = true := by
  rw [primaryKey_eq_ok_iff, markedFrom_eq_singleton_iff]

theorem primaryKey_eq_error_iff_keyFault {e : PrimaryKeyError} :
    s.primaryKey = .error e ↔ KeyFault s e := by
  rw [primaryKey]
  -- how many fields are marked decides, and for one of them its type
  rcases hmarked : markedFrom 0 s.fields with _ | ⟨⟨i, f⟩, _ | ⟨other, more⟩⟩
  · constructor
    · intro h
      cases h
      exact .noPrimaryKey (markedFrom_eq_nil_iff.1 hmarked)
    · rintro (_ | h | ⟨h, _⟩)
      · rfl
      · rw [← length_markedFrom, hmarked] at h
        cases h
      · rw [markedFrom_eq_singleton_iff.2 h] at hmarked
        cases hmarked
  · have honly := markedFrom_eq_singleton_iff.1 hmarked
    constructor
    · intro h
      dsimp only at h
      split at h
      · cases h
      · rename_i hstring
        cases h
        exact .invalidType honly (Bool.not_eq_true _ ▸ hstring)
    · rintro (h | h | ⟨h, htype⟩)
      · rw [markedFrom_eq_nil_iff.2 h] at hmarked
        cases hmarked
      · rw [← length_markedFrom, hmarked] at h
        simp at h
      · rw [markedFrom_eq_singleton_iff.2 h] at hmarked
        cases hmarked
        simp [htype]
  · have hnames : ((i, f) :: other :: more).map (·.2.name) =
        (s.fields.filter (·.isPrimaryKey)).map (·.name) := by
      rw [← map_snd_markedFrom, hmarked, List.map_map]
      rfl
    constructor
    · intro h
      cases h
      rw [hnames]
      exact .ambiguous (by rw [← length_markedFrom, hmarked]; simp)
    · rintro (h | _ | ⟨h, _⟩)
      · rw [markedFrom_eq_nil_iff.2 h] at hmarked
        cases hmarked
      · exact congrArg Except.error (congrArg (PrimaryKeyError.ambiguous s.name) hnames)
      · rw [markedFrom_eq_singleton_iff.2 h] at hmarked
        cases hmarked

end StructDef

/-- **Lookup by name and by marker selects the only candidate**: a struct is found exactly if it is
the only one of the name, a key exactly if its field is the only one that is marked, and is a
string; the key comes with its field and the position of it. Otherwise the error tells what is
there instead. -/
theorem found_iff_onlyAt :
    (∀ (source : SourceFile) (name : String),
      (∀ struct, source.find name = .ok struct ↔
        ∃ i, OnlyAt (·.name == name) source.structs i struct) ∧
      ∀ e, source.find name = .error e ↔ source.LookupFault name e) ∧
    ∀ s : StructDef,
      (∀ i f, s.primaryKey = .ok (i, f) ↔
        OnlyAt (·.isPrimaryKey) s.fields i f ∧ f.isString = true) ∧
      ∀ e, s.primaryKey = .error e ↔ s.KeyFault e := by
  refine ⟨fun source name => ⟨fun struct => ?_, fun e => ?_⟩,
    fun s => ⟨fun i f => ?_, fun e => ?_⟩⟩
  · exact SourceFile.find_eq_ok_iff_onlyAt
  · exact SourceFile.find_eq_error_iff_lookupFault
  · exact StructDef.primaryKey_eq_ok_iff_onlyAt
  · exact StructDef.primaryKey_eq_error_iff_keyFault

end RecordStore
