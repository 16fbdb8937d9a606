import RecordStore.Proofs.Derive

/-!
# Where the errors of a derivation point

An error about the primary key comes with the part of the declaration that it is about. The key is
resolved among definitions, so there has to be a way back to the fields that are declared. For the
second of several marked fields it goes by position, which is always right
(`RecordStore.Source.StructItem.filter_zip`). For a key that is no string it goes by name, and ends
at the first field of that name (`RecordStore.Source.StructItem.find?_definedFields`). Names may be
repeated in a declaration, and then this is not the key.

So an error points at what is at fault unless a field before the key has the name of the key. In
that case it points at the type of the first such field (`RecordStore.derive_error_span`).
-/

namespace RecordStore

open Source

namespace StructDef

variable {s : StructDef} {e : PrimaryKeyError}

/-- Why a struct has no primary key can be told from the list of its marked fields. -/
theorem marked_of_primaryKey_error (h : s.primaryKey = .error e) :
    (markedFrom 0 s.fields = [] ∧ e = .noPrimaryKey s.name) ∨
    (∃ i f, markedFrom 0 s.fields = [(i, f)] ∧ e = .invalidType s.name f.name f.type) ∨
    ∃ p q more, markedFrom 0 s.fields = p :: q :: more ∧
      e = .ambiguous s.name ((p :: q :: more).map (·.2.name)) := by
  rw [primaryKey] at h
  split at h
  · rename_i hmarked
    cases h
    exact Or.inl ⟨hmarked, rfl⟩
  · rename_i i f hmarked
    split at h
    · cases h
    · cases h
      exact Or.inr (Or.inl ⟨i, f, hmarked, rfl⟩)
  · rename_i hnone hone
    cases h
    rcases hmarked : markedFrom 0 s.fields with _ | ⟨⟨i, f⟩, _ | ⟨q, more⟩⟩
    · exact absurd hmarked hnone
    · exact absurd hmarked (hone i f)
    · exact Or.inr (Or.inr ⟨(i, f), q, more, rfl, rfl⟩)

end StructDef

namespace Source.StructItem

variable {s : StructItem} {i : Nat} {name : String} {field : Field}

/-! ### Fields and their definitions -/

/-- The positions of the marked fields, in order of declaration. -/
def keyPositions (s : StructItem) : List Nat :=
  (markedFrom 0 (StructDef.ofItem s).fields).map Prod.fst

/-- The name that a field has in the definition of the struct. -/
def nameAt (s : StructItem) (i : Nat) : Option String :=
  (StructDef.ofItem s).fields[i]?.map FieldDef.name

theorem getElem?_definedFields (s : StructItem) (i : Nat) :
    s.definedFields[i]? = s.fields[i]?.map fun field => (FieldDef.ofField i field, field) := by
  rw [definedFields, List.zip_eq_zipWith, List.getElem?_zipWith]
  simp only [StructDef.ofItem, List.getElem?_mapIdx]
  cases s.fields[i]? with
  | none => rfl
  | some field => rfl

theorem nameAt_eq (s : StructItem) (i : Nat) :
    s.nameAt i = s.fields[i]?.map fun field => (FieldDef.ofField i field).name := by
  simp only [nameAt, StructDef.ofItem, List.getElem?_mapIdx, Option.map_map]
  rfl

/-- **The way back by position.** In a walk through definitions and fields together, the marked
ones come with the fields at the listed positions. -/
theorem filter_zip (before : List Field) {defs : List FieldDef} {fields : List Field}
    (h : defs.length = fields.length) :
    ((defs.zip fields).filter (·.1.isPrimaryKey)).map (fun p => some p.2) =
      (markedFrom before.length defs).map fun p => (before ++ fields)[p.1]? := by
  induction defs generalizing before fields with
  | nil => rfl
  | cons d defs ih =>
    obtain ⟨field, fields, rfl⟩ := List.exists_cons_of_length_eq_add_one h.symm
    -- with the field put behind those before it, the positions of the others stay what they are
    have hrest := ih (before ++ [field]) (Nat.succ.inj h)
    rw [List.length_append, List.length_singleton, List.append_assoc, List.singleton_append]
      at hrest
    have hfield : (before ++ field :: fields)[before.length]? = some field := by simp
    rw [List.zip_cons_cons, List.filter_cons, markedFrom]
    split
    · rw [List.map_cons, List.map_cons, hrest, hfield]
    · exact hrest

theorem filter_definedFields (s : StructItem) :
    (s.definedFields.filter (·.1.isPrimaryKey)).map (fun p => some p.2) =
      s.keyPositions.map fun i => s.fields[i]? := by
  have hlength : (StructDef.ofItem s).fields.length = s.fields.length := List.length_mapIdx
  rw [definedFields, filter_zip [] hlength, keyPositions, List.map_map]
  rfl

/-- **The way back by name** ends at the first field of that name. -/
theorem find?_definedFields (hfield : s.fields[i]? = some field) (hname : s.nameAt i = some name)
    (hfirst : ∀ j < i, s.nameAt j ≠ some name) :
    s.definedFields.find? (·.1.name == name) = some (FieldDef.ofField i field, field) := by
  have hdefined := getElem?_definedFields s i
  rw [hfield, Option.map_some] at hdefined
  obtain ⟨hlt, hget⟩ := List.getElem?_eq_some_iff.1 hdefined
  rw [nameAt_eq, hfield, Option.map_some, Option.some.injEq] at hname
  refine List.find?_eq_some_iff_getElem.2 ⟨beq_iff_eq.2 hname, i, hlt, hget, fun j hj => ?_⟩
  have hbefore := hfirst j hj
  have hdefined := getElem?_definedFields s j
  rw [List.getElem?_eq_getElem (hj.trans hlt)] at hdefined
  cases hold : s.fields[j]? with
  | none =>
    rw [hold] at hdefined
    cases hdefined
  | some earlier =>
    rw [hold, Option.map_some, Option.some.injEq] at hdefined
    rw [nameAt_eq, hold, Option.map_some, ne_eq, Option.some.injEq] at hbefore
    rw [hdefined, Bool.not_eq_true', beq_eq_false_iff_ne]
    exact hbefore

/-! ### What is at fault -/

/-- **The part of a struct that is at fault** when it has no primary key: the name of the struct,
the whole of the second marked field, or the type of the only one. -/
inductive AtFault (s : StructItem) : PrimaryKeyError → Span → Prop
  | struct (h : s.keyPositions = []) : s.AtFault (.noPrimaryKey s.name.text) s.nameSpan
  | second {i j : Nat} {more : List Nat} {field : Field} {names : List String}
      (h : s.keyPositions = i :: j :: more) (hfield : s.fields[j]? = some field)
      (hnames : s.keyPositions.map s.nameAt = names.map some) :
      s.AtFault (.ambiguous s.name.text names) field.span
  | type {i : Nat} {field : Field} (h : s.keyPositions = [i]) (hfield : s.fields[i]? = some field) :
      s.AtFault (.invalidType s.name.text (FieldDef.ofField i field).name field.type.text)
        field.typeSpan

/-- For a single marked field the part at fault is its type. -/
theorem AtFault.span_eq {fault : PrimaryKeyError} {span : Span} (h : s.AtFault fault span)
    (hone : s.keyPositions = [i]) (hfield : s.fields[i]? = some field) : span = field.typeSpan := by
  cases h with
  | struct hnone =>
    rw [hone] at hnone
    cases hnone
  | second hseveral =>
    rw [hone] at hseveral
    cases hseveral
  | type hone' hfield' =>
    rw [hone, List.singleton_inj] at hone'
    subst hone'
    rw [hfield, Option.some.injEq] at hfield'
    rw [hfield']

/-- What is listed for a marked field is defined by the field at its position. -/
theorem field_of_marked {f : FieldDef} (h : (i, f) ∈ markedFrom 0 (StructDef.ofItem s).fields) :
    ∃ field, s.fields[i]? = some field ∧ f = FieldDef.ofField i field := by
  have hget := (mem_markedFrom.1 h).1
  rw [StructDef.ofItem, List.getElem?_mapIdx, Option.map_eq_some_iff] at hget
  obtain ⟨field, hfield, rfl⟩ := hget
  exact ⟨field, hfield, rfl⟩

theorem nameAt_of_marked {f : FieldDef}
    (h : (i, f) ∈ markedFrom 0 (StructDef.ofItem s).fields) : s.nameAt i = some f.name := by
  rw [nameAt, (mem_markedFrom.1 h).1, Option.map_some]

/-- The names of the marked fields are those at their positions. -/
theorem map_nameAt_keyPositions (s : StructItem) : s.keyPositions.map s.nameAt =
    ((markedFrom 0 (StructDef.ofItem s).fields).map (·.2.name)).map some := by
  rw [keyPositions, List.map_map, List.map_map]
  exact List.map_congr_left fun _ hp => nameAt_of_marked hp

/-- The field that the list of marked ones has in second place is the second one to blame. -/
theorem blame_ambiguous {j : Nat} {more : List Nat} (h : s.keyPositions = i :: j :: more)
    (hfield : s.fields[j]? = some field) (struct : String) (names : List String) :
    s.blame (.ambiguous struct names) = field.span := by
  have hfilter := filter_definedFields s
  rw [h, List.map_cons, List.map_cons, hfield] at hfilter
  match hmarked : s.definedFields.filter (·.1.isPrimaryKey) with
  | [] => simp [hmarked] at hfilter
  | [_] => simp [hmarked] at hfilter
  | _ :: (_, second) :: _ =>
    rw [hmarked, List.map_cons, List.map_cons] at hfilter
    obtain ⟨-, hsecond, -⟩ : _ ∧ second = field ∧ _ := by simpa using hfilter
    rw [blame, hmarked, hsecond]

/-- The first field with the name of the key is the one whose type is blamed. -/
theorem blame_invalidType (hfield : s.fields[i]? = some field) (hname : s.nameAt i = some name)
    (hfirst : ∀ j < i, s.nameAt j ≠ some name) (struct type : String) :
    s.blame (.invalidType struct name type) = field.typeSpan := by
  rw [blame, find?_definedFields hfield hname hfirst]

end Source.StructItem

/-! ### Where errors point -/

variable {s : StructItem} {e : DeriveError}

/-- An error about a struct is one about its primary key. -/
theorem exists_primaryKey_error_of_derive (h : (Declaration.struct s).derive = .error e) :
    ∃ fault, (StructDef.ofItem s).primaryKey = .error fault ∧ e = ⟨.key fault, s.blame fault⟩ := by
  cases hkey : (StructDef.ofItem s).primaryKey with
  | error fault =>
    rw [derive_of_primaryKey_error hkey] at h
    cases h
    exact ⟨fault, rfl, rfl⟩
  | ok found =>
    obtain ⟨field, -, hderive⟩ := derive_of_primaryKey hkey
    rw [hderive] at h
    cases h

/-- **An error points at what is at fault**, unless the name of the key is that of an earlier field,
too. If it is, and the key is no string, the error points at the type of the first field of that
name. -/
theorem derive_error_span (h : (Declaration.struct s).derive = .error e) :
    ∃ fault, e.fault = .key fault ∧
      ((∀ i, s.keyPositions = [i] → ∀ j < i, s.nameAt j ≠ s.nameAt i) →
        s.AtFault fault e.span) ∧
      ∀ i j earlier, s.keyPositions = [i] → j < i → s.nameAt j = s.nameAt i →
        (∀ k < j, s.nameAt k ≠ s.nameAt i) → s.fields[j]? = some earlier →
          e.span = earlier.typeSpan := by
  obtain ⟨fault, hkey, rfl⟩ := exists_primaryKey_error_of_derive h
  refine ⟨fault, rfl, ?_⟩
  rcases StructDef.marked_of_primaryKey_error hkey with
    ⟨hmarked, rfl⟩ | ⟨i, f, hmarked, rfl⟩ | ⟨p, q, more, hmarked, rfl⟩
  · have hnone : s.keyPositions = [] := by rw [StructItem.keyPositions, hmarked, List.map_nil]
    refine ⟨fun _ => .struct hnone, fun i j earlier hpositions => ?_⟩
    rw [hnone] at hpositions
    cases hpositions
  -- the name leads to the first field that has it, which is the key if no earlier one does
  · have hone : s.keyPositions = [i] := by
      rw [StructItem.keyPositions, hmarked, List.map_singleton]
    have hmem : (i, f) ∈ markedFrom 0 (StructDef.ofItem s).fields := by
      rw [hmarked]
      exact List.mem_singleton_self _
    have hname := StructItem.nameAt_of_marked hmem
    obtain ⟨field, hfield, rfl⟩ := StructItem.field_of_marked hmem
    constructor
    · intro hfirst
      have hbefore := hfirst i hone
      rw [hname] at hbefore
      dsimp only
      rw [StructItem.blame_invalidType hfield hname hbefore]
      exact .type hone hfield
    · intro i' j earlier hpositions hj hsame hbefore hearlier
      rw [hone, List.singleton_inj] at hpositions
      subst hpositions
      rw [hname] at hsame hbefore
      exact StructItem.blame_invalidType hearlier hsame hbefore s.name.text field.type.text
  -- the second of several is found by position, whatever it is called
  · have hseveral : s.keyPositions = p.1 :: q.1 :: more.map Prod.fst := by
      rw [StructItem.keyPositions, hmarked, List.map_cons, List.map_cons]
    have hmem : (q.1, q.2) ∈ markedFrom 0 (StructDef.ofItem s).fields := by
      rw [hmarked]
      exact List.mem_cons_of_mem _ List.mem_cons_self
    obtain ⟨field, hfield, -⟩ := StructItem.field_of_marked hmem
    constructor
    · intro _
      dsimp only
      rw [StructItem.blame_ambiguous hseveral hfield]
      refine .second hseveral hfield ?_
      rw [StructItem.map_nameAt_keyPositions, hmarked]
    · intro i j earlier hpositions
      rw [hseveral] at hpositions
      cases hpositions

/-- Whether a struct is declared from which no implementation can be derived, and a test holds of it
and of the error. -/
def Source.Declaration.failsWith (test : StructItem → DeriveError → Bool) : Declaration → Bool
  | .other _ => false
  | .struct s =>
    match (Declaration.struct s).derive with
    | .ok _ => false
    | .error e => test s e

theorem exists_error_of_failsWith {text : String} {test : StructItem → DeriveError → Bool}
    (h : ((Declaration.parse text).toOption.any (·.failsWith test)) = true) :
    ∃ s e, Declaration.parse text = .ok (.struct s) ∧
      (Declaration.struct s).derive = .error e ∧ test s e = true := by
  obtain ⟨declaration, hdeclaration, hfails⟩ := exists_ok_of_any h
  cases declaration with
  | other nameSpan => cases hfails
  | struct s =>
    rw [Declaration.failsWith] at hfails
    split at hfails
    · cases hfails
    · exact ⟨s, _, hdeclaration, ‹_›, hfails⟩

/-- A struct whose key is no string. -/
def numberKeyText : String := "struct S \x7b a: String, #[data(primary_key)] id: u32 \x7d"

/-- The error about this key points at its type. -/
theorem derive_error_span_of_numberKeyText :
    ∃ s e, Declaration.parse numberKeyText = .ok (.struct s) ∧
      (Declaration.struct s).derive = .error e ∧ e.span = ⟨⟨1, 47⟩, ⟨1, 50⟩⟩ ∧
      ∃ fault, e.fault = .key fault ∧ s.AtFault fault e.span := by
  have hcheck : ((Declaration.parse numberKeyText).toOption.any (·.failsWith fun s e =>
      decide (e.span = ⟨⟨1, 47⟩, ⟨1, 50⟩⟩ ∧ s.keyPositions = [1] ∧
        s.nameAt 0 ≠ s.nameAt 1))) = true := by
    decide +kernel
  obtain ⟨s, e, hs, he, htest⟩ := exists_error_of_failsWith hcheck
  obtain ⟨hspan, hone, hnames⟩ := of_decide_eq_true htest
  obtain ⟨fault, hfault, hpoints, -⟩ := derive_error_span he
  refine ⟨s, e, hs, he, hspan, fault, hfault, hpoints fun i hi j hj => ?_⟩
  rw [hone, List.singleton_inj] at hi
  subst hi
  rw [Nat.lt_one_iff.1 hj]
  exact hnames

/-- A struct with two fields of one name, the second of which is the key and no string. -/
def repeatedNameText : String := "struct S \x7b id: String, #[data(primary_key)] id: u32 \x7d"

/-- The error about this key does not point at its type, but at that of the first field. -/
theorem not_atFault_of_repeatedNameText :
    ∃ s e, Declaration.parse repeatedNameText = .ok (.struct s) ∧
      (Declaration.struct s).derive = .error e ∧
      e = ⟨.key (.invalidType "S" "id" "u32"), ⟨⟨1, 15⟩, ⟨1, 21⟩⟩⟩ ∧
      s.keyPositions = [1] ∧
      s.fields.map Field.typeSpan = [⟨⟨1, 15⟩, ⟨1, 21⟩⟩, ⟨⟨1, 48⟩, ⟨1, 51⟩⟩] ∧
      ∀ fault, ¬s.AtFault fault e.span := by
  have hcheck : ((Declaration.parse repeatedNameText).toOption.any (·.failsWith fun s e =>
      decide (e = ⟨.key (.invalidType "S" "id" "u32"), ⟨⟨1, 15⟩, ⟨1, 21⟩⟩⟩ ∧
        s.keyPositions = [1] ∧
        s.fields.map Field.typeSpan = [⟨⟨1, 15⟩, ⟨1, 21⟩⟩, ⟨⟨1, 48⟩, ⟨1, 51⟩⟩]))) = true := by
    decide +kernel
  obtain ⟨s, e, hs, he, htest⟩ := exists_error_of_failsWith hcheck
  obtain ⟨rfl, hone, hspans⟩ := of_decide_eq_true htest
  refine ⟨s, _, hs, he, rfl, hone, hspans, fun fault hfault => ?_⟩
  have hkey : (s.fields.map Field.typeSpan)[1]? = some ⟨⟨1, 48⟩, ⟨1, 51⟩⟩ := by
    rw [hspans]
    rfl
  rw [List.getElem?_map, Option.map_eq_some_iff] at hkey
  obtain ⟨field, hfield, htype⟩ := hkey
  have hspan := hfault.span_eq hone hfield
  rw [htype] at hspan
  exact absurd hspan (by decide)

end RecordStore
