import RecordStore.Generator.Context

/-!
# Lookup, and the values for what was found

A struct is found by its name exactly if it is the only one of that name
(`RecordStore.SourceFile.find_eq_ok_iff`). Of the values of the template only the reference to the
struct can fail (`RecordStore.SourceFile.context_eq_ok_iff`); the name and the key are taken as
they are, and the table is the full path of the type if there is a module path.
-/

namespace RecordStore.SourceFile

variable {source : SourceFile} {struct : StructDef} {name key : String}
  {modulePath : Except ModulePathFault String} {package : Option String} {c : TemplateContext}

/-! ### Lookup -/

/-- A name is given to one struct exactly if the structs with the name are this one. -/
theorem find_eq_ok_iff : source.find name = .ok struct ↔ source.named name = [struct] := by
  rw [find]
  cases hstructs : source.structs with
  | nil =>
    have hnamed : source.named name = [] := by
      rw [named, hstructs]
      rfl
    simp [hnamed]
  | cons s rest =>
    simp only [List.isEmpty_cons, Bool.false_eq_true, if_false]
    rcases source.named name with _ | ⟨found, _ | ⟨other, more⟩⟩ <;> simp

/-- What is found is in the file. -/
theorem mem_structs_of_find (h : source.find name = .ok struct) : struct ∈ source.structs := by
  have hnamed : struct ∈ source.named name := by
    rw [find_eq_ok_iff.1 h]
    exact List.mem_singleton_self _
  exact (List.mem_filter.1 hnamed).1

theorem named_eq_nil_iff : source.named name = [] ↔ ∀ s ∈ source.structs, s.name ≠ name := by
  rw [named, List.filter_eq_nil_iff]
  simp only [beq_iff_eq]

/-- The one struct of a file is found by its name. -/
theorem find_of_structs (h : source.structs = [struct]) : source.find struct.name = .ok struct := by
  rw [find_eq_ok_iff, named, h, List.filter_eq_self]
  intro s hs
  rw [List.mem_singleton.1 hs]
  exact beq_self_eq_true _

/-! ### Values -/

/-- A package that is named is the one that a store is generated for. -/
theorem target_of_ne {package : String} (h : package ≠ "") :
    source.target (some package) = package := by
  have hempty : package.isEmpty = false := by simpa using h
  rw [target, hempty]
  rfl

/-- **What the values are** if the struct can be referred to. -/
theorem context_eq_ok_iff : source.context modulePath struct key package = .ok c ↔
    ∃ type typeImport,
      source.reference modulePath struct (source.target package) = .ok (type, typeImport) ∧
        c = { package := source.target package, type, name := struct.name, primaryKey := key,
              typeImport,
              table := (modulePath.toOption.map (· ++ "::" ++ struct.name)).getD type } := by
  rw [context]
  cases source.reference modulePath struct (source.target package) with
  | error e => simp
  | ok reference =>
    obtain ⟨type, typeImport⟩ := reference
    constructor
    · intro h
      refine ⟨type, typeImport, rfl, ?_⟩
      cases modulePath <;> exact (Except.ok.inj h).symm
    · rintro ⟨type', typeImport', href, rfl⟩
      cases href
      cases modulePath <;> rfl

theorem context_eq_error_iff_reference {e : GenerateError} :
    source.context modulePath struct key package = .error e ↔
      source.reference modulePath struct (source.target package) = .error e := by
  rw [context]
  cases source.reference modulePath struct (source.target package) <;> simp

/-- The key is the one that the values are made for. -/
theorem primaryKey_of_context (h : source.context modulePath struct key package = .ok c) :
    c.primaryKey = key := by
  obtain ⟨type, typeImport, -, rfl⟩ := context_eq_ok_iff.1 h
  rfl

/-- Where there is a module path, the table is the full path of the type. -/
theorem table_of_context {m : String} (h : source.context (.ok m) struct key package = .ok c) :
    c.table = m ++ "::" ++ struct.name := by
  obtain ⟨type, typeImport, -, rfl⟩ := context_eq_ok_iff.1 h
  rfl

/-- In the module of the source a struct is called by its name. -/
theorem exists_context_of_target (source : SourceFile)
    (modulePath : Except ModulePathFault String) (struct : StructDef) (key : String)
    (package : Option String) (h : source.target package = source.package) :
    ∃ table, source.context modulePath struct key package = .ok
      { package := source.package, type := struct.name, name := struct.name, primaryKey := key,
        table } := by
  refine ⟨(modulePath.toOption.map (· ++ "::" ++ struct.name)).getD struct.name,
    context_eq_ok_iff.2 ⟨struct.name, "", if_pos h, ?_⟩⟩
  rw [h]

end RecordStore.SourceFile
