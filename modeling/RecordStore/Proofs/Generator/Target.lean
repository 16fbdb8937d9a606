import RecordStore.Proofs.FileTree
import RecordStore.Proofs.FilePath
import RecordStore.Proofs.Definition.File
import RecordStore.Proofs.Generator.Context

/-!
# Stores of one type in several modules

The table of a type is its full path, which has nothing to do with the module that a store is
generated for. Only a file without a module path leaves a choice: there the table is the type as it
is called, and a type at the root of a package is called `crate::Name` in every module but its own.
So two stores of one type have different tables exactly if the file of the type has no module path
and one of them is in its own module while the other is not
(`RecordStore.SourceFile.tables_eq_iff`).
-/

namespace RecordStore

namespace SourceFile

variable {source : SourceFile} {struct : StructDef} {key : String}
  {modulePath : Except ModulePathFault String} {package package₁ package₂ : Option String}
  {c c₁ c₂ : TemplateContext}

/-- A store is generated for the module of the source itself: no package is named, or this one. -/
def IsOwn (source : SourceFile) (package : Option String) : Prop :=
  source.target package = source.package

/-- A name through the root of a package is not the bare name. -/
theorem append_crate_ne (name : String) : "crate::" ++ name ≠ name := by
  intro h
  have hlength := congrArg String.length h
  rw [String.length_append] at hlength
  have : "crate::".length = 7 := rfl
  omega

/-- Without a module path the table is the name of the struct in the module of the source, and in
every other module the name through the root; there the source must be at the root. -/
theorem table_of_context_error {fault : ModulePathFault}
    (h : source.context (.error fault) struct key package = .ok c) :
    (source.IsOwn package ∧ c.table = struct.name) ∨
      (¬source.IsOwn package ∧ source.package = "crate" ∧ c.table = "crate::" ++ struct.name) := by
  obtain ⟨type, typeImport, href, rfl⟩ := context_eq_ok_iff.1 h
  rw [reference] at href
  split at href
  · rename_i hown
    cases href
    exact Or.inl ⟨hown, rfl⟩
  · rename_i hother
    split at href
    · rename_i hroot
      cases href
      exact Or.inr ⟨hother, hroot, rfl⟩
    · cases href

/-- **When two stores of one type have one table**: the file of the type has a module path, or the
stores are both in its own module, or both in other modules. Otherwise the type is at the root. -/
theorem tables_eq_iff (h₁ : source.context modulePath struct key package₁ = .ok c₁)
    (h₂ : source.context modulePath struct key package₂ = .ok c₂) :
    (c₁.table = c₂.table ↔
      (∃ m, modulePath = .ok m) ∨ (source.IsOwn package₁ ↔ source.IsOwn package₂)) ∧
    (c₁.table ≠ c₂.table → source.package = "crate") := by
  cases modulePath with
  | ok m =>
    have hsame : c₁.table = c₂.table := by rw [table_of_context h₁, table_of_context h₂]
    exact ⟨iff_of_true hsame (Or.inl ⟨m, rfl⟩), fun hne => absurd hsame hne⟩
  | error fault =>
    have hnone : ¬∃ m, (Except.error fault : Except ModulePathFault String) = .ok m := by
      rintro ⟨m, hm⟩
      cases hm
    rw [or_iff_right hnone]
    rcases table_of_context_error h₁ with ⟨hown₁, ht₁⟩ | ⟨hother₁, hroot, ht₁⟩ <;>
    rcases table_of_context_error h₂ with ⟨hown₂, ht₂⟩ | ⟨hother₂, hroot', ht₂⟩ <;>
    rw [ht₁, ht₂]
    · exact ⟨iff_of_true rfl (iff_of_true hown₁ hown₂), fun hne => absurd rfl hne⟩
    · exact ⟨iff_of_false (append_crate_ne _).symm fun h => hother₂ (h.1 hown₁), fun _ => hroot'⟩
    · exact ⟨iff_of_false (append_crate_ne _) fun h => hother₁ (h.2 hown₂), fun _ => hroot⟩
    · exact ⟨iff_of_true rfl (iff_of_false hother₁ hother₂), fun hne => absurd rfl hne⟩

/-! ### A root without a package -/

/-- A file with one struct, whose key is its only field. -/
def looseText : String := "struct A(#[data(primary_key)] String);"

/-- A file that is called like the root of a package, with no package around it. -/
def looseRoot : FileTree where
  entry := fun place => if place = ["lib.rs"] then some (.file (Text.utf8 looseText)) else none

theorem modulePath_looseRoot : looseRoot.modulePath "lib.rs" = .error .noPackage := by
  have hcanonical : looseRoot.canonical "lib.rs" = .ok ["lib.rs"] :=
    FileTree.canonical_plain [] _
      (.of_chars String.toList_ofList (by decide) (by decide) (by decide) (by decide))
      (FileTree.endsWith_slash_eq_false String.toList_ofList (by decide)) (by decide) (by decide)
      (by decide) rfl
  have hfree : looseRoot.LinkFree := by
    intro place target h
    simp only [looseRoot] at h
    split at h <;> cases h
  have hplain : FileTree.IsPlain manifestName := by decide
  rw [FileTree.modulePath, hcanonical]
  simp only [modulePathAt, FileTree.holdsFileIn_plain hfree _ hplain]
  rfl

/-- The struct in the file. -/
def looseStruct : StructDef where
  name := "A"
  fields := [{
    name := "0"
    type := "String"
    tags := .ofList [("data", ["primary_key"])]
    rawTags := ["# [data (primary_key)]"] }]

theorem parse_looseRoot :
    SourceFile.parse "lib.rs" looseText =
      .ok ⟨"lib.rs", "crate", [looseStruct]⟩ := by
  have hpackage : packageName "lib.rs" = "crate" := by decide
  rw [← hpackage]
  exact SourceFile.parse_of_structs (by decide +kernel)

/-- The values for the struct of the file in some module. -/
def looseContext (package type : String) : TemplateContext :=
  { package, type, name := "A", primaryKey := "0", table := type }

/-- In its own module the type is called by its name, and elsewhere through the root. -/
theorem context_looseRoot :
    let source : SourceFile := ⟨"lib.rs", "crate", [looseStruct]⟩
    source.context (.error .noPackage) looseStruct "0" none = .ok (looseContext "crate" "A") ∧
      source.context (.error .noPackage) looseStruct "0" (some "stores") =
        .ok (looseContext "stores" "crate::A") ∧
      source.context (.error .noPackage) looseStruct "0" (some "tests") =
        .ok (looseContext "tests" "crate::A") := by
  decide +kernel

/-- Two stores for other modules have one table. -/
theorem tables_eq_iff_of_looseRoot :
    ∃ source : SourceFile,
      SourceFile.parse "lib.rs" looseText = .ok source ∧
        source.context (looseRoot.modulePath "lib.rs") looseStruct "0" (some "stores") =
          .ok (looseContext "stores" "crate::A") ∧
        source.context (looseRoot.modulePath "lib.rs") looseStruct "0" (some "tests") =
          .ok (looseContext "tests" "crate::A") ∧
        ((looseContext "stores" "crate::A").table = (looseContext "tests" "crate::A").table ↔
          (∃ m, looseRoot.modulePath "lib.rs" = .ok m) ∨
            (source.IsOwn (some "stores") ↔ source.IsOwn (some "tests"))) := by
  obtain ⟨-, hstores, htests⟩ := context_looseRoot
  rw [modulePath_looseRoot]
  exact ⟨_, parse_looseRoot, hstores, htests, (tables_eq_iff hstores htests).1⟩

/-- **A store in the module of such a root and one in another module have different tables.** -/
theorem tables_ne_of_looseRoot :
    ∃ source : SourceFile,
      SourceFile.parse "lib.rs" looseText = .ok source ∧
        looseStruct ∈ source.structs ∧
        ∃ c₁ c₂,
          source.context (looseRoot.modulePath "lib.rs") looseStruct "0" none = .ok c₁ ∧
          source.context (looseRoot.modulePath "lib.rs") looseStruct "0" (some "stores") = .ok c₂ ∧
          c₁.table ≠ c₂.table := by
  obtain ⟨hown, hstores, -⟩ := context_looseRoot
  rw [modulePath_looseRoot]
  exact ⟨_, parse_looseRoot, List.mem_singleton.2 rfl, _, _, hown, hstores, by decide⟩

end SourceFile

end RecordStore
