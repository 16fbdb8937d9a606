import RecordStore.Proofs.Definition.File
import RecordStore.Proofs.FileTree
import RecordStore.Proofs.Generator.Context
import RecordStore.Proofs.ModulePath

/-!
# Tables of different types

The table of a type is named after the full path of the type. A name of a struct is a word, and so
are the segments of a module path but for white space around them, so the colons in a table are
those between segments, and the table tells the struct and the module
(`RecordStore.FileTree.table_eq_iff`). Two types of one package therefore share a table only if they
have the same name and are declared in files of one module.
-/

namespace RecordStore

variable {path text m key : String} {source : SourceFile} {struct : StructDef}
  {target : Option String} {c : TemplateContext}

/-! ### Names of structs -/

/-- The name of a struct in a source file is a word. -/
theorem SourceFile.exists_word (h : SourceFile.parse path text = .ok source)
    (hs : struct ∈ source.structs) : ∃ w : Source.Word, struct.name = w.text := by
  obtain ⟨file, -, rfl⟩ := SourceFile.parse_eq_ok_iff.1 h
  obtain ⟨item, -, rfl⟩ := List.mem_map.1 hs
  exact ⟨item.name, rfl⟩

/-- A character that no word has is not in the name of a struct. -/
theorem SourceFile.not_mem_name {d : Char} (hstart : Text.isIdentifierStart d = false)
    (hcontinue : Text.isIdentifierContinue d = false) (hsign : d ≠ '#')
    (h : SourceFile.parse path text = .ok source) (hs : struct ∈ source.structs) :
    d ∉ struct.name.toList := by
  obtain ⟨w, hw⟩ := SourceFile.exists_word h hs
  rw [hw]
  exact Source.Word.not_mem_text hstart hcontinue hsign w

/-! ### Tables of a package -/

namespace FileTree

variable {tree : FileTree} {package rel rel' : List String} {struct' : StructDef}
  {c' : TemplateContext}

/-- **The values of the template for a struct of a package.** The struct is declared in the file
that `rel` leads to from the sources of the package, and the module path of the file resolves. The
key and the module that the store is generated for do not matter. -/
def Supplies (tree : FileTree) (package rel : List String) (struct : StructDef)
    (c : TemplateContext) : Prop :=
  ∃ path text m key target, ∃ source : SourceFile, tree.IsSource path package rel ∧
    tree.modulePath path = .ok m ∧ SourceFile.parse path text = .ok source ∧
      struct ∈ source.structs ∧ source.context (.ok m) struct key target = .ok c

/-- What a table consists of. -/
theorem Supplies.exists_segments (h : tree.Supplies package rel struct c) :
    ∃ segments, DefinesModule rel segments ∧ (∀ s ∈ segments, ':' ∉ s.toList) ∧
      ':' ∉ struct.name.toList ∧ c.table = joinSegments segments ++ "::" ++ struct.name := by
  obtain ⟨path, text, m, key, target, source, hsource, hm, hparse, hstruct, hc⟩ := h
  obtain ⟨segments, hdefines, -, hsegments, rfl⟩ := hsource.exists_segments hm
  have hname : ':' ∉ struct.name.toList :=
    SourceFile.not_mem_name (by decide) (by decide) (by decide) hparse hstruct
  exact ⟨segments, hdefines, hsegments, hname, SourceFile.table_of_context hc⟩

/-- **Types share a table exactly if they are one type**: they have the same name, and the files
that declare them are files of one module. -/
theorem table_eq_iff (h : tree.Supplies package rel struct c)
    (h' : tree.Supplies package rel' struct' c') :
    c.table = c'.table ↔ struct.name = struct'.name ∧ SameModule rel rel' := by
  obtain ⟨segments, hdefines, hsegments, hname, htable⟩ := h.exists_segments
  obtain ⟨segments', hdefines', hsegments', hname', htable'⟩ := h'.exists_segments
  rw [htable, htable']
  constructor
  · intro heq
    obtain ⟨hpath, hnames⟩ := append_colons_inj hname hname' heq
    obtain rfl := segments_inj hsegments hsegments' hpath
    exact ⟨hnames, hdefines.iff_sameModule.1 hdefines'⟩
  · rintro ⟨hnames, hsame⟩
    obtain rfl := (hdefines.iff_sameModule.2 hsame).unique hdefines'
    rw [hnames]

/-- A package with two files for a module `a`, and another one in the same directory; each of them
declares a struct `A`. -/
def sample : FileTree where
  entry := fun place =>
    if place ∈ [["Cargo.toml"], ["src", "a.rs"], ["src", "a", "mod.rs"], ["src", "a", "lib.rs"]] then
      some (.file (Text.utf8 "struct A;"))
    else if place ∈ [["src"], ["src", "a"]] then some .directory
    else none

theorem linkFree_sample : sample.LinkFree := by
  intro place target h
  simp only [sample] at h
  split at h
  · cases h
  · split at h <;> cases h

/-- The one package of the sample is its top directory. -/
theorem nearestPackage?_sample {place : List String}
    (h : place ∈ [["src", "a.rs"], ["src", "a", "mod.rs"], ["src", "a", "lib.rs"]]) :
    sample.nearestPackage? place = some [] := by
  have hplain : IsPlain manifestName := by decide
  simp only [nearestPackage?, holdsFileIn_plain linkFree_sample _ hplain]
  revert place
  decide

theorem isSource_file : sample.IsSource "src/a.rs" [] ["a.rs"] where
  canonical := canonical_plain ["src"] (Text.utf8 "struct A;")
    (.of_chars String.toList_ofList (by decide) (by decide) (by decide) (by decide))
    (endsWith_slash_eq_false String.toList_ofList (by decide)) (by decide) (by decide)
    (by decide) (by decide)
  nearest := nearestPackage?_sample (by decide)

theorem isSource_directory : sample.IsSource "src/a/mod.rs" [] ["a", "mod.rs"] where
  canonical := canonical_plain ["src", "a"] (Text.utf8 "struct A;")
    (.of_chars String.toList_ofList (by decide) (by decide) (by decide) (by decide))
    (endsWith_slash_eq_false String.toList_ofList (by decide)) (by decide) (by decide)
    (by decide) (by decide)
  nearest := nearestPackage?_sample (by decide)

theorem isSource_nested : sample.IsSource "src/a/lib.rs" [] ["a", "lib.rs"] where
  canonical := canonical_plain ["src", "a"] (Text.utf8 "struct A;")
    (.of_chars String.toList_ofList (by decide) (by decide) (by decide) (by decide))
    (endsWith_slash_eq_false String.toList_ofList (by decide)) (by decide) (by decide)
    (by decide) (by decide)
  nearest := nearestPackage?_sample (by decide)

/-- The source file that the text of the sample is. -/
theorem parse_sample (path : String) :
    SourceFile.parse path "struct A;" =
      .ok { path, package := packageName path, structs := [⟨"A", []⟩] } :=
  SourceFile.parse_of_structs (by decide +kernel)

/-- The values for the struct in a file of the module `a`, for the module itself. -/
def sampleContext (path : String) : TemplateContext :=
  { package := packageName path, type := "A", name := "A", table := "crate::a::A" }

theorem supplies_sample {rel : List String} (hsource : sample.IsSource path [] rel)
    (hmodule : DefinesModule rel ["a"]) (hbin : rel.dropLast.head? ≠ some "bin") :
    sample.Supplies [] rel ⟨"A", []⟩ (sampleContext path) := by
  have hpath := hsource.modulePath_eq_ok hmodule hbin (by decide)
  refine ⟨path, "struct A;", _, "", none, _, hsource, hpath, parse_sample path,
    List.mem_singleton.2 rfl, ?_⟩
  have htable : joinSegments ["a"] ++ "::" ++ "A" = "crate::a::A" := by decide
  simp only [SourceFile.context, SourceFile.target, SourceFile.reference, if_true, htable]
  rfl

/-- The struct `A` of the module `a` has one table in both files of the module. -/
theorem table_eq_iff_of_sample :
    sample.Supplies [] ["a.rs"] ⟨"A", []⟩ (sampleContext "src/a.rs") ∧
      sample.Supplies [] ["a", "mod.rs"] ⟨"A", []⟩ (sampleContext "src/a/mod.rs") ∧
        ((sampleContext "src/a.rs").table = (sampleContext "src/a/mod.rs").table ↔
          "A" = "A" ∧ SameModule ["a.rs"] ["a", "mod.rs"]) := by
  have hfile : DefinesModule ([] ++ ["a" ++ ".rs"]) ([] ++ ["a"]) := .file (by decide) (by decide)
  have h := supplies_sample isSource_file hfile (by decide)
  have h' := supplies_sample isSource_directory (DefinesModule.of_directory [] "a") (by decide)
  exact ⟨h, h', table_eq_iff h h'⟩

end FileTree

end RecordStore
