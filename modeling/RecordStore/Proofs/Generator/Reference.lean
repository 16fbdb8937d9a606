import Mathlib.Data.List.TakeDrop
import RecordStore.Proofs.Generator.Table

/-!
# What a reference to a type denotes

In another module a type is called through the last segment of its own module, which is imported.
The segment is taken from the path text, and the import from the place of the file, so they need not
agree: the reference denotes the type exactly if the text gives the last segment of the module path
(`RecordStore.FileTree.denotes_iff`). For a text that ends like the canonical path this fails for
one kind of files only, those that are called `lib.rs` or `main.rs` without being at the root of the
package: the text counts them as the root, and the module path does not.
-/

namespace RecordStore

variable {path text m key name : String} {source : SourceFile} {struct : StructDef}
  {target : Option String} {c : TemplateContext} {segments place rel : List String}

/-! ### Segments -/

/-- A segment without colons at the end of a path. -/
def IsLastSegment (last m : String) : Prop :=
  ':' ∉ last.toList ∧ ∃ front, m = String.intercalate "::" (front ++ [last])

/-- **What a reference denotes**: read where `typeImport` is imported, `type` is the type `name` of
the module `m`. -/
def Denotes (type typeImport m name : String) : Prop :=
  (typeImport = "" ∧ type = m ++ "::" ++ name) ∨
    (typeImport = m ∧ ∃ last, IsLastSegment last m ∧ type = last ++ "::" ++ name)

theorem append_name_inj {x y : String} : x ++ "::" ++ name = y ++ "::" ++ name ↔ x = y := by
  constructor
  · intro h
    have hlist := congrArg String.toList h
    simp only [String.toList_append, List.append_cancel_right_eq] at hlist
    exact String.toList_inj.1 hlist
  · rintro rfl
    rfl

theorem joinSegments_ne_empty (segments : List String) : joinSegments segments ≠ "" := by
  intro h
  have hlist := congrArg String.toList h
  cases segments with
  | nil =>
    rw [joinSegments_nil] at hlist
    exact absurd hlist (by decide)
  | cons first more =>
    rw [joinSegments, String.intercalate_cons_cons, String.toList_append,
      String.toList_append] at hlist
    simp at hlist

/-- The root is the last segment of its own path. -/
theorem isLastSegment_root : IsLastSegment "crate" (joinSegments []) :=
  ⟨by decide, [], joinSegments_nil.trans String.intercalate_singleton.symm⟩

theorem isLastSegment_concat {last : String} (hlast : ':' ∉ last.toList) (front : List String) :
    IsLastSegment name (joinSegments (front ++ [last])) ↔ name = last := by
  constructor
  · rintro ⟨hname, before, heq⟩
    rw [joinSegments_concat] at heq
    by_cases hbefore : before = []
    · subst hbefore
      rw [List.nil_append, String.intercalate_singleton] at heq
      have hcolon : ':' ∈ name.toList := by
        rw [← heq]
        simp
      exact absurd hcolon hname
    · rw [String.intercalate_append_of_ne_nil hbefore (List.cons_ne_nil _ _),
        String.intercalate_singleton] at heq
      exact (append_colons_inj hlast hname heq).2.symm
  · rintro rfl
    exact ⟨hlast, "crate" :: front, rfl⟩

/-- No module but the root is called like the root. -/
theorem isLastSegment_root_iff (hnames : ∀ s ∈ segments, Source.isSingleName s = true)
    (hcolon : ∀ s ∈ segments, ':' ∉ s.toList) :
    IsLastSegment "crate" (joinSegments segments) ↔ joinSegments segments = "crate" := by
  rcases List.eq_nil_or_concat segments with rfl | ⟨front, last, rfl⟩
  · exact ⟨fun _ => joinSegments_nil, fun _ => isLastSegment_root⟩
  · rw [List.concat_eq_append] at hnames hcolon ⊢
    have hmem : last ∈ front ++ [last] := List.mem_append_right _ (List.mem_singleton.2 rfl)
    rw [isLastSegment_concat (hcolon last hmem)]
    constructor
    · rintro rfl
      have hcrate : Source.isSingleName "crate" = false := by decide
      rw [hnames "crate" hmem] at hcrate
      cases hcrate
    · exact fun h => absurd h (joinSegments_concat_ne front last)

/-! ### The module in a path text -/

/-- The names of a path text that tell where to go. -/
def plainNames (path : String) : List String := (FileTree.namesOf path).filter (· ≠ ".")

/-- **A path text that ends like a canonical path**: in the name of the file, and for the file of a
directory in the name of the directory before it. -/
structure SpelledAs (path : String) (place : List String) : Prop where
  file : (plainNames path).getLast? = place.getLast?
  directory : place.getLast? = some "mod.rs" →
    (plainNames path).dropLast.getLast? = place.dropLast.getLast?

/-- A path that goes up nowhere, in a tree without links, ends like the canonical path. -/
theorem SpelledAs.of_linkFree {tree : FileTree} (hfree : tree.LinkFree)
    (hup : ".." ∉ FileTree.namesOf path) (h : tree.canonical path = .ok place) :
    SpelledAs path place := by
  obtain rfl := FileTree.canonical_eq_of_linkFree hfree hup h
  exact ⟨rfl, fun _ => rfl⟩

theorem append_rs_ne_dotdot (s : String) : s ++ ".rs" ≠ ".." := by
  intro h
  have hlength := congrArg (fun t => t.toList.length) h
  simp only [String.toList_append, List.length_append] at hlength
  have : ".rs".toList.length = 3 := by decide
  have : "..".toList.length = 2 := by decide
  omega

/-- The stem of a source file, if there is more than the ending. -/
theorem stem_append_rs {s : String} (h : s ≠ "") : stem (s ++ ".rs") = s := by
  have hreverse : (s ++ ".rs").toList.reverse = 's' :: 'r' :: '.' :: s.toList.reverse := by
    rw [String.toList_append, List.reverse_append]
    rfl
  have hspan : ((s ++ ".rs").toList.reverse).span (· ≠ '.') =
      (['s', 'r'], '.' :: s.toList.reverse) := by
    rw [hreverse, List.span_eq_takeWhile_dropWhile]
    simp
  have hempty : s.toList.reverse.isEmpty = false := by
    rw [List.isEmpty_reverse]
    simpa using h
  rw [stem, hspan]
  simp [hempty]

theorem stem_of_getLast? {s : String} (hs : s ≠ "")
    (hfile : (plainNames path).getLast? = some (s ++ ".rs")) :
    ((lastName? (plainNames path)).map stem).getD "" = s := by
  have hlast : lastName? (plainNames path) = some (s ++ ".rs") := by
    rw [lastName?, hfile]
    exact if_neg (append_rs_ne_dotdot s)
  rw [hlast]
  exact stem_append_rs hs

theorem packageName_root {s : String} (hroot : s = "lib" ∨ s = "main")
    (hfile : (plainNames path).getLast? = some (s ++ ".rs")) : packageName path = "crate" := by
  have hstem := stem_of_getLast? (by rcases hroot with rfl | rfl <;> decide) hfile
  rw [plainNames] at hstem
  rw [packageName, hstem]
  rcases hroot with rfl | rfl <;> rfl

theorem packageName_directory {dir : String} (hdir : dir ≠ "..")
    (hfile : (plainNames path).getLast? = some "mod.rs")
    (hdirectory : (plainNames path).dropLast.getLast? = some dir) : packageName path = dir := by
  have hstem := stem_of_getLast? (s := "mod") (by decide) hfile
  have hlast : lastName? (plainNames path).dropLast = some dir := by
    rw [lastName?, hdirectory]
    exact if_neg hdir
  rw [plainNames] at hstem hlast
  rw [packageName, hstem, hlast]
  rfl

theorem packageName_file {s : String} (hs : s ≠ "") (hmod : s ≠ "mod") (hlib : s ≠ "lib")
    (hmain : s ≠ "main") (hfile : (plainNames path).getLast? = some (s ++ ".rs")) :
    packageName path = s := by
  have hstem := stem_of_getLast? hs hfile
  rw [plainNames] at hstem
  rw [packageName, hstem]
  split
  · exact absurd rfl hs
  · exact absurd rfl hlib
  · exact absurd rfl hmain
  · exact absurd rfl hmod
  · rfl

/-! ### References -/

/-- How a reference from another module is made. -/
theorem reference_of_context (h : source.context (.ok m) struct key target = .ok c)
    (htarget : source.target target ≠ source.package) :
    c.table = m ++ "::" ++ struct.name ∧
      ((source.package = "crate" ∧ c.type = "crate" ++ "::" ++ struct.name ∧ c.typeImport = "") ∨
        (source.package ≠ "crate" ∧ c.type = source.package ++ "::" ++ struct.name ∧
          c.typeImport = m)) := by
  refine ⟨SourceFile.table_of_context h, ?_⟩
  obtain ⟨type, typeImport, href, rfl⟩ := SourceFile.context_eq_ok_iff.1 h
  rw [SourceFile.reference, if_neg htarget] at href
  by_cases hroot : source.package = "crate"
  · rw [if_pos hroot] at href
    cases href
    have hcolons : "crate::" = "crate" ++ "::" := by decide
    exact Or.inl ⟨hroot, by rw [hcolons], rfl⟩
  · rw [if_neg hroot] at href
    cases href
    exact Or.inr ⟨hroot, rfl, rfl⟩

/-- **A reference denotes its type** exactly if it is made with the last segment of the module
path. -/
theorem denotes_iff_isLastSegment (h : source.context (.ok m) struct key target = .ok c)
    (htarget : source.target target ≠ source.package) (hm : m ≠ "")
    (hroot : IsLastSegment "crate" m ↔ m = "crate") :
    Denotes c.type c.typeImport m struct.name ↔ IsLastSegment source.package m := by
  obtain ⟨-, ⟨hpackage, htype, himport⟩ | ⟨hpackage, htype, himport⟩⟩ :=
    reference_of_context h htarget
  · rw [Denotes, htype, himport, hpackage, hroot, append_name_inj]
    constructor
    · rintro (⟨-, hcrate⟩ | ⟨hempty, -⟩)
      · exact hcrate.symm
      · exact absurd hempty.symm hm
    · exact fun hcrate => Or.inl ⟨rfl, hcrate.symm⟩
  · rw [Denotes, htype, himport]
    constructor
    · rintro (⟨hempty, -⟩ | ⟨-, last, hlast, heq⟩)
      · exact absurd hempty hm
      · rwa [append_name_inj.1 heq]
    · exact fun hlast => Or.inr ⟨rfl, source.package, hlast, rfl⟩

/-! ### Path texts and places -/

/-- A file that is called like one at the root of a package and is not there. -/
def NestedRoot (rel : List String) : Prop :=
  ∃ dirs, dirs ≠ [] ∧ (rel = dirs ++ ["lib.rs"] ∨ rel = dirs ++ ["main.rs"])

theorem nestedRoot_iff {dirs : List String} {s : String} :
    NestedRoot (dirs ++ [s ++ ".rs"]) ↔ dirs ≠ [] ∧ (s = "lib" ∨ s = "main") := by
  constructor
  · rintro ⟨dirs', hne, heq | heq⟩
    · obtain ⟨rfl, rfl⟩ := path_inj (b := "lib") heq
      exact ⟨hne, Or.inl rfl⟩
    · obtain ⟨rfl, rfl⟩ := path_inj (b := "main") heq
      exact ⟨hne, Or.inr rfl⟩
  · rintro ⟨hne, rfl | rfl⟩
    · exact ⟨dirs, hne, Or.inl rfl⟩
    · exact ⟨dirs, hne, Or.inr rfl⟩

/-- **The module in a path text** that ends like the canonical path is the last segment of the
module path, unless the file is called like the root. -/
theorem isLastSegment_packageName_iff (hspelled : SpelledAs path place)
    (hplace : ∃ front, place = front ++ rel) (hentry : ∀ n ∈ place, FileTree.IsEntryName n)
    (hdefines : DefinesModule rel segments)
    (hnames : ∀ s ∈ segments, Source.isSingleName s = true)
    (hcolon : ∀ s ∈ segments, ':' ∉ s.toList) :
    IsLastSegment (packageName path) (joinSegments segments) ↔ ¬NestedRoot rel := by
  obtain ⟨front, rfl⟩ := hplace
  have hlast {dirs : List String} {file : String} (hrel : rel = dirs ++ [file]) :
      (plainNames path).getLast? = some file := by
    rw [hspelled.file, hrel, ← List.append_assoc, List.getLast?_concat]
  cases hdefines with
  | lib =>
    have hpackage := packageName_root (Or.inl rfl) (hlast (List.nil_append _).symm)
    have hnested : ¬NestedRoot ([] ++ ["lib" ++ ".rs"]) := fun h => (nestedRoot_iff.1 h).1 rfl
    rw [hpackage]
    exact ⟨fun _ => hnested, fun _ => isLastSegment_root⟩
  | main =>
    have hpackage := packageName_root (Or.inr rfl) (hlast (List.nil_append _).symm)
    have hnested : ¬NestedRoot ([] ++ ["main" ++ ".rs"]) := fun h => (nestedRoot_iff.1 h).1 rfl
    rw [hpackage]
    exact ⟨fun _ => hnested, fun _ => isLastSegment_root⟩
  | directory hdirs =>
    obtain ⟨before, dir, hdir⟩ := (List.eq_nil_or_concat segments).resolve_left hdirs
    rw [List.concat_eq_append] at hdir
    subst hdir
    have hmem : dir ∈ before ++ [dir] := List.mem_append_right _ (List.mem_singleton.2 rfl)
    have hfile : (front ++ (before ++ [dir] ++ ["mod.rs"])).getLast? = some "mod.rs" := by
      rw [← List.append_assoc, List.getLast?_concat]
    have hdirectory : (plainNames path).dropLast.getLast? = some dir := by
      rw [hspelled.directory hfile, ← List.append_assoc, List.dropLast_concat, ← List.append_assoc,
        List.getLast?_concat]
    have hup : dir ≠ ".." :=
      (hentry dir (List.mem_append_right _ (List.mem_append_left _ hmem))).ne_dotdot
    have hnested : ¬NestedRoot (before ++ [dir] ++ ["mod" ++ ".rs"]) := by
      rw [nestedRoot_iff]
      rintro ⟨-, h | h⟩
      · exact absurd h (by decide)
      · exact absurd h (by decide)
    rw [packageName_directory hup (hlast rfl) hdirectory, isLastSegment_concat (hcolon dir hmem)]
    exact ⟨fun _ => hnested, fun _ => rfl⟩
  | @file dirs stem hmod hroot =>
    have hmem : stem ∈ dirs ++ [stem] := List.mem_append_right _ (List.mem_singleton.2 rfl)
    have hne : stem ≠ "" := by
      rintro rfl
      have hempty : Source.isSingleName "" = false := by decide
      rw [hnames "" hmem] at hempty
      cases hempty
    rw [nestedRoot_iff]
    by_cases hcalled : stem = "lib" ∨ stem = "main"
    · rw [packageName_root hcalled (hlast rfl), isLastSegment_root_iff hnames hcolon]
      have hdirs : dirs ≠ [] := by
        intro hnil
        rcases hcalled with h | h
        · exact (hroot hnil).1 h
        · exact (hroot hnil).2 h
      exact ⟨fun h => absurd h (joinSegments_concat_ne dirs stem),
        fun h => absurd ⟨hdirs, hcalled⟩ h⟩
    · rw [packageName_file hne hmod (fun h => hcalled (Or.inl h)) (fun h => hcalled (Or.inr h))
        (hlast rfl), isLastSegment_concat (hcolon stem hmem)]
      exact ⟨fun _ h => hcalled h.2, fun _ => rfl⟩

namespace FileTree

variable {tree : FileTree} {package : List String}

/-- **When a reference denotes the type it was made from.** The module path of the file is `m`, and
`c` holds the values for a struct of the file and another module than the one in the path text. The
table is the full path of the type, whatever the path text is. The reference denotes the type
exactly if the path text gives the last segment of the module path. A path text that ends like the
canonical path does so unless the file is called like the root of a package, and is not there. -/
theorem denotes_iff (hsource : tree.IsSource path package rel) (hm : tree.modulePath path = .ok m)
    (hparse : SourceFile.parse path text = .ok source)
    (htarget : source.target target ≠ source.package)
    (hc : source.context (tree.modulePath path) struct key target = .ok c) :
    c.table = m ++ "::" ++ struct.name ∧
      (Denotes c.type c.typeImport m struct.name ↔ IsLastSegment (packageName path) m) ∧
        (SpelledAs path (package ++ sourcesName :: rel) →
          (Denotes c.type c.typeImport m struct.name ↔ ¬NestedRoot rel)) := by
  obtain ⟨segments, hdefines, hnames, hcolon, rfl⟩ := hsource.exists_segments hm
  rw [hm] at hc
  have hpackage : source.package = packageName path := by
    rw [SourceFile.parse] at hparse
    cases hfile : Source.SourceText.parse text with
    | error e =>
      rw [hfile] at hparse
      cases hparse
    | ok file =>
      rw [hfile] at hparse
      cases hparse
      rfl
  have hdenotes := denotes_iff_isLastSegment hc htarget (joinSegments_ne_empty segments)
    (isLastSegment_root_iff hnames hcolon)
  rw [hpackage] at hdenotes
  refine ⟨SourceFile.table_of_context hc, hdenotes, fun hspelled => hdenotes.trans ?_⟩
  have hplace : package ++ sourcesName :: rel = (package ++ [sourcesName]) ++ rel := by simp
  exact isLastSegment_packageName_iff hspelled ⟨_, hplace⟩
    (isEntryName_of_canonical hsource.canonical)
    hdefines hnames hcolon

/-- The reference to the struct `A` of the module `a` from a module `stores` denotes it. -/
theorem denotes_iff_of_sample :
    sample.IsSource "src/a.rs" [] ["a.rs"] ∧ SpelledAs "src/a.rs" ["src", "a.rs"] ∧
      sample.modulePath "src/a.rs" = .ok "crate::a" ∧
        ∃ source : SourceFile, SourceFile.parse "src/a.rs" "struct A;" = .ok source ∧
          source.target (some "stores") ≠ source.package ∧
            ∃ c, source.context (sample.modulePath "src/a.rs") ⟨"A", []⟩ "" (some "stores") = .ok c ∧
              c.table = "crate::a" ++ "::" ++ "A" ∧
                Denotes c.type c.typeImport "crate::a" "A" := by
  have hmodule : DefinesModule ([] ++ ["a" ++ ".rs"]) ([] ++ ["a"]) := .file (by decide) (by decide)
  have hm : sample.modulePath "src/a.rs" = .ok "crate::a" := by
    rw [isSource_file.modulePath_eq_ok hmodule (by decide) (by decide)]
    decide
  have hpackage : packageName "src/a.rs" = "a" := by decide
  have hspelled : SpelledAs "src/a.rs" ["src", "a.rs"] :=
    .of_linkFree linkFree_sample (by decide) isSource_file.canonical
  have hparse := parse_sample "src/a.rs"
  rw [hpackage] at hparse
  have htarget : ({ path := "src/a.rs", package := "a", structs := [⟨"A", []⟩] } : SourceFile).target
      (some "stores") ≠ "a" := by decide
  have hc : ({ path := "src/a.rs", package := "a", structs := [⟨"A", []⟩] } : SourceFile).context
      (sample.modulePath "src/a.rs") ⟨"A", []⟩ "" (some "stores") =
        .ok { package := "stores", type := "a::A", name := "A", typeImport := "crate::a"
              table := "crate::a::A" } := by
    rw [hm]
    decide
  have hall := denotes_iff isSource_file hm hparse htarget hc
  refine ⟨isSource_file, hspelled, hm, _, hparse, htarget, _, hc, hall.1, ?_⟩
  have hnested : ¬NestedRoot ([] ++ ["a" ++ ".rs"]) := fun h => (nestedRoot_iff.1 h).1 rfl
  exact (hall.2.2 hspelled).2 hnested

/-- **A nested `lib.rs` is taken for the root**: the reference to the struct `A` of the module
`a::lib` is `crate::A`. -/
theorem not_denotes_of_nested :
    sample.modulePath "src/a/lib.rs" = .ok "crate::a::lib" ∧
      ∃ source : SourceFile, SourceFile.parse "src/a/lib.rs" "struct A;" = .ok source ∧
        ⟨"A", []⟩ ∈ source.structs ∧ source.target (some "stores") ≠ source.package ∧
          ∃ c, source.context (sample.modulePath "src/a/lib.rs") ⟨"A", []⟩ "" (some "stores") = .ok c ∧
            ¬Denotes c.type c.typeImport "crate::a::lib" "A" := by
  have hsource : sample.IsSource "src/a/lib.rs" [] ["a", "lib.rs"] := isSource_nested
  have hmodule : DefinesModule (["a"] ++ ["lib" ++ ".rs"]) (["a"] ++ ["lib"]) :=
    .file (by decide) (by decide)
  have hm : sample.modulePath "src/a/lib.rs" = .ok "crate::a::lib" := by
    rw [hsource.modulePath_eq_ok hmodule (by decide) (by decide)]
    decide
  have hpackage : packageName "src/a/lib.rs" = "crate" := by decide
  have hparse := parse_sample "src/a/lib.rs"
  rw [hpackage] at hparse
  have hc : ({ path := "src/a/lib.rs", package := "crate", structs := [⟨"A", []⟩] } :
      SourceFile).context (sample.modulePath "src/a/lib.rs") ⟨"A", []⟩ "" (some "stores") =
        .ok { package := "stores", type := "crate::A", name := "A", table := "crate::a::lib::A" } := by
    rw [hm]
    decide
  refine ⟨hm, _, hparse, List.mem_singleton.2 rfl, by decide, _, hc, ?_⟩
  rintro (⟨-, h⟩ | ⟨h, -⟩)
  · exact absurd h (by decide)
  · exact absurd h (by decide)

end FileTree

end RecordStore
