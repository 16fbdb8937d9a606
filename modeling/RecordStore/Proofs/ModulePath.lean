import Mathlib.Data.List.Induction
import RecordStore.ModulePath
import RecordStore.Proofs.FilePath
import RecordStore.Proofs.Source.Name

/-!
# Which files define which module

Under the sources of a package a module has at most two files: `D/x.rs` and `D/x/mod.rs` for a
module `x` of `D`, and `lib.rs` and `main.rs` for the root
(`RecordStore.DefinesModule.iff_sameModule`). The path of a module tells its segments, since no name
in a directory holds a colon and is read as a single name (`RecordStore.segments_inj`).
-/

namespace RecordStore

variable {names names' segments segments' : List String} {m stem file : String}

/-! ### Names joined by colons -/

/-- Two colons in front of a text without colons are the last two. -/
theorem append_colons_inj {x y a b : String} (ha : ':' ∉ a.toList) (hb : ':' ∉ b.toList)
    (h : x ++ "::" ++ a = y ++ "::" ++ b) : x = y ∧ a = b := by
  have hsuffix {z c : String} (hc : ':' ∉ c.toList) :
      ((z ++ "::" ++ c).toList.reverse).takeWhile (· ≠ ':') = c.toList.reverse := by
    have hall : ∀ d ∈ c.toList.reverse, decide (d ≠ ':') = true := by
      intro d hd
      rw [decide_eq_true_eq]
      rintro rfl
      exact hc (List.mem_reverse.1 hd)
    rw [String.toList_append, String.toList_append, List.reverse_append, List.reverse_append,
      List.takeWhile_append_of_pos hall]
    simp
  have hab : a = b := by
    have := hsuffix (z := x) ha
    rw [h, hsuffix hb] at this
    exact String.toList_inj.1 (List.reverse_injective this).symm
  subst hab
  have hlist := congrArg String.toList h
  simp only [String.toList_append, List.append_cancel_right_eq] at hlist
  exact ⟨String.toList_inj.1 hlist, rfl⟩

/-- The path of a module from its segments. -/
def joinSegments (segments : List String) : String := String.intercalate "::" ("crate" :: segments)

theorem joinSegments_nil : joinSegments [] = "crate" := String.intercalate_singleton

theorem joinSegments_concat (segments : List String) (name : String) :
    joinSegments (segments ++ [name]) = joinSegments segments ++ "::" ++ name := by
  rw [joinSegments, ← List.cons_append, String.intercalate_append_of_ne_nil (by simp) (by simp),
    String.intercalate_singleton]
  rfl

theorem joinSegments_concat_ne (segments : List String) (name : String) :
    joinSegments (segments ++ [name]) ≠ "crate" := by
  intro h
  rw [joinSegments_concat] at h
  have hcolon : ':' ∈ ("crate" : String).toList := by
    rw [← h]
    simp
  exact absurd hcolon (by decide)

/-- **The path of a module tells its segments**, if they hold no colons. -/
theorem segments_inj (h : ∀ s ∈ segments, ':' ∉ s.toList) (h' : ∀ s ∈ segments', ':' ∉ s.toList)
    (heq : joinSegments segments = joinSegments segments') : segments = segments' := by
  induction segments using List.reverseRecOn generalizing segments' with
  | nil =>
    rcases List.eq_nil_or_concat segments' with rfl | ⟨front, name, rfl⟩
    · rfl
    · exact absurd heq.symm (by
        rw [joinSegments_nil, List.concat_eq_append]
        exact joinSegments_concat_ne front name)
  | append_singleton front name ih =>
    rcases List.eq_nil_or_concat segments' with rfl | ⟨front', name', rfl⟩
    · exact absurd heq (by
        rw [joinSegments_nil]
        exact joinSegments_concat_ne front name)
    · rw [List.concat_eq_append] at h' heq ⊢
      rw [joinSegments_concat, joinSegments_concat] at heq
      have hname := h name (List.mem_append_right _ (List.mem_singleton.2 rfl))
      have hname' := h' name' (List.mem_append_right _ (List.mem_singleton.2 rfl))
      obtain ⟨hfront, rfl⟩ := append_colons_inj hname hname' heq
      rw [ih (fun s hs => h s (List.mem_append_left _ hs))
        (fun s hs => h' s (List.mem_append_left _ hs)) hfront]

/-- A name in a directory that is read as a single name holds no colon. -/
theorem colon_not_mem_of_isSingleName {s : String} (h : Source.isSingleName s = true)
    (hslash : '/' ∉ s.toList) : ':' ∉ s.toList := by
  obtain ⟨w, -, hchars⟩ := Source.chars_of_isSingleName h hslash
  intro hcolon
  rcases hchars ':' hcolon with hc | hc | hc
  · exact Source.Word.not_mem_text (by decide) (by decide) (by decide) w hc
  · exact absurd hc (by decide)
  · exact absurd hc (by decide)

/-! ### The files of a module -/

/-- **Which module a file defines**: the names from the directory of the sources to the file, and
the segments of the module under the root of the package. -/
inductive DefinesModule : List String → List String → Prop
  | lib : DefinesModule ["lib.rs"] []
  | main : DefinesModule ["main.rs"] []
  | directory {dirs : List String} (h : dirs ≠ []) : DefinesModule (dirs ++ ["mod.rs"]) dirs
  | file {dirs : List String} {stem : String} (hmod : stem ≠ "mod")
      (hroot : dirs = [] → stem ≠ "lib" ∧ stem ≠ "main") :
      DefinesModule (dirs ++ [stem ++ ".rs"]) (dirs ++ [stem])

theorem sourceStem?_eq_some_iff : sourceStem? file = some stem ↔ file = stem ++ ".rs" := by
  rw [sourceStem?.eq_def]
  constructor
  · intro h
    split at h
    · rename_i rest hrev
      cases h
      rw [← String.toList_inj, String.toList_append, String.toList_ofList]
      have := congrArg List.reverse hrev
      rw [List.reverse_reverse] at this
      rw [this]
      simp
    · cases h
  · rintro rfl
    rw [String.toList_append, List.reverse_append]
    simp

theorem append_rs_inj {a b : String} (h : a ++ ".rs" = b ++ ".rs") : a = b := by
  have hlist := congrArg String.toList h
  simp only [String.toList_append, List.append_cancel_right_eq] at hlist
  exact String.toList_inj.1 hlist

/-- A path to a source file tells the directories and the stem. -/
theorem path_inj {d e : List String} {a b : String}
    (h : d ++ [a ++ ".rs"] = e ++ [b ++ ".rs"]) : d = e ∧ a = b := by
  obtain ⟨hdirs, hfile⟩ := List.append_inj' h rfl
  exact ⟨hdirs, append_rs_inj (List.singleton_inj.1 hfile)⟩

theorem stemSegments_eq_ok_iff {dirs : List String} :
    stemSegments dirs stem = .ok segments ↔ DefinesModule (dirs ++ [stem ++ ".rs"]) segments := by
  constructor
  · intro h
    rw [stemSegments.eq_def] at h
    split at h
    · cases h
      exact .lib
    · cases h
      exact .main
    · cases h
    · rename_i hdirs
      cases h
      exact .directory fun hnil => hdirs hnil
    · rename_i hmod hlib hmain _
      cases h
      exact .file hmod fun hnil => ⟨fun h => hlib h hnil, fun h => hmain h hnil⟩
  · generalize hnames : dirs ++ [stem ++ ".rs"] = names
    intro h
    cases h with
    | lib =>
      obtain ⟨rfl, rfl⟩ := path_inj (e := []) (b := "lib") hnames
      rfl
    | main =>
      obtain ⟨rfl, rfl⟩ := path_inj (e := []) (b := "main") hnames
      rfl
    | directory hdirs =>
      obtain ⟨rfl, rfl⟩ := path_inj (b := "mod") hnames
      rw [stemSegments.eq_def]
      split
      · exact absurd rfl hdirs
      · exact absurd rfl hdirs
      · exact absurd rfl hdirs
      · rfl
      · rename_i hmod _ _ _
        exact absurd rfl hmod
    | file hmod hroot =>
      obtain ⟨rfl, rfl⟩ := path_inj hnames
      rw [stemSegments.eq_def]
      split
      · exact absurd rfl (hroot rfl).1
      · exact absurd rfl (hroot rfl).2
      · exact absurd rfl hmod
      · exact absurd rfl hmod
      · rfl

/-- Every file that defines a module is a source file. -/
theorem DefinesModule.exists_stem (h : DefinesModule names segments) :
    ∃ dirs stem, names = dirs ++ [stem ++ ".rs"] := by
  cases h with
  | lib => exact ⟨[], "lib", rfl⟩
  | main => exact ⟨[], "main", rfl⟩
  | directory => exact ⟨_, "mod", rfl⟩
  | file => exact ⟨_, _, rfl⟩

/-- The segments of a module are parts of the path of its file. -/
theorem DefinesModule.slash_not_mem (h : DefinesModule names segments)
    (hnames : ∀ n ∈ names, '/' ∉ n.toList) : ∀ s ∈ segments, '/' ∉ s.toList := by
  cases h with
  | lib => exact fun _ h => nomatch h
  | main => exact fun _ h => nomatch h
  | directory => exact fun s hs => hnames s (List.mem_append_left _ hs)
  | file =>
    intro s hs
    rcases List.mem_append.1 hs with hs | hs
    · exact hnames s (List.mem_append_left _ hs)
    · obtain rfl := List.mem_singleton.1 hs
      intro hslash
      refine hnames _ (List.mem_append_right _ (List.mem_singleton.2 rfl)) ?_
      rw [String.toList_append]
      exact List.mem_append_left _ hslash

/-- The path of a module, if all its segments are names. -/
def checkedPath (segments : List String) : Except ModulePathFault String :=
  match segments.find? fun s => !Source.isSingleName s with
  | some bad => .error (.invalidName bad)
  | none => .ok (joinSegments segments)

theorem checkedPath_eq_ok_iff :
    checkedPath segments = .ok m ↔
      (∀ s ∈ segments, Source.isSingleName s = true) ∧ m = joinSegments segments := by
  rw [checkedPath]
  constructor
  · intro h
    split at h
    · cases h
    · rename_i hfind
      cases h
      exact ⟨by simpa using hfind, rfl⟩
  · rintro ⟨hnames, rfl⟩
    have hfind : (segments.find? fun s => !Source.isSingleName s) = none := by simpa using hnames
    rw [hfind]

theorem modulePathOf_concat (dirs : List String) (stem : String) :
    modulePathOf (dirs ++ [stem ++ ".rs"]) =
      if dirs.head? = some "bin" then .error .binary
      else (stemSegments dirs stem).bind checkedPath := by
  rw [modulePathOf, List.getLast?_concat, List.dropLast_concat]
  dsimp only
  rw [sourceStem?_eq_some_iff.2 rfl]
  rfl

/-- **When a file has a module path**: it defines a module, not in the programs of the package, and
the segments of the module are names. -/
theorem modulePathOf_eq_ok_iff :
    modulePathOf names = .ok m ↔ ∃ segments, DefinesModule names segments ∧
      names.dropLast.head? ≠ some "bin" ∧ (∀ s ∈ segments, Source.isSingleName s = true) ∧
        m = joinSegments segments := by
  constructor
  · intro h
    obtain ⟨dirs, stem, rfl⟩ : ∃ dirs stem, names = dirs ++ [stem ++ ".rs"] := by
      rcases List.eq_nil_or_concat names with rfl | ⟨dirs, file, rfl⟩
      · cases h
      · rw [List.concat_eq_append, modulePathOf, List.getLast?_concat] at h
        dsimp only at h
        cases hstem : sourceStem? file with
        | none =>
          rw [hstem] at h
          cases h
        | some stem => exact ⟨dirs, stem, by rw [sourceStem?_eq_some_iff.1 hstem]; simp⟩
    rw [modulePathOf_concat] at h
    split at h
    · cases h
    · rename_i hbin
      cases hsegments : stemSegments dirs stem with
      | error fault =>
        rw [hsegments] at h
        cases h
      | ok segments =>
        rw [hsegments] at h
        refine ⟨segments, stemSegments_eq_ok_iff.1 hsegments, ?_, checkedPath_eq_ok_iff.1 h⟩
        rwa [List.dropLast_concat]
  · rintro ⟨segments, hdefines, hbin, hchecked⟩
    obtain ⟨dirs, stem, rfl⟩ := hdefines.exists_stem
    rw [List.dropLast_concat] at hbin
    rw [modulePathOf_concat, if_neg hbin, stemSegments_eq_ok_iff.2 hdefines]
    exact checkedPath_eq_ok_iff.2 hchecked

/-! ### Files of one module -/

/-- **Two files of one module**: the same file, a file and the file of a directory for one module,
or two files for the root. -/
inductive SameModule : List String → List String → Prop
  | same (names : List String) : SameModule names names
  | fileDirectory {dirs : List String} {name : String} (hmod : name ≠ "mod")
      (hroot : dirs = [] → name ≠ "lib" ∧ name ≠ "main") :
      SameModule (dirs ++ [name ++ ".rs"]) (dirs ++ [name, "mod.rs"])
  | directoryFile {dirs : List String} {name : String} (hmod : name ≠ "mod")
      (hroot : dirs = [] → name ≠ "lib" ∧ name ≠ "main") :
      SameModule (dirs ++ [name, "mod.rs"]) (dirs ++ [name ++ ".rs"])
  | libMain : SameModule ["lib.rs"] ["main.rs"]
  | mainLib : SameModule ["main.rs"] ["lib.rs"]

namespace DefinesModule

/-- A file defines one module. -/
theorem unique (h : DefinesModule names segments) (h' : DefinesModule names segments') :
    segments = segments' := by
  obtain ⟨dirs, stem, rfl⟩ := h.exists_stem
  have heq := (stemSegments_eq_ok_iff.2 h).symm.trans (stemSegments_eq_ok_iff.2 h')
  exact Except.ok.inj heq

/-- The file of a directory defines the module of the directory. -/
theorem of_directory (dirs : List String) (name : String) :
    DefinesModule (dirs ++ [name, "mod.rs"]) (dirs ++ [name]) := by
  have h := DefinesModule.directory
    (List.append_ne_nil_of_right_ne_nil dirs (List.cons_ne_nil name []))
  rwa [List.append_assoc] at h

/-- **The files that define a module.** -/
theorem iff_sameModule (h : DefinesModule names segments) :
    DefinesModule names' segments ↔ SameModule names names' := by
  constructor
  · intro h'
    cases h with
    | lib =>
      generalize hnil : ([] : List String) = segments at h'
      cases h' with
      | lib => exact .same _
      | main => exact .libMain
      | directory hdirs => exact absurd hnil.symm hdirs
      | file => simp at hnil
    | main =>
      generalize hnil : ([] : List String) = segments at h'
      cases h' with
      | lib => exact .mainLib
      | main => exact .same _
      | directory hdirs => exact absurd hnil.symm hdirs
      | file => simp at hnil
    | directory hdirs =>
      cases h' with
      | lib => exact absurd rfl hdirs
      | main => exact absurd rfl hdirs
      | directory => exact .same _
      | file hmod hroot =>
        rw [List.append_assoc]
        exact .directoryFile hmod hroot
    | @file dirs stem hmod hroot =>
      generalize hsegments : dirs ++ [stem] = segments at h'
      cases h' with
      | lib => simp at hsegments
      | main => simp at hsegments
      | directory hdirs =>
        subst hsegments
        rw [List.append_assoc]
        exact .fileDirectory hmod hroot
      | file =>
        obtain ⟨rfl, hstem⟩ := List.append_inj' hsegments rfl
        obtain rfl := List.singleton_inj.1 hstem
        exact .same _
  · intro hsame
    cases hsame with
    | same => exact h
    | fileDirectory hmod hroot =>
      rw [h.unique (.file hmod hroot)]
      exact of_directory _ _
    | directoryFile hmod hroot =>
      rw [h.unique (of_directory _ _)]
      exact .file hmod hroot
    | libMain =>
      rw [h.unique .lib]
      exact .main
    | mainLib =>
      rw [h.unique .main]
      exact .lib

end DefinesModule

/-! ### Files of a package -/

namespace FileTree

variable {tree : FileTree} {path : String} {package rel : List String}

/-- The nearest directory above a canonical path that holds a manifest. -/
def nearestPackage? (tree : FileTree) (place : List String) : Option (List String) :=
  (ancestors place).find? (tree.holdsFileIn · manifestName)

/-- The nearest package in a tree of a few entries, where all manifests are empty files. -/
theorem nearestPackage?_ofEntries {entries : List (List String × FileEntry)}
    (hfiles : ∀ e ∈ entries, e.1.getLast? = some manifestName → e.2 = .file [])
    (place : List String) :
    (ofEntries entries).nearestPackage? place =
      (ancestors place).find? fun dir => (entries.lookup (dir ++ [manifestName])).isSome := by
  have hplain : IsPlain manifestName := by decide
  simp only [nearestPackage?, holdsFileIn_ofEntries hplain hfiles]

/-- **A file under the sources of a package**: a path leads to it, `package` is the nearest
directory above it with a manifest, and `rel` leads from the sources of the package to it. -/
structure IsSource (tree : FileTree) (path : String) (package rel : List String) : Prop where
  canonical : tree.canonical path = .ok (package ++ sourcesName :: rel)
  nearest : tree.nearestPackage? (package ++ sourcesName :: rel) = some package

/-- The module path of a file under the sources of a package. -/
theorem IsSource.modulePath (h : tree.IsSource path package rel) :
    tree.modulePath path = modulePathOf rel := by
  have hnames : namesInSources? package (package ++ sourcesName :: rel) = some rel := by
    rw [namesInSources?, List.drop_left]
    simp
  have hfind : (ancestors (package ++ sourcesName :: rel)).find?
      (tree.holdsFileIn · manifestName) = some package := h.nearest
  rw [FileTree.modulePath, h.canonical]
  dsimp only
  rw [modulePathAt, hfind]
  dsimp only
  rw [hnames]

/-- A file that defines a module has the path of the module. -/
theorem IsSource.modulePath_eq_ok (h : tree.IsSource path package rel)
    (hdefines : DefinesModule rel segments) (hbin : rel.dropLast.head? ≠ some "bin")
    (hnames : ∀ s ∈ segments, Source.isSingleName s = true) :
    tree.modulePath path = .ok (joinSegments segments) := by
  rw [h.modulePath]
  exact modulePathOf_eq_ok_iff.2 ⟨segments, hdefines, hbin, hnames, rfl⟩

/-- Every file with a module path is under the sources of a package. -/
theorem exists_isSource (h : tree.modulePath path = .ok m) :
    ∃ package rel, tree.IsSource path package rel := by
  rw [FileTree.modulePath] at h
  cases hcanonical : tree.canonical path with
  | error fault =>
    rw [hcanonical] at h
    cases h
  | ok place =>
    rw [hcanonical] at h
    dsimp only at h
    rw [modulePathAt] at h
    cases hfind : (ancestors place).find? (tree.holdsFileIn · manifestName) with
    | none =>
      rw [hfind] at h
      cases h
    | some package =>
      rw [hfind] at h
      dsimp only at h
      cases hnames : namesInSources? package place with
      | none =>
        rw [hnames] at h
        cases h
      | some rel =>
        have hplace : place = package ++ sourcesName :: rel := by
          obtain ⟨n, -, rfl⟩ := List.mem_map.1 (List.mem_of_find?_eq_some hfind)
          have hplace := List.prefix_iff_eq_append.1 (List.take_prefix n place)
          rw [namesInSources?] at hnames
          split at hnames
          · rename_i hdrop
            split at hnames
            · rename_i hname
              cases hnames
              rw [← hname, ← hdrop, hplace]
            · cases hnames
          · cases hnames
        subst hplace
        exact ⟨package, rel, hcanonical, hfind⟩

theorem IsSource.slash_not_mem (h : tree.IsSource path package rel) :
    ∀ n ∈ rel, '/' ∉ n.toList := fun n hn =>
  (isEntryName_of_canonical h.canonical n
    (List.mem_append_right _ (List.mem_cons_of_mem _ hn))).no_slash

/-- **What the module path of a file tells**: the segments of the module, none of which holds a
colon. -/
theorem IsSource.exists_segments (h : tree.IsSource path package rel)
    (hm : tree.modulePath path = .ok m) :
    ∃ segments, DefinesModule rel segments ∧ (∀ s ∈ segments, Source.isSingleName s = true) ∧
      (∀ s ∈ segments, ':' ∉ s.toList) ∧ m = joinSegments segments := by
  rw [h.modulePath] at hm
  obtain ⟨segments, hdefines, -, hnames, rfl⟩ := modulePathOf_eq_ok_iff.1 hm
  refine ⟨segments, hdefines, hnames, fun s hs => ?_, rfl⟩
  exact colon_not_mem_of_isSingleName (hnames s hs) (hdefines.slash_not_mem h.slash_not_mem s hs)

end FileTree

end RecordStore
