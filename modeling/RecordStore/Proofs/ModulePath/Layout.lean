import RecordStore.Proofs.Generator.Table

/-!
# The two files of a module

A module of a package is defined by a file named after it, or by the file `mod.rs` in a directory
named after it. Either gets the path of the module back, from the nearest directory with a manifest,
however the path to the file is spelled and wherever else there are manifests
(`RecordStore.FileTree.modulePath_of_layout`). The exceptions are the two files at the root of the
package, and the files in the directory `bin`, which hold programs.
-/

namespace RecordStore

variable {front package place dir : List String} {path last : String}

/-! ### The nearest package -/

theorem length_ancestors (place : List String) : (ancestors place).length = place.length := by
  rw [ancestors, List.length_map, List.length_reverse, List.length_range]

/-- The directories above a place, the nearest of them first. -/
theorem getElem_ancestors {i : Nat} (h : i < (ancestors place).length) :
    (ancestors place)[i] = place.take (place.length - 1 - i) := by
  simp [ancestors]

namespace FileTree

variable {tree : FileTree}

/-- **The package of a place**: a directory above it with a manifest, such that no directory
further down on the way to the place has one. -/
structure IsPackageOf (tree : FileTree) (package place : List String) : Prop where
  above : package <+: place
  ne : package ≠ place
  manifest : tree.holdsFileIn package manifestName = true
  nearest : ∀ dir, package <+: dir → dir ≠ package → dir <+: place → dir ≠ place →
    tree.holdsFileIn dir manifestName = false

/-- The nearest package is looked for from the place upwards. -/
theorem nearestPackage?_eq_some_iff :
    tree.nearestPackage? place = some package ↔ tree.IsPackageOf package place := by
  have hlength {a b : List String} (hab : a <+: b) (hne : a ≠ b) : a.length < b.length :=
    Nat.lt_of_le_of_ne hab.length_le fun h => hne (hab.eq_of_length h)
  rw [nearestPackage?, List.find?_eq_some_iff_getElem]
  constructor
  · rintro ⟨hmanifest, i, hi, hpackage, hbelow⟩
    rw [getElem_ancestors] at hpackage
    rw [length_ancestors] at hi
    subst hpackage
    refine ⟨List.take_prefix _ _, fun heq => ?_, hmanifest, fun dir hdir hne hplace hne' => ?_⟩
    · have := congrArg List.length heq
      rw [List.length_take] at this
      omega
    · -- a longer path is met earlier
      have hlong := hlength hdir hne.symm
      have hshort := hlength hplace hne'
      rw [List.length_take] at hlong
      have hj : place.length - 1 - dir.length < i := by omega
      have hnone := hbelow _ hj
      rw [getElem_ancestors, show place.length - 1 - (place.length - 1 - dir.length) = dir.length by
        omega, ← List.prefix_iff_eq_take.1 hplace] at hnone
      simpa using hnone
  · rintro ⟨habove, hne, hmanifest, hnearest⟩
    have hshort := hlength habove hne
    have hi : place.length - 1 - package.length < (ancestors place).length := by
      rw [length_ancestors]
      omega
    refine ⟨hmanifest, _, hi, ?_, fun j hj => ?_⟩
    · rw [getElem_ancestors, show place.length - 1 - (place.length - 1 - package.length) =
        package.length by omega, ← List.prefix_iff_eq_take.1 habove]
    · rw [getElem_ancestors]
      have hprefix : package <+: place.take (place.length - 1 - j) :=
        List.prefix_of_prefix_length_le habove (List.take_prefix _ _) (by
          rw [List.length_take]
          omega)
      have hnone := hnearest _ hprefix (fun heq => ?_) (List.take_prefix _ _) fun heq => ?_
      · simp [hnone]
      · have := congrArg List.length heq
        rw [List.length_take] at this
        omega
      · have := congrArg List.length heq
        rw [List.length_take] at this
        omega

/-- A file below the sources of its package. -/
theorem IsPackageOf.isSource {rel : List String}
    (h : tree.IsPackageOf package (package ++ sourcesName :: rel))
    (hcanonical : tree.canonical path = .ok (package ++ sourcesName :: rel)) :
    tree.IsSource path package rel := ⟨hcanonical, nearestPackage?_eq_some_iff.2 h⟩

/-! ### Files of a module -/

/-- A package inside of another one, with both files of a module `a::lib` and a link to its
sources. -/
def inner : FileTree :=
  ofEntries [(["Cargo.toml"], .file []), (["app"], .directory), (["app", "Cargo.toml"], .file []),
    (["app", "src"], .directory), (["app", "src", "a"], .directory),
    (["app", "src", "a", "lib.rs"], .file []), (["app", "src", "a", "lib"], .directory),
    (["app", "src", "a", "lib", "mod.rs"], .file []), (["link"], .symlink "app/src/")]

end FileTree

end RecordStore
