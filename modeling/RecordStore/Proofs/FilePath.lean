import Mathlib.Data.List.Basic
import RecordStore.Proofs.FileTree

/-!
# Canonical paths

What the names of a canonical path can be: parts of path texts and of targets of links, so they hold
no slash (`RecordStore.FileTree.slash_not_mem_of_canonical`), and they do not tell where to go, as
`.` and `..` do. A path that goes up nowhere, in a tree without links, is canonical but for its `.`
(`RecordStore.FileTree.canonical_eq_of_linkFree`).
-/

namespace RecordStore

/-- The parts between separators hold no separator. -/
theorem not_mem_of_mem_splitOn {α : Type} [BEq α] [LawfulBEq α] {a : α} {l part : List α}
    (h : part ∈ l.splitOn a) : a ∉ part := by
  induction l generalizing part with
  | nil =>
    rw [List.splitOn_nil, List.mem_singleton] at h
    subst h
    exact List.not_mem_nil
  | cons b l ih =>
    rw [List.splitOn_cons_eq_if_modifyHead] at h
    split at h
    · rcases List.mem_cons.1 h with rfl | h
      · exact List.not_mem_nil
      · exact ih h
    · rename_i hb
      cases hparts : l.splitOn a with
      | nil => exact absurd hparts (List.splitOn_ne_nil a l)
      | cons first parts =>
        rw [hparts] at h ih
        rcases List.mem_cons.1 h with rfl | h
        · intro ha
          rcases List.mem_cons.1 ha with rfl | ha
          · exact hb (beq_self_eq_true _)
          · exact ih (List.mem_cons_self ..) ha
        · exact ih (List.mem_cons_of_mem _ h)

namespace FileTree

variable {tree : FileTree} {path name : String} {links : Nat}
  {dir names canonicalNames : List String}
  {r : Resolved}

/-! ### Names in path texts -/

theorem slash_not_mem_of_mem_namesOf (h : name ∈ namesOf path) : '/' ∉ name.toList := by
  obtain ⟨part, hpart, rfl⟩ := List.mem_map.1 h
  rw [String.toList_ofList]
  exact not_mem_of_mem_splitOn (List.mem_filter.1 hpart).1

theorem slash_not_mem_of_mem_linkNames (h : name ∈ linkNames path) : '/' ∉ name.toList := by
  rw [linkNames] at h
  split at h
  · rcases List.mem_append.1 h with h | h
    · exact slash_not_mem_of_mem_namesOf h
    · rw [List.mem_singleton.1 h]
      decide
  · exact slash_not_mem_of_mem_namesOf h

theorem namesOf_of_checkPath (h : checkPath path = .ok names) : names = namesOf path := by
  rw [checkPath] at h
  repeat' split at h
  all_goals cases h
  rfl

/-- A path text that can be looked up. -/
structure IsRelative (path : String) : Prop where
  no_zero : path.toList.contains '\x00' = false
  ne_empty : path.isEmpty = false
  size : ¬4096 ≤ path.utf8ByteSize
  relative : path.startsWith "/" = false

theorem IsRelative.of_chars {chars : List Char} (hchars : path.toList = chars) (hne : chars ≠ [])
    (hzero : '\x00' ∉ chars) (hhead : chars.head? ≠ some '/') (hsize : ¬4096 ≤ path.utf8ByteSize) :
    IsRelative path where
  no_zero := by simpa [hchars] using hzero
  ne_empty := by
    have hempty : path ≠ "" := fun h => hne (hchars ▸ String.toList_eq_nil_iff.2 h)
    simpa using hempty
  size := hsize
  relative := FileTree.startsWith_slash_eq_false hchars hhead

theorem IsRelative.checkPath (h : IsRelative path) : checkPath path = .ok (namesOf path) := by
  simp only [FileTree.checkPath, h.no_zero, h.ne_empty, h.relative, if_neg h.size,
    Bool.false_eq_true, if_false]

/-! ### Names of entries -/

/-- The canonical path of a place, from the last name to the first. -/
def Resolved.place : Resolved → List String
  | .directory path => path
  | .file path _ => path
  | .free path => path

/-- A name that an entry can have. -/
structure IsEntryName (name : String) : Prop where
  no_slash : '/' ∉ name.toList
  ne_dot : name ≠ "."
  ne_dotdot : name ≠ ".."

/-- Every name on the way is that of an entry. -/
theorem isEntryName_of_walk (hdir : ∀ n ∈ dir, IsEntryName n) (hnames : ∀ n ∈ names, '/' ∉ n.toList)
    (h : tree.walk links dir names = .ok r) : ∀ n ∈ r.place, IsEntryName n := by
  have hextend {name : String} {rest dir : List String} (hdot : ¬name = ".") (hup : ¬name = "..")
      (hdir : ∀ n ∈ dir, IsEntryName n) (hnames : ∀ n ∈ name :: rest, '/' ∉ n.toList) :
      ∀ n ∈ name :: dir, IsEntryName n := by
    intro n hn
    rcases List.mem_cons.1 hn with rfl | hn
    · exact ⟨hnames n (List.mem_cons_self ..), hdot, hup⟩
    · exact hdir n hn
  have htail {name : String} {rest : List String} (hnames : ∀ n ∈ name :: rest, '/' ∉ n.toList) :
      ∀ n ∈ rest, '/' ∉ n.toList := fun n hn => hnames n (List.mem_cons_of_mem _ hn)
  fun_induction walk tree links dir names with
  | case1 =>
    cases h
    exact hdir
  | case2 _ _ _ ih => exact ih hdir (htail hnames) h
  | case3 => cases h
  | case4 _ _ _ up _ ih =>
    exact ih (fun n hn => hdir n (List.mem_cons_of_mem _ hn)) (htail hnames) h
  | case5 => cases h
  | case6 _ _ _ _ hdot hup =>
    cases h
    exact hextend hdot hup hdir hnames
  | case7 => cases h
  | case8 _ _ _ _ hdot hup =>
    cases h
    exact hextend hdot hup hdir hnames
  | case9 => cases h
  | case10 _ _ _ _ hdot hup _ _ ih => exact ih (hextend hdot hup hdir hnames) (htail hnames) h
  | case11 => cases h
  | case12 => cases h
  | case13 _ _ _ _ _ _ _ _ _ _ ih =>
    refine ih hdir (fun n hn => ?_) h
    rcases List.mem_append.1 hn with hn | hn
    · exact slash_not_mem_of_mem_linkNames hn
    · exact htail hnames n hn

theorem walk_of_canonical (h : tree.canonical path = .ok canonicalNames) :
    ∃ r, tree.walk maxLinks [] (namesOf path) = .ok r ∧ canonicalNames = r.place.reverse := by
  rw [canonical] at h
  cases hresolve : tree.resolve path with
  | error fault =>
    rw [hresolve] at h
    cases h
  | ok r =>
    refine ⟨r, ?_, ?_⟩
    · rw [resolve] at hresolve
      cases hcheck : checkPath path with
      | error fault =>
        rw [hcheck] at hresolve
        cases hresolve
      | ok names =>
        rw [hcheck] at hresolve
        rw [← namesOf_of_checkPath hcheck]
        exact hresolve
    · rw [hresolve] at h
      cases r with
      | directory place =>
        cases h
        rfl
      | free place => cases h
      | file place content =>
        replace h : (if path.endsWith "/" then .error .notDirectory else .ok place.reverse :
          Except FileFault (List String)) = .ok canonicalNames := h
        split at h
        · cases h
        · cases h
          rfl

/-- **The names of a canonical path are those of entries.** -/
theorem isEntryName_of_canonical (h : tree.canonical path = .ok canonicalNames) :
    ∀ n ∈ canonicalNames, IsEntryName n := by
  obtain ⟨r, hwalk, rfl⟩ := walk_of_canonical h
  intro n hn
  have hdir : ∀ n ∈ ([] : List String), IsEntryName n := fun n hn => nomatch hn
  exact isEntryName_of_walk hdir (fun n hn => slash_not_mem_of_mem_namesOf hn) hwalk n
    (List.mem_reverse.1 hn)

/-! ### Trees without links -/

/-- A tree without links. -/
def LinkFree (tree : FileTree) : Prop := ∀ place target, tree.entry place ≠ some (.symlink target)

/-- Without links, and without a way up, the names are those that are met. -/
theorem place_of_walk (hfree : tree.LinkFree) (hup : ".." ∉ names)
    (h : tree.walk links dir names = .ok r) :
    r.place = (names.filter (· ≠ ".")).reverse ++ dir := by
  have htail {name : String} {rest : List String} (hup : ".." ∉ name :: rest) : ".." ∉ rest :=
    fun h => hup (List.mem_cons_of_mem _ h)
  have hfilter {name : String} (hdot : ¬name = ".") (rest dir : List String) :
      ((name :: rest).filter (· ≠ ".")).reverse ++ dir =
        (rest.filter (· ≠ ".")).reverse ++ name :: dir := by
    rw [List.filter_cons_of_pos (by simpa using hdot), List.reverse_cons, List.append_assoc]
    rfl
  fun_induction walk tree links dir names with
  | case1 =>
    cases h
    rfl
  | case2 _ _ _ ih =>
    rw [ih (htail hup) h, List.filter_cons_of_neg (by simp)]
  | case3 => exact absurd (List.mem_cons_self ..) hup
  | case4 => exact absurd (List.mem_cons_self ..) hup
  | case5 => cases h
  | case6 _ _ _ rest hdot _ _ _ hempty =>
    cases h
    rw [hfilter hdot, List.isEmpty_iff.1 hempty]
    rfl
  | case7 => cases h
  | case8 _ _ _ rest hdot _ _ _ _ hempty =>
    cases h
    rw [hfilter hdot, List.isEmpty_iff.1 hempty]
    rfl
  | case9 => cases h
  | case10 _ _ _ rest hdot _ _ _ ih => rw [hfilter hdot, ih (htail hup) h]
  | case11 => cases h
  | case12 => cases h
  | case13 _ _ _ _ _ _ _ hlink => exact absurd hlink (hfree _ _)

/-- **A path that goes up nowhere is canonical** in a tree without links, but for its `.`. -/
theorem canonical_eq_of_linkFree (hfree : tree.LinkFree) (hup : ".." ∉ namesOf path)
    (h : tree.canonical path = .ok canonicalNames) :
    canonicalNames = (namesOf path).filter (· ≠ ".") := by
  obtain ⟨r, hwalk, rfl⟩ := walk_of_canonical h
  rw [place_of_walk hfree hup hwalk, List.append_nil, List.reverse_reverse]

/-! ### Paths of plain names -/

/-- A name that is looked up as it stands. -/
def IsPlain (name : String) : Prop :=
  name ≠ "." ∧ name ≠ ".." ∧ ¬maxNameSize < name.utf8ByteSize

instance : DecidablePred IsPlain := fun _ => inferInstanceAs (Decidable (_ ∧ _))

/-- A directory is entered. -/
theorem walk_directory {rest : List String} (hplain : IsPlain name)
    (h : tree.entry (name :: dir).reverse = some .directory) :
    tree.walk links dir (name :: rest) = tree.walk links (name :: dir) rest := by
  rw [walk_name _ _ _ _ hplain.1 hplain.2.1 hplain.2.2, h]

/-- A file ends the path. -/
theorem walk_file {content : Bytes} (hplain : IsPlain name)
    (h : tree.entry (name :: dir).reverse = some (.file content)) :
    tree.walk links dir [name] = .ok (.file (name :: dir) content) := by
  rw [walk_name _ _ _ _ hplain.1 hplain.2.1 hplain.2.2, h]
  rfl

/-- A path text is canonical where it leads to a file. -/
theorem canonical_of_file {place : List String} {content : Bytes} (hpath : IsRelative path)
    (hslash : path.endsWith "/" = false)
    (h : tree.walk maxLinks [] (namesOf path) = .ok (.file place content)) :
    tree.canonical path = .ok place.reverse := by
  have hresolve : tree.resolve path = .ok (.file place content) := by
    rw [resolve, hpath.checkPath]
    exact h
  rw [canonical, hresolve]
  exact if_neg (by simp [hslash])

/-- Plain names lead through directories to a file. -/
theorem walk_plain {content : Bytes} (hplain : ∀ n ∈ names ++ [name], IsPlain n)
    (hdirs : ∀ k < names.length, tree.entry (dir.reverse ++ names.take (k + 1)) = some .directory)
    (hfile : tree.entry (dir.reverse ++ (names ++ [name])) = some (.file content)) :
    tree.walk links dir (names ++ [name]) = .ok (.file (name :: names.reverse ++ dir) content) := by
  induction names generalizing dir with
  | nil =>
    refine walk_file (hplain name (List.mem_singleton.2 rfl)) ?_
    rw [List.reverse_cons]
    exact hfile
  | cons first more ih =>
    have hentry : tree.entry (first :: dir).reverse = some .directory := by
      rw [List.reverse_cons]
      exact hdirs 0 (Nat.succ_pos _)
    rw [List.cons_append, walk_directory (hplain first (List.mem_cons_self ..)) hentry,
      ih (fun n hn => hplain n (List.mem_cons_of_mem _ hn)), List.reverse_cons]
    · simp
    · intro k hk
      have := hdirs (k + 1) (Nat.succ_lt_succ hk)
      rwa [List.take_succ_cons, List.append_cons, ← List.reverse_cons] at this
    · rwa [List.cons_append, List.append_cons, ← List.reverse_cons] at hfile

/-- A path of plain names to a file is canonical. -/
theorem canonical_plain (names : List String) (content : Bytes) (hpath : IsRelative path)
    (hslash : path.endsWith "/" = false) (hnames : namesOf path = names ++ [name])
    (hplain : ∀ n ∈ names ++ [name], IsPlain n)
    (hdirs : ∀ k < names.length, tree.entry (names.take (k + 1)) = some .directory)
    (hfile : tree.entry (names ++ [name]) = some (.file content)) :
    tree.canonical path = .ok (names ++ [name]) := by
  have hwalk : tree.walk maxLinks [] (namesOf path) =
      .ok (.file (name :: names.reverse ++ []) content) := by
    rw [hnames]
    exact walk_plain hplain hdirs hfile
  rw [canonical_of_file hpath hslash hwalk]
  simp

/-- Whether a directory holds a file under a name that is no link, by its entry. -/
theorem holdsFileIn_of_entry {dir : List String} (hplain : IsPlain name)
    (hlink : ∀ target, tree.entry (dir ++ [name]) ≠ some (.symlink target)) :
    tree.holdsFileIn dir name =
      match tree.entry (dir ++ [name]) with
      | some (.file _) => true
      | _ => false := by
  obtain ⟨hdot, hup, hsize⟩ := hplain
  rw [holdsFileIn, walk_name _ _ _ _ hdot hup hsize, List.reverse_cons, List.reverse_reverse]
  cases hentry : tree.entry (dir ++ [name]) with
  | none => rfl
  | some entry =>
    cases entry with
    | file => rfl
    | directory =>
      dsimp only
      rw [walk.eq_def]
    | symlink target => exact absurd hentry (hlink target)

/-- Whether a directory holds a file in a tree without links. -/
theorem holdsFileIn_plain (hfree : tree.LinkFree) (dir : List String) (hplain : IsPlain name) :
    tree.holdsFileIn dir name =
      match tree.entry (dir ++ [name]) with
      | some (.file _) => true
      | _ => false := holdsFileIn_of_entry hplain fun target => hfree _ target

/-! ### Trees of a few entries -/

/-- The tree with the given entries. -/
def ofEntries (entries : List (List String × FileEntry)) : FileTree where
  entry place := entries.lookup place

/-- A directory of such a tree holds a file under a name that only empty files have if there is an
entry for it. -/
theorem holdsFileIn_ofEntries {entries : List (List String × FileEntry)} {dir : List String}
    (hplain : IsPlain name) (hfiles : ∀ e ∈ entries, e.1.getLast? = some name → e.2 = .file []) :
    (ofEntries entries).holdsFileIn dir name = (entries.lookup (dir ++ [name])).isSome := by
  have hfile : ∀ entry, entries.lookup (dir ++ [name]) = some entry → entry = .file [] := by
    intro entry hentry
    obtain ⟨before, after, rfl, -⟩ := List.lookup_eq_some_iff.1 hentry
    exact hfiles (dir ++ [name], entry) (by simp) (List.getLast?_concat ..)
  rw [holdsFileIn_of_entry hplain fun target hentry => by cases hfile _ hentry]
  change (match entries.lookup (dir ++ [name]) with
    | some (.file _) => true
    | _ => false) = _
  cases hentry : entries.lookup (dir ++ [name]) with
  | none => rfl
  | some entry =>
    rw [hfile entry hentry]
    rfl

end FileTree

end RecordStore
