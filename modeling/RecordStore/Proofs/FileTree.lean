import RecordStore.FileTree.Basic

/-!
# Writing a file and reading it again

A path that can be written leads to one place, a file or a free name, and writing
changes the entry of this place and no other. On the way there only directories and
links are met, so the way is the same afterwards
(`RecordStore.FileTree.walk_set`): what was written is what the path reads
(`RecordStore.FileTree.read_of_write`), and the path can be written again
(`RecordStore.FileTree.accepts_of_write`).
-/

namespace RecordStore

namespace FileTree

variable {tree after : FileTree} {path : String} {content : Bytes}

/-! ### The place that a path leads to -/

/-- The place of a file or of a free name. -/
def Resolved.target? : Resolved → Option (List String)
  | .directory _ => none
  | .file place _ => some place
  | .free place => some place

/-- What stands at the place that names lead to: a file, or nothing. -/
theorem entry_of_walk {links : Nat} {dir names : List String} {r : Resolved}
    {place : List String} (h : tree.walk links dir names = .ok r) (hr : r.target? = some place) :
    tree.entry place.reverse = none ∨ ∃ old, tree.entry place.reverse = some (.file old) := by
  fun_induction walk tree links dir names with
  | case1 =>
    cases h
    cases hr
  | case2 _ _ _ ih => exact ih h
  | case3 => cases h
  | case4 _ _ _ _ _ ih => exact ih h
  | case5 => cases h
  | case6 _ _ _ _ _ _ _ hentry =>
    cases h
    cases hr
    exact Or.inl hentry
  | case7 => cases h
  | case8 _ _ _ _ _ _ _ content hentry =>
    cases h
    cases hr
    exact Or.inr ⟨content, hentry⟩
  | case9 => cases h
  | case10 _ _ _ _ _ _ _ _ ih => exact ih h
  | case11 => cases h
  | case12 => cases h
  | case13 _ _ _ _ _ _ _ _ _ _ ih => exact ih h

theorem walk_dot (tree : FileTree) (links : Nat) (dir rest : List String) :
    tree.walk links dir ("." :: rest) = tree.walk links dir rest := by
  rw [walk.eq_def]
  exact if_pos rfl

theorem walk_dotdot (tree : FileTree) (links : Nat) (up rest : List String) (name : String) :
    tree.walk links (name :: up) (".." :: rest) = tree.walk links up rest := by
  rw [walk.eq_def]
  exact (if_neg (by decide)).trans (if_pos rfl)

/-- What a name that is neither too long nor one of the two special names leads to. -/
theorem walk_name (tree : FileTree) (links : Nat) (dir rest : List String) {name : String}
    (h1 : name ≠ ".") (h2 : name ≠ "..") (h3 : ¬ maxNameSize < name.utf8ByteSize) :
    tree.walk links dir (name :: rest) =
      match tree.entry (name :: dir).reverse with
      | none => if rest.isEmpty then .ok (.free (name :: dir)) else .error .notFound
      | some (.file content) =>
        if rest.isEmpty then .ok (.file (name :: dir) content) else .error .notDirectory
      | some .directory => walk tree links (name :: dir) rest
      | some (.symlink target) =>
        match links with
        | 0 => .error .tooManyLinks
        | links + 1 =>
          if target.isEmpty || target.startsWith "/" then .error .notFound
          else walk tree links dir (linkNames target ++ rest) := by
  rw [walk.eq_def]
  exact (if_neg h1).trans ((if_neg h2).trans (if_neg h3))

theorem entry_set_self (tree : FileTree) (p : List String) (e : Option FileEntry) :
    (tree.set p e).entry p = e := if_pos rfl

/-- **The way to a place is the same when a file is written there.** -/
theorem walk_set {links : Nat} {dir names : List String} {r : Resolved} {place : List String}
    (h : tree.walk links dir names = .ok r) (hr : r.target? = some place) (content : Bytes) :
    (tree.set place.reverse (some (.file content))).walk links dir names =
      .ok (.file place content) := by
  -- neither a directory nor a link on the way is the place itself
  have hplace := entry_of_walk h hr
  have hother : ∀ p e, tree.entry p = some e → (∀ old, e ≠ .file old) →
      (tree.set place.reverse (some (.file content))).entry p = some e := by
    intro p e hp he
    have hne : p ≠ place.reverse := by
      rintro rfl
      rcases hplace with hnone | ⟨old, hfile⟩
      · rw [hp] at hnone
        cases hnone
      · rw [hp] at hfile
        exact he old (Option.some.inj hfile)
    simp only [set]
    rw [if_neg hne, hp]
  have hself := tree.entry_set_self place.reverse (some (.file content))
  fun_induction walk tree links dir names with
  | case1 =>
    cases h
    cases hr
  | case2 _ _ _ ih =>
    rw [walk_dot]
    exact ih h
  | case3 => cases h
  | case4 _ _ _ _ _ ih =>
    rw [walk_dotdot]
    exact ih h
  | case5 => cases h
  | case6 _ _ _ _ h1 h2 h3 _ hrest =>
    cases h
    cases hr
    rw [walk_name _ _ _ _ h1 h2 h3, hself]
    simp only [if_pos hrest]
  | case7 => cases h
  | case8 _ _ _ _ h1 h2 h3 _ _ hrest =>
    cases h
    cases hr
    rw [walk_name _ _ _ _ h1 h2 h3, hself]
    simp only [if_pos hrest]
  | case9 => cases h
  | case10 _ _ _ _ h1 h2 h3 hentry ih =>
    rw [walk_name _ _ _ _ h1 h2 h3, hother _ _ hentry (by simp)]
    exact ih h
  | case11 => cases h
  | case12 => cases h
  | case13 _ _ _ h1 h2 h3 target hentry _ htarget ih =>
    rw [walk_name _ _ _ _ h1 h2 h3, hother _ _ hentry (by simp)]
    simp only [if_neg htarget]
    exact ih h

/-! ### Reading and writing -/

/-- A path that can be written: it leads to a file or to a free name. -/
def Accepts (tree : FileTree) (path : String) : Prop :=
  ∃ content after, tree.write path content = .ok after

/-- **What writing does**: it puts the content at the place that the path leads to. -/
theorem write_eq_ok_iff : tree.write path content = .ok after ↔
    ∃ r place, tree.resolve path = .ok r ∧ r.target? = some place ∧
      ¬ path.endsWith "/" = true ∧ after = tree.set place.reverse (some (.file content)) := by
  unfold write
  cases hr : tree.resolve path with
  | error fault =>
    constructor
    · intro h
      cases h
    · rintro ⟨r, place, h, -⟩
      cases h
  | ok r =>
    constructor
    · intro h
      cases r with
      | directory => cases h
      | file place old =>
        change (if path.endsWith "/" = true then _ else _) = _ at h
        split at h
        · cases h
        · rename_i hslash
          exact ⟨_, place, rfl, rfl, hslash, (Except.ok.inj h).symm⟩
      | free place =>
        change (if path.endsWith "/" = true then _ else _) = _ at h
        split at h
        · cases h
        · rename_i hslash
          exact ⟨_, place, rfl, rfl, hslash, (Except.ok.inj h).symm⟩
    · rintro ⟨r', place, h, hplace, hslash, rfl⟩
      cases h
      cases r with
      | directory => cases hplace
      | file =>
        cases hplace
        exact if_neg hslash
      | free =>
        cases hplace
        exact if_neg hslash

/-- A path leads to the same place when a file is written there. -/
theorem resolve_set {r : Resolved} {place : List String} (hres : tree.resolve path = .ok r)
    (hplace : r.target? = some place) (content : Bytes) :
    (tree.set place.reverse (some (.file content))).resolve path = .ok (.file place content) := by
  unfold resolve at hres ⊢
  cases hnames : checkPath path with
  | error fault =>
    rw [hnames] at hres
    cases hres
  | ok names =>
    rw [hnames] at hres
    exact walk_set hres hplace content

/-- After writing, the path leads to a file with what was written. -/
theorem resolve_of_write (h : tree.write path content = .ok after) :
    ∃ place, after.resolve path = .ok (.file place content) := by
  obtain ⟨r, place, hres, hplace, -, rfl⟩ := write_eq_ok_iff.1 h
  exact ⟨place, resolve_set hres hplace content⟩

theorem set_set (tree : FileTree) (p : List String) (e e' : Option FileEntry) :
    (tree.set p e).set p e' = tree.set p e' := by
  simp only [set, FileTree.mk.injEq, and_true]
  funext q
  split <;> rfl

/-- **Of two writings the last decides**, and the first does not get in its way. -/
theorem write_of_write (h : tree.write path content = .ok after) (content' : Bytes) :
    after.write path content' = tree.write path content' := by
  obtain ⟨r, place, hres, hplace, hslash, rfl⟩ := write_eq_ok_iff.1 h
  have hagain := resolve_set hres hplace content
  rw [write_eq_ok_iff.2 ⟨_, place, hagain, rfl, hslash, rfl⟩, set_set,
    write_eq_ok_iff.2 ⟨r, place, hres, hplace, hslash, rfl⟩]

/-- **What was written is what is read.** -/
theorem read_of_write (h : tree.write path content = .ok after) :
    after.read path = .ok content := by
  obtain ⟨place, hplace⟩ := resolve_of_write h
  obtain ⟨-, -, -, -, hslash, -⟩ := write_eq_ok_iff.1 h
  unfold read
  rw [hplace]
  exact if_neg hslash

/-- A path that was written leads to something. -/
theorem holds_of_write (h : tree.write path content = .ok after) : after.holds path = true := by
  obtain ⟨place, hplace⟩ := resolve_of_write h
  obtain ⟨-, -, -, -, hslash, -⟩ := write_eq_ok_iff.1 h
  simp [holds, hplace, hslash]

/-- A path whose content can be read leads to something. -/
theorem holds_of_read (h : tree.read path = .ok content) : tree.holds path = true := by
  unfold FileTree.read at h
  unfold holds
  cases hr : tree.resolve path with
  | error fault =>
    rw [hr] at h
    cases h
  | ok r =>
    rw [hr] at h
    cases r with
    | directory => rfl
    | free => cases h
    | file place old =>
      change (if path.endsWith "/" = true then _ else _) = _ at h
      split at h
      · cases h
      · rename_i hslash
        simp [hslash]

/-- A path that is not found leads to nothing. -/
theorem holds_of_notFound (h : tree.read path = .error .notFound) : tree.holds path = false := by
  unfold FileTree.read at h
  unfold holds
  cases hr : tree.resolve path with
  | error fault => rfl
  | ok r =>
    rw [hr] at h
    cases r with
    | directory => cases h
    | free => rfl
    | file place old =>
      change (if path.endsWith "/" = true then _ else _) = _ at h
      split at h
      · cases h
      · cases h

/-- A path that can be written can be written with any content. -/
theorem Accepts.exists_write (h : tree.Accepts path) (content : Bytes) :
    ∃ after, tree.write path content = .ok after := by
  obtain ⟨_, _, hw⟩ := h
  obtain ⟨r, place, hres, hplace, hslash, -⟩ := write_eq_ok_iff.1 hw
  exact ⟨_, write_eq_ok_iff.2 ⟨r, place, hres, hplace, hslash, rfl⟩⟩

/-- A path that was written can be written again. -/
theorem accepts_of_write (h : tree.write path content = .ok after) : after.Accepts path := by
  obtain ⟨place, hplace⟩ := resolve_of_write h
  obtain ⟨-, -, -, -, hslash, -⟩ := write_eq_ok_iff.1 h
  exact ⟨content, _, write_eq_ok_iff.2 ⟨_, place, hplace, rfl, hslash, rfl⟩⟩

/-- A path that can be written is read, unless there is no file yet. -/
theorem Accepts.read (h : tree.Accepts path) :
    tree.read path = .error .notFound ∨ ∃ content, tree.read path = .ok content := by
  obtain ⟨_, _, hw⟩ := h
  obtain ⟨r, place, hres, hplace, hslash, -⟩ := write_eq_ok_iff.1 hw
  unfold FileTree.read
  rw [hres]
  -- only a free name has nothing to read
  cases r with
  | directory => cases hplace
  | file place old => exact Or.inr ⟨old, if_neg hslash⟩
  | free => exact Or.inl rfl

/-! ### Files in the top directory -/

/-- A path text that is a plain name. -/
structure IsName (path : String) : Prop where
  ne_empty : path.isEmpty = false
  no_zero : path.toList.contains '\x00' = false
  names : namesOf path = [path]
  relative : path.startsWith "/" = false
  no_slash : path.endsWith "/" = false
  ne_dot : path ≠ "."
  ne_dotdot : path ≠ ".."
  size : path.utf8ByteSize ≤ maxNameSize

/-- A plain name is looked up in the top directory. -/
theorem IsName.resolve (h : IsName path) (tree : FileTree) :
    tree.resolve path = tree.walk maxLinks [] [path] := by
  have hsize : ¬ 4096 ≤ path.utf8ByteSize := by
    have := h.size
    rw [maxNameSize] at this
    omega
  have hcheck : checkPath path = .ok [path] := by
    simp only [checkPath, h.no_zero, h.ne_empty, h.relative, h.names, if_neg hsize,
      Bool.false_eq_true, if_false]
  rw [FileTree.resolve, hcheck]
  rfl

/-- A free name in the top directory can be written, and there is nothing to read yet. -/
theorem IsName.of_free (h : IsName path) (hfree : tree.entry [path] = none) :
    tree.read path = .error .notFound ∧ tree.Accepts path := by
  have hres : tree.resolve path = .ok (.free [path]) := by
    rw [h.resolve, walk_name _ _ _ _ h.ne_dot h.ne_dotdot (Nat.not_lt.2 h.size)]
    simp only [List.reverse_singleton, hfree]
    rfl
  constructor
  · unfold FileTree.read
    rw [hres]
    rfl
  · exact ⟨[], _, write_eq_ok_iff.2 ⟨_, [path], hres, rfl, by simp [h.no_slash], rfl⟩⟩

/-- A file in the top directory can be read and written. -/
theorem IsName.of_file (h : IsName path) (hfile : tree.entry [path] = some (.file content)) :
    tree.read path = .ok content ∧ tree.Accepts path := by
  have hres : tree.resolve path = .ok (.file [path] content) := by
    rw [h.resolve, walk_name _ _ _ _ h.ne_dot h.ne_dotdot (Nat.not_lt.2 h.size)]
    simp only [List.reverse_singleton, hfile]
    rfl
  constructor
  · unfold FileTree.read
    rw [hres]
    exact if_neg (by simp [h.no_slash])
  · exact ⟨[], _, write_eq_ok_iff.2 ⟨_, [path], hres, rfl, by simp [h.no_slash], rfl⟩⟩

/-- A path text without a slash is one name. -/
theorem namesOf_of_not_mem (hslash : '/' ∉ path.toList) (hne : path ≠ "") :
    namesOf path = [path] := by
  have hchars : path.toList ≠ [] := fun h => hne (String.toList_eq_nil_iff.1 h)
  rw [namesOf, List.splitOn_eq_singleton hslash]
  simp [hchars]

/-- A text does not start with a slash if its characters do not. -/
theorem startsWith_slash_eq_false {chars : List Char} (hchars : path.toList = chars)
    (h : chars.head? ≠ some '/') : path.startsWith "/" = false := by
  refine String.startsWith_string_eq_false_iff.2 fun hprefix => h ?_
  obtain ⟨rest, hrest⟩ := hprefix
  rw [← hchars, ← hrest]
  rfl

/-- A text does not end with a slash if its characters do not. -/
theorem endsWith_slash_eq_false {chars : List Char} (hchars : path.toList = chars)
    (h : chars.getLast? ≠ some '/') : path.endsWith "/" = false := by
  rw [← String.endsWith_toSlice]
  refine String.Slice.endsWith_string_eq_false_iff.2 fun hsuffix => h ?_
  obtain ⟨rest, hrest⟩ := hsuffix
  have hslash : "/".toList = ['/'] := String.toList_ofList
  rw [hslash, String.copy_toSlice, hchars] at hrest
  rw [← hrest, List.getLast?_concat]

/-- A short text without a slash or a zero is a name, unless it tells where to go. -/
theorem IsName.of_chars {chars : List Char} (hchars : path.toList = chars) (hne : chars ≠ [])
    (hzero : '\x00' ∉ chars) (hslash : '/' ∉ chars) (hdot : path ≠ ".") (hdotdot : path ≠ "..")
    (hsize : path.utf8ByteSize ≤ maxNameSize) : IsName path := by
  have hempty : path ≠ "" := fun h => hne (hchars ▸ String.toList_eq_nil_iff.2 h)
  exact {
    ne_empty := by simpa using hempty
    no_zero := by simpa [hchars] using hzero
    names := namesOf_of_not_mem (hchars ▸ hslash) hempty
    relative := startsWith_slash_eq_false hchars fun h => hslash (List.mem_of_mem_head? h)
    no_slash := endsWith_slash_eq_false hchars fun h => hslash (List.mem_of_getLast? h)
    ne_dot := hdot
    ne_dotdot := hdotdot
    size := hsize }

theorem isName_db : IsName "db" :=
  .of_chars String.toList_ofList (by decide) (by decide) (by decide) (by decide) (by decide)
    (by decide)

end FileTree

end RecordStore
