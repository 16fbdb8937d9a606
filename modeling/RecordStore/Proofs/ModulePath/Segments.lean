import RecordStore.Proofs.Generator.Table

/-!
# The segments of a module path

Cut at its pairs of colons, the path of a module gives the segments back it was joined from. Each of
them is a name, but for the white space that the check of a name reads over
(`RecordStore.FileTree.pathSegments_of_modulePath`): the path of a file with white space around its
name has the white space in it.
-/

namespace RecordStore

variable {segments : List String} {m s path : String}

/-- The parts of a text between its pairs of colons. -/
def cutAtColons : List Char → List (List Char)
  | ':' :: ':' :: rest => [] :: cutAtColons rest
  | c :: rest => (cutAtColons rest).modifyHead (c :: ·)
  | [] => [[]]

/-- The segments of a path, the first of which stands for the package. -/
def pathSegments (m : String) : List String := (cutAtColons m.toList).map String.ofList

theorem cutAtColons_cons {c : Char} (hc : c ≠ ':') (rest : List Char) :
    cutAtColons (c :: rest) = (cutAtColons rest).modifyHead (c :: ·) :=
  cutAtColons.eq_2 c rest fun _ h _ => hc h

theorem cutAtColons_of_not_mem {a : List Char} (ha : ':' ∉ a) : cutAtColons a = [a] := by
  induction a with
  | nil => rfl
  | cons c a ih =>
    rw [cutAtColons_cons (fun h => ha (h ▸ List.mem_cons_self ..)),
      ih fun h => ha (List.mem_cons_of_mem _ h)]
    rfl

theorem cutAtColons_append {a : List Char} (ha : ':' ∉ a) (rest : List Char) :
    cutAtColons (a ++ ':' :: ':' :: rest) = a :: cutAtColons rest := by
  induction a with
  | nil => rfl
  | cons c a ih =>
    rw [List.cons_append, cutAtColons_cons (fun h => ha (h ▸ List.mem_cons_self ..)),
      ih fun h => ha (List.mem_cons_of_mem _ h)]
    rfl

/-- Segments without colons are what the path cuts into. -/
theorem pathSegments_intercalate {s : String} (h : ∀ t ∈ s :: segments, ':' ∉ t.toList) :
    pathSegments (String.intercalate "::" (s :: segments)) = s :: segments := by
  induction segments generalizing s with
  | nil =>
    have hs := h s (List.mem_cons_self ..)
    rw [String.intercalate_singleton, pathSegments, cutAtColons_of_not_mem hs, List.map_singleton,
      String.ofList_toList]
  | cons t segments ih =>
    obtain ⟨hs, h⟩ := List.forall_mem_cons.1 h
    rw [String.intercalate_cons_cons, pathSegments, String.append_assoc, String.toList_append,
      String.toList_append]
    change (cutAtColons (s.toList ++ ':' :: ':' :: _)).map _ = _
    rw [cutAtColons_append hs, List.map_cons, String.ofList_toList]
    exact congrArg _ (ih h)

theorem pathSegments_joinSegments (h : ∀ t ∈ segments, ':' ∉ t.toList) :
    pathSegments (joinSegments segments) = "crate" :: segments :=
  pathSegments_intercalate (List.forall_mem_cons.2 ⟨by decide, h⟩)

namespace Source

/-- No name holds what is read over around it. -/
theorem IsNameText.clear_of_mem (h : IsNameText s) {c : Char} (hc : c ∈ s.toList) :
    isSeparator c = false ∧ c ≠ orderMark := by
  constructor
  · by_contra hsep
    rw [Bool.not_eq_false] at hsep
    refine h.not_mem ?_ (isIdentifierContinue_of_isSeparator hsep) ?_ hc
    · by_contra hstart
      rw [Bool.not_eq_false] at hstart
      rw [isSeparator_eq_false hstart] at hsep
      cases hsep
    · rintro rfl
      exact absurd hsep (by decide)
  · rintro rfl
    exact h.not_mem (by decide +kernel) (by decide +kernel) (by decide) hc

/-- What is read as a single name is one if nothing is read over. -/
theorem isNameText_iff_of_isSingleName (h : isSingleName s = true) (hslash : '/' ∉ s.toList) :
    IsNameText s ↔ ∀ c ∈ s.toList, isSeparator c = false ∧ c ≠ orderMark := by
  refine ⟨fun hname c hc => hname.clear_of_mem hc, fun hclear => ?_⟩
  obtain ⟨w, hname, mark, before, after, heq, hmark, hbefore, hafter⟩ :=
    (isSingleName_iff hslash).1 h
  rw [heq] at hclear
  have hnil {cs : List Char} (hsep : ∀ c ∈ cs, isSeparator c = true)
      (hmem : ∀ c ∈ cs, c ∈ mark ++ (before ++ w.text.toList ++ after)) : cs = [] := by
    refine List.eq_nil_iff_forall_not_mem.2 fun c hc => ?_
    have := (hclear c (hmem c hc)).1
    rw [hsep c hc] at this
    cases this
  obtain rfl := hnil hbefore (by simp +contextual)
  obtain rfl := hnil hafter (by simp +contextual)
  rcases hmark with rfl | rfl
  · refine isNameText_iff.2 ⟨w, hname, String.toList_inj.1 ?_⟩
    simpa using heq.symm
  · exact absurd rfl (hclear orderMark (by simp)).2

end Source

namespace FileTree

variable {tree : FileTree}

/-- **The segments of a module path**: after `crate`, each is a name with nothing but white space
around it, and maybe a mark of the byte order in front, and is a name itself just if none of these
are there. -/
theorem pathSegments_of_modulePath (h : tree.modulePath path = .ok m) :
    ∃ segments, pathSegments m = "crate" :: segments ∧ ∀ s ∈ segments,
      (∃ name, Source.IsNameText name ∧ Source.Pads name.toList s.toList) ∧
        (Source.IsNameText s ↔
          ∀ c ∈ s.toList, Source.isSeparator c = false ∧ c ≠ Source.orderMark) := by
  obtain ⟨package, rel, hsource⟩ := exists_isSource h
  obtain ⟨segments, hdefines, hnames, hcolons, rfl⟩ := hsource.exists_segments h
  refine ⟨segments, pathSegments_joinSegments hcolons, fun s hs => ?_⟩
  have hslash := hdefines.slash_not_mem hsource.slash_not_mem s hs
  obtain ⟨w, hname, hpads⟩ := (Source.isSingleName_iff hslash).1 (hnames s hs)
  exact ⟨⟨w.text, Source.isNameText_iff.2 ⟨w, hname, rfl⟩, hpads⟩,
    Source.isNameText_iff_of_isSingleName (hnames s hs) hslash⟩

/-- A package with a file that has white space in front of its name. -/
def spaced : FileTree :=
  ofEntries [(["Cargo.toml"], .file []), (["src"], .directory), (["src", " user.rs"], .file [])]

theorem modulePath_spaced : spaced.modulePath "src/ user.rs" = .ok "crate:: user" := by
  have hcanonical : spaced.canonical "src/ user.rs" = .ok ["src", " user.rs"] :=
    canonical_plain ["src"] []
      (.of_chars String.toList_ofList (by decide) (by decide) (by decide) (by decide))
      (endsWith_slash_eq_false String.toList_ofList (by decide)) (by decide) (by decide)
      (by decide) (by decide)
  have hsource : spaced.IsSource "src/ user.rs" [] [" user.rs"] := by
    refine ⟨hcanonical, ?_⟩
    rw [spaced, nearestPackage?_ofEntries (by decide)]
    decide
  have hdefines : DefinesModule ([] ++ [" user" ++ ".rs"]) ([] ++ [" user"]) :=
    .file (by decide) (by decide)
  exact hsource.modulePath_eq_ok hdefines (by decide) (by decide)

theorem pathSegments_of_modulePath_spaced :
    spaced.modulePath "src/ user.rs" = .ok "crate:: user" ∧
      ∃ segments, pathSegments "crate:: user" = "crate" :: segments ∧ ∀ s ∈ segments,
        (∃ name, Source.IsNameText name ∧ Source.Pads name.toList s.toList) ∧
          (Source.IsNameText s ↔
            ∀ c ∈ s.toList, Source.isSeparator c = false ∧ c ≠ Source.orderMark) :=
  ⟨modulePath_spaced, pathSegments_of_modulePath modulePath_spaced⟩

/-- The white space of a file's name stands in the path of its module. -/
theorem not_isNameText_of_spaced :
    ∃ m, spaced.modulePath "src/ user.rs" = .ok m ∧ " user" ∈ pathSegments m ∧
      ¬ Source.IsNameText " user" :=
  ⟨"crate:: user", modulePath_spaced, by decide, by decide⟩

end FileTree

end RecordStore
