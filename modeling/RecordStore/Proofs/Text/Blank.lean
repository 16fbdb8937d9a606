import Mathlib.Data.List.Basic
import Mathlib.Data.List.TakeWhile
import RecordStore.Text.Blank

/-!
# Trimmed texts and their words

Trimming takes blanks away from the ends, as many as there are
(`RecordStore.Text.trim_eq_iff`). Everything about words follows from two equations: a
blank in front belongs to no word (`RecordStore.Text.words_cons_of_isBlank`), and
characters that are not blank, up to a blank or the end, are one word
(`RecordStore.Text.words_append`).
-/

namespace RecordStore.Text

variable {cs core kept left right word rest gap : List Char} {ws : List (List Char)}

/-! ### Blank texts -/

/-- A text of blanks only. -/
def Blank (cs : List Char) : Prop := ∀ c ∈ cs, isBlank c = true

/-- No blank stands at the start of a text. -/
def StartsTight (cs : List Char) : Prop := ∀ c ∈ cs.head?, isBlank c = false

/-- No blank stands at the end of a text. -/
def EndsTight (cs : List Char) : Prop := ∀ c ∈ cs.getLast?, isBlank c = false

/-- A text of characters that are not blank, at least one. -/
structure IsWord (word : List Char) : Prop where
  ne_nil : word ≠ []
  notBlank : ∀ c ∈ word, isBlank c = false

theorem blank_nil : Blank [] := fun _ h => nomatch h

theorem blank_space : Blank [' '] := by simp [Blank, isBlank]

theorem Blank.append (h : Blank left) (h' : Blank right) : Blank (left ++ right) :=
  fun c hc => (List.mem_append.1 hc).elim (h c) (h' c)

theorem Blank.reverse (h : Blank cs) : Blank cs.reverse := fun c hc => h c (List.mem_reverse.1 hc)

theorem IsWord.startsTight (h : IsWord word) : StartsTight word :=
  fun c hc => h.notBlank c (List.mem_of_mem_head? hc)

theorem IsWord.endsTight (h : IsWord word) : EndsTight word :=
  fun c hc => h.notBlank c (List.mem_of_mem_getLast? hc)

/-- A text is a word if a look at each of its characters says so. -/
theorem IsWord.of_all (hne : word.isEmpty = false) (hall : word.all (fun c => !isBlank c) = true) :
    IsWord word where
  ne_nil := List.isEmpty_eq_false_iff.1 hne
  notBlank c hc := by simpa using List.all_eq_true.1 hall c hc

theorem StartsTight.append (h : StartsTight cs) (hne : cs ≠ []) : StartsTight (cs ++ rest) := by
  obtain ⟨c, cs, rfl⟩ := List.exists_cons_of_ne_nil hne
  exact h

theorem EndsTight.append (h : EndsTight cs) (hne : cs ≠ []) : EndsTight (left ++ cs) := by
  intro c hc
  rw [List.getLast?_append_of_ne_nil _ hne] at hc
  exact h c hc

/-! ### Trimming -/

theorem trimStart_append (h : Blank left) (hrest : StartsTight rest) :
    trimStart (left ++ rest) = rest := by
  rw [trimStart, List.dropWhile_append_of_pos h]
  cases rest with
  | nil => rfl
  | cons c rest => simp [hrest c rfl]

theorem startsTight_trimStart (cs : List Char) : StartsTight (trimStart cs) := by
  intro c hc
  have h := List.head?_dropWhile_not isBlank cs
  rw [show cs.dropWhile isBlank = trimStart cs from rfl, Option.mem_def.1 hc] at h
  exact h

theorem exists_eq_append_trimStart (cs : List Char) :
    ∃ left, Blank left ∧ cs = left ++ trimStart cs :=
  ⟨cs.takeWhile isBlank, fun _ hc => List.mem_takeWhile_imp hc,
    (List.takeWhile_append_dropWhile).symm⟩

/-- **What is left without the blanks at the start.** -/
theorem trimStart_eq_iff :
    trimStart cs = kept ↔ StartsTight kept ∧ ∃ left, Blank left ∧ cs = left ++ kept := by
  constructor
  · rintro rfl
    exact ⟨startsTight_trimStart cs, exists_eq_append_trimStart cs⟩
  · rintro ⟨hkept, left, hleft, rfl⟩
    exact trimStart_append hleft hkept

theorem trimEnd_eq_reverse (cs : List Char) : trimEnd cs = (trimStart cs.reverse).reverse := rfl

/-- **What is left without the blanks at the end.** -/
theorem trimEnd_eq_iff :
    trimEnd cs = kept ↔ EndsTight kept ∧ ∃ right, Blank right ∧ cs = kept ++ right := by
  have htight : StartsTight kept.reverse ↔ EndsTight kept := by
    rw [StartsTight, EndsTight, List.head?_reverse]
  rw [trimEnd_eq_reverse, List.reverse_eq_iff, trimStart_eq_iff, htight]
  refine and_congr_right fun _ => ⟨?_, ?_⟩
  · rintro ⟨left, hleft, h⟩
    refine ⟨left.reverse, hleft.reverse, ?_⟩
    rw [← List.reverse_reverse cs, h, List.reverse_append, List.reverse_reverse]
  · rintro ⟨right, hright, rfl⟩
    exact ⟨right.reverse, hright.reverse, List.reverse_append⟩

/-- **What is left without the blanks at both ends.** -/
theorem trim_eq_iff :
    trim cs = core ↔ (StartsTight core ∧ EndsTight core) ∧
      ∃ left right, Blank left ∧ Blank right ∧ cs = left ++ core ++ right := by
  constructor
  · intro h
    obtain ⟨hend, right, hright, hstart⟩ := trimEnd_eq_iff.1 h
    obtain ⟨htight, left, hleft, rfl⟩ := trimStart_eq_iff.1 hstart
    refine ⟨⟨?_, hend⟩, left, right, hleft, hright, (List.append_assoc ..).symm⟩
    cases core with
    | nil => exact fun _ hc => nomatch hc
    | cons c core => exact htight
  · rintro ⟨⟨hstart, hend⟩, left, right, hleft, hright, rfl⟩
    refine trimEnd_eq_iff.2 ⟨hend, ?_⟩
    cases core with
    | nil =>
      -- nothing but blanks: all of them are taken from the start
      refine ⟨[], blank_nil, ?_⟩
      rw [List.append_nil, ← List.append_nil (left ++ right)]
      refine trimStart_append ?_ fun _ hc => nomatch hc
      exact fun c hc => (List.mem_append.1 hc).elim (hleft c) (hright c)
    | cons c core =>
      refine ⟨right, hright, ?_⟩
      rw [List.append_assoc]
      exact trimStart_append hleft hstart

/-- More blanks at the ends change nothing. -/
theorem trim_append_blank (hleft : Blank left) (hright : Blank right) :
    trim (left ++ cs ++ right) = trim cs := by
  obtain ⟨htight, left', right', hleft', hright', hcs⟩ := trim_eq_iff.1 (rfl : trim cs = _)
  refine trim_eq_iff.2 ⟨htight, left ++ left', right' ++ right, hleft.append hleft',
    hright'.append hright, ?_⟩
  conv_lhs => rw [hcs]
  simp only [List.append_assoc]

theorem trim_space_cons (cs : List Char) : trim (' ' :: cs) = trim cs := by
  have h : trim ([' '] ++ cs ++ []) = trim cs := trim_append_blank blank_space blank_nil
  rwa [List.append_nil] at h

theorem trim_concat_space (cs : List Char) : trim (cs ++ [' ']) = trim cs :=
  trim_append_blank blank_nil blank_space

theorem isPrefix_trimEnd (cs : List Char) : trimEnd cs <+: cs := by
  obtain ⟨-, right, -, h⟩ := trimEnd_eq_iff.1 (rfl : trimEnd cs = _)
  exact ⟨right, h.symm⟩

/-- Without the blanks at its start too, a text ends as it does without those at its end. -/
theorem getLast?_trimEnd_of_trim {c : Char} (h : (trim cs).getLast? = some c) :
    (trimEnd cs).getLast? = some c := by
  have hne : trim cs ≠ [] := by
    intro hnil
    rw [hnil] at h
    cases h
  obtain ⟨⟨-, hend⟩, left, right, -, hright, hcs⟩ := trim_eq_iff.1 (rfl : trim cs = _)
  have hkept : trimEnd cs = left ++ trim cs :=
    trimEnd_eq_iff.2 ⟨hend.append hne, right, hright, hcs⟩
  rw [hkept, List.getLast?_append_of_ne_nil _ hne, h]

/-! ### Words -/

theorem words_cons_of_isBlank {c : Char} (h : isBlank c = true) (rest : List Char) :
    words (c :: rest) = words rest := by
  simp [words, wordsFrom, h]

theorem words_append_of_blank (h : Blank left) (rest : List Char) :
    words (left ++ rest) = words rest := by
  induction left with
  | nil => rfl
  | cons c left ih =>
    rw [List.cons_append, words_cons_of_isBlank (h c (List.mem_cons_self ..))]
    exact ih fun d hd => h d (List.mem_cons_of_mem _ hd)

theorem wordsFrom_append (h : ∀ c ∈ word, isBlank c = false) (current rest : List Char) :
    wordsFrom current (word ++ rest) = wordsFrom (word.reverse ++ current) rest := by
  induction word generalizing current with
  | nil => rfl
  | cons c word ih =>
    rw [List.cons_append, wordsFrom, if_neg (by simp [h c (List.mem_cons_self ..)]),
      ih fun d hd => h d (List.mem_cons_of_mem _ hd)]
    simp

/-- **A word ends at a blank or at the end.** -/
theorem words_append (h : IsWord word) (hrest : ∀ c ∈ rest.head?, isBlank c = true) :
    words (word ++ rest) = word :: words rest := by
  have hne : word.reverse.isEmpty = false := by
    rw [List.isEmpty_reverse, List.isEmpty_eq_false_iff]
    exact h.ne_nil
  rw [words, wordsFrom_append h.notBlank, List.append_nil]
  cases rest with
  | nil => simp [wordsFrom, hne]
  | cons c rest =>
    rw [words_cons_of_isBlank (hrest c rfl)]
    simp [wordsFrom, hrest c rfl, hne, words]

/-- The first word of a text with what stands before and after it, unless the text is blank. -/
theorem blank_or_exists_word (cs : List Char) :
    Blank cs ∨ ∃ left word rest, Blank left ∧ IsWord word ∧
      (∀ c ∈ rest.head?, isBlank c = true) ∧ cs = left ++ (word ++ rest) := by
  obtain ⟨left, hleft, hcs⟩ := exists_eq_append_trimStart cs
  cases htrim : trimStart cs with
  | nil =>
    rw [htrim, List.append_nil] at hcs
    exact Or.inl (hcs ▸ hleft)
  | cons c more =>
    refine Or.inr ⟨left, (c :: more).takeWhile (!isBlank ·), (c :: more).dropWhile (!isBlank ·),
      hleft, ⟨?_, ?_⟩, ?_, ?_⟩
    · have hc : isBlank c = false := startsTight_trimStart cs c (by rw [htrim]; rfl)
      simp [hc]
    · intro d hd
      simpa using List.mem_takeWhile_imp hd
    · intro d hd
      have h := List.head?_dropWhile_not (!isBlank ·) (c :: more)
      rw [Option.mem_def.1 hd] at h
      simpa using h
    · rw [List.takeWhile_append_dropWhile, ← htrim]
      exact hcs

/-- A blank text has no words. -/
theorem words_eq_nil_iff : words cs = [] ↔ Blank cs := by
  constructor
  · intro h
    rcases blank_or_exists_word cs with hblank | ⟨left, word, rest, hleft, hword, hrest, rfl⟩
    · exact hblank
    · rw [words_append_of_blank hleft, words_append hword hrest] at h
      cases h
  · intro h
    have := words_append_of_blank h []
    rwa [List.append_nil] at this

/-- **The first word of a text.** -/
theorem words_eq_cons_iff :
    words cs = word :: ws ↔ ∃ left rest, Blank left ∧ IsWord word ∧
      (∀ c ∈ rest.head?, isBlank c = true) ∧ cs = left ++ (word ++ rest) ∧ words rest = ws := by
  constructor
  · intro h
    rcases blank_or_exists_word cs with hblank | ⟨left, w, rest, hleft, hword, hrest, rfl⟩
    · rw [words_eq_nil_iff.2 hblank] at h
      cases h
    · rw [words_append_of_blank hleft, words_append hword hrest] at h
      cases h
      exact ⟨left, rest, hleft, hword, hrest, rfl, rfl⟩
  · rintro ⟨left, rest, hleft, hword, hrest, rfl, rfl⟩
    rw [words_append_of_blank hleft, words_append hword hrest]

/-! ### Trimmed texts of one word and of two -/

/-- A trimmed text starts with its first word. -/
theorem words_eq_cons_iff_of_tight (hstart : StartsTight cs) :
    words cs = word :: ws ↔ ∃ rest, IsWord word ∧ (∀ c ∈ rest.head?, isBlank c = true) ∧
      cs = word ++ rest ∧ words rest = ws := by
  rw [words_eq_cons_iff]
  constructor
  · rintro ⟨left, rest, hleft, hword, hrest, rfl, h⟩
    cases left with
    | nil => exact ⟨rest, hword, hrest, rfl, h⟩
    | cons c left =>
      have := hstart c rfl
      rw [hleft c (List.mem_cons_self ..)] at this
      cases this
  · rintro ⟨rest, hword, hrest, rfl, h⟩
    exact ⟨[], rest, blank_nil, hword, hrest, rfl, h⟩

/-- A blank text that ends without a blank is empty. -/
theorem Blank.eq_nil_of_endsTight (h : Blank cs) (hend : EndsTight cs) : cs = [] := by
  cases hcs : cs.getLast? with
  | none => exact List.getLast?_eq_none_iff.1 hcs
  | some c =>
    have := hend c hcs
    rw [h c (List.mem_of_mem_getLast? hcs)] at this
    cases this

/-- The end of a text is that of its last part, unless that is empty. -/
theorem EndsTight.of_append (h : EndsTight (left ++ rest)) : rest = [] ∨ EndsTight rest := by
  cases rest with
  | nil => exact Or.inl rfl
  | cons c rest =>
    refine Or.inr fun d hd => h d ?_
    rw [List.getLast?_append_of_ne_nil _ (List.cons_ne_nil c rest)]
    exact hd

/-- **A trimmed text of one word is this word.** -/
theorem words_eq_singleton_iff (hstart : StartsTight cs) (hend : EndsTight cs) :
    words cs = [word] ↔ IsWord word ∧ cs = word := by
  rw [words_eq_cons_iff_of_tight hstart]
  constructor
  · rintro ⟨rest, hword, hrest, rfl, h⟩
    rcases hend.of_append with rfl | hend
    · exact ⟨hword, List.append_nil _⟩
    · rw [(words_eq_nil_iff.1 h).eq_nil_of_endsTight hend]
      exact ⟨hword, List.append_nil _⟩
  · rintro ⟨hword, rfl⟩
    exact ⟨[], hword, (fun _ h => nomatch h), (List.append_nil _).symm, rfl⟩

/-- **A trimmed text of two words** has blanks between them, at least one. -/
theorem words_eq_pair_iff {name : List Char} (hstart : StartsTight cs) (hend : EndsTight cs) :
    words cs = [word, name] ↔ IsWord word ∧ IsWord name ∧
      ∃ gap, gap ≠ [] ∧ Blank gap ∧ cs = word ++ (gap ++ name) := by
  rw [words_eq_cons_iff_of_tight hstart]
  constructor
  · rintro ⟨rest, hword, hrest, rfl, h⟩
    obtain ⟨gap, after, hgap, hname, -, rfl, hafter⟩ := words_eq_cons_iff.1 h
    have hnil : after = [] := by
      rcases hend.of_append with hnil | hend
      · exact (List.append_eq_nil_iff.1 (List.append_eq_nil_iff.1 hnil).2).2
      · rcases hend.of_append with hnil | hend
        · exact (List.append_eq_nil_iff.1 hnil).2
        · rcases hend.of_append with hnil | hend
          · exact hnil
          · exact (words_eq_nil_iff.1 hafter).eq_nil_of_endsTight hend
    subst hnil
    refine ⟨hword, hname, gap, ?_, hgap, by rw [List.append_nil]⟩
    rintro rfl
    -- without a blank between them the two words would be one
    obtain ⟨c, name', rfl⟩ := List.exists_cons_of_ne_nil hname.ne_nil
    have := hrest c rfl
    rw [hname.notBlank c (List.mem_cons_self ..)] at this
    cases this
  · rintro ⟨hword, hname, gap, hne, hgap, rfl⟩
    refine ⟨gap ++ name, hword, ?_, rfl, ?_⟩
    · obtain ⟨c, gap, rfl⟩ := List.exists_cons_of_ne_nil hne
      intro d hd
      cases hd
      exact hgap c (List.mem_cons_self ..)
    · have hnone : ∀ c ∈ ([] : List Char).head?, isBlank c = true := fun _ h => nomatch h
      have h := words_append hname hnone
      rw [words_append_of_blank hgap]
      rwa [List.append_nil] at h

end RecordStore.Text
