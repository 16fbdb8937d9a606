import Mathlib.Data.List.SplitBy
import RecordStore.Proofs.Text.Spacing

/-!
# Canonical spacing is a normal form

Spacing a text that is in canonical spacing changes nothing
(`RecordStore.Text.respace_normalizes`). The second time the pieces are other ones, since pieces
without a space between them have become one, and so a piece may look like an operator that
was none before: `-` and `>` become `->`.

The proof puts the pieces into groups, those that become one piece together. A space stands
between two groups because of the last piece of the one and the first piece of the other, and it
has to stand there because of the groups as well (`RecordStore.Text.spaceBetween_flatten`). For
what the pieces end and start with this is clear. An operator with spaces around it is a group
by itself, so the groups show it as well; and what looks like an operator only as a group has its
spaces anyway.

What is a word to a reader, a run of characters that belong to words, stays as it is, too: two
of them are never put together (`RecordStore.Text.wordRuns_joinPieces`).
-/

namespace RecordStore.Text

variable {c : Char} {cs left right piece : List Char} {pieces more ws : List (List Char)}
  {groups : List (List (List Char))}

/-! ### Texts with single spaces -/

/-- **A text whose words stand one space apart**, with no blank before the first or after the
last. -/
structure SingleSpaced (cs : List Char) : Prop where
  starts : StartsTight cs
  ends : EndsTight cs
  /-- No two blanks stand next to each other. -/
  apart : cs.IsChain fun a b => isBlank a = false ∨ isBlank b = false
  /-- The only blank is the space. -/
  spaces : ∀ c ∈ cs, isBlank c = true → c = ' '

theorem IsWord.singleSpaced (h : IsWord piece) : SingleSpaced piece where
  starts := h.startsTight
  ends := h.endsTight
  apart := (List.pairwise_of_forall_mem_list fun a ha _ _ => Or.inl (h.notBlank a ha)).isChain
  spaces c hc hblank := by simp [h.notBlank c hc] at hblank

/-- One more word, with a space after it, in front of a text. -/
theorem SingleSpaced.cons (h : SingleSpaced cs) (hne : cs ≠ []) (hpiece : IsWord piece) :
    SingleSpaced (piece ++ ' ' :: cs) := by
  have hspace : isBlank ' ' = true := rfl
  refine ⟨hpiece.startsTight.append hpiece.ne_nil, ?_, ?_, fun c hc hblank => ?_⟩
  · rw [← List.singleton_append, ← List.append_assoc]
    exact h.ends.append hne
  · refine hpiece.singleSpaced.apart.append ?_ ?_
    · exact List.isChain_cons.2 ⟨fun d hd => Or.inr (h.starts d hd), h.apart⟩
    · exact fun a ha _ _ => Or.inl (hpiece.endsTight a ha)
  · rcases List.mem_append.1 hc with hc | hc
    · simp [hpiece.notBlank c hc] at hblank
    · rcases List.mem_cons.1 hc with rfl | hc
      · rfl
      · exact h.spaces c hc hblank

theorem singleSpaced_intercalate (h : ∀ w ∈ ws, IsWord w) :
    SingleSpaced ([' '].intercalate ws) := by
  induction ws with
  | nil => exact ⟨nofun, nofun, List.isChain_nil, nofun⟩
  | cons w ws ih =>
    obtain ⟨hw, hws⟩ := List.forall_mem_cons.1 h
    cases ws with
    | nil => simpa using hw.singleSpaced
    | cons w' ws =>
      have hne : [' '].intercalate (w' :: ws) ≠ [] := by
        obtain ⟨c, w', rfl⟩ := List.exists_cons_of_ne_nil (hws w' List.mem_cons_self).ne_nil
        simp
      rw [List.intercalate_cons_cons, List.append_assoc]
      exact (ih hws).cons hne hw

/-- The words of words that stand one space apart. -/
theorem words_intercalate (h : ∀ w ∈ ws, IsWord w) : words ([' '].intercalate ws) = ws := by
  induction ws with
  | nil => rfl
  | cons w ws ih =>
    obtain ⟨hw, hws⟩ := List.forall_mem_cons.1 h
    cases ws with
    | nil =>
      have hword : words (w ++ []) = w :: words [] := words_append hw nofun
      rw [List.append_nil, words_nil] at hword
      rw [List.intercalate_singleton, hword]
    | cons w' ws =>
      rw [List.intercalate_cons_cons, List.append_assoc, List.singleton_append,
        words_append hw (by simp [isBlank]), words_cons_of_isBlank rfl, ih hws]

/-! ### Groups of pieces -/

/-- Whether two pieces become one. -/
def touch (left right : List Char) : Bool := !spaceBetween left right

/-- Whether two words meet where two pieces do. -/
def wordsMeet (left right : List Char) : Bool :=
  left.getLast?.any isWordChar && right.head?.any isWordChar

theorem spaceBetween_of_wordsMeet (h : wordsMeet left right = true) :
    spaceBetween left right = true := by
  rw [wordsMeet] at h
  rw [spaceBetween, h]
  rfl

/-- The space between the pieces at the end of some and at the start of others. -/
theorem joinPieces_append (left right : List Char) (pieces more : List (List Char)) :
    joinPieces (pieces ++ left :: right :: more) = joinPieces (pieces ++ [left]) ++
      ((if spaceBetween left right then [' '] else []) ++ joinPieces (right :: more)) := by
  induction pieces with
  | nil =>
    rw [List.nil_append, joinPieces, List.nil_append, joinPieces]
    split
    · rfl
    · rfl
  | cons piece pieces ih =>
    rw [List.cons_append, List.cons_append]
    cases pieces with
    | nil =>
      rw [List.nil_append, List.nil_append, joinPieces]
      rw [List.nil_append, List.nil_append] at ih
      rw [ih, joinPieces, joinPieces]
      split
      · simp [joinPieces]
      · simp [joinPieces]
    | cons next pieces =>
      rw [List.cons_append, joinPieces, ← List.cons_append, ih, List.cons_append, joinPieces]
      split
      · simp
      · simp

/-- Groups of pieces: none is empty, the pieces of one touch, and the last piece of a group does
not touch the first of the next. -/
structure Grouped (groups : List (List (List Char))) : Prop where
  nonempty : [] ∉ groups
  touching : ∀ group ∈ groups, group.IsChain fun left right => touch left right = true
  apart : groups.IsChain fun group next =>
    ∃ hne hne', touch (group.getLast hne) (next.head hne') = false

theorem exists_grouped (pieces : List (List Char)) :
    ∃ groups, Grouped groups ∧ groups.flatten = pieces :=
  ⟨pieces.splitBy touch,
    ⟨List.nil_notMem_splitBy _ _, fun _ h => List.isChain_of_mem_splitBy h,
      List.isChain_getLast_head_splitBy _ _⟩,
    List.flatten_splitBy _ _⟩

theorem Grouped.tail {group : List (List Char)} (h : Grouped (group :: groups)) :
    Grouped groups where
  nonempty hnil := h.nonempty (List.mem_cons_of_mem _ hnil)
  touching g hg := h.touching g (List.mem_cons_of_mem _ hg)
  apart := h.apart.tail

/-- Nothing touches an operator, on either side. -/
theorem touch_eq_false_of_operator (h : spacedOperators.contains piece = true)
    (other : List Char) : touch other piece = false ∧ touch piece other = false := by
  simp only [touch, spaceBetween, h, Bool.or_true, Bool.true_or, Bool.not_true, and_self]

/-- An operator is a group by itself. -/
theorem eq_singleton_of_operator {before after : List (List Char)}
    (htouching : (before ++ piece :: after).IsChain fun left right => touch left right = true)
    (h : spacedOperators.contains piece = true) : before = [] ∧ after = [] := by
  constructor
  · rcases List.eq_nil_or_concat before with rfl | ⟨front, last, rfl⟩
    · rfl
    · rw [List.concat_eq_append, List.append_assoc, List.singleton_append] at htouching
      have hlast := (List.isChain_cons_cons.1 (List.IsChain.right_of_append htouching)).1
      rw [(touch_eq_false_of_operator h last).1] at hlast
      cases hlast
  · cases after with
    | nil => rfl
    | cons next after =>
      have hnext := (List.isChain_cons_cons.1 (List.IsChain.right_of_append htouching)).1
      rw [(touch_eq_false_of_operator h next).2] at hnext
      cases hnext

/-- **A space between two groups** is asked for by the groups as by the pieces that meet there. -/
theorem spaceBetween_flatten {front back : List (List Char)}
    (hfront : (front ++ [left]).IsChain fun left right => touch left right = true)
    (hback : (right :: back).IsChain fun left right => touch left right = true)
    (hleft : left ≠ []) (hright : right ≠ []) (h : spaceBetween left right = true) :
    spaceBetween (front ++ [left]).flatten (right :: back).flatten = true := by
  have hlast : (front ++ [left]).flatten.getLast? = left.getLast? := by
    rw [List.flatten_append, List.flatten_singleton, List.getLast?_append_of_ne_nil _ hleft]
  have hfirst : (right :: back).flatten.head? = right.head? := by
    rw [List.flatten_cons, List.head?_append_of_ne_nil _ hright]
  rw [spaceBetween, hlast, hfirst]
  rw [spaceBetween, Bool.or_eq_true, Bool.or_eq_true] at h
  rcases h with (hchars | hop) | hop
  · rw [hchars]
    rfl
  -- an operator touches nothing, so the group that it ends or starts is the operator itself
  · obtain ⟨rfl, -⟩ := eq_singleton_of_operator hfront hop
    rw [List.nil_append, List.flatten_singleton, hop, Bool.or_true, Bool.true_or]
  · have hsingle : ([] : List (List Char)) = [] ∧ back = [] := eq_singleton_of_operator hback hop
    rw [hsingle.2, List.flatten_singleton, hop, Bool.or_true]

/-- **Pieces that are joined** are their groups, one space apart. -/
theorem joinPieces_flatten (h : Grouped groups) :
    joinPieces groups.flatten = [' '].intercalate (groups.map List.flatten) := by
  induction groups with
  | nil => rfl
  | cons group groups ih =>
    have hgroup : joinPieces group = group.flatten := by
      refine joinPieces_eq_flatten ((h.touching group List.mem_cons_self).imp fun _ _ ht => ?_)
      simpa [touch] using ht
    cases groups with
    | nil => simpa using hgroup
    | cons next groups =>
      obtain ⟨⟨hne, hne', hgap⟩, -⟩ := List.isChain_cons_cons.1 h.apart
      obtain ⟨right, back, rfl⟩ := List.exists_cons_of_ne_nil hne'
      rw [List.head_cons] at hgap
      have hspace : spaceBetween (group.getLast hne) right = true := by simpa [touch] using hgap
      have hsplit : (group :: (right :: back) :: groups).flatten =
          group.dropLast ++ group.getLast hne :: right :: (back ++ groups.flatten) := by
        rw [List.flatten_cons, List.flatten_cons, List.cons_append]
        conv_lhs => rw [← List.dropLast_concat_getLast hne]
        rw [List.append_assoc, List.singleton_append]
      have hrest : right :: (back ++ groups.flatten) = ((right :: back) :: groups).flatten := rfl
      rw [hsplit, joinPieces_append, if_pos hspace, List.dropLast_concat_getLast, hgroup, hrest,
        ih h.tail, List.map_cons, List.map_cons, List.map_cons, List.intercalate_cons_cons,
        List.append_assoc]

/-- Pieces that all have spaces between them. -/
theorem joinPieces_of_spaced
    (h : pieces.IsChain fun left right => spaceBetween left right = true) :
    joinPieces pieces = [' '].intercalate pieces := by
  induction pieces with
  | nil => rfl
  | cons piece pieces ih =>
    cases pieces with
    | nil => simp [joinPieces]
    | cons next more =>
      obtain ⟨hgap, hmore⟩ := List.isChain_cons_cons.1 h
      rw [joinPieces, if_pos hgap, ih hmore, List.intercalate_cons_cons, List.append_assoc,
        List.singleton_append]

/-- The groups ask for spaces wherever the pieces do. -/
theorem Grouped.spaced (h : Grouped groups) (hpieces : ∀ p ∈ groups.flatten, IsWord p) :
    (groups.map List.flatten).IsChain fun left right => spaceBetween left right = true := by
  induction groups with
  | nil => exact List.isChain_nil
  | cons group groups ih =>
    cases groups with
    | nil => exact List.isChain_singleton _
    | cons next groups =>
      obtain ⟨⟨hne, hne', hgap⟩, -⟩ := List.isChain_cons_cons.1 h.apart
      have hlater : ∀ p ∈ (next :: groups).flatten, IsWord p := fun p hp =>
        hpieces p (List.mem_append_right _ hp)
      refine List.isChain_cons_cons.2 ⟨?_, ih h.tail hlater⟩
      have htouching := h.touching group List.mem_cons_self
      have htouching' := h.touching next (List.mem_cons_of_mem _ List.mem_cons_self)
      have hlast := (hpieces _ (List.mem_append_left _ (List.getLast_mem hne))).ne_nil
      obtain ⟨right, back, rfl⟩ := List.exists_cons_of_ne_nil hne'
      have hfirst := (hlater right List.mem_cons_self).ne_nil
      rw [← List.dropLast_concat_getLast hne] at htouching ⊢
      exact spaceBetween_flatten htouching htouching' hlast hfirst (by simpa [touch] using hgap)

theorem isWord_flatten {group : List (List Char)} (hne : group ≠ []) (h : ∀ p ∈ group, IsWord p) :
    IsWord group.flatten where
  ne_nil := by
    obtain ⟨p, group, rfl⟩ := List.exists_cons_of_ne_nil hne
    rw [List.flatten_cons]
    exact List.append_ne_nil_of_left_ne_nil (h p List.mem_cons_self).ne_nil _
  notBlank c hc := by
    obtain ⟨p, hp, hc⟩ := List.mem_flatten.1 hc
    exact (h p hp).notBlank c hc

theorem Grouped.isWord (h : Grouped groups) (hpieces : ∀ p ∈ groups.flatten, IsWord p) :
    ∀ w ∈ groups.map List.flatten, IsWord w := by
  intro w hw
  obtain ⟨group, hgroup, rfl⟩ := List.mem_map.1 hw
  refine isWord_flatten (fun hnil => h.nonempty (hnil ▸ hgroup)) fun p hp => ?_
  exact hpieces p (List.mem_flatten_of_mem hgroup hp)

/-- **Spacing a second time changes nothing.** -/
theorem respaceChars_respaceChars (cs : List Char) :
    respaceChars (respaceChars cs) = respaceChars cs := by
  obtain ⟨groups, hgroups, hpieces⟩ := exists_grouped (words cs)
  have hwords : ∀ p ∈ groups.flatten, IsWord p := by
    rw [hpieces]
    exact fun p hp => isWord_of_mem_words hp
  have hspaced : respaceChars cs = [' '].intercalate (groups.map List.flatten) := by
    rw [respaceChars, ← hpieces, joinPieces_flatten hgroups]
  rw [hspaced, respaceChars, words_intercalate (hgroups.isWord hwords),
    joinPieces_of_spaced (hgroups.spaced hwords)]

theorem singleSpaced_respaceChars (cs : List Char) : SingleSpaced (respaceChars cs) := by
  obtain ⟨groups, hgroups, hpieces⟩ := exists_grouped (words cs)
  rw [respaceChars, ← hpieces, joinPieces_flatten hgroups]
  refine singleSpaced_intercalate (hgroups.isWord ?_)
  rw [hpieces]
  exact fun p hp => isWord_of_mem_words hp

/-! ### Runs of characters of words -/

/-- A text with a space in place of every character that belongs to no word. -/
def blankOut (cs : List Char) : List Char := cs.map fun c => if isWordChar c then c else ' '

/-- **The longest runs of characters that belong to words**, in order. -/
def wordRuns (cs : List Char) : List (List Char) := words (blankOut cs)

/-- No blank belongs to a word. -/
theorem isWordChar_of_isBlank (h : isBlank c = true) : isWordChar c = false := by
  have hcodes : ∀ n ∈ [9, 10, 11, 12, 13, 32, 0x85, 0xA0, 0x1680, 0x2000, 0x2001, 0x2002, 0x2003,
      0x2004, 0x2005, 0x2006, 0x2007, 0x2008, 0x2009, 0x200A, 0x2028, 0x2029, 0x202F, 0x205F,
      0x3000], isWordChar (Char.ofNat n) = false := by
    decide +kernel
  have hcode := hcodes c.toNat (by simp only [isBlank] at h; simp at h ⊢; omega)
  rwa [Char.ofNat_toNat] at hcode

/-- The words of two texts, one after the other, where they meet at a blank. -/
theorem words_append_of_gap
    (h : ∀ a ∈ left.getLast?, ∀ b ∈ right.head?, isBlank a = true ∨ isBlank b = true) :
    words (left ++ right) = words left ++ words right := by
  generalize hws : words left = ws
  induction ws generalizing left with
  | nil => exact words_append_of_blank (words_eq_nil_iff.1 hws) right
  | cons w ws ih =>
    obtain ⟨front, rest, hfront, hw, hrest, rfl, hlater⟩ := words_eq_cons_iff.1 hws
    have hend : ∀ c ∈ (rest ++ right).head?, isBlank c = true := by
      cases rest with
      | nil =>
        -- the first text ends with the word, so the second starts with a blank
        intro c hc
        obtain ⟨a, ha⟩ := List.getLast?_isSome.2 hw.ne_nil |> Option.isSome_iff_exists.1
        have hlast : a ∈ (front ++ (w ++ [])).getLast? := by
          rw [List.append_nil, List.getLast?_append_of_ne_nil _ hw.ne_nil]
          exact ha
        refine (h a hlast c hc).resolve_left fun hblank => ?_
        rw [hw.endsTight a ha] at hblank
        cases hblank
      | cons c rest => exact hrest
    have hmeet : ∀ a ∈ rest.getLast?, ∀ b ∈ right.head?, isBlank a = true ∨ isBlank b = true := by
      intro a ha b hb
      have hne : rest ≠ [] := by
        rintro rfl
        cases ha
      refine h a ?_ b hb
      rw [← List.append_assoc, List.getLast?_append_of_ne_nil _ hne]
      exact ha
    rw [List.append_assoc, List.append_assoc, words_append_of_blank hfront, words_append hw hend,
      ih hmeet hlater, List.cons_append]

/-- Where no two words meet, the runs of the one text and those of the other. -/
theorem wordRuns_append (h : wordsMeet left right = false) :
    wordRuns (left ++ right) = wordRuns left ++ wordRuns right := by
  rw [wordRuns, blankOut, List.map_append]
  refine words_append_of_gap fun a ha b hb => ?_
  rw [Option.mem_def, List.getLast?_map, Option.map_eq_some_iff] at ha
  rw [Option.mem_def, List.head?_map, Option.map_eq_some_iff] at hb
  obtain ⟨a, ha, rfl⟩ := ha
  obtain ⟨b, hb, rfl⟩ := hb
  rw [wordsMeet, ha, hb, Option.any_some, Option.any_some, Bool.and_eq_false_iff] at h
  rcases h with h | h
  · exact Or.inl (by rw [h]; rfl)
  · exact Or.inr (by rw [h]; rfl)

theorem wordsMeet_eq_false_of_left (h : ∀ a ∈ left.getLast?, isBlank a = true)
    (right : List Char) : wordsMeet left right = false := by
  rw [wordsMeet]
  cases hlast : left.getLast? with
  | none => rfl
  | some a => rw [Option.any_some, isWordChar_of_isBlank (h a hlast), Bool.false_and]

theorem wordsMeet_eq_false_of_right (left : List Char)
    (h : ∀ b ∈ right.head?, isBlank b = true) : wordsMeet left right = false := by
  rw [wordsMeet, Bool.and_eq_false_iff]
  cases hfirst : right.head? with
  | none => exact Or.inr rfl
  | some b => exact Or.inr (isWordChar_of_isBlank (h b hfirst))

theorem wordRuns_of_blank (h : Blank cs) : wordRuns cs = [] := by
  refine words_eq_nil_iff.2 fun c hc => ?_
  obtain ⟨d, hd, rfl⟩ := List.mem_map.1 hc
  rw [isWordChar_of_isBlank (h d hd)]
  rfl

theorem wordRuns_space_cons (cs : List Char) : wordRuns (' ' :: cs) = wordRuns cs := by
  have hgap : wordsMeet [' '] cs = false :=
    wordsMeet_eq_false_of_left (fun a ha => blank_space a (List.mem_of_mem_getLast? ha)) cs
  rw [← List.singleton_append, wordRuns_append hgap, wordRuns_of_blank blank_space,
    List.nil_append]

/-- Runs end at blanks at the latest. -/
theorem wordRuns_eq_flatMap (cs : List Char) : wordRuns cs = (words cs).flatMap wordRuns := by
  generalize hws : words cs = ws
  induction ws generalizing cs with
  | nil => exact wordRuns_of_blank (words_eq_nil_iff.1 hws)
  | cons w ws ih =>
    obtain ⟨front, rest, hfront, -, hrest, rfl, hlater⟩ := words_eq_cons_iff.1 hws
    have hstart := wordsMeet_eq_false_of_left
      (fun a ha => hfront a (List.mem_of_mem_getLast? ha)) (w ++ rest)
    rw [wordRuns_append hstart, wordRuns_of_blank hfront,
      wordRuns_append (wordsMeet_eq_false_of_right w hrest), ih rest hlater, List.nil_append,
      List.flatMap_cons]

/-- **Joining puts no two words together**: the runs are those of the pieces. -/
theorem wordRuns_joinPieces (h : ∀ p ∈ pieces, IsWord p) :
    wordRuns (joinPieces pieces) = pieces.flatMap wordRuns := by
  induction pieces with
  | nil => rfl
  | cons piece pieces ih =>
    cases pieces with
    | nil => simp [joinPieces]
    | cons next more =>
      have hnext := h next (List.mem_cons_of_mem _ List.mem_cons_self)
      have hmore := ih (List.forall_mem_cons.1 h).2
      rw [List.flatMap_cons, ← hmore]
      cases hspace : spaceBetween piece next with
      | true =>
        have hgap : wordsMeet piece (' ' :: joinPieces (next :: more)) = false :=
          wordsMeet_eq_false_of_right piece fun b hb => by cases hb; rfl
        rw [joinPieces, if_pos hspace, wordRuns_append hgap, wordRuns_space_cons]
      | false =>
        -- without a space no words meet, as there would be one between them
        obtain ⟨gap, -, heq⟩ := exists_joinPieces_cons next more
        have hmeet : wordsMeet piece (joinPieces (next :: more)) = false := by
          rw [wordsMeet, heq, List.append_assoc, List.head?_append_of_ne_nil _ hnext.ne_nil]
          refine Bool.eq_false_iff.2 fun hmeet => ?_
          rw [spaceBetween_of_wordsMeet hmeet] at hspace
          cases hspace
        rw [joinPieces, hspace, if_neg Bool.false_ne_true, wordRuns_append hmeet]

theorem wordRuns_respaceChars (cs : List Char) : wordRuns (respaceChars cs) = wordRuns cs := by
  rw [respaceChars, wordRuns_joinPieces fun p hp => isWord_of_mem_words hp,
    ← wordRuns_eq_flatMap]

/-! ### Canonical spacing is a normal form -/

/-- The last piece ends what is joined. -/
theorem exists_joinPieces_concat (pieces : List (List Char)) (last : List Char) :
    ∃ gap, Blank gap ∧ joinPieces (pieces ++ [last]) = joinPieces pieces ++ gap ++ last := by
  rcases List.eq_nil_or_concat pieces with rfl | ⟨front, left, rfl⟩
  · exact ⟨[], blank_nil, rfl⟩
  · rw [List.concat_eq_append, List.append_assoc, List.singleton_append, joinPieces_append]
    refine ⟨if spaceBetween left last then [' '] else [], ?_, (List.append_assoc ..).symm⟩
    split
    · exact blank_space
    · exact blank_nil

/-- **The space between two words** that would become one without it. -/
theorem exists_respaceChars_eq {before after : List (List Char)}
    (hwords : words cs = before ++ left :: right :: after) (hmeet : wordsMeet left right = true) :
    ∃ front back, respaceChars cs = front ++ left ++ ' ' :: right ++ back ∧
      solid front = before.flatten ∧ solid back = after.flatten := by
  have hpieces : ∀ p ∈ before ++ left :: right :: after, IsWord p := by
    rw [← hwords]
    exact fun p hp => isWord_of_mem_words hp
  obtain ⟨hbefore, hrest⟩ := List.forall_mem_append.1 hpieces
  have hafter := (List.forall_mem_cons.1 (List.forall_mem_cons.1 hrest).2).2
  obtain ⟨gap, hgap, hleft⟩ := exists_joinPieces_concat before left
  obtain ⟨gap', hgap', hright⟩ := exists_joinPieces_cons right after
  refine ⟨joinPieces before ++ gap, gap' ++ joinPieces after, ?_, ?_, ?_⟩
  · rw [respaceChars, hwords, joinPieces_append, if_pos (spaceBetween_of_wordsMeet hmeet), hleft,
      hright]
    simp only [List.append_assoc, List.cons_append, List.nil_append]
  · rw [solid_append, solid_joinPieces hbefore, solid_of_blank hgap, List.append_nil]
  · rw [solid_append, solid_of_blank hgap', solid_joinPieces hafter, List.nil_append]

/-- **Canonical spacing is a normal form.** It depends on the words of a text alone and keeps
their characters, in order. It has no space at either end and no two next to each other, and it has
one between two words if the first ends and the second starts with a character that belongs to
words; so the longest runs of such characters stay as they are. Spacing it again changes
nothing. -/
theorem respace_normalizes (raw : String) :
    (∀ other : String, words other.toList = words raw.toList → respace other = respace raw) ∧
    solid (respace raw).toList = (words raw.toList).flatten ∧
    SingleSpaced (respace raw).toList ∧
    (∀ before left right after, words raw.toList = before ++ left :: right :: after →
      wordsMeet left right = true →
      ∃ front back, (respace raw).toList = front ++ left ++ ' ' :: right ++ back ∧
        solid front = before.flatten ∧ solid back = after.flatten) ∧
    wordRuns (respace raw).toList = wordRuns raw.toList ∧
    respace (respace raw) = respace raw := by
  have hchars : (respace raw).toList = respaceChars raw.toList := String.toList_ofList
  refine ⟨fun other hother => ?_, ?_, ?_, fun before left right after hwords hmeet => ?_, ?_, ?_⟩
  · rw [respace, respace, respaceChars, respaceChars, hother]
  · rw [hchars, solid_respaceChars, flatten_words]
  · rw [hchars]
    exact singleSpaced_respaceChars raw.toList
  · rw [hchars]
    exact exists_respaceChars_eq hwords hmeet
  · rw [hchars, wordRuns_respaceChars]
  · rw [respace, hchars, respaceChars_respaceChars, respace]

/-- Two pieces become an operator, which has its spaces from the pieces around it. -/
example : respace ", - > = b" = ", -> = b" := by
  decide +kernel

end RecordStore.Text
