import RecordStore.Proofs.Text.Blank
import RecordStore.Text.Spacing

/-!
# What canonical spacing keeps

Only the blanks of a text are touched: the other characters stay, in order
(`RecordStore.Text.solid_respaceChars`), and the text starts with its first word
(`RecordStore.Text.prefix_respaceChars`). Where no neighbouring words ask for a space, nothing is
left between them (`RecordStore.Text.joinPieces_eq_flatten`).
-/

namespace RecordStore.Text

variable {c : Char} {cs word : List Char} {pieces ws : List (List Char)}

/-! ### Characters that are not blank -/

/-- The characters of a text that are not blank, in order. -/
def solid (cs : List Char) : List Char := cs.filter fun c => !isBlank c

theorem solid_append (cs rest : List Char) : solid (cs ++ rest) = solid cs ++ solid rest :=
  List.filter_append ..

theorem mem_solid : c ∈ solid cs ↔ c ∈ cs ∧ isBlank c = false := by
  rw [solid, List.mem_filter, Bool.not_eq_true']

theorem solid_of_blank (h : Blank cs) : solid cs = [] :=
  List.filter_eq_nil_iff.2 fun c hc => by simp [h c hc]

theorem IsWord.solid_eq (h : IsWord word) : solid word = word :=
  List.filter_eq_self.2 fun c hc => by simp [h.notBlank c hc]

/-! ### Words -/

theorem isWord_of_mem_words (h : word ∈ words cs) : IsWord word := by
  generalize hws : words cs = ws at h
  induction ws generalizing cs with
  | nil => cases h
  | cons w ws ih =>
    obtain ⟨left, rest, -, hw, -, -, hrest⟩ := words_eq_cons_iff.1 hws
    rcases List.mem_cons.1 h with rfl | h
    · exact hw
    · exact ih hrest h

/-- **The words of a text hold all that is not blank**, in order. -/
theorem flatten_words (cs : List Char) : (words cs).flatten = solid cs := by
  generalize hws : words cs = ws
  induction ws generalizing cs with
  | nil => exact (solid_of_blank (words_eq_nil_iff.1 hws)).symm
  | cons w ws ih =>
    obtain ⟨left, rest, hleft, hw, -, rfl, hrest⟩ := words_eq_cons_iff.1 hws
    rw [List.flatten_cons, ih rest hrest, solid_append, solid_append, solid_of_blank hleft,
      hw.solid_eq, List.nil_append]

/-! ### Spaces between pieces -/

/-- Between the first piece and the others there is a space at most. -/
theorem exists_joinPieces_cons (piece : List Char) (pieces : List (List Char)) :
    ∃ gap, Blank gap ∧ joinPieces (piece :: pieces) = piece ++ gap ++ joinPieces pieces := by
  cases pieces with
  | nil => exact ⟨[], blank_nil, by simp [joinPieces]⟩
  | cons next more =>
    rw [joinPieces]
    split
    · exact ⟨[' '], blank_space, by simp⟩
    · exact ⟨[], blank_nil, by simp⟩

theorem solid_joinPieces (h : ∀ p ∈ pieces, IsWord p) :
    solid (joinPieces pieces) = pieces.flatten := by
  induction pieces with
  | nil => rfl
  | cons piece pieces ih =>
    obtain ⟨hpiece, hpieces⟩ := List.forall_mem_cons.1 h
    obtain ⟨gap, hgap, heq⟩ := exists_joinPieces_cons piece pieces
    rw [heq, solid_append, solid_append, hpiece.solid_eq, solid_of_blank hgap, ih hpieces,
      List.append_nil, List.flatten_cons]

/-- Where no space is asked for, the pieces follow each other directly. -/
theorem joinPieces_eq_flatten
    (h : pieces.IsChain fun left right => spaceBetween left right = false) :
    joinPieces pieces = pieces.flatten := by
  induction pieces with
  | nil => rfl
  | cons piece pieces ih =>
    cases pieces with
    | nil => simp [joinPieces]
    | cons next more =>
      obtain ⟨hgap, hmore⟩ := List.isChain_cons_cons.1 h
      rw [joinPieces, hgap, if_neg Bool.false_ne_true, ih hmore]
      rfl

/-- Between two words that consist of characters of words a space is asked for. -/
theorem spaceBetween_of_isWordChar {left right : List Char} (hleft : left ≠ [])
    (hright : right ≠ []) (hl : ∀ c ∈ left, isWordChar c = true)
    (hr : ∀ c ∈ right, isWordChar c = true) : spaceBetween left right = true := by
  have hlast : left.getLast?.any isWordChar = true := by
    rw [List.getLast?_eq_some_getLast hleft]
    exact hl _ (List.getLast_mem hleft)
  have hfirst : right.head?.any isWordChar = true := by
    rw [List.head?_eq_some_head hright]
    exact hr _ (List.head_mem hright)
  rw [spaceBetween, hlast, hfirst]
  rfl

theorem space_mem_joinPieces {left right : List Char} (h : spaceBetween left right = true) :
    ' ' ∈ joinPieces (left :: right :: pieces) := by
  rw [joinPieces, if_pos h]
  exact List.mem_append_right _ List.mem_cons_self

/-! ### Canonical spacing -/

/-- **Canonical spacing moves blanks only.** -/
theorem solid_respaceChars (cs : List Char) : solid (respaceChars cs) = solid cs := by
  rw [respaceChars, solid_joinPieces fun p hp => isWord_of_mem_words hp, flatten_words]

theorem mem_respaceChars (hc : isBlank c = false) : c ∈ respaceChars cs ↔ c ∈ cs := by
  have h := congrArg (c ∈ ·) (solid_respaceChars cs)
  simpa [mem_solid, hc] using h

/-- A text in canonical spacing starts with its first word. -/
theorem prefix_respaceChars (h : words cs = word :: ws) : word <+: respaceChars cs := by
  obtain ⟨gap, -, heq⟩ := exists_joinPieces_cons word ws
  rw [respaceChars, h, heq, List.append_assoc]
  exact List.prefix_append ..

end RecordStore.Text
