import RecordStore.Proofs.Source.Word
import RecordStore.Proofs.Text.Spacing

/-!
# The text of tokens

Between the texts of trees in a row there is a space at most, so the text of each tree is part of
the text of all (`RecordStore.Source.mem_printTrees`), and canonical spacing keeps what is not blank
in it (`RecordStore.Source.mem_canonical`). Words have no blanks in them, so a text that starts with
a word still does in canonical spacing (`RecordStore.Source.prefix_canonical`).
-/

namespace RecordStore.Source

variable {c : Char} {tokens rest : Tokens} {tree : TokenTree}

/-! ### Trees in a row -/

/-- Between the texts of trees in a row there is a gap at most. -/
theorem exists_printTrees_cons (tree : TokenTree) {rest : Tokens} (h : rest ≠ []) :
    ∃ gap, printTrees (tree :: rest) = tree.print ++ gap ++ printTrees rest := by
  obtain ⟨next, more, rfl⟩ := List.exists_cons_of_ne_nil h
  cases tree with
  | token t span =>
    rw [printTrees]
    · split
      · exact ⟨[], by simp⟩
      · exact ⟨[' '], by simp⟩
    · exact List.cons_ne_nil _ _
  | group d opening closing content =>
    rw [printTrees]
    · exact ⟨[' '], by simp⟩
    · exact List.cons_ne_nil _ _
    · intro _ _ htoken
      cases htoken

theorem exists_printTrees_concat (front : Tokens) (tree : TokenTree) :
    ∃ before, printTrees (front ++ [tree]) = before ++ tree.print := by
  induction front with
  | nil => exact ⟨[], rfl⟩
  | cons first rest ih =>
    obtain ⟨before, hbefore⟩ := ih
    obtain ⟨gap, hgap⟩ := exists_printTrees_cons first (List.concat_ne_nil tree rest)
    rw [List.cons_append, hgap, hbefore, ← List.append_assoc]
    exact ⟨_, rfl⟩

/-- **The text of a tree is part of the text of all.** -/
theorem mem_printTrees (h : tree ∈ tokens) (hc : c ∈ tree.print) : c ∈ printTrees tokens := by
  induction tokens with
  | nil => cases h
  | cons first rest ih =>
    rcases eq_or_ne rest [] with rfl | hne
    · rw [List.mem_singleton.1 h] at hc
      exact hc
    · obtain ⟨gap, heq⟩ := exists_printTrees_cons first hne
      rw [heq, List.mem_append, List.mem_append]
      rcases List.mem_cons.1 h with rfl | h
      · exact Or.inl (Or.inl hc)
      · exact Or.inr (ih h)

/-- After a token that is joined to nothing a space follows, unless the text ends. -/
theorem printTrees_token {t : Token} (ht : t.isJoint = false) (span : Span) (rest : Tokens) :
    printTrees (.token t span :: rest) =
      t.print ++ if rest.isEmpty then [] else ' ' :: printTrees rest := by
  cases rest with
  | nil => exact (List.append_nil _).symm
  | cons next more =>
    rw [printTrees]
    · simp [ht, TokenTree.print]
    · exact List.cons_ne_nil _ _

/-! ### Words -/

/-- No blank stands in an identifier. -/
theorem isIdentifierContinue_eq_false (h : Text.isBlank c = true) :
    Text.isIdentifierContinue c = false := by
  have hall : separatorCodes.all (fun n => !Text.isIdentifierContinue (Char.ofNat n)) = true := by
    decide +kernel
  have hsep : isSeparator c = true := by simp [isSeparator, h]
  have hc := List.all_eq_true.1 hall c.toNat (mem_separatorCodes hsep)
  rwa [Char.ofNat_toNat, Bool.not_eq_true'] at hc

/-- A word of a source text has no blanks. -/
theorem Word.isWord_text (w : Word) : Text.IsWord w.text.toList where
  ne_nil := by
    obtain ⟨c, cs, heq, -⟩ := w.exists_start
    rw [heq]
    exact List.cons_ne_nil c cs
  notBlank c hc := by
    rw [Bool.eq_false_iff]
    intro hblank
    have hstart : Text.isIdentifierStart c = false := by
      rw [Bool.eq_false_iff]
      intro hstart
      have := isSeparator_eq_false hstart
      simp [isSeparator, hblank] at this
    have hsign : c ≠ '#' := by
      rintro rfl
      cases hblank
    exact w.not_mem_text hstart (isIdentifierContinue_eq_false hblank) hsign hc

/-! ### Pieces of the text -/

/-- A piece that a space or nothing follows is a word of the text. -/
theorem words_append_gap {piece : List Char} (h : Text.IsWord piece) (rest : Tokens) :
    Text.words (piece ++ if rest.isEmpty then [] else ' ' :: printTrees rest) =
      piece :: Text.words (printTrees rest) := by
  cases rest with
  | nil => exact Text.words_append h nofun
  | cons tree more =>
    have hends : ∀ c ∈ (' ' :: printTrees (tree :: more)).head?, Text.isBlank c = true := by
      intro c hc
      cases hc
      rfl
    exact (Text.words_append h hends).trans (congrArg _ (Text.words_cons_of_isBlank rfl _))

theorem words_word (w : Word) (span : Span) (rest : Tokens) :
    Text.words (printTrees (.token (.word w) span :: rest)) =
      w.text.toList :: Text.words (printTrees rest) := by
  rw [printTrees_token rfl]
  exact words_append_gap w.isWord_text rest

/-- Colons are one piece, since they are joined. -/
theorem words_colons (rest : Tokens) : Text.words (printTrees (punctTokens "::" ++ rest)) =
    [':', ':'] :: Text.words (printTrees rest) := by
  have hjoint : printTrees (punctTokens "::" ++ rest) =
      ':' :: printTrees ((Token.punct (.of ':') false).bare :: rest) := by
    change printTrees
      (.token (.punct (.of ':') true) .whole :: (Token.punct (.of ':') false).bare :: rest) = _
    rw [printTrees]
    · rfl
    · exact List.cons_ne_nil _ _
  have hcolons : Text.IsWord [':', ':'] := .of_all (by decide) (by decide)
  rw [hjoint, Token.bare, printTrees_token rfl]
  exact words_append_gap hcolons rest

/-! ### Canonical spacing -/

/-- The text of tokens in canonical spacing. -/
def canonical (tokens : Tokens) : List Char := Text.respaceChars (printTrees tokens)

theorem toList_respace_print (tokens : Tokens) :
    (Text.respace tokens.print).toList = canonical tokens := by
  rw [Text.respace, String.toList_ofList, Tokens.print, String.toList_ofList, canonical]

/-- **What is not blank in the text of a tree** is in the canonical text of all. -/
theorem mem_canonical (h : tree ∈ tokens) (hc : c ∈ tree.print) (hblank : Text.isBlank c = false) :
    c ∈ canonical tokens :=
  (Text.mem_respaceChars hblank).2 (mem_printTrees h hc)

/-- Tokens that start with a word have it at the start of their canonical text. -/
theorem prefix_canonical (w : Word) (span : Span) (rest : Tokens) :
    w.text.toList <+: canonical (.token (.word w) span :: rest) :=
  Text.prefix_respaceChars (words_word w span rest)

theorem canonical_word (w : Word) (span : Span) :
    canonical [.token (.word w) span] = w.text.toList := by
  rw [canonical, Text.respaceChars, words_word]
  rfl

end RecordStore.Source
