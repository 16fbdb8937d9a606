import RecordStore.Source.Tree

/-!
# Token trees and their lexemes

Putting lexemes together to trees loses nothing: the lexemes can be read off the trees again, places
included. A scanned text has token trees exactly if the scan reached its end and its lexemes are
those of some trees (`RecordStore.Source.Scan.trees_eq_ok_iff`), so the delimiters match.
-/

namespace RecordStore.Source

/-! ### The lexemes of trees -/

mutual

/-- The lexemes of a tree. -/
def TokenTree.lexemes : TokenTree → List (Lexeme × Span)
  | .token t span => [(.token t, span)]
  | .group d opening closing content =>
    (.opening d, opening) :: (lexemesOf content ++ [(.closing d, closing)])

/-- The lexemes of trees in order. -/
def lexemesOf : List TokenTree → List (Lexeme × Span)
  | [] => []
  | tree :: rest => tree.lexemes ++ lexemesOf rest

end

theorem lexemesOf_append (ts us : Tokens) :
    lexemesOf (ts ++ us) = lexemesOf ts ++ lexemesOf us := by
  induction ts with
  | nil => rfl
  | cons tree rest ih => rw [List.cons_append, lexemesOf, lexemesOf, ih, List.append_assoc]

/-- The lexemes up to and with the opening delimiter of a group. -/
def OpenGroup.lexemes (g : OpenGroup) : List (Lexeme × Span) :=
  lexemesOf g.before.reverse ++ [(.opening g.delimiter, g.span)]

/-! ### Trees under construction -/

namespace TreeBuilder

variable {b b' : TreeBuilder} {span : Span} {l : Lexeme} {ls more : List (Lexeme × Span)}

/-- The lexemes that were added so far. -/
def lexemes (b : TreeBuilder) : List (Lexeme × Span) :=
  b.groups.reverse.flatMap OpenGroup.lexemes ++ lexemesOf b.current.reverse

/-- Adding a lexeme adds just that. -/
theorem lexemes_of_add (h : b.add span l = some b') : b'.lexemes = b.lexemes ++ [(l, span)] := by
  cases l with
  | token t =>
    cases h
    simp [lexemes, lexemesOf_append, lexemesOf, TokenTree.lexemes]
  | opening d =>
    cases h
    simp [lexemes, OpenGroup.lexemes, lexemesOf]
  | closing d =>
    obtain ⟨current, groups⟩ := b
    cases groups with
    | nil => cases h
    | cons g outer =>
      simp only [add] at h
      split at h
      · rename_i hd
        cases h
        simp [lexemes, OpenGroup.lexemes, lexemesOf_append, lexemesOf, TokenTree.lexemes, hd]
      · cases h

theorem lexemes_of_addAll (h : b.addAll ls = .ok b') : b'.lexemes = b.lexemes ++ ls := by
  induction ls generalizing b with
  | nil =>
    cases h
    rw [List.append_nil]
  | cons first rest ih =>
    obtain ⟨l, span⟩ := first
    rw [addAll] at h
    cases hadd : b.add span l with
    | none =>
      rw [hadd] at h
      cases h
    | some b₁ =>
      rw [hadd] at h
      rw [ih h, lexemes_of_add hadd, List.append_assoc]
      rfl

mutual

/-- The lexemes of a tree add the tree. -/
theorem addAll_lexemes (tree : TokenTree) (b : TreeBuilder) (more : List (Lexeme × Span)) :
    b.addAll (tree.lexemes ++ more) = { b with current := tree :: b.current }.addAll more := by
  match tree with
  | .token t span => rfl
  | .group d opening closing content =>
    rw [TokenTree.lexemes, List.cons_append, addAll, add, List.append_assoc]
    dsimp only
    rw [addAll_lexemesOf content, List.append_nil, List.singleton_append, addAll, add]
    simp

/-- The lexemes of trees add the trees. -/
theorem addAll_lexemesOf (ts : List TokenTree) (b : TreeBuilder) (more : List (Lexeme × Span)) :
    b.addAll (lexemesOf ts ++ more) =
      { b with current := ts.reverse ++ b.current }.addAll more := by
  match ts with
  | [] => rfl
  | tree :: rest =>
    rw [lexemesOf, List.append_assoc, addAll_lexemes tree, addAll_lexemesOf rest]
    simp

end

end TreeBuilder

/-- **What has token trees**: what was scanned to its end and consists of their lexemes. -/
theorem Scan.trees_eq_ok_iff {s : Scan} {trees : Tokens} :
    s.trees = .ok trees ↔ s.fault = none ∧ s.lexemes = lexemesOf trees := by
  obtain ⟨ls, fault⟩ := s
  constructor
  · intro h
    rw [Scan.trees] at h
    cases hadd : ({} : TreeBuilder).addAll ls with
    | error p =>
      rw [hadd] at h
      cases h
    | ok b =>
      rw [hadd] at h
      have hls : b.lexemes = ls := TreeBuilder.lexemes_of_addAll hadd
      obtain ⟨current, groups⟩ := b
      cases fault with
      | some p => cases h
      | none =>
        cases groups with
        | cons g outer => cases h
        | nil =>
          cases h
          exact ⟨rfl, hls.symm⟩
  · rintro ⟨rfl, rfl⟩
    have hadd := TreeBuilder.addAll_lexemesOf trees {} []
    rw [List.append_nil, List.append_nil, TreeBuilder.addAll] at hadd
    rw [Scan.trees, hadd]
    exact congrArg Except.ok trees.reverse_reverse

end RecordStore.Source
