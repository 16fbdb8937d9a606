import RecordStore.Proofs.Source.Scanning

/-!
# Literals

A literal is told from a name by a character of its text, and the scanner takes no text without one
for a literal. It never has to refuse one for that (`RecordStore.Source.isSome_scanLiteral`): a text
in quotes has a quote, and a number starts with a digit.
-/

namespace RecordStore.Source

variable {cs text rest digits : List Char}

theorem isSome_literal? {kind : LiteralKind} (h : text.any marksLiteral = true) :
    (ScannedToken.literal? kind text rest).isSome = true := by
  have hmarked : (String.ofList text).toList.any marksLiteral = true := by
    rwa [String.toList_ofList]
  rw [ScannedToken.literal?, Literal.ofText?, dif_pos hmarked]
  rfl

theorem any_of_front (hfront : digits <+: text) (h : digits.any marksLiteral = true) :
    text.any marksLiteral = true := by
  obtain ⟨more, rfl⟩ := hfront
  rw [List.any_append, h, Bool.true_or]

/-! ### Numbers -/

theorem marksLiteral_of_isDigit {c : Char} (h : isDigit c = true) : marksLiteral c = true := by
  have hdigit : c.isDigit = true := by
    simpa [isDigit, Char.isDigit, Char.le_def] using h
  rw [marksLiteral, hdigit, Bool.or_true, Bool.true_or]

theorem prefix_of_withSuffix (h : withSuffix digits cs = some (text, rest)) : digits <+: text := by
  rw [withSuffix] at h
  split at h
  · cases h
    exact List.prefix_append _ _
  · obtain ⟨-, h⟩ := Option.ite_none_left_eq_some.1 h
    cases h
    exact List.prefix_refl _

theorem prefix_of_scanFloatEnd {hasPoint : Bool}
    (h : scanFloatEnd digits hasPoint cs = some (text, rest)) : digits <+: text := by
  have hwithout (h : (if hasPoint then some (digits, cs) else none) = some (text, rest)) :
      digits <+: text := by
    obtain ⟨-, h⟩ := Option.ite_none_right_eq_some.1 h
    cases h
    exact List.prefix_refl _
  rw [scanFloatEnd.eq_def] at h
  dsimp only at h
  split at h
  · exact hwithout h
  · split at h
    · split at h
      · cases h
        exact List.prefix_append _ _
      · exact hwithout h
    · exact hwithout h

theorem any_of_scanFloatDigits (h : scanFloatDigits cs = some (text, rest)) :
    text.any marksLiteral = true := by
  cases cs with
  | nil => cases h
  | cons first cs =>
    rw [scanFloatDigits] at h
    split at h
    · cases h
    · rename_i hfirst
      have hdigit : isDigit first = true := by simpa using hfirst
      have hwhole : ((first :: cs).takeWhile isDigitOrLine).any marksLiteral = true := by
        rw [List.takeWhile_cons_of_pos (by rw [isDigitOrLine, hdigit, Bool.true_or]), List.any_cons,
          marksLiteral_of_isDigit hdigit, Bool.true_or]
      refine any_of_front ?_ hwhole
      dsimp only at h
      split at h
      · split at h
        · split at h
          · cases h
          · exact (List.prefix_append _ _).trans (prefix_of_scanFloatEnd h)
        · cases h
          exact List.prefix_append _ _
      · exact prefix_of_scanFloatEnd h

theorem any_of_scanFloat (h : scanFloat cs = some (text, rest)) : text.any marksLiteral = true := by
  obtain ⟨⟨digits, after⟩, hdigits, h⟩ := Option.bind_eq_some_iff.1 h
  exact any_of_front (prefix_of_withSuffix h) (any_of_scanFloatDigits hdigits)

theorem isDigit_of_digitValue? {c : Char} {d : Nat} (h : digitValue? c = some d) (hd : d < 10) :
    isDigit c = true := by
  rw [digitValue?] at h
  split at h
  · assumption
  · split at h
    · rename_i hletter
      cases h
      have : 97 ≤ c.toNat := hletter.1
      omega
    · split at h
      · rename_i hletter
        cases h
        have : 65 ≤ c.toNat := hletter.1
        omega
      · cases h

theorem any_of_scanDigits (h : scanDigits 10 true cs = some (text, rest)) :
    text.any marksLiteral = true := by
  cases cs with
  | nil => cases h
  | cons c cs =>
    rw [scanDigits] at h
    dsimp only at h
    split at h
    · cases h
    · split at h
      · cases h
      · rename_i d hvalue
        split at h
        · split at h <;> cases h
        · rename_i hlt
          obtain ⟨⟨more, after⟩, -, heq⟩ := Option.map_eq_some_iff.1 h
          cases heq
          have hdigit := isDigit_of_digitValue? hvalue (by omega)
          rw [List.any_cons, marksLiteral_of_isDigit hdigit, Bool.true_or]

theorem any_of_scanInteger (h : scanInteger cs = some (text, rest)) :
    text.any marksLiteral = true := by
  rw [scanInteger.eq_def] at h
  dsimp only at h
  split at h
  all_goals
    obtain ⟨⟨digits, after⟩, hdigits, h⟩ := Option.bind_eq_some_iff.1 h
    refine any_of_front (prefix_of_withSuffix h) ?_
  · rfl
  · rfl
  · rfl
  · exact any_of_scanDigits hdigits

/-! ### Quotes -/

theorem any_of_scanRaw {q : Quoting} {raw : Quotation} (h : scanRaw q cs = some raw) :
    raw.text.any marksLiteral = true := by
  rw [scanRaw] at h
  split at h
  · obtain ⟨-, h⟩ := Option.ite_none_left_eq_some.1 h
    obtain ⟨body, -, rfl⟩ := Option.map_eq_some_iff.1 h
    simp [marksLiteral]
  · cases h

theorem isSome_quotedLiteral {mark : List Char} {kind : String → LiteralKind}
    {scanned : Option Quotation}
    (h : ∀ q, scanned = some q → (mark ++ q.text).any marksLiteral = true) :
    (quotedLiteral mark kind scanned).isSome = scanned.isSome := by
  cases scanned with
  | none => rfl
  | some q =>
    have hmarked := h q rfl
    simp only [quotedLiteral, Option.bind_eq_bind, Option.bind_some]
    split
    · exact isSome_literal? (any_of_front (List.prefix_append _ _) hmarked)
    · exact isSome_literal? hmarked

/-- The quotation at the start of a text. -/
def quotationAt? : List Char → Option Quotation
  | '"' :: rest => scanQuoted .text .plain rest
  | 'r' :: rest => scanRaw .text rest
  | 'b' :: '"' :: rest => scanQuoted .byte .plain rest
  | 'b' :: 'r' :: rest => scanRaw .byte rest
  | 'c' :: '"' :: rest => scanQuoted .terminated .plain rest
  | 'c' :: 'r' :: rest => scanRaw .terminated rest
  | 'b' :: '\'' :: rest => scanSingle .byte rest
  | '\'' :: rest => scanSingle .text rest
  | _ => none

theorem isSome_scanQuotedLiteral (cs : List Char) :
    (scanQuotedLiteral cs).isSome = (quotationAt? cs).isSome := by
  have hquote {mark : List Char} (h : mark.any marksLiteral = true) (text : List Char) :
      (mark ++ text).any marksLiteral = true := any_of_front (List.prefix_append _ _) h
  have hraw {mark : List Char} {q : Quoting} {cs : List Char} (raw : Quotation)
      (h : scanRaw q cs = some raw) : (mark ++ raw.text).any marksLiteral = true := by
    rw [List.any_append, any_of_scanRaw h, Bool.or_true]
  fun_cases quotationAt? cs with
  | case1 | case3 | case5 | case7 | case8 =>
    rw [scanQuotedLiteral]
    exact isSome_quotedLiteral fun q _ => hquote (by decide) q.text
  | case2 | case4 | case6 =>
    rw [scanQuotedLiteral]
    exact isSome_quotedLiteral hraw
  | case9 =>
    rw [scanQuotedLiteral]
    · rfl
    all_goals assumption

/-- **What is scanned as a literal is one**: a text starts with a literal exactly if it starts with
a quotation or with a number. -/
theorem isSome_scanLiteral (cs : List Char) : (scanLiteral cs).isSome =
    ((quotationAt? cs).isSome || (scanFloat cs).isSome || (scanInteger cs).isSome) := by
  rw [← isSome_scanQuotedLiteral, scanLiteral]
  cases scanQuotedLiteral cs with
  | some l => rfl
  | none =>
    cases hfloat : scanFloat cs with
    | some float => exact isSome_literal? (any_of_scanFloat hfloat)
    | none =>
      cases hinteger : scanInteger cs with
      | none => rfl
      | some integer => exact isSome_literal? (any_of_scanInteger hinteger)

end RecordStore.Source
