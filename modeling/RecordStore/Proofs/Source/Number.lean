import RecordStore.Proofs.Source.Word
import RecordStore.Source.Grammar.Member

/-!
# Numbers in decimal

A number in decimal is scanned as an integer, and as a member it stands for the position with that
number.
-/

namespace RecordStore.Source

open Text (isIdentifierContinue isIdentifierStart)

variable {cs rest : List Char} {n : Nat}

theorem isDigit_eq {c : Char} (h : c.isDigit = true) : isDigit c = true := by
  simpa [isDigit, Char.isDigit, Char.le_def] using h

/-- The digits of a number. -/
theorem digits (n : Nat) : ∀ c ∈ Nat.toDigits 10 n, isDigit c = true := fun _ hc =>
  isDigit_eq (Nat.isDigit_of_mem_toDigits (by decide) (by decide) hc)

theorem digitValue?_of_isDigit {c : Char} (h : isDigit c = true) :
    digitValue? c = some (c.toNat - '0'.toNat) := by
  rw [digitValue?, if_pos h]
  rfl

theorem digitValue_lt {c : Char} (h : isDigit c = true) : c.toNat - '0'.toNat < 10 := by
  simp only [isDigit, Bool.and_eq_true, decide_eq_true_eq, Char.le_def] at h
  have h9 : c.toNat ≤ '9'.toNat := h.2
  have : '9'.toNat = 57 := rfl
  have : '0'.toNat = 48 := rfl
  omega

theorem digitsValue_digits (hcs : ∀ c ∈ cs, isDigit c = true) (value : Nat) :
    digitsValue 10 value cs = (Nat.ofDigitChars 10 cs value, []) := by
  induction cs generalizing value with
  | nil => rfl
  | cons c cs ih =>
    have hc := hcs c (List.mem_cons_self ..)
    have hline : c ≠ '_' := by
      rintro rfl
      cases hc
    rw [digitsValue, if_neg hline, digitValue?_of_isDigit hc]
    dsimp only
    rw [if_pos (digitValue_lt hc), ih (fun d hd => hcs d (List.mem_cons_of_mem _ hd)),
      Nat.ofDigitChars_cons, Nat.mul_comm]

/-- **A number in decimal stands for the position with that number.** -/
theorem position?_toString (h : n < UInt32.size) : position? (toString n) = .ok n := by
  have htext : (toString n).toList = Nat.toDigits 10 n := by
    simp [toString, Nat.repr]
  have hinteger : integerValue (Nat.toDigits 10 n) = (n, []) := by
    rw [integerValue.eq_def]
    have hdigits := digits n
    split
    · rename_i heq
      exact absurd (hdigits 'x' (by simp [heq])) (by decide)
    · rename_i heq
      exact absurd (hdigits 'o' (by simp [heq])) (by decide)
    · rename_i heq
      exact absurd (hdigits 'b' (by simp [heq])) (by decide)
    · rw [digitsValue_digits hdigits, Nat.ofDigitChars_ten_toDigits]
  rw [position?, htext, hinteger]
  exact if_pos h

/-! ### Numbers are scanned -/

/-- Where a number can end. -/
def EndsNumber (rest : List Char) : Prop :=
  ∀ c ∈ rest.head?, isIdentifierStart c = false ∧ isIdentifierContinue c = false ∧ c ≠ '.'

theorem isIdentifierContinue_of_digitValue? {c : Char} {d : Nat} (h : digitValue? c = some d) :
    isIdentifierContinue c = true := by
  have hsmall : c.toNat < 128 := by
    rw [digitValue?] at h
    split at h
    · rename_i hc
      simp only [isDigit, Bool.and_eq_true, decide_eq_true_eq, Char.le_def] at hc
      have h9 : c.toNat ≤ '9'.toNat := hc.2
      have : '9'.toNat = 57 := rfl
      omega
    · split at h
      · rename_i hc
        have hf : c.toNat ≤ 'f'.toNat := hc.2
        have : 'f'.toNat = 102 := rfl
        omega
      · split at h
        · rename_i hc
          have hf : c.toNat ≤ 'F'.toNat := hc.2
          have : 'F'.toNat = 70 := rfl
          omega
        · cases h
  have hall : ∀ code < 128, (digitValue? (Char.ofNat code)).isSome = true →
      isIdentifierContinue (Char.ofNat code) = true := by
    decide +kernel
  have := hall c.toNat hsmall
  rw [Char.ofNat_toNat] at this
  exact this (by rw [h]; rfl)

theorem scanDigits_digits (hcs : ∀ c ∈ cs, isDigit c = true) (hrest : EndsNumber rest)
    (hne : cs ≠ []) : scanDigits 10 true (cs ++ rest) = some (cs, rest) := by
  have hstop : scanDigits 10 false rest = some ([], rest) := by
    cases rest with
    | nil => rfl
    | cons c rest =>
      have hc := (hrest c rfl).2.1
      have hline : c ≠ '_' := by
        rintro rfl
        exact absurd hc (by decide)
      have hvalue : digitValue? c = none := by
        rw [Option.eq_none_iff_forall_ne_some]
        intro d hd
        rw [isIdentifierContinue_of_digitValue? hd] at hc
        cases hc
      simp [scanDigits, hline, hvalue]
  have hstep {c : Char} {cs : List Char} {isEmpty : Bool} (hc : isDigit c = true) :
      scanDigits 10 isEmpty (c :: cs) =
        (scanDigits 10 false cs).map fun found => (c :: found.1, found.2) := by
    have hline : c ≠ '_' := by
      rintro rfl
      cases hc
    rw [scanDigits, if_neg hline, digitValue?_of_isDigit hc]
    dsimp only
    rw [if_neg (Nat.not_le.2 (digitValue_lt hc))]
  have hmore {cs : List Char} (hcs : ∀ c ∈ cs, isDigit c = true) :
      scanDigits 10 false (cs ++ rest) = some (cs, rest) := by
    induction cs with
    | nil => exact hstop
    | cons c cs ih =>
      rw [List.cons_append, hstep (hcs c (List.mem_cons_self ..)),
        ih fun d hd => hcs d (List.mem_cons_of_mem _ hd)]
      rfl
  obtain ⟨c, cs, rfl⟩ := List.exists_cons_of_ne_nil hne
  rw [List.cons_append, hstep (hcs c (List.mem_cons_self ..)),
    hmore fun d hd => hcs d (List.mem_cons_of_mem _ hd)]
  rfl

theorem scanInteger_digits (hcs : ∀ c ∈ cs, isDigit c = true) (hrest : EndsNumber rest)
    (hne : cs ≠ []) : scanInteger (cs ++ rest) = some (cs, rest) := by
  have hsuffix : withSuffix cs rest = some (cs, rest) := by
    cases rest with
    | nil => rfl
    | cons c rest =>
      obtain ⟨hstart, hcontinue, -⟩ := hrest c rfl
      simp [withSuffix, scanName, hstart, startsInsideName, hcontinue]
  have hmark (mark : Char) (body : List Char) (hmark : isIdentifierContinue mark = true)
      (hdigit : isDigit mark = false) : cs ++ rest ≠ '0' :: mark :: body := by
    intro heq
    obtain ⟨c, cs, rfl⟩ := List.exists_cons_of_ne_nil hne
    obtain ⟨-, heq⟩ := List.cons.inj heq
    cases cs with
    | nil =>
      have := (hrest mark (by rw [show rest = mark :: body from heq]; rfl)).2.1
      rw [hmark] at this
      cases this
    | cons d cs =>
      obtain ⟨rfl, -⟩ := List.cons.inj heq
      rw [hcs d (by simp)] at hdigit
      cases hdigit
  rw [scanInteger.eq_def]
  dsimp only
  split
  · rename_i heq
    exact absurd heq (hmark 'x' _ (by decide) (by decide))
  · rename_i heq
    exact absurd heq (hmark 'o' _ (by decide) (by decide))
  · rename_i heq
    exact absurd heq (hmark 'b' _ (by decide) (by decide))
  · rw [scanDigits_digits hcs hrest hne]
    exact hsuffix

theorem scanFloat_digits (hcs : ∀ c ∈ cs, isDigit c = true) (hrest : EndsNumber rest)
    (hne : cs ≠ []) : scanFloat (cs ++ rest) = none := by
  have hdrop : (cs ++ rest).dropWhile isDigitOrLine = rest := by
    rw [List.dropWhile_append_of_pos fun c hc => by simp [isDigitOrLine, hcs c hc]]
    cases rest with
    | nil => rfl
    | cons c rest =>
      have hc := (hrest c rfl).2.1
      have hline : c ≠ '_' := by
        rintro rfl
        exact absurd hc (by decide)
      have hdigit : isDigit c = false := by
        rw [Bool.eq_false_iff]
        intro hdigit
        rw [isIdentifierContinue_of_digitValue? (digitValue?_of_isDigit hdigit)] at hc
        cases hc
      rw [List.dropWhile_cons_of_neg (by simp [isDigitOrLine, hdigit, hline])]
  -- neither an exponent nor a point stands behind the digits
  have hend (whole : List Char) : scanFloatEnd whole false rest = none := by
    rw [scanFloatEnd.eq_def]
    cases rest with
    | nil => rfl
    | cons c rest =>
      have hc := (hrest c rfl).2.1
      have hletter : ¬(c = 'e' ∨ c = 'E') := by
        rintro (rfl | rfl) <;> exact absurd hc (by decide)
      simp [hletter]
  obtain ⟨c, cs, rfl⟩ := List.exists_cons_of_ne_nil hne
  have hdigits : scanFloatDigits (c :: cs ++ rest) = none := by
    rw [scanFloatDigits.eq_def]
    simp only [List.cons_append]
    rw [← List.cons_append, hdrop, hcs c (List.mem_cons_self ..)]
    simp only [Bool.not_true, Bool.false_eq_true, ↓reduceIte]
    split
    · rename_i heq
      exact absurd rfl (hrest '.' (by simp)).2.2
    · exact hend _
  rw [scanFloat, hdigits]
  rfl

/-- **A number in decimal is a token** where it can end. -/
theorem scanToken_number (n : Nat) (hrest : EndsNumber rest) :
    scanToken ((toString n).toList ++ rest) =
      some ⟨.literal (.ofNat n), (toString n).toList, rest⟩ := by
  have htext : (toString n).toList = Nat.toDigits 10 n := by
    simp [toString, Nat.repr]
  have hdigits := digits n
  have hne : Nat.toDigits 10 n ≠ [] := Nat.toDigits_ne_nil
  have hquoted : scanQuotedLiteral (Nat.toDigits 10 n ++ rest) = none := by
    obtain ⟨c, cs, hcs⟩ := List.exists_cons_of_ne_nil hne
    have hc := hdigits c (by simp [hcs])
    rw [hcs, List.cons_append, scanQuotedLiteral.eq_def]
    -- none of the characters that a literal in quotes starts with is a digit
    split <;> first
      | rfl
      | rename_i heq
        obtain rfl := (List.cons.inj heq).1
        cases hc
  have hinteger : scanInteger (Nat.toDigits 10 n ++ rest) = some (Nat.toDigits 10 n, rest) :=
    scanInteger_digits hdigits hrest hne
  rw [scanToken.eq_def, scanLiteral, htext, hquoted]
  simp only [scanFloat_digits hdigits hrest hne, hinteger, Option.bind_some, ScannedToken.literal?,
    Literal.ofText?]
  rw [← htext, String.ofList_toList, dif_pos (Literal.marked_toString n)]
  rfl

end RecordStore.Source
