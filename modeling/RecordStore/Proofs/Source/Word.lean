import RecordStore.Source.Lexeme

/-!
# Words in a text

A word is an identifier, or a raw one with its mark in front (`RecordStore.Source.Word.spelling`).
None of its characters separates tokens, stands for punctuation or delimits anything, so where a
word stands in a text and something else than a word goes on, it is what is scanned there
(`RecordStore.Source.scanToken_word`).
-/

namespace RecordStore.Source

open Text (isBlank isIdentifier isIdentifierStart isIdentifierContinue)

variable {c d : Char} {cs name rest text : List Char}

/-! ### Characters of identifiers -/

/-- The code points of the characters that separate tokens. -/
def separatorCodes : List Nat :=
  [9, 10, 11, 12, 13, 32, 0x85, 0xA0, 0x1680, 0x2000, 0x2001, 0x2002, 0x2003, 0x2004, 0x2005, 0x2006,
    0x2007, 0x2008, 0x2009, 0x200A, 0x200E, 0x200F, 0x2028, 0x2029, 0x202F, 0x205F, 0x3000]

theorem mem_separatorCodes (h : isSeparator c = true) : c.toNat ∈ separatorCodes := by
  simp only [isSeparator, Bool.or_eq_true, beq_iff_eq] at h
  rcases h with (h | rfl) | rfl
  · simp only [isBlank, Bool.or_eq_true, Bool.and_eq_true, decide_eq_true_eq, beq_iff_eq] at h
    simp only [separatorCodes, List.mem_cons, List.not_mem_nil, or_false]
    omega
  · decide
  · decide

/-- No identifier starts with a character that separates tokens. -/
theorem isSeparator_eq_false (h : isIdentifierStart c = true) : isSeparator c = false := by
  rw [Bool.eq_false_iff]
  intro hsep
  have hall : separatorCodes.all (fun n => !isIdentifierStart (Char.ofNat n)) = true := by
    decide +kernel
  have hc := List.all_eq_true.1 hall c.toNat (mem_separatorCodes hsep)
  rw [Char.ofNat_toNat, h] at hc
  cases hc

theorem ne_of_isIdentifierStart (h : isIdentifierStart c = true)
    (hd : isIdentifierStart d = false) : c ≠ d := by
  rintro rfl
  rw [h] at hd
  cases hd

theorem ne_of_isIdentifierContinue (h : isIdentifierContinue c = true)
    (hd : isIdentifierContinue d = false) : c ≠ d := by
  rintro rfl
  rw [h] at hd
  cases hd

theorem isDigit_eq_false (h : isIdentifierStart c = true) : isDigit c = false := by
  rw [Bool.eq_false_iff]
  intro hdigit
  simp only [isDigit, Bool.and_eq_true, decide_eq_true_eq] at hdigit
  have hle : '0'.toNat ≤ c.toNat ∧ c.toNat ≤ '9'.toNat := hdigit
  have hall : (List.range 10).all (fun n => !isIdentifierStart (Char.ofNat (n + 48))) = true := by
    decide +kernel
  have hc := List.all_eq_true.1 hall (c.toNat - 48) (by
    rw [List.mem_range]
    have : '9'.toNat = 57 := rfl
    omega)
  have : c.toNat - 48 + 48 = c.toNat := by
    have : '0'.toNat = 48 := rfl
    omega
  rw [this, Char.ofNat_toNat, h] at hc
  cases hc

/-! ### The spelling of words -/

namespace Word

theorem text_of_ofText? {text : String} {w : Word} (h : ofText? text = some w) : w.text = text := by
  rw [ofText?] at h
  split at h
  · cases h
    rfl
  · split at h
    · cases h
      rfl
    · cases h

/-- **Words are identifiers**, maybe with the mark of a raw one in front. -/
theorem spelling (w : Word) :
    isIdentifier w.text.toList = true ∨
      ∃ name, w.text.toList = 'r' :: '#' :: name ∧ isIdentifier name = true ∧
        neverRaw.contains (String.ofList name) = false := by
  cases w with
  | known w =>
    have hall : ∀ t ∈ reservedWords ++ contextualWords, isIdentifier t.toList = true := by
      decide +kernel
    have hw : w.text ∈ reservedWords ++ contextualWords := by simpa [isKnown] using w.known
    exact Or.inl (hall w.text hw)
  | plain n =>
    have hn := n.wellFormed
    rw [isWordText.eq_def] at hn
    split at hn
    · rename_i name heq
      simp only [Bool.and_eq_true, Bool.not_eq_true'] at hn
      exact Or.inr ⟨name, heq, hn⟩
    · exact Or.inl hn

/-- Words start as identifiers do; the mark of a raw one is a letter. -/
theorem exists_start (w : Word) : ∃ c cs, w.text.toList = c :: cs ∧ isIdentifierStart c = true := by
  rcases w.spelling with h | ⟨name, heq, -⟩
  · cases hname : w.text.toList with
    | nil =>
      rw [hname] at h
      cases h
    | cons c name =>
      rw [hname, isIdentifier, Bool.and_eq_true] at h
      exact ⟨c, name, rfl, h.1⟩
  · exact ⟨_, _, heq, by decide⟩

theorem not_mem_text (hstart : isIdentifierStart c = false)
    (hcontinue : isIdentifierContinue c = false)
    (hsign : c ≠ '#') (w : Word) : c ∉ w.text.toList := by
  have hname {name : List Char} (h : isIdentifier name = true) : c ∉ name := by
    intro hc
    cases name with
    | nil => cases hc
    | cons d rest =>
      simp only [isIdentifier, Bool.and_eq_true, List.all_eq_true] at h
      rcases List.mem_cons.1 hc with rfl | hc
      · exact ne_of_isIdentifierStart h.1 hstart rfl
      · exact ne_of_isIdentifierContinue (h.2 c hc) hcontinue rfl
  rcases w.spelling with h | ⟨name, heq, h, -⟩
  · exact hname h
  · rw [heq]
    intro hc
    simp only [List.mem_cons] at hc
    rcases hc with rfl | rfl | hc
    · exact absurd hstart (by decide)
    · exact hsign rfl
    · exact hname h hc

end Word

/-! ### No literal starts like a word -/

/-- Whether a character can stand next to a letter without making it the start of a literal. -/
def Unquoted (c : Char) : Prop := c ≠ '"' ∧ c ≠ '\'' ∧ c ≠ '#'

theorem unquoted_of_isIdentifierContinue (h : isIdentifierContinue c = true) : Unquoted c :=
  ⟨ne_of_isIdentifierContinue h (by decide), ne_of_isIdentifierContinue h (by decide),
    ne_of_isIdentifierContinue h (by decide)⟩

/-- Whether a word can end here: no word goes on, and nothing in quotes starts. -/
def EndsWord (rest : List Char) : Prop :=
  ∀ c ∈ rest.head?, isIdentifierContinue c = false ∧ Unquoted c

/-- A text that starts like a word and not like a literal. The longest marks of literals have two
letters and then a quote or a number sign. -/
structure StartsWord (c : Char) (cs : List Char) : Prop where
  start : isIdentifierStart c = true
  second : ∀ d ∈ cs.head?, Unquoted d
  third : ∀ d more, cs = d :: more → isIdentifierContinue d = true → ∀ e ∈ more.head?, Unquoted e

theorem StartsWord.of_identifier (h : isIdentifier (c :: name) = true) (hrest : EndsWord rest) :
    StartsWord c (name ++ rest) := by
  simp only [isIdentifier, Bool.and_eq_true, List.all_eq_true] at h
  obtain ⟨hstart, hname⟩ := h
  have hhead (tail : List Char) (htail : ∀ e ∈ tail, isIdentifierContinue e = true) :
      ∀ d ∈ (tail ++ rest).head?, Unquoted d := by
    cases tail with
    | nil => exact fun d hd => (hrest d hd).2
    | cons e tail =>
      intro d hd
      cases hd
      exact unquoted_of_isIdentifierContinue (htail e (List.mem_cons_self ..))
  refine ⟨hstart, hhead name hname, fun d more heq hd => ?_⟩
  cases name with
  | nil =>
    rw [List.nil_append] at heq
    have := (hrest d (by rw [heq]; rfl)).1
    rw [hd] at this
    cases this
  | cons e name =>
    cases heq
    exact hhead name fun e he => hname e (List.mem_cons_of_mem _ he)

/-- A raw string has a quote after its number signs. -/
theorem scanRaw_eq_none {q : Quoting} (h : ∀ c ∈ cs.head?, c ≠ '"' ∧ c ≠ '#') :
    scanRaw q cs = none := by
  cases cs with
  | nil => rfl
  | cons c cs =>
    obtain ⟨hquote, hsign⟩ := h c rfl
    have hdrop : (c :: cs).dropWhile (fun c => decide (c = '#')) = c :: cs :=
      List.dropWhile_cons_of_neg (by simpa using hsign)
    rw [scanRaw, hdrop]
    split
    · rename_i heq
      exact absurd (List.cons.inj heq).1 hquote
    · rfl

theorem scanQuotedLiteral_eq_none (h : StartsWord c cs) : scanQuotedLiteral (c :: cs) = none := by
  have hraw {q : Quoting} {cs : List Char} (h : ∀ d ∈ cs.head?, Unquoted d) : scanRaw q cs = none :=
    scanRaw_eq_none fun d hd => ⟨(h d hd).1, (h d hd).2.2⟩
  have hletter : isIdentifierContinue 'r' = true := by decide
  rw [scanQuotedLiteral.eq_def]
  split
  · rename_i heq
    cases heq
    exact absurd h.start (by decide)
  · rename_i heq
    cases heq
    rw [quotedLiteral, hraw h.second]
    rfl
  · rename_i heq
    cases heq
    exact absurd rfl (h.second _ rfl).1
  · rename_i heq
    cases heq
    rw [quotedLiteral, hraw (h.third _ _ rfl hletter)]
    rfl
  · rename_i heq
    cases heq
    exact absurd rfl (h.second _ rfl).1
  · rename_i heq
    cases heq
    rw [quotedLiteral, hraw (h.third _ _ rfl hletter)]
    rfl
  · rename_i heq
    cases heq
    exact absurd rfl (h.second _ rfl).2.1
  · rename_i heq
    cases heq
    exact absurd h.start (by decide)
  · rfl

theorem scanFloat_eq_none (h : isDigit c = false) (cs : List Char) :
    scanFloat (c :: cs) = none := by
  rw [scanFloat, scanFloatDigits]
  simp [h]

/-- Numbers start with a digit: letters are digits only after a mark, and low lines only between
digits. -/
theorem scanInteger_eq_none (h : isDigit c = false) (cs : List Char) :
    scanInteger (c :: cs) = none := by
  have hzero : c ≠ '0' := by
    rintro rfl
    cases h
  have hdigits : scanDigits 10 true (c :: cs) = none := by
    rw [scanDigits]
    split
    · rfl
    · cases hvalue : digitValue? c with
      | none => rfl
      | some d =>
        have hlarge : 10 ≤ d := by
          rw [digitValue?, if_neg (by simp [h])] at hvalue
          split at hvalue
          · rename_i hle
            have hle : 'a'.toNat ≤ c.toNat := hle.1
            have : 'a'.toNat = 97 := rfl
            cases hvalue
            omega
          · split at hvalue
            · rename_i hle
              have hle : 'A'.toNat ≤ c.toNat := hle.1
              have : 'A'.toNat = 65 := rfl
              cases hvalue
              omega
            · cases hvalue
        simp [hlarge, h]
  rw [scanInteger.eq_def]
  dsimp only
  split
  · rename_i heq
    exact absurd (List.cons.inj heq).1 hzero
  · rename_i heq
    exact absurd (List.cons.inj heq).1 hzero
  · rename_i heq
    exact absurd (List.cons.inj heq).1 hzero
  · rw [hdigits]
    rfl

theorem scanLiteral_eq_none (h : StartsWord c cs) : scanLiteral (c :: cs) = none := by
  have hdigit := isDigit_eq_false h.start
  rw [scanLiteral, scanQuotedLiteral_eq_none h]
  dsimp only
  rw [scanFloat_eq_none hdigit, scanInteger_eq_none hdigit]
  rfl

/-- No mark of a literal stands in front of a word. -/
theorem quoteMarks_eq_false (h : StartsWord c cs) :
    quoteMarks.any (·.isPrefixOf (c :: cs)) = false := by
  have hsecond {d : Char} (hd : ¬Unquoted d) (mark : List Char) (e : Char) :
      (e :: d :: mark).isPrefixOf (c :: cs) = false := by
    rw [Bool.eq_false_iff]
    intro hmark
    obtain ⟨more, hmore⟩ := List.isPrefixOf_iff_prefix.1 hmark
    cases hmore
    exact hd (h.second d rfl)
  have hthird {d : Char} (hd : ¬Unquoted d) (mark : List Char) (e : Char) :
      (e :: 'r' :: d :: mark).isPrefixOf (c :: cs) = false := by
    rw [Bool.eq_false_iff]
    intro hmark
    obtain ⟨more, hmore⟩ := List.isPrefixOf_iff_prefix.1 hmark
    cases hmore
    exact hd (h.third 'r' _ rfl (by decide) d rfl)
  have hquote : ¬Unquoted '"' := fun h => h.1 rfl
  have hsingle : ¬Unquoted '\'' := fun h => h.2.1 rfl
  have hsign : ¬Unquoted '#' := fun h => h.2.2 rfl
  have hmarks : quoteMarks =
      [['r', '"'], ['r', '#', '"'], ['r', '#', '#'], ['b', '"'], ['b', '\''], ['b', 'r', '"'],
        ['b', 'r', '#'], ['c', '"'], ['c', 'r', '"'], ['c', 'r', '#']] := by
    decide +kernel
  simp only [hmarks, List.any_cons, List.any_nil, hsecond hquote, hsecond hsingle, hsecond hsign,
    hthird hquote, hthird hsign, Bool.or_self]

/-! ### No literal starts like a raw word -/

/-- After the number sign of a raw word stands no quote. -/
theorem scanLiteral_raw (h : isIdentifier name = true) (rest : List Char) :
    scanLiteral ('r' :: '#' :: (name ++ rest)) = none := by
  cases name with
  | nil => cases h
  | cons c name =>
    simp only [isIdentifier, Bool.and_eq_true] at h
    have hquote : c ≠ '"' := ne_of_isIdentifierStart h.1 (by decide)
    have hsign : c ≠ '#' := ne_of_isIdentifierStart h.1 (by decide)
    have hdrop : ('#' :: c :: (name ++ rest)).dropWhile (fun c => decide (c = '#')) =
        c :: (name ++ rest) := by
      rw [List.dropWhile_cons_of_pos (by decide), List.dropWhile_cons_of_neg (by simpa using hsign)]
    have hraw : scanRaw .text ('#' :: c :: (name ++ rest)) = none := by
      rw [scanRaw, hdrop]
      split
      · rename_i heq
        exact absurd (List.cons.inj heq).1 hquote
      · rfl
    rw [scanLiteral, List.cons_append, scanQuotedLiteral, hraw, quotedLiteral]
    simp only [Option.bind_eq_bind, Option.bind_none]
    rw [scanFloat_eq_none (by decide), scanInteger_eq_none (by decide)]
    rfl

theorem quoteMarks_raw (h : isIdentifier name = true) (rest : List Char) :
    quoteMarks.any (·.isPrefixOf ('r' :: '#' :: (name ++ rest))) = false := by
  cases name with
  | nil => cases h
  | cons c name =>
    simp only [isIdentifier, Bool.and_eq_true] at h
    have hquote : ('"' == c) = false :=
      beq_eq_false_iff_ne.2 (ne_of_isIdentifierStart h.1 (by decide)).symm
    have hsign : ('#' == c) = false :=
      beq_eq_false_iff_ne.2 (ne_of_isIdentifierStart h.1 (by decide)).symm
    simp [quoteMarks, List.isPrefixOf, hquote, hsign]

/-! ### Words are scanned -/

theorem scanName_append (h : isIdentifier name = true)
    (hrest : ∀ c ∈ rest.head?, isIdentifierContinue c = false) :
    scanName (name ++ rest) = some (name, rest) := by
  cases name with
  | nil => cases h
  | cons c name =>
    simp only [isIdentifier, Bool.and_eq_true, List.all_eq_true] at h
    have htake : (name ++ rest).takeWhile isIdentifierContinue = name := by
      rw [List.takeWhile_append_of_pos h.2]
      cases rest with
      | nil => simp
      | cons d rest => rw [List.takeWhile_cons_of_neg (by simp [hrest d rfl]), List.append_nil]
    have hdrop : (name ++ rest).dropWhile isIdentifierContinue = rest := by
      rw [List.dropWhile_append_of_pos h.2]
      cases rest with
      | nil => rfl
      | cons d rest => rw [List.dropWhile_cons_of_neg (by simp [hrest d rfl])]
    rw [List.cons_append, scanName, if_pos h.1, htake, hdrop]

/-- **A word is scanned as a whole** where it can end. -/
theorem scanWord_word (w : Word) (hrest : EndsWord rest) :
    scanWord (w.text.toList ++ rest) = some (w.text.toList, rest) := by
  have hends : ∀ c ∈ rest.head?, isIdentifierContinue c = false := fun c hc => (hrest c hc).1
  rcases w.spelling with h | ⟨name, heq, h, hraw⟩
  · rw [scanWord.eq_def]
    split
    · rename_i more heq
      cases hname : w.text.toList with
      | nil =>
        rw [hname] at h
        cases h
      | cons c name =>
        rw [hname] at h heq
        have heq : name ++ rest = '#' :: more := (List.cons.inj heq).2
        exact absurd rfl ((StartsWord.of_identifier h hrest).second '#' (by rw [heq]; rfl)).2.2
    · exact scanName_append h hends
  · rw [heq, List.cons_append, List.cons_append, scanWord, scanName_append h hends]
    simp only [hraw, Bool.false_eq_true, if_false]

theorem Sign.ofChar?_eq_none (h : c ∉ punctuation) : Sign.ofChar? c = none :=
  dif_neg fun hc => h (List.contains_iff_mem.1 hc)

theorem startingSign?_of_not_mem (h : c ∉ punctuation) (cs : List Char) :
    startingSign? (c :: cs) = none := by
  have hslash : c ≠ '/' := by
    rintro rfl
    exact h (by decide)
  rw [startingSign?.eq_def]
  split <;> simp_all [Sign.ofChar?_eq_none]

/-- No name starts with punctuation. -/
theorem not_mem_punctuation (h : isIdentifierStart c = true) : c ∉ punctuation := by
  have hall : punctuation.all (fun d => !isIdentifierStart d) = true := by decide +kernel
  intro hmem
  have hnot := List.all_eq_true.1 hall c hmem
  rw [h] at hnot
  cases hnot

theorem startingSign?_eq_none (h : isIdentifierStart c = true) (cs : List Char) :
    startingSign? (c :: cs) = none :=
  startingSign?_of_not_mem (not_mem_punctuation h) cs

/-- The token that a word is. -/
def ScannedToken.word (w : Word) (rest : List Char) : ScannedToken := ⟨.word w, w.text.toList, rest⟩

theorem scanToken_of_scanWord {w : Word} (hstart : isIdentifierStart c = true)
    (hliteral : scanLiteral (c :: cs) = none)
    (hmarks : quoteMarks.any (·.isPrefixOf (c :: cs)) = false)
    (hword : scanWord (c :: cs) = some (w.text.toList, rest)) :
    scanToken (c :: cs) = some (.word w rest) := by
  have hquote : c ≠ '\'' := ne_of_isIdentifierStart hstart (by decide)
  rw [scanToken.eq_def, hliteral]
  dsimp only
  split
  · rename_i heq
    exact absurd (List.cons.inj heq).1 hquote
  · rename_i heq
    obtain ⟨rfl, rfl⟩ := List.cons.inj heq
    simp [startingSign?_eq_none hstart, hmarks, hword, ScannedToken.word]
  · rename_i heq
    cases heq

/-- **A word is a token** where it can end. -/
theorem scanToken_word (w : Word) (hrest : EndsWord rest) :
    scanToken (w.text.toList ++ rest) = some (.word w rest) := by
  have hword := scanWord_word w hrest
  rcases w.spelling with h | ⟨name, heq, h, -⟩
  · cases hname : w.text.toList with
    | nil =>
      rw [hname] at h
      cases h
    | cons c name =>
      rw [hname] at h
      have hstart := StartsWord.of_identifier h hrest
      rw [hname, List.cons_append, ← hname] at hword
      exact scanToken_of_scanWord hstart.start (scanLiteral_eq_none hstart)
        (quoteMarks_eq_false hstart) hword
  · rw [heq, List.cons_append, List.cons_append, ← heq] at hword
    rw [heq, List.cons_append, List.cons_append]
    exact scanToken_of_scanWord (by decide) (scanLiteral_raw h rest) (quoteMarks_raw h rest) hword

end RecordStore.Source
