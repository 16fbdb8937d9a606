import RecordStore.Proofs.Source.Parser
import RecordStore.Proofs.Source.Tree
import RecordStore.Proofs.Source.Word
import RecordStore.Source.File

/-!
# Declarations are files

The declaration of a struct and a file with nothing but that struct are the same texts: what can be
read as the one can be read as the other, with the same outcome but for places
(`RecordStore.Source.Declaration.exists_file`).

* A file may start in two ways that a declaration may not: with a line that names its interpreter,
  and with attributes about the file. Both start with the signs `#` and `!`, and then the parser for
  declarations fails, since it takes the first for the start of an attribute about the struct
  (`RecordStore.Source.Parser.not_startsInner_of_outerAttributes`). So in what it does read, nothing
  is skipped.
* Of the mark of the byte order a file may have two and a declaration one, but the second one is no
  token (`RecordStore.Source.step_orderMark`).
* After that both read attributes, then the visibility, then a struct
  (`RecordStore.Source.Parser.run_item_of_declaration`), and a file ends there.
-/

namespace RecordStore.Source

open Text (isIdentifierStart)

variable {cs rest : List Char} {c : Char} {tokens : Tokens}

/-! ### Signs at the start of a text -/

/-- Characters that separate nothing and delimit nothing, and that no comment and no literal starts
with. -/
structure Inert (c : Char) : Prop where
  separator : isSeparator c = false
  digit : isDigit c = false
  opening : opening? c = none
  closing : closing? c = none
  mark : c ∉ ['"', 'r', 'b', 'c', '\'', '/']

namespace Inert

theorem scanLiteral_eq_none (h : Inert c) (rest : List Char) : scanLiteral (c :: rest) = none := by
  have hmark := h.mark
  simp only [List.mem_cons, List.not_mem_nil, or_false, not_or] at hmark
  obtain ⟨hquote, hr, hb, hc, hsingle, -⟩ := hmark
  have hquoted : scanQuotedLiteral (c :: rest) = none := by
    rw [scanQuotedLiteral.eq_def]
    split <;> simp_all
  rw [scanLiteral, hquoted]
  dsimp only
  rw [scanFloat_eq_none h.digit, scanInteger_eq_none h.digit]
  rfl

theorem plainComment_eq_none (h : Inert c) (rest : List Char) :
    plainComment? (c :: rest) = none := by
  have hslash : c ≠ '/' := fun he => h.mark (by simp [he])
  rw [plainComment?.eq_def]
  split <;> simp_all

theorem docComment_eq_none (h : Inert c) (rest : List Char) : docComment? (c :: rest) = none := by
  have hslash : c ≠ '/' := fun he => h.mark (by simp [he])
  rw [docComment?.eq_def]
  split <;> simp_all

/-- What such a character starts is decided by the tokens alone. -/
theorem step_of_scanToken {t : ScannedToken} (h : Inert c)
    (ht : scanToken (c :: rest) = some t) :
    step (c :: rest) = .lexemes [.token t.token] t.text t.rest := by
  rw [step, h.plainComment_eq_none, h.docComment_eq_none, h.opening, h.closing, ht]
  simp [h.separator]

theorem step_eq_fault (h : Inert c) (ht : scanToken (c :: rest) = none) :
    step (c :: rest) = .fault := by
  rw [step, h.plainComment_eq_none, h.docComment_eq_none, h.opening, h.closing, ht]
  simp [h.separator]

end Inert

/-- **A punctuation character** that starts nothing longer is a token. -/
theorem step_punct {sign : Sign} (h : Inert sign.char) (rest : List Char) :
    step (sign.char :: rest) =
      .lexemes [.token (.punct sign (startsPunct rest))] [sign.char] rest := by
  have hquote : sign.char ≠ '\'' := fun he => h.mark (by simp [he])
  have hslash : sign.char ≠ '/' := fun he => h.mark (by simp [he])
  have hsign : startingSign? (sign.char :: rest) = some sign := by
    rw [startingSign?.eq_def]
    split
    · rename_i heq
      exact absurd (List.cons.inj heq).1 hslash
    · rename_i heq
      exact absurd (List.cons.inj heq).1 hslash
    · rename_i heq
      rw [← (List.cons.inj heq).1, Sign.ofChar?_char]
    · rename_i heq
      cases heq
  have htoken : scanToken (sign.char :: rest) =
      some ⟨.punct sign (startsPunct rest), [sign.char], rest⟩ := by
    rw [scanToken.eq_def, h.scanLiteral_eq_none]
    dsimp only
    split <;> simp_all
  exact h.step_of_scanToken htoken

/-- A character that is neither punctuation nor the start of a word starts no lexeme. -/
theorem step_of_no_start (h : Inert c) (hpunct : c ∉ punctuation)
    (hstart : isIdentifierStart c = false) (rest : List Char) : step (c :: rest) = .fault := by
  apply h.step_eq_fault
  have hmark := h.mark
  simp only [List.mem_cons, List.not_mem_nil, or_false, not_or] at hmark
  obtain ⟨-, hr, -, -, hsingle, -⟩ := hmark
  have hpunct := startingSign?_of_not_mem hpunct rest
  have hword : scanWord (c :: rest) = none := by
    rw [scanWord.eq_def]
    split
    · rename_i heq
      exact absurd (List.cons.inj heq).1 hr
    · rw [scanName, hstart]
      rfl
  have hfault : faultMark.isPrefixOf (c :: rest) = false := by
    have hopening : '(' ≠ c := by
      rintro rfl
      cases h.opening
    have hmark : faultMark = '(' :: faultMark.tail := by decide +kernel
    rw [hmark, List.isPrefixOf, beq_eq_false_iff_ne.2 hopening, Bool.false_and]
  rw [scanToken.eq_def, h.scanLiteral_eq_none]
  dsimp only
  split
  · rename_i heq
    exact absurd (List.cons.inj heq).1 hsingle
  · rename_i heq
    obtain ⟨rfl, rfl⟩ := List.cons.inj heq
    simp [hpunct, hword, hfault]
  · rfl

/-- The mark of the byte order starts no lexeme. -/
theorem step_orderMark (rest : List Char) : step (orderMark :: rest) = .fault :=
  step_of_no_start ⟨by decide, by decide, by decide, by decide, by decide⟩ (by decide)
    (by decide +kernel) rest

/-! ### The tokens of a file -/

/-- Trees whose lexemes start with a token start with that token. -/
theorem exists_of_lexemesOf {t : Token} {span : Span} {more : List (Lexeme × Span)}
    (h : lexemesOf tokens = (.token t, span) :: more) :
    ∃ rest, tokens = .token t span :: rest ∧ lexemesOf rest = more := by
  cases tokens with
  | nil => cases h
  | cons tree rest =>
    cases tree with
    | token t' span' =>
      obtain ⟨hhead, htail⟩ := List.cons.inj h
      cases hhead
      exact ⟨rest, rfl, htail⟩
    | group d opening closing content => cases h

theorem lexemes_scanFrom_punct {sign : Sign} (h : Inert sign.char) (p : Position)
    (rest : List Char) (fuel : Nat) : (scanFrom p (sign.char :: rest) (fuel + 1)).lexemes =
      (.token (.punct sign (startsPunct rest)), ⟨p, p.advance [sign.char]⟩) ::
        (scanFrom (p.advance [sign.char]) rest fuel).lexemes := by
  rw [scanFrom, step_punct h]
  rfl

/-- Tokens that start like an attribute about what it stands in. -/
def StartsInner (tokens : Tokens) : Prop :=
  ∃ j j' span span' more,
    tokens = .token (.punct (.of '#') j) span :: .token (.punct (.of '!') j') span' :: more

/-- A text that starts with both signs has them for its first tokens. -/
theorem startsInner_of_trees (h : (scan .start ('#' :: '!' :: rest)).trees = .ok tokens) :
    StartsInner tokens := by
  have hhash : Inert '#' := ⟨by decide, by decide, by decide, by decide, by decide⟩
  have hbang : Inert '!' := ⟨by decide, by decide, by decide, by decide, by decide⟩
  obtain ⟨-, hls⟩ := Scan.trees_eq_ok_iff.1 h
  change (scanFrom .start ((Sign.of '#').char :: (Sign.of '!').char :: rest) _).lexemes = _ at hls
  rw [List.length_cons, List.length_cons, lexemes_scanFrom_punct hhash,
    lexemes_scanFrom_punct hbang] at hls
  obtain ⟨ts, rfl, hmore⟩ := exists_of_lexemesOf hls.symm
  obtain ⟨more, rfl, -⟩ := exists_of_lexemesOf hmore
  exact ⟨_, _, _, _, more, rfl⟩

/-- A text with tokens starts with no mark of the byte order. -/
theorem head_ne_orderMark (h : (scan .start cs).trees = .ok tokens) :
    cs.head? ≠ some orderMark := by
  intro hhead
  obtain ⟨rest, rfl⟩ := List.head?_eq_some_iff.1 hhead
  obtain ⟨hfault, -⟩ := Scan.trees_eq_ok_iff.1 h
  rw [scan, scanFrom, step_orderMark] at hfault
  cases hfault

/-- The tokens of a text are those of the file, unless the file could start with a line that names
its interpreter. -/
theorem tokenize_skipInterpreter (h : (scan .start cs).trees = .ok tokens)
    (hinner : ¬StartsInner tokens) : tokenize (skipInterpreter cs) = .ok tokens := by
  have hskip : skipInterpreter cs = cs := by
    rw [skipInterpreter.eq_def]
    split
    · exact absurd (startsInner_of_trees h) hinner
    · rfl
  rw [hskip, tokenize.eq_def]
  split
  · exact h
  · rename_i c rest
    rw [if_neg fun hc => head_ne_orderMark h (by rw [hc]; rfl)]
    exact h

/-! ### Attributes at the start -/

namespace Parser

variable {s t : ParseState} {g : Grammar}

/-- What starts like an attribute about what it stands in is none about what follows. -/
theorem not_startsInner_of_outerAttributes {as : List Attribute}
    (h : (outerAttributes g).run s = .ok (as, t)) : ¬StartsInner s.rest := by
  rintro ⟨j, j', span, span', more, hrest⟩
  have hpeek : (punctuation "#").holds s.rest = true :=
    (holds_punctuation (.of '#') rfl).2 ⟨j, span, _, hrest⟩
  rw [outerAttributes, loop, run_get_bind, repeatUntilNone] at h
  obtain ⟨o, u, hstep, -⟩ := run_bind_eq_ok_iff.1 h
  rw [peekPunct, run_peek_bind, hpeek, if_pos rfl] at hstep
  obtain ⟨a, v, hattribute, -⟩ := run_bind_eq_ok_iff.1 hstep
  rw [outerAttribute] at hattribute
  obtain ⟨⟨⟩, w, hpunct, hattribute⟩ := run_bind_eq_ok_iff.1 hattribute
  obtain ⟨content, x, hgroup, -⟩ := run_bind_eq_ok_iff.1 hattribute
  obtain ⟨tree, hw⟩ := rest_of_punct rfl hpunct
  obtain ⟨opening, closing, inner, rest, hx⟩ := exists_group_of_run hgroup
  rw [hrest, hx] at hw
  cases hw

/-- Where no attribute about what it stands in starts, none is read. -/
theorem run_innerAttributes (h : ¬StartsInner s.rest) :
    (innerAttributes g).run s = .ok ((), s) := by
  have hnone : ((punctuation "#").holds s.rest &&
      (!s.rest.isEmpty && (punctuation "!").holds s.rest.tail)) = false := by
    rw [Bool.eq_false_iff]
    intro hstarts
    rw [Bool.and_eq_true, Bool.and_eq_true] at hstarts
    obtain ⟨hhash, -, hbang⟩ := hstarts
    obtain ⟨j, span, rest, hrest⟩ := (holds_punctuation (.of '#') rfl).1 hhash
    rw [hrest] at hbang
    obtain ⟨j', span', more, hmore⟩ := (holds_punctuation (.of '!') rfl).1 hbang
    exact h ⟨j, j', span, span', more, by rw [hrest, ← hmore, List.tail_cons]⟩
  rw [innerAttributes, loop]
  simp only [bind_assoc]
  rw [run_get_bind, repeatUntilNone]
  simp only [bind_assoc]
  rw [peekPunct, run_peek_bind, run_bind_of_ok (run_peekSecond _), hnone]
  rfl

/-! ### Declarations and items -/

variable {d : StructItem}

theorem rest_ne_nil_of_declaration {e : Declaration} (h : (declaration g).run s = .ok (e, t)) :
    s.rest ≠ [] := by
  obtain ⟨rest, _, _, _, _⟩ := s
  rintro rfl
  cases h

theorem other_ne_ok {p : Parser Span} :
    (do return Declaration.other (← p) : Parser Declaration).run s ≠ .ok (.struct d, t) := by
  intro h
  obtain ⟨_, _, _, h⟩ := run_bind_eq_ok_iff.1 h
  cases h

/-- A struct that is declared is an item after its attributes. -/
theorem run_item_of_declaration (h : (declaration g).run s = .ok (.struct d, t)) :
    ∃ as u, (outerAttributes g).run s = .ok (as, u) ∧ (item g).run u = .ok (.struct d, t) := by
  rw [declaration] at h
  obtain ⟨as, u, has, h⟩ := run_bind_eq_ok_iff.1 h
  obtain ⟨v, w, hv, h⟩ := run_bind_eq_ok_iff.1 h
  obtain ⟨isStruct, w', hw, h⟩ := run_bind_eq_ok_iff.1 h
  refine ⟨as, u, has, ?_⟩
  rw [item, run_get_bind, run_bind_of_ok hv, run_bind_of_ok hw]
  cases isStruct with
  | true =>
    obtain ⟨d', t', hstruct, h⟩ := run_bind_eq_ok_iff.1 h
    rw [if_pos rfl, run_bind_of_ok hstruct]
    cases h
    rfl
  | false =>
    -- what is no struct is declared as something else, if at all
    exfalso
    obtain ⟨isEnum, w', -, h⟩ := run_bind_eq_ok_iff.1 h
    cases isEnum with
    | true => exact other_ne_ok h
    | false =>
      obtain ⟨isUnion, w', -, h⟩ := run_bind_eq_ok_iff.1 h
      cases isUnion with
      | true => exact other_ne_ok h
      | false => exact noneOf_ne_ok h

/-- **A struct that is declared in all that is left** is the one item of a file. -/
theorem run_fileItems_of_declaration
    (h : (declaration g).run s = .ok (.struct d, t)) (hend : t.rest = []) :
    (fileItems g).run s = .ok (⟨[.struct d]⟩, t) := by
  obtain ⟨as, u, has, hitem⟩ := run_item_of_declaration h
  have hinner := run_innerAttributes (g := g) (not_startsInner_of_outerAttributes has)
  have hone : (outerAttributes g >>= fun _ => item g).run s = .ok (.struct d, t) := by
    rw [run_bind_of_ok has]
    exact hitem
  rw [fileItems, run_bind_of_ok hinner,
    run_bind_of_ok (run_untilEnd (rest_ne_nil_of_declaration h) hone hend)]
  rfl

end Parser

/-! ### Texts -/

variable {text : String}

theorem parseChars_eq_ok_iff {d : Declaration} : Declaration.parseChars cs = .ok d ↔
    ∃ tokens, (scan .start cs).trees = .ok tokens ∧
      Parser.runAll (Parser.declaration (.for tokens)) .whole tokens = .ok d := by
  rw [Declaration.parseChars]
  cases (scan .start cs).trees <;> simp

theorem exists_tokens_of_parseChars {d : StructItem}
    (h : Declaration.parseChars cs = .ok (.struct d)) :
    ∃ tokens, tokenize (skipInterpreter cs) = .ok tokens ∧
      Parser.runAll (Parser.fileItems (.for tokens)) .whole tokens = .ok ⟨[.struct d]⟩ := by
  obtain ⟨tokens, htokens, hrun⟩ := parseChars_eq_ok_iff.1 h
  obtain ⟨t, hd, hleft, hrest⟩ := Parser.runAll_eq_ok_iff.1 hrun
  obtain ⟨as, u, has, -⟩ := Parser.run_item_of_declaration hd
  refine ⟨tokens, ?_, ?_⟩
  · exact tokenize_skipInterpreter htokens (Parser.not_startsInner_of_outerAttributes has)
  · exact Parser.runAll_eq_ok_iff.2 ⟨t, Parser.run_fileItems_of_declaration hd hrest, hleft, hrest⟩

/-- **A text that declares a struct is a file with that struct**, places apart. -/
theorem Declaration.exists_file {d : StructItem} (h : Declaration.parse text = .ok (.struct d)) :
    ∃ d₀, SourceText.parse text = .ok ⟨[.struct d₀]⟩ ∧ (d = d₀ ∨ d = d₀.afterMark) := by
  have hfile {rest : List Char} {d₀ : StructItem}
      (hd : Declaration.parseChars rest = .ok (.struct d₀))
      (hrest : (if text.toList.head? = some orderMark then text.toList.tail
        else text.toList) = rest) : SourceText.parse text = .ok ⟨[.struct d₀]⟩ := by
    obtain ⟨tokens, htokens, hrun⟩ := exists_tokens_of_parseChars hd
    rw [SourceText.parse, tokenizeFile, hrest, htokens]
    exact hrun
  rw [Declaration.parse.eq_def] at h
  split at h
  · rename_i hnil
    exact ⟨d, hfile h (by simp [hnil]), Or.inl rfl⟩
  · rename_i c rest hcs
    split at h
    · rename_i hmark
      split at h
      · cases h
      · rename_i d' hd
        cases d' with
        | other nameSpan => cases h
        | struct d₀ =>
          cases h
          exact ⟨d₀, hfile hd (by simp [hcs, hmark]), Or.inr rfl⟩
    · rename_i hmark
      exact ⟨d, hfile h (by simp [hcs, hmark]), Or.inl rfl⟩

end RecordStore.Source
