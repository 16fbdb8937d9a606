import Mathlib.Data.Bool.AllAny
import RecordStore.Proofs.Source.Declaration
import RecordStore.Proofs.Source.Name
import RecordStore.Proofs.Source.Number
import RecordStore.Proofs.Source.Reads
import RecordStore.Proofs.Source.Scanning

/-!
# Lexing step by step

The statement `RecordStore.Source.Lexes cs ls` says that a text is scanned to its end, into these
lexemes, strings being seen without what they say. There is a rule for each kind of lexeme, so that a
text can be lexed from the left. What is lexed like some trees are has such trees
(`RecordStore.Source.Lexes.exists_trees`).
-/

namespace RecordStore.Source

open Text (isIdentifierStart isIdentifierContinue)

/-- A lexeme, for a string without what it says. -/
def Lexeme.blank : Lexeme → Lexeme
  | .token t => .token t.blank
  | l => l

/-- **A text is scanned** to its end, into these lexemes. -/
def Lexes (cs : List Char) (ls : List Lexeme) : Prop :=
  ∀ (p : Position) (fuel : Nat), cs.length < fuel →
    (scanFrom p cs fuel).fault = none ∧ (scanFrom p cs fuel).lexemes.map (·.1.blank) = ls

variable {cs text line rest : List Char} {ls more : List Lexeme} {c : Char} {d : Delimiter}

/-! ### Carriage returns -/

theorem returnsPaired_cons (hc : c ≠ '\r') (cs : List Char) :
    returnsPaired (c :: cs) = returnsPaired cs := by
  rw [returnsPaired.eq_def]
  split
  · rename_i heq
    cases heq
  · rename_i heq
    exact absurd (List.cons.inj heq).1 hc
  · rename_i heq
    exact absurd (List.cons.inj heq).1 hc
  · rename_i heq
    rw [(List.cons.inj heq).2]

theorem returnsPaired_of_not_mem (h : '\r' ∉ line) : returnsPaired line = true := by
  induction line with
  | nil => rfl
  | cons c line ih =>
    obtain ⟨hc, hline⟩ := not_or.1 (mt List.mem_cons.2 h)
    rw [returnsPaired_cons (Ne.symm hc), ih hline]

theorem returnsPaired_append (h : returnsPaired text = true) (more : List Char) :
    returnsPaired (text ++ more) = returnsPaired more := by
  fun_induction returnsPaired text with
  | case1 => rfl
  | case2 text ih => exact ih h
  | case3 => cases h
  | case4 c text hpair hlone ih => rw [List.cons_append, returnsPaired_cons hlone, ih h]

namespace Lexes

theorem nil : Lexes [] [] := by
  intro p fuel hfuel
  obtain ⟨fuel, rfl⟩ := Nat.exists_eq_add_one.2 (Nat.zero_lt_of_lt hfuel)
  exact ⟨rfl, rfl⟩

theorem of_skip (h : step cs = .skip text rest) (hrest : Lexes rest ls) : Lexes cs ls := by
  intro p fuel hfuel
  rw [scanFrom_of_skip h hfuel]
  exact hrest _ _ (Nat.lt_succ_self _)

theorem of_lexemes (h : step cs = .lexemes more text rest) (hrest : Lexes rest ls) :
    Lexes cs (more.map Lexeme.blank ++ ls) := by
  intro p fuel hfuel
  have hlength : rest.length < cs.length := length_of_step (by rw [h]; rfl)
  obtain ⟨fuel, rfl⟩ := Nat.exists_eq_add_one.2 (Nat.zero_lt_of_lt hfuel)
  obtain ⟨hfault, hls⟩ := hrest (p.advance text) fuel (by omega)
  rw [scanFrom, h]
  refine ⟨hfault, ?_⟩
  rw [List.map_append, List.map_map, hls]
  rfl

/-! ### Blanks and comments -/

theorem separator (hc : isSeparator c = true) (hrest : Lexes rest ls) : Lexes (c :: rest) ls :=
  of_skip (by rw [step, if_pos hc]) hrest

theorem comment (hline : '\n' ∉ line) (hrest : Lexes rest ls) :
    Lexes (commentLine line ++ rest) ls := by
  intro p fuel hfuel
  rw [scanFrom_commentLine hline p hfuel]
  exact hrest _ _ (Nat.lt_succ_self _)

/-- The lexemes of a comment that documents, whatever it says. -/
def docLexemes : List Lexeme :=
  [.token (.punct .hash false), .opening .bracket, .token (.word docWord),
    .token (.punct .equals false), .token (.literal .nothing), .closing .bracket]

theorem doc (hfirst : line.head? ≠ some '/') (hline : '\n' ∉ line) (hreturn : '\r' ∉ line)
    (hrest : Lexes rest ls) :
    Lexes ('/' :: '/' :: '/' :: (line ++ '\n' :: rest)) (docLexemes ++ ls) := by
  -- with a fourth slash it would be a comment that does not document
  have hplain : plainComment? ('/' :: '/' :: '/' :: (line ++ '\n' :: rest)) = none := by
    cases line with
    | nil => rfl
    | cons c line =>
      simp only [List.head?_cons, ne_eq, Option.some.injEq] at hfirst
      simp [plainComment?, hfirst]
  have htake : takeLine (line ++ '\n' :: rest) = (line, '\n' :: rest) := by
    rcases takeLine_append hline rest with h | ⟨front, rfl, -⟩
    · exact h
    · exact absurd (by simp) hreturn
  have hdoc : docComment? ('/' :: '/' :: '/' :: (line ++ '\n' :: rest)) =
      some ⟨line, false, '/' :: '/' :: '/' :: line, '\n' :: rest⟩ := by
    have hpaired := returnsPaired_of_not_mem hreturn
    cases line with
    | nil => rfl
    | cons c line =>
      simp only [List.head?_cons, ne_eq, Option.some.injEq] at hfirst
      rw [List.cons_append] at htake
      simp [docComment?, htake, hpaired, hfirst]
  have hstep : step ('/' :: '/' :: '/' :: (line ++ '\n' :: rest)) =
      .lexemes (DocComment.lexemes ⟨line, false, '/' :: '/' :: '/' :: line, '\n' :: rest⟩)
        ('/' :: '/' :: '/' :: line) ('\n' :: rest) := by
    rw [step, if_neg (by decide), hplain, hdoc]
  exact of_lexemes hstep (separator (by decide) hrest)

/-! ### Delimiters -/

theorem comments_eq_none (cs : List Char) (hc : c ≠ '/') :
    plainComment? (c :: cs) = none ∧ docComment? (c :: cs) = none := by
  constructor
  · rw [plainComment?.eq_def]
    split <;> simp_all
  · rw [docComment?.eq_def]
    split <;> simp_all

theorem opening (hc : opening? c = some d) (hrest : rest.head? ≠ some '/') (h : Lexes rest ls) :
    Lexes (c :: rest) (.opening d :: ls) := by
  have hne : c ≠ '/' ∧ isSeparator c = false := by
    rw [opening?.eq_def] at hc
    split at hc <;> first
      | decide
      | cases hc
  -- the mark of a fault is a parenthesis with a comment in it
  have hfault : faultMark.isPrefixOf (c :: rest) = false := by
    rw [Bool.eq_false_iff]
    intro hprefix
    obtain ⟨more, hmore⟩ := List.isPrefixOf_iff_prefix.1 hprefix
    refine hrest ?_
    rw [← (List.cons.inj hmore).2]
    rfl
  obtain ⟨hplain, hdoc⟩ := comments_eq_none rest hne.1
  have hstep : step (c :: rest) = .lexemes [.opening d] [c] rest := by
    rw [step, hne.2, if_neg Bool.false_ne_true, hplain, hdoc, hc, hfault]
    rfl
  exact of_lexemes hstep h

theorem closing (hc : closing? c = some d) (h : Lexes rest ls) :
    Lexes (c :: rest) (.closing d :: ls) := by
  have hne : c ≠ '/' ∧ isSeparator c = false ∧ opening? c = none := by
    rw [closing?.eq_def] at hc
    split at hc <;> first
      | decide
      | cases hc
  obtain ⟨hplain, hdoc⟩ := comments_eq_none rest hne.1
  have hstep : step (c :: rest) = .lexemes [.closing d] [c] rest := by
    rw [step, hne.2.1, if_neg Bool.false_ne_true, hplain, hdoc, hc, hne.2.2]
  exact of_lexemes hstep h

/-! ### Words and punctuation -/

theorem word (w : Word) (hrest : EndsWord rest) (h : Lexes rest ls) :
    Lexes (w.text.toList ++ rest) (.token (.word w) :: ls) :=
  of_lexemes (step_word w hrest) h

/-- Punctuation is inert, but for the sign that comments start with and the quote. -/
theorem inert_of_sign {sign : Sign} (hquote : sign.char ≠ '\'') (hslash : sign.char ≠ '/') :
    Inert sign.char := by
  have hall : ∀ c ∈ punctuation, c = '\'' ∨ c = '/' ∨ (isSeparator c = false ∧
      isDigit c = false ∧ opening? c = none ∧ closing? c = none ∧
      c ∉ ['"', 'r', 'b', 'c', '\'', '/']) := by
    rw [← List.all_iff_forall_prop]
    decide +kernel
  rcases hall sign.char (List.contains_iff_mem.1 sign.isPunctuation) with h | h | h
  · exact absurd h hquote
  · exact absurd h hslash
  · exact ⟨h.1, h.2.1, h.2.2.1, h.2.2.2.1, h.2.2.2.2⟩

theorem punct {sign : Sign} (hquote : sign.char ≠ '\'') (hslash : sign.char ≠ '/')
    (h : Lexes rest ls) :
    Lexes (sign.char :: rest) (.token (.punct sign (startsPunct rest)) :: ls) :=
  of_lexemes (step_punct (inert_of_sign hquote hslash) rest) h

/-! ### Other tokens -/

/-- No comment and no delimiter starts with this character, nor is it skipped. -/
structure StartsToken (c : Char) : Prop where
  slash : c ≠ '/'
  separator : isSeparator c = false
  opening : opening? c = none
  closing : closing? c = none

theorem token {t : ScannedToken} (hc : StartsToken c) (ht : scanToken (c :: cs) = some t)
    (h : Lexes t.rest ls) : Lexes (c :: cs) (.token t.token.blank :: ls) := by
  obtain ⟨hplain, hdoc⟩ := comments_eq_none cs hc.slash
  have hstep : step (c :: cs) = .lexemes [.token t.token] t.text t.rest := by
    rw [step, hc.separator, if_neg Bool.false_ne_true, hplain, hdoc, hc.opening, hc.closing]
    dsimp only
    rw [ht]
  exact of_lexemes hstep h

theorem startsToken_of_isDigit (hc : isDigit c = true) : StartsToken c where
  slash := by
    rintro rfl
    cases hc
  separator := by
    rw [Bool.eq_false_iff]
    intro hsep
    have hmem := mem_separatorCodes hsep
    simp only [isDigit, Bool.and_eq_true, decide_eq_true_eq, Char.le_def] at hc
    have h0 : '0'.toNat ≤ c.toNat := hc.1
    have h9 : c.toNat ≤ '9'.toNat := hc.2
    have : '0'.toNat = 48 := rfl
    have : '9'.toNat = 57 := rfl
    simp only [separatorCodes, List.mem_cons, List.not_mem_nil, or_false] at hmem
    omega
  opening := by
    rw [opening?.eq_def]
    split <;> first
      | rfl
      | cases hc
  closing := by
    rw [closing?.eq_def]
    split <;> first
      | rfl
      | cases hc

theorem number (n : Nat) (hrest : EndsNumber rest) (h : Lexes rest ls) :
    Lexes ((toString n).toList ++ rest) (.token (.literal (.ofNat n)) :: ls) := by
  have hscan := scanToken_number n hrest
  obtain ⟨c, cs, hcs⟩ := List.exists_cons_of_ne_nil (Nat.toDigits_ne_nil (n := n) (b := 10))
  have hc := digits n c (by simp [hcs])
  have htext : (toString n).toList = c :: cs := by
    rw [← hcs]
    simp [toString, Nat.repr]
  rw [htext, List.cons_append] at hscan ⊢
  exact token (startsToken_of_isDigit hc) hscan h

/-- What starts like a word is no character: no quote follows the first letter. -/
theorem scanSingle_eq_none (h : StartsWord c cs) : scanSingle .text (c :: cs) = none := by
  have hescape : c ≠ '\\' := ne_of_isIdentifierStart h.start (by decide)
  have hquote := h.second
  clear h
  rw [scanSingle.eq_def]
  split
  · rename_i heq
    cases heq
  · rename_i heq
    exact absurd (List.cons.inj heq).1 hescape
  · rename_i heq
    obtain ⟨rfl, rfl⟩ := List.cons.inj heq
    cases cs with
    | nil => simp [Quoting.text]
    | cons d cs =>
      have hd : d ≠ '\'' := (hquote d rfl).2.1
      simp [Quoting.text, hd]

/-- A lifetime, which is no character: no quote follows its name. -/
theorem lifetime (w : Word) (hw : Text.isIdentifier w.text.toList = true) (hrest : EndsWord rest)
    (h : Lexes rest ls) :
    Lexes ('\'' :: (w.text.toList ++ rest)) (.token (.lifetime w.text) :: ls) := by
  have hword := scanWord_word w hrest
  have hscan : scanToken ('\'' :: (w.text.toList ++ rest)) =
      some ⟨.lifetime w.text, '\'' :: w.text.toList, rest⟩ := by
    cases hname : w.text.toList with
    | nil =>
      rw [hname] at hw
      cases hw
    | cons c name =>
      rw [hname] at hw hword
      have hstart := StartsWord.of_identifier hw hrest
      have hliteral : scanLiteral ('\'' :: (c :: (name ++ rest))) = none := by
        rw [scanLiteral, scanQuotedLiteral, scanSingle_eq_none hstart]
        simp only [quotedLiteral, Option.bind_eq_bind, Option.bind_none]
        rw [scanFloat_eq_none (by decide), scanInteger_eq_none (by decide)]
        rfl
      have htext : String.ofList (c :: name) = w.text := by rw [← hname, String.ofList_toList]
      have hafter : ∀ d ∈ rest.head?, d ≠ '\'' ∧ d ≠ '#' := fun d hd =>
        ⟨(hrest d hd).2.2.1, (hrest d hd).2.2.2⟩
      rw [List.cons_append] at hword ⊢
      rw [scanToken.eq_def, hliteral]
      change scanLifetime (c :: (name ++ rest)) = _
      rw [scanLifetime.eq_def, hword]
      simp only [Option.bind_eq_bind, Option.bind_some, scanLiteral_eq_none hstart,
        quoteMarks_eq_false hstart, htext]
      split
      · exact absurd rfl (hafter '\'' rfl).1
      · exact absurd rfl (hafter '#' rfl).2
      · rfl
  exact token ⟨by decide, by decide, by decide, by decide⟩ hscan h

/-- Between quotes, a carriage return and its line feed stand for a line feed. -/
theorem scanQuoted_line (rest : List Char) (hline : ∀ c ∈ line, c ≠ '"' ∧ c ≠ '\\')
    (hreturns : returnsPaired line = true) :
    ∃ value, scanQuoted .text .plain (line ++ '"' :: rest) = some ⟨line ++ ['"'], value, rest⟩ := by
  fun_induction returnsPaired line with
  | case1 => exact ⟨[], rfl⟩
  | case2 line ih =>
    obtain ⟨value, hvalue⟩ := ih (fun c hc => hline c (by simp [hc])) hreturns
    refine ⟨'\n' :: value, ?_⟩
    have hstep : QuoteState.step .text .plain '\r' = some (.afterReturn, none) := by decide
    have hstep' : QuoteState.step .text .afterReturn '\n' = some (.plain, some '\n') := by decide
    rw [List.cons_append, scanQuoted, if_neg (by decide), hstep]
    dsimp only
    rw [List.cons_append, scanQuoted, if_neg (by decide), hstep']
    dsimp only
    rw [hvalue]
    rfl
  | case3 => cases hreturns
  | case4 c line hpair hlone ih =>
    have hreturn : c ≠ '\r' := hlone
    obtain ⟨value, hvalue⟩ := ih (fun d hd => hline d (List.mem_cons_of_mem _ hd)) hreturns
    obtain ⟨hquote, hescape⟩ := hline c (List.mem_cons_self ..)
    refine ⟨c :: value, ?_⟩
    have hstep : QuoteState.step .text .plain c = some (.plain, some c) := by
      simp [QuoteState.step, QuoteState.stepPlain, hescape, hreturn, Quoting.text, QuoteState.emit]
    rw [List.cons_append, scanQuoted, if_neg (by simp [hquote]), hstep]
    dsimp only
    rw [hvalue]
    rfl

theorem string (hline : ∀ c ∈ line, c ≠ '"' ∧ c ≠ '\\') (hreturns : returnsPaired line = true)
    (hrest : ∀ c ∈ rest.head?, isIdentifierStart c = false) (h : Lexes rest ls) :
    Lexes ('"' :: (line ++ '"' :: rest)) (.token (.literal .nothing) :: ls) := by
  obtain ⟨value, hquoted⟩ := scanQuoted_line rest hline hreturns
  have hsuffix : scanName rest = none := by
    cases rest with
    | nil => rfl
    | cons c rest => rw [scanName, hrest c rfl, if_neg Bool.false_ne_true]
  have hmarked : (String.ofList ('"' :: (line ++ ['"']))).toList.any marksLiteral = true := by
    rw [String.toList_ofList, List.any_cons, marksLiteral, beq_self_eq_true]
    rfl
  have hscan : scanToken ('"' :: (line ++ '"' :: rest)) =
      some ⟨.literal ⟨.string (String.ofList value), _, hmarked⟩, '"' :: (line ++ ['"']), rest⟩ := by
    rw [scanToken.eq_def, scanLiteral, scanQuotedLiteral, hquoted]
    simp only [quotedLiteral, Option.bind_eq_bind, Option.bind_some, hsuffix, List.singleton_append,
      ScannedToken.literal?, Literal.ofText?, hmarked, ↓reduceDIte, Option.map_some]
  exact token ⟨by decide, by decide, by decide, by decide⟩ hscan h

end Lexes

/-! ### Trees -/

/-- A lexeme without its place and without what it says as a string. -/
def bareLexeme (l : Lexeme × Span) : Lexeme := l.1.blank

mutual

/-- Lexemes like those of a tree, and more, are those of a tree like it, and more. -/
theorem exists_tree_of_lexemes (tree : TokenTree) {ls : List (Lexeme × Span)} {more : List Lexeme}
    (h : ls.map bareLexeme = tree.lexemes.map bareLexeme ++ more) :
    ∃ (tree' : TokenTree) (ls' : _),
      ls = tree'.lexemes ++ ls' ∧ tree'.bare = tree.bare ∧ ls'.map bareLexeme = more := by
  cases tree with
  | token t span =>
    obtain ⟨⟨l, place⟩, ls, rfl, hl, hls⟩ := List.map_eq_cons_iff.1 h
    cases l with
    | token t' =>
      refine ⟨.token t' place, ls, rfl, ?_, hls⟩
      have ht : t'.blank = t.blank := by simpa [bareLexeme, Lexeme.blank] using hl
      rw [TokenTree.bare, TokenTree.bare, ht]
    | _ => cases hl
  | group d o c content =>
    rw [TokenTree.lexemes, List.map_cons, List.map_append, List.cons_append, List.append_assoc] at h
    obtain ⟨⟨l, opening⟩, ls, rfl, hl, hls⟩ := List.map_eq_cons_iff.1 h
    obtain ⟨content', ls, rfl, hcontent, hls⟩ := exists_trees_of_lexemes content hls
    obtain ⟨⟨l', closing⟩, ls, rfl, hl', hmore⟩ := List.map_eq_cons_iff.1 hls
    cases l <;> cases hl
    cases l' <;> cases hl'
    refine ⟨.group d opening closing content', ls, by simp [TokenTree.lexemes], ?_, hmore⟩
    rw [TokenTree.bare, TokenTree.bare, hcontent]

/-- Lexemes like those of trees, and more, are those of trees like them, and more. -/
theorem exists_trees_of_lexemes (ts : List TokenTree) {ls : List (Lexeme × Span)}
    {more : List Lexeme} (h : ls.map bareLexeme = (lexemesOf ts).map bareLexeme ++ more) :
    ∃ (ts' : Tokens) (ls' : _),
      ls = lexemesOf ts' ++ ls' ∧ bareAll ts' = bareAll ts ∧ ls'.map bareLexeme = more := by
  cases ts with
  | nil => exact ⟨[], ls, rfl, rfl, h⟩
  | cons tree rest =>
    rw [lexemesOf, List.map_append, List.append_assoc] at h
    obtain ⟨tree', ls, rfl, htree, hls⟩ := exists_tree_of_lexemes tree h
    obtain ⟨rest', ls, rfl, hrest, hls⟩ := exists_trees_of_lexemes rest hls
    refine ⟨tree' :: rest', ls, by rw [lexemesOf, List.append_assoc], ?_, hls⟩
    rw [bareAll, bareAll, htree, hrest]

end

/-- **What is lexed like some trees has trees** that are like them. -/
theorem Lexes.exists_trees {trees : Tokens} (h : Lexes cs ((lexemesOf trees).map bareLexeme))
    (p : Position) {fuel : Nat} (hfuel : cs.length < fuel) :
    ∃ tokens, (scanFrom p cs fuel).trees = .ok tokens ∧ bareAll tokens = bareAll trees := by
  obtain ⟨hfault, hls⟩ := h p fuel hfuel
  have hmore : (scanFrom p cs fuel).lexemes.map bareLexeme = (lexemesOf trees).map bareLexeme ++ [] := by
    rw [List.append_nil]
    exact hls
  obtain ⟨tokens, ls, heq, hbare, hnil⟩ := exists_trees_of_lexemes trees hmore
  obtain rfl := List.map_eq_nil_iff.1 hnil
  exact ⟨tokens, Scan.trees_eq_ok_iff.2 ⟨hfault, heq.trans (List.append_nil _)⟩, hbare⟩

end RecordStore.Source
