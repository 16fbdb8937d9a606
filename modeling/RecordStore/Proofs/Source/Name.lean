import RecordStore.Proofs.Source.Tree
import RecordStore.Proofs.Source.Word
import RecordStore.Source.File

/-!
# Texts that are read as a single name

White space and comments around a name do not count, so a text that is read as a single name may
hold more than the name. But a comment takes a slash: a text without one, such as a name in a
directory, consists of the name, white space around it, and maybe a mark of the byte order in front,
and every such text is read as a single name (`RecordStore.Source.isSingleName_iff`).
-/

namespace RecordStore.Source

variable {cs text rest : List Char} {ls : List Lexeme} {w : Word}

/-! ### What a scanned word tells about the text -/

theorem literal_of_quotedLiteral {mark : List Char} {kind : String → LiteralKind}
    {scanned : Option Quotation} {t : ScannedToken} (h : quotedLiteral mark kind scanned = some t) :
    ∃ l, t.token = .literal l := by
  cases scanned with
  | none => cases h
  | some q =>
    simp only [quotedLiteral, Option.bind_eq_bind, Option.bind_some] at h
    split at h <;>
    · obtain ⟨l, rfl⟩ := ScannedToken.exists_of_literal? h
      exact ⟨l, rfl⟩

theorem literal_of_scanLiteral {t : ScannedToken} (h : scanLiteral cs = some t) :
    ∃ l, t.token = .literal l := by
  rw [scanLiteral] at h
  cases hquoted : scanQuotedLiteral cs with
  | some l =>
    rw [hquoted] at h
    cases h
    rw [scanQuotedLiteral.eq_def] at hquoted
    split at hquoted
    all_goals first
      | exact literal_of_quotedLiteral hquoted
      | cases hquoted
  | none =>
    rw [hquoted] at h
    dsimp only at h
    split at h
    · obtain ⟨l, rfl⟩ := ScannedToken.exists_of_literal? h
      exact ⟨l, rfl⟩
    · obtain ⟨_, -, h⟩ := Option.bind_eq_some_iff.1 h
      obtain ⟨l, rfl⟩ := ScannedToken.exists_of_literal? h
      exact ⟨l, rfl⟩

theorem append_of_scanName {name : List Char} (h : scanName cs = some (name, rest)) :
    cs = name ++ rest := by
  cases cs with
  | nil => cases h
  | cons c cs =>
    rw [scanName] at h
    split at h
    · cases h
      rw [List.cons_append, List.takeWhile_append_dropWhile]
    · cases h

theorem append_of_scanWord (h : scanWord cs = some (text, rest)) : cs = text ++ rest := by
  rw [scanWord.eq_def] at h
  split at h
  · split at h
    · rename_i hname
      split at h
      · cases h
      · cases h
        rw [append_of_scanName hname]
        rfl
    · cases h
  · exact append_of_scanName h

theorem not_word_of_scanLifetime {t : ScannedToken} (h : scanLifetime cs = some t) :
    t.token ≠ .word w := by
  cases hword : scanWord cs with
  | none =>
    rw [scanLifetime, hword] at h
    cases h
  | some found =>
    simp only [scanLifetime, hword, Option.bind_eq_bind, Option.bind_some,
      Option.ite_none_left_eq_some] at h
    obtain ⟨-, h⟩ := h
    split at h <;>
    · cases h
      exact fun hw => by cases hw

/-- A word that was scanned stands at the start of the text. -/
theorem text_of_scanToken {t : ScannedToken} (h : scanToken cs = some t) (hw : t.token = .word w) :
    t.text = w.text.toList ∧ cs = t.text ++ t.rest := by
  rw [scanToken.eq_def] at h
  split at h
  · rename_i hliteral
    cases h
    obtain ⟨l, hl⟩ := literal_of_scanLiteral hliteral
    rw [hl] at hw
    cases hw
  · split at h
    · exact absurd hw (not_word_of_scanLifetime h)
    · split at h
      · cases h
        cases hw
      · dsimp only at h
        split at h
        · rename_i hscan
          obtain ⟨v, hv, rfl⟩ := Option.map_eq_some_iff.1 h
          cases hw
          have happend := Option.ite_none_left_eq_some.1 hscan
          refine ⟨?_, append_of_scanWord happend.2⟩
          rw [Word.text_of_ofText? hv, String.toList_ofList]
        · split at h
          · cases h
            cases hw
          · cases h
    · cases h

/-! ### What one step tells -/

theorem step_skip_cases (h : step cs = .skip text rest) :
    (∃ c, isSeparator c = true ∧ text = [c] ∧ cs = c :: rest) ∨
      plainComment? cs = some (text, rest) := by
  rw [step.eq_def] at h
  split at h
  · cases h
  · split at h
    · rename_i hsep
      cases h
      exact Or.inl ⟨_, hsep, rfl, rfl⟩
    · split at h
      · rename_i hcomment
        cases h
        exact Or.inr hcomment
      · repeat' split at h
        all_goals cases h

theorem step_lexemes_cases (h : step cs = .lexemes ls text rest) :
    (∃ comment : DocComment, ls = comment.lexemes) ∨ (∃ l, ls = [.token (.literal l)]) ∨
      (∃ d, ls = [.opening d]) ∨ (∃ d, ls = [.closing d]) ∨
        ∃ t, scanToken cs = some t ∧ ls = [.token t.token] ∧ text = t.text ∧ rest = t.rest := by
  rw [step.eq_def] at h
  split at h
  · cases h
  · split at h
    · cases h
    · split at h
      · cases h
      · split at h
        · cases h
          exact Or.inl ⟨_, rfl⟩
        · split at h
          · split at h
            · cases h
              exact Or.inr (Or.inl ⟨_, rfl⟩)
            · cases h
              exact Or.inr (Or.inr (Or.inl ⟨_, rfl⟩))
          · cases h
            exact Or.inr (Or.inr (Or.inr (Or.inl ⟨_, rfl⟩)))
          · split at h
            · rename_i hscan
              cases h
              exact Or.inr (Or.inr (Or.inr (Or.inr ⟨_, hscan, rfl, rfl, rfl⟩)))
            · cases h

theorem lexemes_ne_nil_of_step (h : step cs = .lexemes ls text rest) : ls ≠ [] := by
  rcases step_lexemes_cases h with
    ⟨comment, rfl⟩ | ⟨l, rfl⟩ | ⟨d, rfl⟩ | ⟨d, rfl⟩ | ⟨t, -, rfl, -⟩ <;>
  simp [DocComment.lexemes]

/-- A step over a word takes just the word. -/
theorem text_of_step (h : step cs = .lexemes [.token (.word w)] text rest) :
    text = w.text.toList ∧ cs = text ++ rest := by
  rcases step_lexemes_cases h with
    ⟨comment, hls⟩ | ⟨l, hls⟩ | ⟨d, hls⟩ | ⟨d, hls⟩ | ⟨t, hscan, hls, rfl, rfl⟩
  · have hlength := congrArg List.length hls
    simp only [DocComment.lexemes, List.length_append, List.length_cons, List.length_nil] at hlength
    omega
  · cases hls
  · cases hls
  · cases hls
  · exact text_of_scanToken hscan (Lexeme.token.inj (List.cons.inj hls).1).symm

/-- What is skipped without a slash separates tokens. -/
theorem separator_of_step (h : step cs = .skip text rest) (hslash : '/' ∉ cs) :
    ∃ c, isSeparator c = true ∧ cs = c :: rest := by
  rcases step_skip_cases h with ⟨c, hsep, -, rfl⟩ | hcomment
  · exact ⟨c, hsep, rfl⟩
  · rw [plainComment?.eq_def] at hcomment
    split at hcomment
    all_goals first
      | exact absurd (List.mem_cons_self ..) hslash
      | cases hcomment

/-! ### Scans with at most one word -/

/-- A text without slashes that has no lexemes consists of white space. -/
theorem separators_of_scanFrom {p : Position} {fuel : Nat} (hslash : '/' ∉ cs)
    (hfault : (scanFrom p cs fuel).fault = none) (hls : (scanFrom p cs fuel).lexemes = []) :
    ∀ c ∈ cs, isSeparator c = true := by
  induction fuel generalizing p cs with
  | zero => cases hfault
  | succ fuel ih =>
    rw [scanFrom] at hfault hls
    cases hstep : step cs with
    | finished =>
      cases cs with
      | nil => exact fun _ h => nomatch h
      | cons c cs =>
        rw [step] at hstep
        repeat' split at hstep
        all_goals cases hstep
    | fault =>
      rw [hstep] at hfault
      cases hfault
    | skip text rest =>
      rw [hstep] at hfault hls
      obtain ⟨c, hsep, rfl⟩ := separator_of_step hstep hslash
      intro d hd
      rcases List.mem_cons.1 hd with rfl | hd
      · exact hsep
      · exact ih (fun h => hslash (List.mem_cons_of_mem _ h)) hfault hls d hd
    | lexemes ls text rest =>
      rw [hstep] at hls
      have hnil := (List.append_eq_nil_iff.1 hls).1
      exact absurd (List.map_eq_nil_iff.1 hnil) (lexemes_ne_nil_of_step hstep)

/-- A text without slashes whose one lexeme is a word consists of the word, and white space around
it. -/
theorem exists_of_scanFrom {p : Position} {fuel : Nat} {span : Span} (hslash : '/' ∉ cs)
    (hfault : (scanFrom p cs fuel).fault = none)
    (hls : (scanFrom p cs fuel).lexemes = [(.token (.word w), span)]) :
    ∃ before after, cs = before ++ w.text.toList ++ after ∧ (∀ c ∈ before, isSeparator c = true) ∧
      ∀ c ∈ after, isSeparator c = true := by
  induction fuel generalizing p cs with
  | zero => cases hfault
  | succ fuel ih =>
    rw [scanFrom] at hfault hls
    cases hstep : step cs with
    | finished =>
      rw [hstep] at hls
      cases hls
    | fault =>
      rw [hstep] at hfault
      cases hfault
    | skip text rest =>
      rw [hstep] at hfault hls
      obtain ⟨c, hsep, rfl⟩ := separator_of_step hstep hslash
      obtain ⟨before, after, rfl, hbefore, hafter⟩ :=
        ih (fun h => hslash (List.mem_cons_of_mem _ h)) hfault hls
      exact ⟨c :: before, after, rfl, List.forall_mem_cons.2 ⟨hsep, hbefore⟩, hafter⟩
    | lexemes ls text rest =>
      rw [hstep] at hfault hls
      cases ls with
      | nil => exact absurd rfl (lexemes_ne_nil_of_step hstep)
      | cons l ls =>
        obtain ⟨hl, hmore⟩ := List.cons.inj hls
        obtain ⟨hnil, hmore⟩ := List.append_eq_nil_iff.1 hmore
        obtain ⟨rfl, -⟩ := Prod.mk.inj hl
        obtain rfl := List.map_eq_nil_iff.1 hnil
        obtain ⟨rfl, rfl⟩ := text_of_step hstep
        have hrest :=
          separators_of_scanFrom (fun h => hslash (List.mem_append_right _ h)) hfault hmore
        exact ⟨[], rest, rfl, List.forall_mem_nil _, hrest⟩

/-! ### Words with white space around them -/

/-- No identifier goes on with a character that separates tokens. -/
theorem isIdentifierContinue_of_isSeparator {c : Char} (h : isSeparator c = true) :
    Text.isIdentifierContinue c = false := by
  have hall : separatorCodes.all (fun n => !Text.isIdentifierContinue (Char.ofNat n)) = true := by
    decide +kernel
  have hc := List.all_eq_true.1 hall c.toNat (mem_separatorCodes h)
  rw [Char.ofNat_toNat, Bool.not_eq_true'] at hc
  exact hc

theorem endsWord_of_separators (h : ∀ c ∈ rest, isSeparator c = true) : EndsWord rest := by
  intro c hc
  have hsep := h c (List.mem_of_mem_head? hc)
  have hne {d : Char} (hd : isSeparator d = false) : c ≠ d := by
    rintro rfl
    rw [hsep] at hd
    cases hd
  exact ⟨isIdentifierContinue_of_isSeparator hsep, hne (by decide), hne (by decide),
    hne (by decide)⟩

/-- A word where it can end is what a step takes. -/
theorem step_word (w : Word) (hrest : EndsWord rest) :
    step (w.text.toList ++ rest) = .lexemes [.token (.word w)] w.text.toList rest := by
  have hscan := scanToken_word w hrest
  obtain ⟨c, name, heq, hstart⟩ := w.exists_start
  have hother {d : Char} (hd : Text.isIdentifierStart d = false) : c ≠ d :=
    ne_of_isIdentifierStart hstart hd
  have hslash : c ≠ '/' := hother (by decide)
  have hplain : plainComment? (c :: (name ++ rest)) = none := by
    rw [plainComment?.eq_def]
    split <;> simp_all
  have hdoc : docComment? (c :: (name ++ rest)) = none := by
    rw [docComment?.eq_def]
    split <;> simp_all
  have hopening : opening? c = none := by
    rw [opening?.eq_def]
    split
    · exact absurd rfl (hother (by decide))
    · exact absurd rfl (hother (by decide))
    · exact absurd rfl (hother (by decide))
    · rfl
  have hclosing : closing? c = none := by
    rw [closing?.eq_def]
    split
    · exact absurd rfl (hother (by decide))
    · exact absurd rfl (hother (by decide))
    · exact absurd rfl (hother (by decide))
    · rfl
  rw [heq, List.cons_append] at hscan ⊢
  rw [step, isSeparator_eq_false hstart, hplain, hdoc, hopening, hclosing, hscan]
  simp [ScannedToken.word, heq]

theorem scanFrom_of_separators (h : ∀ c ∈ cs, isSeparator c = true) (p : Position) {fuel : Nat}
    (hfuel : cs.length < fuel) : scanFrom p cs fuel = ⟨[], none⟩ := by
  induction cs generalizing p fuel with
  | nil =>
    obtain ⟨n, rfl⟩ : ∃ n, fuel = n + 1 := ⟨fuel - 1, by omega⟩
    rfl
  | cons c cs ih =>
    rw [List.length_cons] at hfuel
    obtain ⟨n, rfl⟩ : ∃ n, fuel = n + 1 := ⟨fuel - 1, by omega⟩
    obtain ⟨hc, hcs⟩ := List.forall_mem_cons.1 h
    rw [scanFrom, step, if_pos hc]
    exact ih hcs _ (by omega)

theorem scanFrom_of_word (w : Word) {before after : List Char}
    (hbefore : ∀ c ∈ before, isSeparator c = true) (hafter : ∀ c ∈ after, isSeparator c = true)
    (p : Position) {fuel : Nat} (hfuel : (before ++ w.text.toList ++ after).length < fuel) :
    ∃ span, scanFrom p (before ++ w.text.toList ++ after) fuel =
      ⟨[(.token (.word w), span)], none⟩ := by
  induction before generalizing p fuel with
  | nil =>
    obtain ⟨c, name, heq, -⟩ := w.exists_start
    rw [List.nil_append, List.length_append, heq, List.length_cons] at hfuel
    obtain ⟨n, rfl⟩ : ∃ n, fuel = n + 1 := ⟨fuel - 1, by omega⟩
    rw [List.nil_append, scanFrom, step_word w (endsWord_of_separators hafter)]
    dsimp only
    rw [scanFrom_of_separators hafter _ (by omega)]
    exact ⟨_, rfl⟩
  | cons c before ih =>
    rw [List.cons_append, List.cons_append, List.length_cons] at hfuel
    obtain ⟨n, rfl⟩ : ∃ n, fuel = n + 1 := ⟨fuel - 1, by omega⟩
    obtain ⟨hc, hbefore⟩ := List.forall_mem_cons.1 hbefore
    rw [List.cons_append, List.cons_append, scanFrom, step, if_pos hc]
    exact ih hbefore _ (by omega)

/-! ### Single names -/

/-- **A text that is a word but for what stands around it**: white space, and maybe a mark of the
byte order in front. -/
def Pads (word cs : List Char) : Prop :=
  ∃ mark before after, cs = mark ++ (before ++ word ++ after) ∧ (mark = [] ∨ mark = [orderMark]) ∧
    (∀ c ∈ before, isSeparator c = true) ∧ ∀ c ∈ after, isSeparator c = true

/-- Neither white space nor a word starts with the mark of the byte order. -/
theorem exists_cons_of_pads (w : Word) {before : List Char}
    (hbefore : ∀ c ∈ before, isSeparator c = true) (after : List Char) :
    ∃ c rest, before ++ w.text.toList ++ after = c :: rest ∧ c ≠ orderMark := by
  cases before with
  | nil =>
    obtain ⟨c, name, heq, hstart⟩ := w.exists_start
    exact ⟨c, name ++ after, by rw [heq]; rfl, ne_of_isIdentifierStart hstart (by decide +kernel)⟩
  | cons c before =>
    refine ⟨c, before ++ w.text.toList ++ after, rfl, ?_⟩
    rintro rfl
    exact absurd (hbefore _ (List.mem_cons_self ..)) (by decide)

theorem isSingleName_of_trees {s : String} {span : Span}
    (h : tokenize s.toList = .ok [.token (.word w) span]) : isSingleName s = w.isName := by
  rw [isSingleName, h]

/-- **What is read as a single name**: in a text without slashes, a name with nothing but white
space around it, and maybe a mark of the byte order in front. -/
theorem isSingleName_iff {s : String} (hslash : '/' ∉ s.toList) :
    isSingleName s = true ↔ ∃ w : Word, w.isName = true ∧ Pads w.text.toList s.toList := by
  constructor
  · intro h
    rw [isSingleName] at h
    split at h
    · rename_i w span htokens
      refine ⟨w, h, ?_⟩
      generalize s.toList = cs at hslash htokens
      rw [tokenize.eq_def] at htokens
      split at htokens
      · obtain ⟨-, hls⟩ := Scan.trees_eq_ok_iff.1 htokens
        cases hls
      · split at htokens
        · rename_i hmark
          obtain ⟨hfault, hls⟩ := Scan.trees_eq_ok_iff.1 htokens
          obtain ⟨before, after, rfl, hsep⟩ :=
            exists_of_scanFrom (fun h => hslash (List.mem_cons_of_mem _ h)) hfault hls
          exact ⟨[orderMark], before, after, by rw [hmark]; rfl, Or.inr rfl, hsep⟩
        · obtain ⟨hfault, hls⟩ := Scan.trees_eq_ok_iff.1 htokens
          obtain ⟨before, after, heq, hsep⟩ := exists_of_scanFrom hslash hfault hls
          exact ⟨[], before, after, heq, Or.inl rfl, hsep⟩
    · cases h
  · rintro ⟨w, hname, mark, before, after, heq, hmark, hbefore, hafter⟩
    suffices h : ∃ span, tokenize s.toList = .ok [.token (.word w) span] by
      obtain ⟨span, h⟩ := h
      rw [isSingleName_of_trees h, hname]
    rw [heq]
    have hscan (p : Position) :
        ∃ span, (scan p (before ++ w.text.toList ++ after)).trees = .ok [.token (.word w) span] := by
      obtain ⟨span, h⟩ := scanFrom_of_word w hbefore hafter p (Nat.lt_succ_self _)
      exact ⟨span, Scan.trees_eq_ok_iff.2 (by rw [scan, h]; exact ⟨rfl, rfl⟩)⟩
    rcases hmark with rfl | rfl
    · obtain ⟨c, rest, hcons, hc⟩ := exists_cons_of_pads w hbefore after
      have hscan := hscan .start
      rw [hcons] at hscan
      rw [List.nil_append, hcons, tokenize, if_neg hc]
      exact hscan
    · rw [List.singleton_append, tokenize, if_pos rfl]
      exact hscan _

/-- **A name, character for character**: an identifier, raw or not, that is no reserved word. -/
def IsNameText (text : String) : Prop := isWordText text.toList = true ∧ text ∉ reservedWords

instance : DecidablePred IsNameText := fun _ => inferInstanceAs (Decidable (_ ∧ _))

/-- The texts of words that can be names. -/
theorem isNameText_iff {text : String} :
    IsNameText text ↔ ∃ w : Word, w.isName = true ∧ w.text = text := by
  have hcontextual : ∀ t ∈ contextualWords, IsNameText t := by decide +kernel
  constructor
  · rintro ⟨hword, hreserved⟩
    have hreserved : reservedWords.contains text = false := by simpa using hreserved
    by_cases hknown : isKnown text = true
    · refine ⟨.known ⟨text, hknown⟩, ?_, rfl⟩
      rwa [isKnown, hreserved, Bool.false_or] at hknown
    · exact ⟨.plain ⟨text, hword, by simpa using hknown⟩, rfl, rfl⟩
  · rintro ⟨w, hname, rfl⟩
    cases w with
    | known w => exact hcontextual w.text (List.contains_iff_mem.1 hname)
    | plain n =>
      have hunknown := n.unknown
      rw [isKnown, Bool.or_eq_false_iff] at hunknown
      exact ⟨n.wellFormed, by simpa [Word.text] using hunknown.1⟩

theorem IsNameText.not_mem {text : String} (h : IsNameText text) {c : Char}
    (hstart : Text.isIdentifierStart c = false) (hcontinue : Text.isIdentifierContinue c = false)
    (hsign : c ≠ '#') : c ∉ text.toList := by
  obtain ⟨w, -, rfl⟩ := isNameText_iff.1 h
  exact Word.not_mem_text hstart hcontinue hsign w

/-- A name is read as a single name. -/
theorem IsNameText.isSingleName {text : String} (h : IsNameText text) :
    isSingleName text = true := by
  obtain ⟨w, hname, rfl⟩ := isNameText_iff.1 h
  rw [isSingleName_iff (h.not_mem (by decide) (by decide) (by decide))]
  exact ⟨w, hname, [], [], [], by simp, Or.inl rfl, List.forall_mem_nil _, List.forall_mem_nil _⟩

/-- **The characters of a single name**, in a text without slashes. -/
theorem chars_of_isSingleName {s : String} (h : isSingleName s = true) (hslash : '/' ∉ s.toList) :
    ∃ w : Word, w.isName = true ∧
      ∀ c ∈ s.toList, c ∈ w.text.toList ∨ isSeparator c = true ∨ c = orderMark := by
  obtain ⟨w, hname, mark, before, after, heq, hmark, hbefore, hafter⟩ :=
    (isSingleName_iff hslash).1 h
  refine ⟨w, hname, fun c hc => ?_⟩
  rw [heq] at hc
  simp only [List.mem_append] at hc
  rcases hc with hc | (hc | hc) | hc
  · rcases hmark with rfl | rfl
    · cases hc
    · exact Or.inr (Or.inr (List.mem_singleton.1 hc))
  · exact Or.inr (Or.inl (hbefore c hc))
  · exact Or.inl hc
  · exact Or.inr (Or.inl (hafter c hc))

end RecordStore.Source
