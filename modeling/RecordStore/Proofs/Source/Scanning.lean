import RecordStore.Proofs.Source.Name

/-!
# Scanning comes to its end

Whatever the scanner finds at the start of a text, it takes a character of it at least
(`RecordStore.Source.length_of_step`). So a scan comes to its end before its steps do, and with
more steps it is the same (`RecordStore.Source.scanFrom_eq`).

That lets a scan be cut where a comment ends: the tokens of a file that starts with one are those of
what follows, one line further down (`RecordStore.Source.tokenizeFile_commentLine`).
-/

namespace RecordStore.Source

variable {cs text rest after : List Char}

theorem lt_length_cons {n : Nat} {c : Char} (h : n < cs.length) : n < (c :: cs).length :=
  Nat.lt_succ_of_lt h

/-- Where what was found is changed afterwards, the text behind it stays. -/
theorem exists_of_map {α β : Type} {found : Option (α × List Char)}
    {f : α × List Char → β × List Char} {b : β} (h : found.map f = some (b, after))
    (hf : ∀ r, (f r).2 = r.2) : ∃ a, found = some (a, after) := by
  obtain ⟨⟨a, after'⟩, hfound, heq⟩ := Option.map_eq_some_iff.1 h
  have hafter : (f (a, after')).2 = after := by rw [heq]
  exact ⟨a, (hf (a, after')).symm.trans hafter ▸ hfound⟩

/-! ### Comments -/

theorem length_takeLine (cs : List Char) : (takeLine cs).2.length ≤ cs.length := by
  fun_induction takeLine cs with
  | case1 => exact Nat.le_refl _
  | case2 rest => exact Nat.le_refl _
  | case3 rest => exact Nat.le_refl _
  | case4 c rest _ _ line after heq ih =>
    rw [heq] at ih
    exact Nat.le_succ_of_le ih

theorem length_of_takeBlock {depth : Nat} (h : takeBlock depth cs = some (text, after)) :
    after.length < cs.length := by
  fun_induction takeBlock depth cs generalizing text after with
  | case1 => cases h
  | case2 => cases h
  | case3 depth rest ih =>
    obtain ⟨text', h⟩ := exists_of_map h fun _ => rfl
    exact lt_length_cons (lt_length_cons (ih h))
  | case4 rest =>
    cases h
    simp only [List.length_cons]
    omega
  | case5 rest =>
    cases h
    simp only [List.length_cons]
    omega
  | case6 rest d _ ih =>
    obtain ⟨text', h⟩ := exists_of_map h fun _ => rfl
    exact lt_length_cons (lt_length_cons (ih h))
  | case7 depth c d rest _ _ ih =>
    obtain ⟨text', h⟩ := exists_of_map h fun _ => rfl
    exact lt_length_cons (ih h)

theorem length_of_blockComment (h : blockComment cs = some (text, after)) :
    after.length < cs.length := by
  rw [blockComment.eq_def] at h
  split at h
  · obtain ⟨text', h⟩ := exists_of_map h fun _ => rfl
    exact lt_length_cons (lt_length_cons (length_of_takeBlock h))
  · cases h

theorem length_of_plainComment (h : plainComment? cs = some (text, after)) :
    after.length < cs.length := by
  rw [plainComment?.eq_def] at h
  split at h
  · obtain ⟨-, h⟩ := Option.ite_none_left_eq_some.1 h
    cases h
    exact Nat.lt_of_le_of_lt (length_takeLine _) (by simp only [List.length_cons]; omega)
  · cases h
    simp only [List.length_cons]
    omega
  · obtain ⟨-, h⟩ := Option.ite_none_left_eq_some.1 h
    exact length_of_blockComment h
  · cases h

theorem length_of_docComment {comment : DocComment} (h : docComment? cs = some comment) :
    comment.rest.length < cs.length := by
  have hblock {f : List Char × List Char → DocComment} {c : DocComment}
      (h : (blockComment cs).map f = some c) (hf : ∀ r, (f r).rest = r.2) :
      c.rest.length < cs.length := by
    obtain ⟨⟨text, after⟩, hblock, rfl⟩ := Option.map_eq_some_iff.1 h
    rw [hf]
    exact length_of_blockComment hblock
  have hpaired {c : DocComment} (h : (if returnsPaired c.message then some c else none) =
      some comment) : comment = c := by
    obtain ⟨-, h⟩ := Option.ite_none_right_eq_some.1 h
    exact (Option.some.inj h).symm
  rw [docComment?.eq_def] at h
  dsimp only at h
  split at h
  · rw [hpaired h]
    exact Nat.lt_of_le_of_lt (length_takeLine _) (by simp only [List.length_cons]; omega)
  · cases h
  · rw [hpaired h]
    exact Nat.lt_of_le_of_lt (length_takeLine _) (by simp only [List.length_cons]; omega)
  · obtain ⟨c, hc, h⟩ := Option.bind_eq_some_iff.1 h
    exact hpaired h ▸ hblock hc fun _ => rfl
  · cases h
  · obtain ⟨c, hc, h⟩ := Option.bind_eq_some_iff.1 h
    exact hpaired h ▸ hblock hc fun _ => rfl
  · cases h

/-! ### Numbers -/

theorem length_of_scanName {name : List Char} (h : scanName cs = some (name, rest)) :
    rest.length < cs.length := by
  cases cs with
  | nil => cases h
  | cons c cs =>
    obtain ⟨-, h⟩ := Option.ite_none_right_eq_some.1 h
    cases h
    exact Nat.lt_succ_of_le (List.dropWhile_sublist _).length_le

theorem length_of_withSuffix {digits : List Char} (h : withSuffix digits cs = some (text, rest)) :
    rest.length ≤ cs.length := by
  rw [withSuffix] at h
  split at h
  · rename_i hname
    cases h
    exact Nat.le_of_lt (length_of_scanName hname)
  · obtain ⟨-, h⟩ := Option.ite_none_left_eq_some.1 h
    cases h
    exact Nat.le_refl _

theorem length_of_scanExponent {hasSign hasDigit ok : Bool}
    (h : scanExponent hasSign hasDigit cs = some (text, rest, ok)) : rest.length ≤ cs.length := by
  fun_induction scanExponent hasSign hasDigit cs generalizing text rest ok with
  | case1 =>
    cases h
    exact Nat.le_refl _
  | case2 hasSign hasDigit c cs _ ih =>
    obtain ⟨⟨text', rest', ok'⟩, h, heq⟩ := Option.map_eq_some_iff.1 h
    cases heq
    exact Nat.le_succ_of_le (ih h)
  | case3 hasSign hasDigit cs _ ih =>
    obtain ⟨⟨text', rest', ok'⟩, h, heq⟩ := Option.map_eq_some_iff.1 h
    cases heq
    exact Nat.le_succ_of_le (ih h)
  | case4 => cases h
  | case5 hasSign hasDigit c cs _ _ _ _ ih =>
    obtain ⟨⟨text', rest', ok'⟩, h, heq⟩ := Option.map_eq_some_iff.1 h
    cases heq
    exact Nat.le_succ_of_le (ih h)
  | case6 =>
    cases h
    exact Nat.le_refl _

theorem length_of_scanFloatEnd {digits : List Char} {hasPoint : Bool}
    (h : scanFloatEnd digits hasPoint cs = some (text, rest)) : rest.length ≤ cs.length := by
  have hwithout (h : (if hasPoint then some (digits, cs) else none) = some (text, rest)) :
      rest.length ≤ cs.length := by
    obtain ⟨-, h⟩ := Option.ite_none_right_eq_some.1 h
    cases h
    exact Nat.le_refl _
  rw [scanFloatEnd.eq_def] at h
  dsimp only at h
  split at h
  · exact hwithout h
  · split at h
    · split at h
      · rename_i hexponent
        cases h
        exact Nat.le_succ_of_le (length_of_scanExponent hexponent)
      · exact hwithout h
    · exact hwithout h

theorem length_of_scanFloatDigits (h : scanFloatDigits cs = some (text, rest)) :
    rest.length < cs.length := by
  cases cs with
  | nil => cases h
  | cons first cs =>
    rw [scanFloatDigits] at h
    split at h
    · cases h
    · rename_i hfirst
      -- the first digit is taken
      have hdigit : isDigitOrLine first = true := by
        rw [isDigitOrLine, show isDigit first = true by simpa using hfirst, Bool.true_or]
      have hrest : ((first :: cs).dropWhile isDigitOrLine).length ≤ cs.length := by
        rw [List.dropWhile_cons_of_pos hdigit]
        exact (List.dropWhile_sublist _).length_le
      refine Nat.lt_succ_of_le (Nat.le_trans ?_ hrest)
      dsimp only at h
      split at h
      · rename_i after hpoint
        rw [hpoint]
        split at h
        · split at h
          · cases h
          · have hdrop := (List.dropWhile_sublist isDigitOrLine (l := after)).length_le
            exact Nat.le_succ_of_le (Nat.le_trans (length_of_scanFloatEnd h) hdrop)
        · cases h
          exact Nat.zero_le _
      · exact length_of_scanFloatEnd h

theorem length_of_scanFloat (h : scanFloat cs = some (text, rest)) : rest.length < cs.length := by
  obtain ⟨⟨digits, after⟩, hdigits, h⟩ := Option.bind_eq_some_iff.1 h
  exact Nat.lt_of_le_of_lt (length_of_withSuffix h) (length_of_scanFloatDigits hdigits)

/-- An integer has a digit at least. -/
theorem length_of_scanDigits {base : Nat} {isEmpty : Bool}
    (h : scanDigits base isEmpty cs = some (text, rest)) :
    rest.length ≤ cs.length ∧ (isEmpty = true → rest.length < cs.length) := by
  fun_induction scanDigits base isEmpty cs generalizing text rest with
  | case1 => cases h
  | case2 _ hfull =>
    cases h
    exact ⟨Nat.le_refl _, fun hempty => absurd hempty hfull⟩
  | case3 => cases h
  | case4 _ _ _ ih =>
    obtain ⟨text', h⟩ := exists_of_map h fun _ => rfl
    exact ⟨Nat.le_succ_of_le (ih h).1, fun _ => Nat.lt_succ_of_le (ih h).1⟩
  | case5 | case7 =>
    obtain ⟨hfull, h⟩ := Option.ite_none_left_eq_some.1 h
    cases h
    exact ⟨Nat.le_refl _, fun hempty => absurd hempty hfull⟩
  | case6 => cases h
  | case8 _ _ _ _ _ _ _ ih =>
    obtain ⟨text', h⟩ := exists_of_map h fun _ => rfl
    exact ⟨Nat.le_succ_of_le (ih h).1, fun _ => Nat.lt_succ_of_le (ih h).1⟩

theorem length_of_scanInteger (h : scanInteger cs = some (text, rest)) :
    rest.length < cs.length := by
  rw [scanInteger.eq_def] at h
  dsimp only at h
  split at h
  all_goals
    obtain ⟨⟨digits, after⟩, hdigits, h⟩ := Option.bind_eq_some_iff.1 h
    have hlength := Nat.lt_of_le_of_lt (length_of_withSuffix h)
      ((length_of_scanDigits hdigits).2 rfl)
    first
      | exact hlength
      | exact lt_length_cons (lt_length_cons hlength)

/-! ### Quoted literals -/

theorem length_of_scanQuoted {q : Quoting} {state : QuoteState} {found : Quotation}
    (h : scanQuoted q state cs = some found) : found.rest.length < cs.length := by
  fun_induction scanQuoted q state cs generalizing found with
  | case1 => cases h
  | case2 =>
    cases h
    exact Nat.lt_succ_self _
  | case3 => cases h
  | case4 state c cs _ next emitted _ ih =>
    obtain ⟨more, hmore, rfl⟩ := Option.map_eq_some_iff.1 h
    have hlength := ih hmore
    exact lt_length_cons hlength

theorem length_of_scanEscape {q : Quoting} {state : QuoteState} {found : Quotation}
    (h : scanEscape q state cs = some found) : found.rest.length < cs.length := by
  fun_induction scanEscape q state cs generalizing found with
  | case1 => cases h
  | case2 => cases h
  | case3 => cases h
  | case4 =>
    cases h
    exact Nat.lt_succ_self _
  | case5 state c cs next emitted _ _ _ ih =>
    obtain ⟨more, hmore, rfl⟩ := Option.map_eq_some_iff.1 h
    have hlength := ih hmore
    exact lt_length_cons hlength

theorem length_of_scanSingle {q : Quoting} {found : Quotation}
    (h : scanSingle q cs = some found) : found.rest.length < cs.length := by
  -- the closing quote stands behind the character
  have hquote {behind rest : List Char} (hbehind : behind.length ≤ cs.length)
      (hrest : behind = '\'' :: rest) : rest.length < cs.length := by
    rw [hrest] at hbehind
    exact hbehind
  rw [scanSingle.eq_def] at h
  dsimp only at h
  split at h
  · cases h
  · obtain ⟨one, hone, h⟩ := Option.bind_eq_some_iff.1 h
    obtain ⟨escape, hescape, rfl⟩ := Option.map_eq_some_iff.1 hone
    have hlength := length_of_scanEscape hescape
    split at h
    · rename_i hrest
      cases h
      exact hquote (Nat.le_succ_of_le (Nat.le_of_lt hlength)) hrest
    · cases h
  · split at h
    · cases h
    · obtain ⟨one, hone, h⟩ := Option.bind_eq_some_iff.1 h
      cases hone
      split at h
      · rename_i hrest
        cases h
        exact hquote (Nat.le_succ _) hrest
      · cases h

theorem length_of_scanRawBody {q : Quoting} {hashes : Nat} {found : Quotation}
    (h : scanRawBody q hashes cs = some found) : found.rest.length < cs.length := by
  fun_induction scanRawBody q hashes cs generalizing found with
  | case1 => cases h
  | case2 c cs _ =>
    cases h
    exact Nat.lt_succ_of_le (List.drop_sublist _ _).length_le
  | case3 => cases h
  | case4 => cases h
  | case5 c cs _ _ _ ih =>
    obtain ⟨more, hmore, rfl⟩ := Option.map_eq_some_iff.1 h
    have hlength := ih hmore
    exact lt_length_cons hlength

theorem length_of_scanRaw {q : Quoting} {found : Quotation} (h : scanRaw q cs = some found) :
    found.rest.length < cs.length := by
  have hdrop := (List.dropWhile_sublist (· = '#') (l := cs)).length_le
  rw [scanRaw] at h
  split at h
  · rename_i rest hquote
    obtain ⟨-, h⟩ := Option.ite_none_left_eq_some.1 h
    obtain ⟨body, hbody, rfl⟩ := Option.map_eq_some_iff.1 h
    have hlength := length_of_scanRawBody hbody
    rw [hquote, List.length_cons] at hdrop
    exact Nat.lt_of_lt_of_le (Nat.lt_succ_of_lt hlength) hdrop
  · cases h

theorem length_of_quotedLiteral {mark : List Char} {kind : String → LiteralKind}
    {scanned : Option Quotation} {t : ScannedToken} (h : quotedLiteral mark kind scanned = some t)
    (hscanned : ∀ q, scanned = some q → q.rest.length < cs.length) :
    t.rest.length < cs.length := by
  obtain ⟨q, hq, h⟩ := Option.bind_eq_some_iff.1 h
  refine Nat.lt_of_le_of_lt ?_ (hscanned q hq)
  dsimp only at h
  split at h
  · rename_i hname
    obtain ⟨l, rfl⟩ := ScannedToken.exists_of_literal? h
    exact Nat.le_of_lt (length_of_scanName hname)
  · obtain ⟨l, rfl⟩ := ScannedToken.exists_of_literal? h
    exact Nat.le_refl _

theorem length_of_scanQuotedLiteral {t : ScannedToken} (h : scanQuotedLiteral cs = some t) :
    t.rest.length < cs.length := by
  rw [scanQuotedLiteral.eq_def] at h
  split at h
  · exact length_of_quotedLiteral h fun _ hq => lt_length_cons (length_of_scanQuoted hq)
  · exact length_of_quotedLiteral h fun _ hq => lt_length_cons (length_of_scanRaw hq)
  · exact length_of_quotedLiteral h fun _ hq =>
      lt_length_cons (lt_length_cons (length_of_scanQuoted hq))
  · exact length_of_quotedLiteral h fun _ hq =>
      lt_length_cons (lt_length_cons (length_of_scanRaw hq))
  · exact length_of_quotedLiteral h fun _ hq =>
      lt_length_cons (lt_length_cons (length_of_scanQuoted hq))
  · exact length_of_quotedLiteral h fun _ hq =>
      lt_length_cons (lt_length_cons (length_of_scanRaw hq))
  · exact length_of_quotedLiteral h fun _ hq =>
      lt_length_cons (lt_length_cons (length_of_scanSingle hq))
  · exact length_of_quotedLiteral h fun _ hq => lt_length_cons (length_of_scanSingle hq)
  · cases h

/-! ### Tokens -/

theorem length_of_scanLiteral {t : ScannedToken} (h : scanLiteral cs = some t) :
    t.rest.length < cs.length := by
  rw [scanLiteral] at h
  split at h
  · rename_i hquoted
    cases h
    exact length_of_scanQuotedLiteral hquoted
  · split at h
    · rename_i hfloat
      obtain ⟨l, rfl⟩ := ScannedToken.exists_of_literal? h
      exact length_of_scanFloat hfloat
    · obtain ⟨⟨text, rest⟩, hinteger, h⟩ := Option.bind_eq_some_iff.1 h
      obtain ⟨l, rfl⟩ := ScannedToken.exists_of_literal? h
      exact length_of_scanInteger hinteger

theorem length_of_scanWord (h : scanWord cs = some (text, rest)) : rest.length < cs.length := by
  rw [scanWord.eq_def] at h
  split at h
  · split at h
    · rename_i hname
      obtain ⟨-, h⟩ := Option.ite_none_left_eq_some.1 h
      cases h
      exact lt_length_cons (lt_length_cons (length_of_scanName hname))
    · cases h
  · exact length_of_scanName h

theorem length_of_scanLifetime {t : ScannedToken} (h : scanLifetime cs = some t) :
    t.rest.length ≤ cs.length := by
  obtain ⟨⟨name, after⟩, hword, h⟩ := Option.bind_eq_some_iff.1 h
  obtain ⟨-, h⟩ := Option.ite_none_left_eq_some.1 h
  split at h
  · cases h
    exact Nat.le_refl _
  · cases h
    exact Nat.le_of_lt (length_of_scanWord hword)

theorem length_drop_faultMark (c : Char) (cs : List Char) :
    ((c :: cs).drop faultMark.length).length < (c :: cs).length := by
  rw [List.length_drop, List.length_cons]
  have : 0 < faultMark.length := by decide
  omega

theorem length_of_scanToken {t : ScannedToken} (h : scanToken cs = some t) :
    t.rest.length < cs.length := by
  rw [scanToken.eq_def] at h
  split at h
  · rename_i hliteral
    cases h
    exact length_of_scanLiteral hliteral
  · split at h
    · exact Nat.lt_succ_of_le (length_of_scanLifetime h)
    · split at h
      · cases h
        exact Nat.lt_succ_self _
      · dsimp only at h
        split at h
        · rename_i hscan
          obtain ⟨-, hword⟩ := Option.ite_none_left_eq_some.1 hscan
          obtain ⟨w, -, rfl⟩ := Option.map_eq_some_iff.1 h
          exact length_of_scanWord hword
        · obtain ⟨-, h⟩ := Option.ite_none_right_eq_some.1 h
          cases h
          exact length_drop_faultMark _ _
    · cases h

/-! ### Steps -/

/-- What a step leaves to be scanned, if it goes on. -/
def Step.rest? : Step → Option (List Char)
  | .skip _ rest | .lexemes _ _ rest => some rest
  | .finished | .fault => none

/-- **A step takes a character at least.** -/
theorem length_of_step (h : (step cs).rest? = some rest) : rest.length < cs.length := by
  rw [step.eq_def] at h
  split at h
  · cases h
  · split at h
    · cases h
      exact Nat.lt_succ_self _
    · split at h
      · rename_i hcomment
        cases h
        exact length_of_plainComment hcomment
      · split at h
        · rename_i hcomment
          cases h
          exact length_of_docComment hcomment
        · split at h
          · split at h
            · cases h
              exact length_drop_faultMark _ _
            · cases h
              exact Nat.lt_succ_self _
          · cases h
            exact Nat.lt_succ_self _
          · split at h
            · rename_i hscan
              cases h
              exact length_of_scanToken hscan
            · cases h

/-- **More steps than there are characters make no difference to a scan.** -/
theorem scanFrom_eq (p : Position) {fuel fuel' : Nat} (hfuel : cs.length < fuel)
    (hfuel' : cs.length < fuel') : scanFrom p cs fuel = scanFrom p cs fuel' := by
  -- on the steps of the first scan: either side gives up one for at least one character
  induction fuel generalizing p cs fuel' with
  | zero => cases hfuel
  | succ fuel ih =>
    cases fuel' with
    | zero => cases hfuel'
    | succ fuel' =>
      rw [scanFrom, scanFrom]
      cases hstep : step cs with
      | finished => rfl
      | fault => rfl
      | skip text rest =>
        have hlength : rest.length < cs.length := length_of_step (by rw [hstep]; rfl)
        exact ih _ (by omega) (by omega)
      | lexemes ls text rest =>
        have hlength : rest.length < cs.length := length_of_step (by rw [hstep]; rfl)
        simp only [ih (p.advance text) (show rest.length < fuel by omega)
          (show rest.length < fuel' by omega)]

/-- A scan goes on behind what it skips. -/
theorem scanFrom_of_skip {p : Position} {fuel : Nat} (h : step cs = .skip text rest)
    (hfuel : cs.length < fuel) :
    scanFrom p cs fuel = scanFrom (p.advance text) rest (rest.length + 1) := by
  have hlength : rest.length < cs.length := length_of_step (by rw [h]; rfl)
  cases fuel with
  | zero => cases hfuel
  | succ fuel =>
    rw [scanFrom, h]
    exact scanFrom_eq _ (by omega) (by omega)

/-! ### Comments at the start of a file -/

/-- A line with a comment that documents nothing. -/
def commentLine (line : List Char) : List Char := "// ".toList ++ line ++ ['\n']

variable {line : List Char} {c : Char}

theorem line_advance (h : '\n' ∉ text) (p : Position) : (p.advance text).line = p.line := by
  induction text generalizing p with
  | nil => rfl
  | cons c text ih =>
    obtain ⟨hc, htext⟩ := not_or.1 (fun hmem => h (List.mem_cons.2 hmem))
    rw [Position.advance, List.foldl_cons, ← Position.advance, ih htext, Position.next,
      if_neg (Ne.symm hc)]

theorem takeLine_cons (hc : c ≠ '\n') (hcs : ¬(c = '\r' ∧ cs.head? = some '\n')) :
    takeLine (c :: cs) = (c :: (takeLine cs).1, (takeLine cs).2) := by
  rw [takeLine.eq_def]
  split
  · rename_i heq
    cases heq
  · rename_i heq
    exact absurd (List.cons.inj heq).1 hc
  · rename_i heq
    obtain ⟨rfl, rfl⟩ := List.cons.inj heq
    exact absurd ⟨rfl, rfl⟩ hcs
  · rename_i heq
    obtain ⟨rfl, rfl⟩ := List.cons.inj heq
    rfl

/-- A line ends before its line feed, and before a carriage return that stands there. -/
theorem takeLine_append (hline : '\n' ∉ line) (rest : List Char) :
    takeLine (line ++ '\n' :: rest) = (line, '\n' :: rest) ∨
      ∃ front, line = front ++ ['\r'] ∧
        takeLine (line ++ '\n' :: rest) = (front, '\r' :: '\n' :: rest) := by
  induction line with
  | nil => exact Or.inl rfl
  | cons c line ih =>
    obtain ⟨hc, hline⟩ := not_or.1 (fun hmem => hline (List.mem_cons.2 hmem))
    -- a carriage return is part of the line unless it is the last of its characters
    by_cases hreturn : c = '\r' ∧ line = []
    · obtain ⟨rfl, rfl⟩ := hreturn
      exact Or.inr ⟨[], rfl, rfl⟩
    · have hstep : takeLine (c :: (line ++ '\n' :: rest)) =
          (c :: (takeLine (line ++ '\n' :: rest)).1, (takeLine (line ++ '\n' :: rest)).2) := by
        refine takeLine_cons (Ne.symm hc) fun ⟨hr, hhead⟩ => ?_
        cases line with
        | nil => exact hreturn ⟨hr, rfl⟩
        | cons d line =>
          cases hhead
          exact hline List.mem_cons_self
      rw [List.cons_append, hstep]
      rcases ih hline with h | ⟨front, rfl, h⟩
      · exact Or.inl (by rw [h])
      · exact Or.inr ⟨c :: front, rfl, by rw [h]⟩

/-- Behind the end of a line a scan goes on at the start of the next one. -/
theorem scanFrom_lineFeed (p : Position) {fuel : Nat} (hfuel : ('\n' :: rest).length < fuel) :
    scanFrom p ('\n' :: rest) fuel = scanFrom ⟨p.line + 1, 0⟩ rest (rest.length + 1) := by
  have hstep : step ('\n' :: rest) = .skip ['\n'] rest := by rw [step, if_pos (by decide)]
  exact scanFrom_of_skip hstep hfuel

/-- **A comment leaves no trace in a scan** but the place where it goes on, at the start of the next
line. -/
theorem scanFrom_commentLine (hline : '\n' ∉ line) (p : Position) {fuel : Nat}
    (hfuel : (commentLine line ++ rest).length < fuel) :
    scanFrom p (commentLine line ++ rest) fuel =
      scanFrom ⟨p.line + 1, 0⟩ rest (rest.length + 1) := by
  have hcs : commentLine line ++ rest = '/' :: '/' :: ((' ' :: line) ++ '\n' :: rest) := by
    simp [commentLine]
  have hline : '\n' ∉ ' ' :: line := by simpa using hline
  have hstep : step ('/' :: '/' :: ((' ' :: line) ++ '\n' :: rest)) =
      .skip ('/' :: '/' :: (takeLine ((' ' :: line) ++ '\n' :: rest)).1)
        (takeLine ((' ' :: line) ++ '\n' :: rest)).2 := by
    rw [step, if_neg (by decide)]
    rfl
  rw [hcs] at hfuel ⊢
  rcases takeLine_append hline rest with h | ⟨front, heq, h⟩
  · rw [h] at hstep
    rw [scanFrom_of_skip hstep hfuel, scanFrom_lineFeed _ (Nat.lt_succ_self _),
      line_advance (by simpa using hline)]
  · -- the carriage return is white space of its own
    have hfront : '\n' ∉ front := by
      rw [heq, List.mem_append, not_or] at hline
      exact hline.1
    have hreturn : step ('\r' :: '\n' :: rest) = .skip ['\r'] ('\n' :: rest) := by
      rw [step, if_pos (by decide)]
    rw [h] at hstep
    rw [scanFrom_of_skip hstep hfuel, scanFrom_of_skip hreturn (Nat.lt_succ_self _),
      scanFrom_lineFeed _ (Nat.lt_succ_self _), line_advance (by decide),
      line_advance (by simpa using hfront)]

/-- **A comment at the start of a file leaves no trace in its tokens** but their places. -/
theorem tokenizeFile_commentLine (hline : '\n' ∉ line) (rest : List Char) :
    tokenizeFile (commentLine line ++ rest) = (scanFrom ⟨2, 0⟩ rest (rest.length + 1)).trees := by
  have hstart : tokenizeFile (commentLine line ++ rest) =
      (scanFrom .start (commentLine line ++ rest) ((commentLine line ++ rest).length + 1)).trees :=
    rfl
  rw [hstart, scanFrom_commentLine hline _ (Nat.lt_succ_self _)]
  rfl

/-- Nor do two comments. -/
theorem tokenizeFile_commentLines {first second : List Char} (hfirst : '\n' ∉ first)
    (hsecond : '\n' ∉ second) (rest : List Char) :
    tokenizeFile (commentLine first ++ (commentLine second ++ rest)) =
      (scanFrom ⟨3, 0⟩ rest (rest.length + 1)).trees := by
  rw [tokenizeFile_commentLine hfirst, scanFrom_commentLine hsecond _ (Nat.lt_succ_self _)]

end RecordStore.Source
