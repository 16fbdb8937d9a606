import RecordStore.Proofs.Source.Grammar.Expression
import RecordStore.Source.Grammar.Statement

/-!
# Reading blocks

The statements read here bind names to values, and an expression stands at the end of the block.
-/

namespace RecordStore.Source

open Source.Parser

variable {g : Grammar} {ts u vs rest inner : Tokens} {w : Word} {joint : Bool}

/-! ### Names as patterns -/

/-- A name that is bound, where nothing follows that makes it something else. -/
theorem reads_pattern (hw : w.isName = true) (hrest : (Parser.punctuation "@").holds rest = false ∧
      afterPathWord.any (·.holds rest) = false) :
    Takes (pattern g) ((Token.word w).bare :: rest) rest := by
  have hpath : Reads peekPathPattern ((Token.word w).bare :: rest) ((Token.word w).bare :: rest)
      (· = false) := by
    refine Reads.get fun s hs => ?_
    obtain ⟨t, span, tail, hts, ht, htail⟩ := bareAll_eq_token hs.rest
    have hafter : afterPathWord.any (·.holds tail) = false := by
      rw [← hrest.2, ← htail, any_holds_bareAll (by simp [afterPathWord])]
    rw [hts]
    simp [↓looks, hafter, Word.is_eq_false hw, contextualWords]
    refine (Reads.peekAny (by simp)).mono fun _ h => ?_
    rw [h]
    simp [Word.is_eq_false hw, contextualWords]
  refine hpath.step ((Reads.word?_of_not (by simp [Word.is_eq_false hw, contextualWords])).step ?_)
  simp [↓looks, Word.is_eq_false hw, contextualWords, hw]
  refine (Reads.word?_of_not (by simp [Word.is_eq_false hw, contextualWords])).next ?_
  refine (Reads.word?_of_not (by simp [Word.is_eq_false hw, contextualWords])).next ?_
  simp [↓looks, Word.is_eq_false hw, contextualWords]
  refine (Reads.name hw).next ((Reads.punct?_of_not hrest.1).step ?_)
  exact .done

/-! ### Bindings -/

theorem takes_letEnd {value : Expression} :
    Takes (do
      if !endsWithBraces value.tokens then if ← word? "else" then block g
      Parser.punct ";") ((Token.punct .semicolon joint).bare :: u) u := by
  split
  · exact (Reads.word?_of_not (by simp)).step ((Reads.punct (by decide) rfl).takes)
  · exact (Reads.punct (by decide) rfl).takes

/-- A name that is bound to a value. -/
theorem takes_letStatement
    (hpattern : Takes g.pattern ts ((Token.punct .equals joint).bare :: u))
    {joint' : Bool} (hvalue : Takes (g.expr true) u ((Token.punct .semicolon joint').bare :: vs)) :
    Takes (letStatement g) (wordToken "let" :: ts) vs := by
  refine Reads.word.next (hpattern.next ((Reads.punct?_of_not (by simp)).step ?_))
  refine (Reads.punct?_of_after (by decide) rfl).step (hvalue.bind_any fun value => ?_)
  exact takes_letEnd

/-- A name with a type that is bound to a value. -/
theorem takes_letStatement_typed {joint₁ joint₂ joint₃ : Bool} {ts₁ ts₂ ts₃ : Tokens}
    (hpattern : Takes g.pattern ts ((Token.punct .colon joint₁).bare :: ts₁))
    (htype : Takes (g.type true) ts₁ ((Token.punct .equals joint₂).bare :: ts₂))
    (hvalue : Takes (g.expr true) ts₂ ((Token.punct .semicolon joint₃).bare :: ts₃)) :
    Takes (letStatement g) (wordToken "let" :: ts) ts₃ := by
  refine Reads.word.next (hpattern.next ((Reads.punct?_of_after (by decide) rfl).step ?_))
  refine htype.next ((Reads.punct?_of_after (by decide) rfl).step (hvalue.bind_any fun value => ?_))
  exact takes_letEnd

/-! ### Macro calls are told apart -/

theorem fails_plainPath (hcolons : (Parser.punctuation "::").holds ts = false)
    (hwords : (aName :: pathWords).any (·.holds ts) = false) : Fails plainPath ts := by
  have hsegment : Reads plainSegment? ts ts (· = none) := by
    refine (reads_peekAny (by simp [pathWords])).2 ?_
    rw [hwords]
    exact .pure rfl
  refine .after (Reads.punct?_of_not hcolons) ?_
  rintro _ rfl
  refine .after hsegment ?_
  rintro _ rfl
  exact .bind (.name (by simp at hwords; exact hwords.1))

theorem takes_plainSegments (words : List PlainName) (hrest : EndsPath rest) (fuel : Nat)
    (hfuel : (colonTokens words ++ rest).length < fuel) :
    Takes (plainSegments fuel) (colonTokens words ++ rest) rest := by
  induction words generalizing fuel with
  | nil =>
    obtain ⟨fuel, rfl⟩ := Nat.exists_eq_add_one.2 (Nat.zero_lt_of_lt hfuel)
    exact (Reads.punct?_of_not hrest.colons).step .done
  | cons n words ih =>
    obtain ⟨fuel, rfl⟩ := Nat.exists_eq_add_one.2 (Nat.zero_lt_of_lt hfuel)
    refine (Reads.punct?_of_after (by decide) rfl).step ?_
    refine (reads_plainSegment? (by simp)).step ((ih fuel ?_).bind_any fun _ => .done)
    simp at hfuel ⊢
    omega

theorem takes_plainPath_head (hw : w.IsHead) (words : List PlainName) (hrest : EndsPath rest) :
    Takes plainPath ((Token.word w).bare :: (colonTokens words ++ rest)) rest := by
  have hsegment : Reads plainSegment? ((Token.word w).bare :: (colonTokens words ++ rest))
      (colonTokens words ++ rest) (· = some { word := w }) :=
    reads_plainSegment? (by rcases hw with ⟨n, rfl⟩ | rfl | rfl <;> simp [pathWords])
  refine (Reads.punct?_of_not (by simp)).step (hsegment.step (Reads.get fun s hs => ?_))
  refine (takes_plainSegments words hrest _ ?_).bind_any fun _ => .done
  rw [← hs.rest, length_bareAll]
  exact Nat.lt_succ_self _

/-- An expression of the kinds read here starts with no macro call. -/
theorem StartsExpression.reads_macroAhead (h : StartsExpression ts) :
    Reads macroAhead ts ts (· = .other) := by
  cases h with
  | reference joint ts =>
    refine (Reads.ahead_of_fails (.bind (fails_plainPath (by simp) (by simp [pathWords])))).step ?_
    exact .pure rfl
  | @head _ words rest hw hrest =>
    refine (Reads.ahead_of_reads (u := rest) (P := (· = .other)) ?_).bind ?_
    · refine (takes_plainPath_head hw words hrest).next ?_
      simp [↓looks, hrest.bang]
      exact .pure rfl
    · rintro _ ⟨_, rfl, rfl⟩
      exact .pure rfl

/-! ### Statements -/

theorem reads_statement_let (h : Takes (letStatement g) (wordToken "let" :: ts) u) :
    Reads (statement g) (wordToken "let" :: ts) u (· = false) := by
  have hahead : Reads macroAhead (wordToken "let" :: ts) (wordToken "let" :: ts) (· = .other) :=
    (Reads.ahead_of_fails (.bind (fails_plainPath (by simp)
      (by simp [pathWords, contextualWords])))).step (.pure rfl)
  refine (reads_outerAttributes_nil (by simp)).step (hahead.step ?_)
  rw [if_neg (by decide)]
  refine reads_peekWord.2 ?_
  rw [if_pos (by simp)]
  exact h.next (.pure rfl)

/-- An expression that has to be the last statement. -/
theorem reads_statement_expression (hts : StartsExpression ts)
    (h : Reads g.early ts [] (· = .other)) : Reads (statement g) ts [] (· = true) := by
  -- none of the other statements starts like an expression
  have hmixed : Reads peekMixedItem ts ts (· = false) := by
    rcases hts with _ | ⟨words, hw, hrest⟩
    · simp [peekMixedItem, ↓looks]
      exact .pure rfl
    · rcases hw with ⟨n, rfl⟩ | rfl | rfl <;>
      · simp [peekMixedItem, ↓looks]
        exact .pure rfl
  have hlet : headsWord "let" ts = false := by
    rcases hts with _ | ⟨words, ⟨n, rfl⟩ | rfl | rfl, hrest⟩ <;> simp
  have hwords : itemWords.any (·.holds ts) = false := by
    rcases hts with _ | ⟨words, ⟨n, rfl⟩ | rfl | rfl, hrest⟩ <;> simp [itemWords]
  refine (reads_outerAttributes_nil hts.hash).step (hts.reads_macroAhead.step ?_)
  rw [if_neg (by decide)]
  refine reads_peekWord.2 ?_
  rw [hlet, if_neg Bool.false_ne_true, reads_peekAny (by simp [itemWords]), hwords]
  refine hmixed.step ?_
  rw [if_neg (by decide)]
  refine h.step ((Reads.punct?_of_not (by simp)).step ?_)
  exact .pure (by decide)

/-- The statements of a block, its last one an expression. -/
def TakesStatements (g : Grammar) (ts : Tokens) : Prop :=
  Loops (do
    let _ ← loop do
      if ← punct? ";" then return some () else return none
    if ← atEnd then return none
    let isLast ← statement g
    if ← atEnd then return none
    else if isLast then fail .unfinishedStatement
    else return some ()) ts [] fun _ => True

namespace TakesStatements

theorem skip (h : (Parser.punctuation ";").holds ts = false) :
    Takes (loop do
      if ← punct? ";" then return some () else return none) ts ts := by
  refine (Loops.nil ((Reads.punct?_of_not h).step ?_)).reads.takes
  exact .pure rfl

theorem last (hts : (Parser.punctuation ";").holds ts = false) (hne : ts.isEmpty = false)
    (h : Reads (statement g) ts [] (· = true)) : TakesStatements g ts := by
  refine (Loops.nil ((skip hts).next (reads_atEnd.2 ?_))).any
  rw [hne, if_neg Bool.false_ne_true]
  refine h.step (reads_atEnd.2 ?_)
  exact .pure rfl

theorem cons (hts : (Parser.punctuation ";").holds ts = false) (hne : ts.isEmpty = false)
    (h : Reads (statement g) ts u (· = false)) (hu : u.isEmpty = false) (hlt : u.length < ts.length)
    (hmore : TakesStatements g u) : TakesStatements g ts := by
  refine (Loops.cons (P := fun _ => True) ((skip hts).next (reads_atEnd.2 ?_)) hlt hmore).any
  rw [hne, if_neg Bool.false_ne_true]
  refine h.step (reads_atEnd.2 ?_)
  rw [hu]
  exact .pure ⟨(), rfl, trivial⟩

theorem takes (h : TakesStatements g ts) : Takes (statements g) ts [] :=
  Loops.reads h |>.bind_any fun _ => .done

end TakesStatements

end RecordStore.Source
