import RecordStore.Proofs.Source.Grammar.Type
import RecordStore.Source.Grammar.Function

/-!
# Reading signatures

The signature of a function is read part by part: its parameters with their bounds, the arguments with
the receiver first, the type of the answer, and the conditions.
-/

namespace RecordStore.Source

open Source.Parser

variable {g : Grammar} {ts u vs rest inner : Tokens} {w : Word} {rules : BoundRules}
  {plus joint joint' : Bool}

/-! ### Bounds -/

theorem takes_traitPath (hpath : Reads (path g false) ts u fun p => p.lastArguments.isEmpty = true)
    (hparens : (aGroup .parenthesis).holds u = false)
    (hcolons : (Parser.punctuation "::").holds u = false) : Takes (traitPath g) ts u := by
  refine Reads.bind_any (Reads.takes (Reads.silently (P := fun _ => True) ?_)) fun _ =>
    Reads.write.next .done
  refine hpath.bind fun p hp => ?_
  simp only [peekColonsParens, bind_assoc, pure_bind]
  simp [↓looks, hp, hparens, hcolons]
  exact .done

/-- A trait with arguments in parentheses. -/
theorem takes_traitPath_parenthesized
    (hpath : Reads (path g false) ts (groupOf .parenthesis inner :: u) fun p =>
      p.lastArguments.isEmpty = true)
    (harguments : Takes (commaSeparated (g.type true)) inner [])
    (hreturn : Takes (returnType g false) u vs) : Takes (traitPath g) ts vs := by
  refine Reads.bind_any (Reads.takes (Reads.silently (P := fun _ => True) ?_)) fun _ =>
    Reads.write.next .done
  refine hpath.bind fun p hp => ?_
  simp only [peekColonsParens, bind_assoc, pure_bind]
  simp [↓looks, hp]
  refine (Reads.punct?_of_not (by simp)).next ?_
  refine Reads.map_any (Reads.groupThen harguments.captured fun _ _ => ?_)
  exact hreturn.tokensOf.map_any

theorem reads_traitBound (h : Takes (traitPath g) ts u)
    (hts : headsWord "for" ts = false ∧ (aGroup .bracket).holds ts = false ∧
      headsWord "const" ts = false ∧ (Parser.punctuation "?").holds ts = false) :
    Reads (traitBound g rules) ts u (· = false) := by
  obtain ⟨hfor, hbracket, hconst, hmark⟩ := hts
  have hquantifier : Reads (quantifier? g) ts ts (· = false) := by
    simp [quantifier?, ↓looks, hfor]
    exact .pure rfl
  have hconstant : Reads (constantMark rules) ts ts (· = false) := by
    simp [constantMark, ↓looks, hbracket, hconst]
    exact .pure rfl
  refine hquantifier.silently.bind ?_
  rintro ⟨_, lifetimes⟩ rfl
  refine hconstant.step ((Reads.punct?_of_not hmark).step ?_)
  refine Reads.write.next ?_
  exact h.next (.pure rfl)

theorem takes_bound (hw : w.isName = true) (h : Takes (traitPath g) ((Token.word w).bare :: ts) u) :
    Takes (bound g rules) ((Token.word w).bare :: ts) u := by
  simp [bound, ↓looks, Word.is_eq_false hw, contextualWords]
  refine Reads.map_any (Reads.verbatimIf ?_)
  simp [↓looks]
  exact (reads_traitBound h (by simp [Word.is_eq_false hw, contextualWords])).takes

/-- One bound. -/
theorem takes_boundsUntil {stop : Parser Bool} (hstop : Reads stop ts ts (· = false))
    (h : Takes (g.bound rules) ts u) (hplus : (Parser.punctuation "+").holds u = false) :
    Takes (boundsUntil g stop rules) ts u := by
  refine Reads.bind_any (Loops.reads (Loops.nil ?_)).takes fun _ => .done
  exact hstop.step (h.next ((Reads.punct?_of_not hplus).step (.pure rfl)))

/-! ### Generic parameters -/

theorem takes_paramName (hw : w.isName = true) :
    Takes (paramName (discard name)) ((Token.word w).bare :: u) u := by
  intro s hs
  obtain ⟨t, span, tail, hrest, ht, htail⟩ := bareAll_eq_token hs.rest
  obtain rfl := Token.blank_eq_word.1 ht
  have hname : (discard name).run { s with written := [] } =
      .ok ((), { s with
        rest := tail, last := span.stop, written := [.token (.word w) span] }) := by
    rw [show discard name = (fun _ => ()) <$> name from rfl]
    simp [name, hrest, hw, take, moveTo, Parser.write]
    rfl
  refine ⟨.token (.word w) span,
    { s with rest := tail, last := span.stop, written := .token (.word w) span :: s.written }, ?_,
    ⟨htail, hs.leftover⟩, trivial⟩
  simp [paramName, tokensOf, captured, silently, hname, Parser.write]
  rfl

/-- A type as a parameter, without a bound. -/
theorem takes_typeParam (hw : w.isName = true) {attributes : Tokens}
    (hcolon : (Parser.punctuation ":").holds u = false)
    (hequals : (Parser.punctuation "=").holds u = false) :
    Takes (typeParam g attributes) ((Token.word w).bare :: u) u := by
  refine (takes_paramName hw).bind_any fun tree => ?_
  simp [↓looks, hcolon]
  refine Reads.map_any (Reads.tokensOf (P := fun _ => True) ?_)
  exact (Reads.punct?_of_not hequals).step .done

/-- A type as a parameter, with a bound. -/
theorem takes_typeParam_bounded (hw : w.isName = true) {attributes : Tokens}
    (hts : ([Parser.punctuation ",", Parser.punctuation ">", Parser.punctuation "="].any
      (·.holds ts)) = false ∧ ts.isEmpty = false)
    (h : Takes (g.bound { constant := true }) ts u)
    (hplus : (Parser.punctuation "+").holds u = false)
    (hequals : (Parser.punctuation "=").holds u = false) :
    Takes (typeParam g attributes) ((Token.word w).bare :: (Token.punct .colon joint).bare :: ts) u := by
  refine (takes_paramName hw).bind_any fun tree => ?_
  have hstop : Reads (return (← atEnd) || (← peekAny [Parser.punctuation ",", Parser.punctuation ">",
      Parser.punctuation "="])) ts ts (· = false) := by
    refine reads_atEnd.2 ((reads_peekAny (by simp)).2 ?_)
    rw [hts.1, hts.2]
    exact .pure rfl
  have hfallback : Takes (tokensOf do
      if ← punct? "=" then
        let _ ← g.type true) u u :=
    Reads.tokensOf ((Reads.punct?_of_not hequals).step .done)
  refine (reads_peek (blind_punctuation ":")).2 ?_
  rw [if_pos (by simp)]
  refine Reads.bind_any (Reads.tokensOf ((Reads.punct (by decide) rfl).next
    (takes_boundsUntil hstop h hplus))) fun limits => ?_
  split
  · exact hfallback.bind_any fun _ => .done
  · exact hfallback.bind_any fun _ => .done

theorem takes_genericParam (hw : w.isName = true)
    (h : ∀ attributes, Takes (typeParam g attributes) ((Token.word w).bare :: ts) u) :
    Takes (genericParam g) ((Token.word w).bare :: ts) u := by
  refine Reads.bind_any (reads_outerAttributes_nil (by simp)).tokensOf fun attributes => ?_
  simpa [↓looks, hw] using h attributes

/-- One generic parameter. -/
theorem takes_generics (hts : (Parser.punctuation ">").holds ts = false)
    (h : Takes (genericParam g) ts ((Token.punct .greater joint).bare :: u)) :
    Takes (generics g) ((Token.punct .less joint').bare :: ts) u := by
  have hparams : Takes (genericParams g) ((Token.punct .less joint').bare :: ts) u := by
    simp [genericParams, ↓looks]
    refine Reads.map_any (Reads.takes (Reads.silently (P := fun _ => True) ?_))
    refine (Reads.punct (by decide) rfl).next (Reads.bind_any (u := (Token.punct .greater joint).bare :: u)
      (Separates.takes (Separates.last ?_ h ?_)) fun _ => (Reads.punct (by decide) rfl).next .done)
    · exact hts ▸ Reads.peekPunct
    · exact Reads.peekPunct
  exact hparams.bind_any fun _ => Reads.write.next .done

theorem takes_generics_none (hts : (Parser.punctuation "<").holds ts = false) :
    Takes (generics g) ts ts := by
  have hparams : Takes (genericParams g) ts ts := by
    simp [genericParams, ↓looks, hts]
    exact .done
  exact hparams.bind_any fun _ => Reads.write.next .done

/-! ### Conditions -/

theorem reads_peekConditionEnd_word :
    Reads peekConditionEnd ((Token.word w).bare :: ts) ((Token.word w).bare :: ts) (· = false) := by
  refine reads_atEnd.2 ((reads_peekAny (by simp)).2 ?_)
  simp
  exact (reads_peekPunctNot (f := Pure.pure)).2 (.pure (by simp))

theorem reads_peekConditionEnd_braces :
    Reads peekConditionEnd (groupOf .brace inner :: ts) (groupOf .brace inner :: ts) (· = true) := by
  refine reads_atEnd.2 ((reads_peekAny (by simp)).2 ?_)
  simp
  exact .pure rfl

theorem takes_condition (hw : w.isName = true)
    (htype : Takes (g.type true) ((Token.word w).bare :: (Token.punct .colon joint).bare :: ts)
      ((Token.punct .colon joint).bare :: ts))
    (hstop : Reads peekConditionEnd ts ts (· = false))
    (h : Takes (g.bound { constant := true }) ts u)
    (hplus : (Parser.punctuation "+").holds u = false) :
    Takes (condition g) ((Token.word w).bare :: (Token.punct .colon joint).bare :: ts) u := by
  have hquantifier : Takes (quantifier? g) ((Token.word w).bare :: (Token.punct .colon joint).bare :: ts)
      ((Token.word w).bare :: (Token.punct .colon joint).bare :: ts) := by
    simp [quantifier?, ↓looks, Word.is_eq_false hw, contextualWords]
    exact .done
  simp [condition, ↓looks]
  refine hquantifier.next (htype.next ((Reads.punct (by decide) rfl).next ?_))
  exact takes_boundsUntil hstop h hplus

/-- One condition, with a comma after it. -/
theorem takes_conditions (h : Takes (condition g) ts ((Token.punct .comma joint).bare :: u))
    (hts : Reads peekConditionEnd ts ts (· = false))
    (hu : Reads peekConditionEnd u u (· = true)) (hlt : u.length < ts.length) :
    Takes (conditions g) (wordToken "where" :: ts) u := by
  have hloop : Takes (loop do
      if ← peekConditionEnd then return none
      condition g
      if ← punct? "," then return some () else return none) ts u := by
    refine Loops.reads (Loops.any (Loops.cons (P := fun _ => True) ?_ hlt (.nil (hu.step ?_))))
    · refine hts.step (h.next ((Reads.punct?_of_after (by decide) rfl).step ?_))
      exact .pure ⟨(), rfl, trivial⟩
    · exact .pure rfl
  refine (reads_peek (blind_theWord _ _)).2 ?_
  rw [if_pos (by simp)]
  refine Reads.bind_any (u := u) (Reads.takes (Reads.silently (P := fun _ => True) ?_))
    fun _ => ?_
  · refine Reads.word.next ?_
    refine Reads.bind_any (u := u) (Reads.takes (Reads.silently (P := fun _ => True) ?_))
      fun _ => Reads.write.takes
    exact hloop.bind_any fun _ => .done
  · dsimp only
    split
    · exact Reads.write.next .done
    · exact .done

theorem takes_conditions_none (h : headsWord "where" ts = false) :
    Takes (conditions g) ts ts := by
  simp [conditions, ↓looks, h]
  exact .done

/-! ### Arguments -/

theorem takes_receiver :
    Takes (receiver g) ((Token.punct .ampersand joint).bare :: wordToken "self" :: u) u := by
  refine (Reads.punct?_of_after (by decide) rfl).step ((reads_peek blind_aLifetime).2 ?_)
  rw [if_neg (by simp)]
  refine (Reads.word?_of_not (by simp)).next ?_
  exact Reads.word.spanned.bind fun _ _ => .done

/-- A name is no receiver. -/
theorem fails_receiver (hw : w.isName = true) : Fails (receiver g) ((Token.word w).bare :: u) := by
  have hself : headsWord "self" ((Token.word w).bare :: u) = false := by
    simp [Word.is_eq_false hw, contextualWords]
  have hmut : headsWord "mut" ((Token.word w).bare :: u) = false := by
    simp [Word.is_eq_false hw, contextualWords]
  refine .after (Reads.punct?_of_not (by simp)) ?_
  rintro _ rfl
  refine .after (Reads.peek blind_aLifetime) ?_
  rintro _ rfl
  refine .after (Reads.word?_of_not hmut) ?_
  rintro _ rfl
  exact .bind (.get fun _ _ => .bind (.word hself))

theorem reads_argument_receiver :
    Reads (argument g) ((Token.punct .ampersand joint).bare :: wordToken "self" :: u) u fun a =>
      ∃ span, a = .receiver span := by
  refine (reads_outerAttributes_nil (by simp)).step ((Reads.punct?_of_not (by simp)).step ?_)
  simp only [Bool.false_eq_true, ↓reduceIte]
  refine (Reads.attempt_of_reads takes_receiver).bind ?_
  rintro _ ⟨span, rfl, -⟩
  exact .pure ⟨span, rfl⟩

theorem reads_argument_typed (hw : w.isName = true)
    (hpattern : Takes g.pattern ((Token.word w).bare :: (Token.punct .colon joint).bare :: ts)
      ((Token.punct .colon joint).bare :: ts))
    (hts : (Parser.punctuation "...").holds ts = false) (htype : Takes (g.type true) ts u) :
    Reads (argument g) ((Token.word w).bare :: (Token.punct .colon joint).bare :: ts) u
      (· = .typed) := by
  refine (reads_outerAttributes_nil (by simp)).step ((Reads.punct?_of_not (by simp)).step ?_)
  simp only [Bool.false_eq_true, ↓reduceIte]
  -- a receiver is tried first
  refine (Reads.attempt_of_fails (fails_receiver hw)).step ?_
  refine (reads_peek blind_aName).2 ((reads_peekSecond (blind_punctuation "<")).2 ?_)
  rw [if_neg (by simp [afterOne])]
  refine hpattern.next ((Reads.punct (by decide) rfl).next ((Reads.punct?_of_not hts).step ?_))
  exact htype.next (.pure rfl)

/-- The arguments of a function can be read to their end. -/
def TakesArguments (g : Grammar) (count : Nat) (received : Bool) (ts : Tokens) : Prop :=
  ∀ fuel, ts.length < fuel → Takes (argumentsFrom g count received fuel) ts []

namespace TakesArguments

variable {count : Nat} {received : Bool}

theorem nil : TakesArguments g count received [] := by
  intro fuel hfuel
  obtain ⟨fuel, rfl⟩ := Nat.exists_eq_add_one.2 (Nat.zero_lt_of_lt hfuel)
  refine reads_atEnd.2 ?_
  exact .done

theorem last (h : Reads (argument g) ts [] (· = .typed)) (hts : ts.isEmpty = false) :
    TakesArguments g count received ts := by
  intro fuel hfuel
  obtain ⟨fuel, rfl⟩ := Nat.exists_eq_add_one.2 (Nat.zero_lt_of_lt hfuel)
  refine reads_atEnd.2 ?_
  rw [hts, if_neg Bool.false_ne_true]
  refine h.step ?_
  simp [↓looks]
  exact .done

theorem cons (h : Reads (argument g) ts ((Token.punct .comma joint).bare :: u) (· = .typed))
    (hts : ts.isEmpty = false) (hlt : u.length < ts.length)
    (hmore : TakesArguments g (count + 1) received u) : TakesArguments g count received ts := by
  intro fuel hfuel
  obtain ⟨fuel, rfl⟩ := Nat.exists_eq_add_one.2 (Nat.zero_lt_of_lt hfuel)
  refine reads_atEnd.2 ?_
  rw [hts, if_neg Bool.false_ne_true]
  refine h.step ?_
  simp [↓looks]
  exact (Reads.punct (by decide) rfl).next (hmore fuel (by omega))

/-- A receiver alone. -/
theorem receiver (h : Reads (argument g) ts [] fun a => ∃ span, a = .receiver span)
    (hts : ts.isEmpty = false) : TakesArguments g 0 false ts := by
  intro fuel hfuel
  obtain ⟨fuel, rfl⟩ := Nat.exists_eq_add_one.2 (Nat.zero_lt_of_lt hfuel)
  refine reads_atEnd.2 ?_
  rw [hts, if_neg Bool.false_ne_true]
  refine h.bind ?_
  rintro _ ⟨span, rfl⟩
  simp [↓looks]
  exact .done

/-- A receiver before other arguments. -/
theorem receiver_cons
    (h : Reads (argument g) ts ((Token.punct .comma joint).bare :: u) fun a => ∃ span, a = .receiver span)
    (hts : ts.isEmpty = false) (hlt : u.length < ts.length) (hmore : TakesArguments g 1 true u) :
    TakesArguments g 0 false ts := by
  intro fuel hfuel
  obtain ⟨fuel, rfl⟩ := Nat.exists_eq_add_one.2 (Nat.zero_lt_of_lt hfuel)
  refine reads_atEnd.2 ?_
  rw [hts, if_neg Bool.false_ne_true]
  refine h.bind ?_
  rintro _ ⟨span, rfl⟩
  simp [↓looks]
  exact (Reads.punct (by decide) rfl).next (hmore fuel (by omega))

end TakesArguments

/-! ### Signatures -/

theorem reads_functionWords :
    Reads (functionWords false) (wordToken "fn" :: u) (wordToken "fn" :: u) (· = true) := by
  refine (Reads.word?_of_not (by simp)).next ((Reads.word?_of_not (by simp)).next ?_)
  refine (Reads.word?_of_not (by simp)).next ?_
  refine Reads.bind_any (u := wordToken "fn" :: u) ?_ fun _ => ?_
  · exact (Reads.word?_of_not (by simp)).step .done
  · exact Reads.peek (blind_theWord _ _)

theorem takes_signature (hw : w.isName = true)
    (hgenerics : Takes (generics g) u (groupOf .parenthesis inner :: vs))
    (harguments : TakesArguments g 0 false inner) {ts' : Tokens}
    (hreturn : Takes (returnType g true) vs ts') (hconditions : Takes (conditions g) ts' rest) :
    Takes (signature g false) (wordToken "fn" :: (Token.word w).bare :: u) rest := by
  refine reads_functionWords.next (Reads.word.next ((Reads.name hw).next (hgenerics.next ?_)))
  refine Reads.groupThen (P := fun _ => True) (Reads.get fun s hs => ?_) fun _ _ => ?_
  · exact harguments _ (by rw [← hs.rest, length_bareAll]; exact Nat.lt_succ_self _)
  · exact hreturn.next (hconditions.next .done)

end RecordStore.Source
