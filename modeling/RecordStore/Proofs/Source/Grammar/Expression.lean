import RecordStore.Proofs.Source.Grammar.Type
import RecordStore.Proofs.Source.Number
import RecordStore.Source.Grammar.Expression

/-!
# Reading expressions

An expression of the kinds read here is a path with calls, fields, methods and marks after it, or a
reference to one. It ends where nothing is left, or at a comma or semicolon.
-/

namespace RecordStore.Source

open Source.Parser

variable {g : Grammar} {ts u vs rest inner : Tokens} {w : Word} {n : PlainName}
  {allowStruct joint : Bool} {form : ExpressionForm}

/-! ### The ends of expressions -/

/-- Nothing is left of what an expression stands in, or a comma or semicolon follows it. -/
inductive EndsExpression : Tokens → Prop
  | nil : EndsExpression []
  | comma (joint : Bool) (rest : Tokens) : EndsExpression ((Token.punct .comma joint).bare :: rest)
  | semicolon (joint : Bool) (rest : Tokens) : EndsExpression ((Token.punct .semicolon joint).bare :: rest)

theorem EndsExpression.reads_operator? (h : EndsExpression ts) :
    Reads operator? ts ts (· = none) := by
  refine Reads.get fun s hs => .pure ?_
  have hnone : (binaryOperators.find? fun op => (Parser.punctuation op.1).holds ts) = none := by
    cases h <;> simp [binaryOperators]
  rw [← hnone]
  congr 1
  funext op
  exact (blind_punctuation op.1).holds_of_at hs

theorem EndsExpression.reads_operators (h : EndsExpression ts) {base : Precedence} :
    Reads (operators g allowStruct base form) ts ts (· = form) := by
  refine Reads.get fun s hs => ?_
  rw [operatorsFrom]
  split
  · exact .pure rfl
  · refine h.reads_operator?.step ?_
    have hrest : (Parser.punctuation "=").holds ts = false ∧ (Parser.punctuation "..").holds ts = false ∧
        headsWord "as" ts = false := by
      cases h <;> simp
    simp [↓looks, hrest]
    exact .pure rfl

/-! ### Arguments -/

theorem takes_expressions (h : Separates atEnd "," (g.expr true) ts u) : Takes (expressions g) ts u :=
  h.commaSeparated.discard

/-! ### After an atom -/

/-- What follows an atom can be read. -/
def TakesTrailers (g : Grammar) (ts u : Tokens) : Prop :=
  ∀ fuel, ts.length < fuel → Reads (trailersFrom g .other fuel) ts u (· = .other)

namespace TakesTrailers

theorem nil (h : EndsExpression ts) : TakesTrailers g ts ts := by
  intro fuel hfuel
  obtain ⟨fuel, rfl⟩ := Nat.exists_eq_add_one.2 (Nat.zero_lt_of_lt hfuel)
  cases h <;>
  · simp [trailersFrom, ↓looks]
    exact .pure rfl

/-- A call. -/
theorem call (hinner : Takes (expressions g) inner []) (h : TakesTrailers g ts u) :
    TakesTrailers g (groupOf .parenthesis inner :: ts) u := by
  intro fuel hfuel
  obtain ⟨fuel, rfl⟩ := Nat.exists_eq_add_one.2 (Nat.zero_lt_of_lt hfuel)
  simp [trailersFrom, ↓looks]
  exact (Reads.group hinner).next (h fuel (by simpa using hfuel))

/-- A mark that ends a function early. -/
theorem mark (h : TakesTrailers g ts u) : TakesTrailers g ((Token.punct .mark joint).bare :: ts) u := by
  intro fuel hfuel
  obtain ⟨fuel, rfl⟩ := Nat.exists_eq_add_one.2 (Nat.zero_lt_of_lt hfuel)
  simp [trailersFrom, ↓looks]
  exact (Reads.punct (by decide) rfl).next (h fuel (by simpa using hfuel))

/-- A member, with what belongs to it. -/
theorem point (hmember : Takes (afterPoint g) ts u) (hlt : u.length ≤ ts.length) (h : TakesTrailers g u vs) :
    TakesTrailers g ((Token.punct .point false).bare :: ts) vs := by
  intro fuel hfuel
  obtain ⟨fuel, rfl⟩ := Nat.exists_eq_add_one.2 (Nat.zero_lt_of_lt hfuel)
  simp [trailersFrom, ↓looks]
  exact (Reads.punct (by decide) rfl).next (hmember.next (h fuel (by simp at hfuel; omega)))

theorem reads (h : TakesTrailers g ts u) : Reads (trailers g .other) ts u (· = .other) :=
  Reads.get fun s hs => h _ (by rw [← hs.rest, length_bareAll]; exact Nat.lt_succ_self _)

end TakesTrailers

theorem reads_member_name (hw : w.isName = true) :
    Reads member ((Token.word w).bare :: u) u (· = true) := by
  simp [member, ↓looks, hw]
  exact (Reads.name hw).map fun _ _ => rfl

/-- A member is looked at only after the point. -/
theorem takes_afterPoint_word (h : Takes (memberAccess g) ((Token.word w).bare :: ts) u) :
    Takes (afterPoint g) ((Token.word w).bare :: ts) u := by
  intro s hs
  obtain ⟨t, span, tail, hrest, ht, -⟩ := bareAll_eq_token hs.rest
  obtain rfl := Token.blank_eq_word.1 ht
  rw [show (afterPoint g).run s = (memberAccess g).run s by simp [afterPoint, hrest]]
  exact h s hs

/-- A field with a name. -/
theorem takes_afterPoint_field (hw : w.isName = true)
    (hcolons : (Parser.punctuation "::").holds ts = false)
    (hparens : (aGroup .parenthesis).holds ts = false) :
    Takes (afterPoint g) ((Token.word w).bare :: ts) ts := by
  refine takes_afterPoint_word ?_
  refine (Reads.word?_of_not (by simp [Word.is_eq_false hw, contextualWords])).step ?_
  refine (reads_member_name hw).step ?_
  simp [↓looks, hcolons, hparens]
  exact .done

/-- A method with its arguments. -/
theorem takes_afterPoint_method (hw : w.isName = true) (hinner : Takes (expressions g) inner []) :
    Takes (afterPoint g) ((Token.word w).bare :: groupOf .parenthesis inner :: ts) ts := by
  refine takes_afterPoint_word ?_
  refine (Reads.word?_of_not (by simp [Word.is_eq_false hw, contextualWords])).step ?_
  refine (reads_member_name hw).step ?_
  simp [↓looks]
  exact Reads.group hinner

theorem Literal.eq_of_blank {l : Literal} {i : Nat} (h : l.blank = .ofNat i) : l = .ofNat i := by
  rcases l with ⟨_ | _, _, _⟩ <;> first | exact h | cases h

theorem reads_member_position {i : Nat} (hi : i < UInt32.size) :
    Reads member ((Token.literal (.ofNat i)).bare :: u) u (· = false) := by
  have hinteger : Reads peekInteger ((Token.literal (.ofNat i)).bare :: u)
      ((Token.literal (.ofNat i)).bare :: u) (· = true) := by
    intro s hs
    obtain ⟨t, span, tail, hrest, ht, -⟩ := bareAll_eq_token hs.rest
    obtain ⟨l, rfl, hl⟩ := Token.blank_eq_literal.1 ht
    obtain rfl := Literal.eq_of_blank hl
    exact ⟨true, s, by simp [peekInteger, hrest]; rfl, hs, rfl⟩
  have hposition : Takes position ((Token.literal (.ofNat i)).bare :: u) u := by
    intro s hs
    obtain ⟨t, span, tail, hrest, ht, htail⟩ := bareAll_eq_token hs.rest
    obtain ⟨l, rfl, hl⟩ := Token.blank_eq_literal.1 ht
    obtain rfl := Literal.eq_of_blank hl
    refine ⟨(), { s with
      rest := tail, last := span.stop, written := integerToken i :: s.written }, ?_,
      ⟨htail, hs.leftover⟩, trivial⟩
    have hvalue : position? (Literal.ofNat i).text = .ok i := position?_toString hi
    simp only [position, StateT.run_bind, StateT.run_get, pure_bind, hrest, hvalue]
    rfl
  simp [member, ↓looks]
  refine hinteger.step ?_
  simp only [↓reduceIte]
  exact hposition.map fun _ _ => rfl

/-- A field by its position. -/
theorem takes_afterPoint_position {i : Nat} (hi : i < UInt32.size) :
    Takes (afterPoint g) ((Token.literal (.ofNat i)).bare :: ts) ts := by
  have haccess : Takes (memberAccess g) ((Token.literal (.ofNat i)).bare :: ts) ts := by
    refine (Reads.word?_of_not (by simp)).step ((reads_member_position hi).step ?_)
    simp [↓looks]
    exact .done
  intro s hs
  obtain ⟨t, span, tail, hrest, ht, -⟩ := bareAll_eq_token hs.rest
  obtain ⟨l, rfl, hl⟩ := Token.blank_eq_literal.1 ht
  obtain rfl := Literal.eq_of_blank hl
  rw [show (afterPoint g).run s = (memberAccess g).run s by simp [afterPoint, hrest, Literal.ofNat]]
  exact haccess s hs

/-! ### Atoms -/

/-- The words that an expression may start with here. -/
def Word.IsHead (w : Word) : Prop := (∃ n, w = .plain n) ∨ w = .of "Self" ∨ w = .of "self"

/-- The tokens of a path after its first word. -/
def colonTokens (words : List PlainName) : Tokens :=
  words.flatMap fun n =>
    [(Token.punct .colon true).bare, (Token.punct .colon false).bare, (Token.word (.plain n)).bare]

@[simp]
theorem colonTokens_nil : colonTokens [] = [] := rfl

@[simp]
theorem colonTokens_cons (n : PlainName) (words : List PlainName) :
    colonTokens (n :: words) = (Token.punct .colon true).bare :: (Token.punct .colon false).bare ::
      (Token.word (.plain n)).bare :: colonTokens words := rfl

/-- Nothing that a path in an expression could go on with. -/
structure EndsPath (rest : Tokens) : Prop where
  colons : (Parser.punctuation "::").holds rest = false
  bang : (Parser.punctuation "!").holds rest = false

theorem not_generic_colonTokens (words : List PlainName) (hrest : EndsPath rest) :
    ¬((Parser.punctuation "::").holds (colonTokens words ++ rest) = true ∧
      afterTwo (Parser.punctuation "<").holds (colonTokens words ++ rest) = true) := by
  cases words with
  | nil => simp [hrest.colons]
  | cons n words => simp [afterTwo]

theorem loops_pathSegments (words : List PlainName) (hrest : EndsPath rest) :
    Loops (do
      if (← peekPunct "::") && !(← peekThird parens) then
        Parser.punct "::"
        return some (← pathSegment g true)
      else return none) (colonTokens words ++ rest) rest fun _ => True := by
  induction words with
  | nil =>
    refine (Loops.nil ?_).any
    rw [colonTokens_nil, List.nil_append, reads_peekPunct, reads_peekThird blind_parens, hrest.colons,
      Bool.false_and, if_neg Bool.false_ne_true]
    exact .pure rfl
  | cons n words ih =>
    refine (Loops.cons (P := fun _ => True) ?_ (by simp; omega) ih).any
    rw [colonTokens_cons, List.cons_append, reads_peekPunct, reads_peekThird blind_parens,
      if_pos (by simp [afterTwo])]
    refine (Reads.punct (by decide) rfl).next ?_
    refine (reads_pathSegment_named (.inl rfl) (by simp) (not_generic_colonTokens words hrest)).step ?_
    exact .pure ⟨_, rfl, trivial⟩

theorem takes_path_head (hw : w.IsHead) (words : List PlainName) (hrest : EndsPath rest) :
    Takes (path g true) ((Token.word w).bare :: (colonTokens words ++ rest)) rest := by
  have hfirst : Takes (pathSegment g true) ((Token.word w).bare :: (colonTokens words ++ rest))
      (colonTokens words ++ rest) := by
    have hnot := not_generic_colonTokens words hrest
    rcases hw with ⟨n, rfl⟩ | rfl | rfl
    · exact (reads_pathSegment_named (.inl rfl) (by simp) hnot).takes
    · exact (reads_pathSegment_named (.inr rfl) (by simp) hnot).takes
    · simp [pathSegment, ↓looks]
      exact Reads.wordOfAnyKind.map fun _ _ => trivial
  refine (Reads.punct?_of_not (by simp)).step (hfirst.bind_any fun s => ?_)
  exact (loops_pathSegments words hrest).reads.bind_any fun _ => .done

/-- A path alone is an atom. -/
theorem reads_pathExpression (h : Takes (path g true) ((Token.word w).bare :: ts) u)
    (hbang : (Parser.punctuation "!").holds u = false) (hbraces : (aGroup .brace).holds u = false) :
    Reads (pathExpression g allowStruct) ((Token.word w).bare :: ts) u (· = .other) := by
  refine (reads_qualifiedPath (by simp) h).bind ?_
  rintro ⟨_, p⟩ ⟨rfl, -⟩
  refine Reads.write.next ?_
  simp [↓looks, hbang, hbraces]
  exact .pure rfl

/-- The fields of a struct, by names alone. -/
def TakesFields (g : Grammar) (ts : Tokens) : Prop :=
  ∀ fuel, ts.length < fuel → Takes (fieldValues g fuel) ts []

/-- One field, by its name alone. -/
theorem TakesFields.last (hw : w.isName = true) : TakesFields g [(Token.word w).bare] := by
  intro fuel hfuel
  obtain ⟨fuel, rfl⟩ := Nat.exists_eq_add_one.2 (Nat.zero_lt_of_lt hfuel)
  have hvalue : Takes (fieldValue g) [(Token.word w).bare] [] := by
    refine (reads_outerAttributes_nil (by simp)).next ((reads_member_name hw).step ?_)
    simp [↓looks]
    exact .done
  refine reads_atEnd.2 ?_
  refine (Reads.punct?_of_not (by simp)).step (hvalue.next ?_)
  refine reads_atEnd.2 ?_
  exact .done

/-- A struct by its fields. -/
theorem reads_pathExpression_record
    (h : Takes (path g true) ((Token.word w).bare :: ts) (groupOf .brace inner :: u))
    (hinner : TakesFields g inner) :
    Reads (pathExpression g true) ((Token.word w).bare :: ts) u (· = .other) := by
  refine (reads_qualifiedPath (by simp) h).bind ?_
  rintro ⟨_, p⟩ ⟨rfl, -⟩
  refine Reads.write.next ?_
  simp [↓looks]
  refine Reads.map (P := fun _ => True) (Reads.group (Reads.get fun s hs => ?_)) fun _ _ => rfl
  exact hinner _ (by rw [← hs.rest, length_bareAll]; exact Nat.lt_succ_self _)

/-- No closure starts like a path. -/
theorem reads_peekClosure (hw : w.IsHead) :
    Reads peekClosure ((Token.word w).bare :: ts) ((Token.word w).bare :: ts) (· = false) := by
  rcases hw with ⟨n, rfl⟩ | rfl | rfl <;>
  · simp [peekClosure, ↓looks]
    exact .pure rfl

/-- A path is an atom: none of the words that other atoms start with can start a path. -/
theorem reads_atom (hw : w.IsHead)
    (h : Reads (pathExpression g allowStruct) ((Token.word w).bare :: ts) u (· = .other)) :
    Reads (atom g allowStruct) ((Token.word w).bare :: ts) u (· = .other) := by
  have hasync : Reads peekAsyncBlock ((Token.word w).bare :: ts) ((Token.word w).bare :: ts)
      (· = false) := by
    rcases hw with ⟨n, rfl⟩ | rfl | rfl <;>
    · simp [peekAsyncBlock, ↓looks]
      exact .pure rfl
  have hstart : Reads peekPathExpression ((Token.word w).bare :: ts) ((Token.word w).bare :: ts)
      (· = true) := by
    rcases hw with ⟨n, rfl⟩ | rfl | rfl <;>
    · simp [peekPathExpression, ↓looks, expressionWords]
      exact .pure rfl
  have hplain : Reads (plainAtom? g allowStruct) ((Token.word w).bare :: ts) u (· = some .other) := by
    rw [plainAtom?, reads_peek blind_aLiteral, if_neg]
    · refine hasync.step ((reads_peekClosure hw).step ?_)
      simp only [Bool.false_eq_true, ↓reduceIte]
      refine (reads_peek (blind_theWord _ _)).2 ((reads_peekSecond (blind_punctuation "#")).2 ?_)
      rw [if_neg (by rcases hw with ⟨n, rfl⟩ | rfl | rfl <;> simp)]
      refine hstart.step ?_
      simp only [↓reduceIte]
      exact h.bind fun _ ha => .pure (congrArg some ha)
    · rcases hw with ⟨n, rfl⟩ | rfl | rfl <;> simp
  exact hplain.step (.pure rfl)

/-- Calls and the like after an atom. -/
theorem reads_postfixed (hatom : Reads (atom g allowStruct) ts u (· = .other))
    (h : TakesTrailers g u rest) :
    Reads (postfixed g allowStruct false) ts rest (· = .other) := by
  have hpoints : Takes pointsAhead ts ts := by
    refine (Reads.ahead _).bind_any fun a => ?_
    rcases a with _ | ⟨_, span⟩ <;> exact .done
  refine hpoints.bind_any fun points => hatom.step ?_
  exact h.reads.step (.pure rfl)

/-! ### Expressions -/

theorem reads_unary
    (h : Reads (postfixed g allowStruct false) ((Token.word w).bare :: ts) u (· = .other)) :
    Reads (unary g allowStruct) ((Token.word w).bare :: ts) u (· = .other) := by
  refine (reads_outerAttributes_nil (by simp)).step ?_
  refine (Reads.punct?_of_not (by simp)).step ?_
  refine (Reads.punct?_of_not (by simp)).step ((Reads.punct?_of_not (by simp)).step
    ((Reads.punct?_of_not (by simp)).step ?_))
  exact h

/-- A reference to what an expression stands for. -/
theorem reads_unary_reference (h : Takes (g.unary allowStruct) ts u)
    (hts : afterOne (headsWord "mut") ts = false ∧ afterOne (headsWord "const") ts = false ∧
      headsWord "mut" ts = false) :
    Reads (unary g allowStruct) ((Token.punct .ampersand joint).bare :: ts) u (· = .other) := by
  obtain ⟨hmut, hconst, hchanging⟩ := hts
  refine (reads_outerAttributes_nil (by simp)).step ?_
  refine (Reads.punct?_of_after (by decide) rfl).step ?_
  simp [↓looks, hmut, hconst]
  refine (Reads.word?_of_not hchanging).step ?_
  exact h.map fun _ _ => rfl

theorem takes_expression (h : Reads (unary g allowStruct) ts u (· = .other)) (hu : EndsExpression u) :
    Takes (expression g allowStruct) ts u := by
  have hboth : Reads (do
      let form ← unary g allowStruct
      operators g allowStruct .jump form) ts u (· = .other) :=
    h.step hu.reads_operators
  exact hboth.captured.bind fun _ _ => .done

/-- The start of an expression of the kinds read here. -/
inductive StartsExpression : Tokens → Prop
  | reference (joint : Bool) (ts : Tokens) : StartsExpression ((Token.punct .ampersand joint).bare :: ts)
  | head {w : Word} (words : List PlainName) {rest : Tokens} (hw : w.IsHead) (hrest : EndsPath rest) :
    StartsExpression ((Token.word w).bare :: (colonTokens words ++ rest))

theorem StartsExpression.isEmpty (h : StartsExpression ts) : ts.isEmpty = false := by
  cases h <;> rfl

theorem StartsExpression.hash (h : StartsExpression ts) :
    (Parser.punctuation "#").holds ts = false := by
  cases h <;> simp

theorem StartsExpression.semicolon (h : StartsExpression ts) :
    (Parser.punctuation ";").holds ts = false := by
  cases h <;> simp

/-- An expression that starts a statement. -/
theorem reads_early (hts : StartsExpression ts) (h : Reads (unary g true) ts u (· = .other))
    (hu : EndsExpression u) : Reads (early g) ts u (· = .other) := by
  have hclosure : Reads peekClosure ts ts (· = false) := by
    rcases hts with _ | ⟨words, hw, hrest⟩
    · simp [peekClosure, ↓looks]
      exact .pure rfl
    · exact reads_peekClosure hw
  have hblock : Reads (blockExpression? g) ts ts (· = none) := by
    rcases hts with _ | ⟨words, hw, hrest⟩
    · simp [blockExpression?, ↓looks]
      exact .pure rfl
    · rcases hw with ⟨n, rfl⟩ | rfl | rfl <;>
      · simp [blockExpression?, ↓looks]
        exact .pure rfl
  refine (reads_outerAttributes_nil hts.hash).step (hclosure.step ?_)
  simp only [Bool.false_eq_true, ↓reduceIte]
  exact hblock.step (h.step hu.reads_operators)

end RecordStore.Source
