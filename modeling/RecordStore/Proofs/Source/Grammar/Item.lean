import RecordStore.Proofs.Source.Grammar.Function
import RecordStore.Proofs.Source.Grammar.Statement
import RecordStore.Source.File

/-!
# Reading items

Imports, structs and implementations are read as items of a file. Of what is read only the structs
are kept, so only for them it matters what the answer is.
-/

namespace RecordStore.Source

open Source.Parser

variable {g : Grammar} {ts u vs rest inner : Tokens} {w : Word} {allowStruct joint : Bool}

/-! ### Strings as values -/

/-- A string is an expression. -/
theorem takes_expression_text (hu : EndsExpression u) :
    Takes (expression g allowStruct) (textToken :: u) u := by
  have hatom : Takes (atom g allowStruct) (textToken :: u) u := by
    have hplain : Reads (plainAtom? g allowStruct) (textToken :: u) u fun a => ∃ form, a = some form := by
      rw [plainAtom?, reads_peek blind_aLiteral, if_pos (by simp [textToken])]
      refine Reads.bind (P := fun _ => True) ?_ fun form _ => .pure ⟨form, rfl⟩
      refine Reads.literal.bind ?_
      rintro _ ⟨l, rfl, -⟩
      exact .done
    refine hplain.bind ?_
    rintro _ ⟨form, rfl⟩
    exact .done
  have htrailers (form : ExpressionForm) : Takes (trailers g form) u u := by
    refine Reads.get fun s hs => ?_
    cases hu <;>
    · simp [trailersFrom, ↓looks]
      exact .done
  have hpoints : Takes pointsAhead (textToken :: u) (textToken :: u) := by
    refine (Reads.ahead _).bind_any fun a => ?_
    rcases a with _ | ⟨_, span⟩ <;> exact .done
  have hunary : Takes (unary g allowStruct) (textToken :: u) u := by
    refine (reads_outerAttributes_nil (by simp [textToken])).step ?_
    refine (Reads.punct?_of_not (by simp [textToken])).step ?_
    refine (Reads.punct?_of_not (by simp [textToken])).step
      ((Reads.punct?_of_not (by simp [textToken])).step
        ((Reads.punct?_of_not (by simp [textToken])).step ?_))
    refine hpoints.bind_any fun points => hatom.bind_any fun form => ?_
    exact (htrailers form).bind_any fun _ => .done
  refine Reads.bind_any (u := u) (Reads.captured (P := fun _ => True) ?_).takes fun _ => .done
  exact hunary.bind_any fun form => hu.reads_operators.takes

/-! ### Who may use an item -/

theorem reads_visibility_pub (h : (aGroup .parenthesis).holds ts = false) :
    Reads visibility (wordToken "pub" :: ts) ts (· = false) := by
  refine Reads.word?_self.step (Reads.get fun s hs => ?_)
  rw [← (blind_aGroup .parenthesis).holds_of_at hs] at h
  rcases hrest : s.rest with _ | ⟨⟨t, span⟩ | ⟨_ | _ | _, o, c, content⟩, tail⟩
  · exact .pure rfl
  · exact .pure rfl
  · rw [hrest] at h
    cases h
  · exact .pure rfl
  · exact .pure rfl

theorem reads_visibility (h : headsWord "pub" ts = false) :
    Reads visibility ts ts (· = true) :=
  (Reads.word?_of_not h).step (.pure rfl)

/-! ### Imports -/

theorem takes_useTree_word (hw : w.isName = true) (hrest : (Parser.punctuation "::").holds u = false)
    (has : headsWord "as" u = false) {rooted : Bool} :
    Takes (useTree g rooted) ((Token.word w).bare :: u) u := by
  refine (reads_peekAny (by simp [importStarts])).2 ?_
  rw [if_pos (by simp [importStarts, hw])]
  refine Reads.wordOfAnyKind.next ((Reads.punct?_of_not hrest).step ((Reads.word?_of_not has).step ?_))
  exact .done

theorem takes_useTree_path (hw : w.isName = true) {rooted : Bool} (h : Takes (g.useTree false) ts u) :
    Takes (useTree g rooted) ((Token.word w).bare :: (Token.punct .colon true).bare ::
      (Token.punct .colon joint).bare :: ts) u := by
  refine (reads_peekAny (by simp [importStarts])).2 ?_
  rw [if_pos (by simp [importStarts, hw])]
  refine Reads.wordOfAnyKind.next ((Reads.punct?_of_after (by decide) rfl).step ?_)
  exact h

theorem takes_useTree_group (h : Separates atEnd "," (g.useTree false) inner []) :
    Takes (useTree g false) (groupOf .brace inner :: u) u := by
  refine (reads_peekAny (by simp [importStarts])).2 ?_
  rw [if_neg (by simp [importStarts])]
  refine (Reads.punct?_of_not (by simp)).step ((reads_peek blind_braces).2 ?_)
  rw [if_pos (by simp)]
  refine Reads.bind_any (Reads.group (P := fun _ => True) ?_) fun _ => .done
  exact Separates.commaSeparated h

theorem takes_importItem (hts : (Parser.punctuation "::").holds ts = false)
    (h : Takes (g.useTree true) ts ((Token.punct .semicolon joint).bare :: u)) :
    Takes (importItem g) (wordToken "use" :: ts) u := by
  refine Reads.word.next ((Reads.punct?_of_not hts).step (h.next ?_))
  exact (Reads.punct (by decide) rfl).takes

/-! ### Structs -/

/-- A field with a name. -/
theorem takes_namedField (hw : w.isName = true)
    (h : Takes (g.type true) ts u) :
    Takes (namedField g) ((Token.word w).bare :: (Token.punct .colon joint).bare :: ts) u := by
  have hname : Reads fieldName ((Token.word w).bare :: (Token.punct .colon joint).bare :: ts)
      ((Token.punct .colon joint).bare :: ts) (· = w) := by
    simp [fieldName, ↓looks, Word.is_eq_false hw, contextualWords]
    exact Reads.name hw
  refine Reads.bind_any (u := u) (Reads.spanned (P := fun _ => True) ?_).takes fun _ => .done
  refine (reads_outerAttributes_nil (by simp)).step ?_
  refine (reads_visibility (by simp [Word.is_eq_false hw, contextualWords])).next (hname.step ?_)
  refine (Reads.punct (by decide) rfl).next ?_
  refine (reads_peek (blind_theWord _ _)).2 ((reads_peekSecond blind_braces).2 ?_)
  refine (reads_peek (blind_theWord _ _)).2 ?_
  rw [Word.is_eq_false hw (by decide), Bool.false_and, if_neg Bool.false_ne_true]
  exact h.spanned.takes.bind_any fun _ => .done

/-- A struct with named fields. -/
theorem reads_structItem (hw : w.isName = true)
    (hgenerics : Takes (generics g) ts (groupOf .brace inner :: u))
    (hinner : Separates atEnd "," (namedField g) inner []) :
    Reads (structItem g) (wordToken "struct" :: (Token.word w).bare :: ts) u (·.name = w) := by
  have hbody : Takes (structBody g) (groupOf .brace inner :: u) u := by
    simp [structBody, ↓looks]
    exact (Reads.group hinner.commaSeparated).map_any
  refine Reads.word.next ((Reads.name hw).spanned.bind ?_)
  rintro ⟨_, span⟩ rfl
  exact hgenerics.bind_any fun params => hbody.bind_any fun _ => .pure rfl

/-! ### Items in braces -/

/-- Items one after the other, to the end of what they stand in. -/
def ReadsAll {α : Type} (item : Parser α) (ts : Tokens) (R : List α → Prop) : Prop :=
  Loops (do
    if ← atEnd then return none
    return some (← item)) ts [] R

namespace ReadsAll

variable {α : Type} {item : Parser α} {P : α → Prop} {R : List α → Prop}

theorem nil : ReadsAll item [] (· = []) := by
  refine Loops.nil (reads_atEnd.2 ?_)
  exact .pure rfl

theorem cons (hne : ts.isEmpty = false) (h : Reads item ts u P) (hlt : u.length < ts.length)
    (hmore : ReadsAll item u R) :
    ReadsAll item ts fun as => ∃ a more, as = a :: more ∧ P a ∧ R more := by
  refine Loops.cons (reads_atEnd.2 ?_) hlt hmore
  rw [hne, if_neg Bool.false_ne_true]
  exact h.bind fun a ha => .pure ⟨a, rfl, ha⟩

theorem any (h : ReadsAll item ts R) : ReadsAll item ts fun _ => True := Loops.any h

theorem reads (h : ReadsAll item ts R) : Reads (untilEnd item) ts [] R := Loops.reads h

end ReadsAll

theorem takes_itemsInBraces {item : Parser Unit} (h : ReadsAll item inner fun _ => True)
    (hinner : ((Parser.punctuation "#").holds inner &&
      afterOne (Parser.punctuation "!").holds inner) = false) :
    Takes (itemsInBraces g item) (groupOf .brace inner :: u) u := by
  refine Reads.group ((takes_innerAttributes hinner).next ?_)
  exact h.reads.bind_any fun _ => .done

/-! ### Implementations -/

theorem takes_functionBody (h : Takes g.statements inner [])
    (hinner : (Parser.punctuation "#").holds inner = false) :
    Takes (functionBody g) (groupOf .brace inner :: u) u :=
  Reads.group ((takes_innerAttributes (by rw [hinner, Bool.false_and])).next h)

/-- A public function of an implementation. -/
theorem takes_implItem_function (docs : Nat) (hsignature : Takes (signature g false) (wordToken "fn" :: ts)
      (groupOf .brace inner :: u)) (hbody : Takes (functionBody g) (groupOf .brace inner :: u) u)
    (hts : (Parser.punctuation "!").holds ts = false) :
    Takes (implItem g) (docsTokens docs ++ wordToken "pub" :: wordToken "fn" :: ts) u := by
  refine (takes_outerAttributes (by simp) docs).next ?_
  refine (reads_visibility_pub (by simp)).step ?_
  refine (reads_peekSecond (blind_punctuation "!")).2 ?_
  rw [show afterOne (Parser.punctuation "!").holds (wordToken "fn" :: ts) = false from hts,
    if_neg Bool.false_ne_true]
  refine (Reads.word?_of_not (by simp)).step ((reads_peek (blind_theWord _ _)).2 ?_)
  -- looking ahead for a function consumes nothing, whatever it finds
  have hahead : Takes (peekSignature false) (wordToken "fn" :: ts) (wordToken "fn" :: ts) :=
    (Reads.ahead _).bind_any fun _ => .done
  refine hahead.bind_any fun found => ?_
  rw [if_pos (by simp)]
  exact hsignature.next ((Reads.punct?_of_not (by simp)).step hbody)

/-- No function starts here, after a word for constants maybe. -/
theorem reads_peekSignature (hts : headsWord "const" ts = false)
    (h : headsWord "async" ts = false ∧ headsWord "unsafe" ts = false ∧
      headsWord "extern" ts = false ∧ headsWord "fn" ts = false) :
    Reads (peekSignature false) ts ts (· = false) ∧
      Reads (peekSignature false) (wordToken "const" :: ts) (wordToken "const" :: ts) (· = false) := by
  obtain ⟨hasync, hunsafe, hextern, hfn⟩ := h
  have hafter : Reads (do
      let _ ← word? "async"
      let marked ← if false then word? "safe" else pure false
      if !marked then
        let _ ← word? "unsafe"
      abi
      peekWord "fn") ts ts (· = false) := by
    refine (Reads.word?_of_not hasync).next ((Reads.word?_of_not hunsafe).next ?_)
    refine Reads.bind_any (u := ts) ((Reads.word?_of_not hextern).step .done) fun _ => ?_
    exact hfn ▸ Reads.peek (blind_theWord _ _)
  constructor
  · refine (Reads.ahead_of_reads (P := (· = false)) (u := ts) ?_).bind ?_
    · exact (Reads.word?_of_not hts).next hafter
    · rintro _ ⟨_, rfl, rfl⟩
      exact .pure rfl
  · refine (Reads.ahead_of_reads (P := (· = false)) (u := ts) ?_).bind ?_
    · exact Reads.word?_self.next hafter
    · rintro _ ⟨_, rfl, rfl⟩
      exact .pure rfl

/-- A public constant of an implementation. -/
theorem takes_implItem_constant (docs : Nat) (hw : w.isName = true) {joint₁ joint₂ joint₃ : Bool}
    {ts₁ ts₂ : Tokens}
    (htype : Takes (g.type true) ts₁ ((Token.punct .equals joint₂).bare :: ts₂))
    (hvalue : Takes (g.expr true) ts₂ ((Token.punct .semicolon joint₃).bare :: u)) :
    Takes (implItem g) (docsTokens docs ++ wordToken "pub" :: wordToken "const" ::
      (Token.word w).bare :: (Token.punct .colon joint₁).bare :: ts₁) u := by
  have hconstant : Takes (constantAfterWord g)
      ((Token.word w).bare :: (Token.punct .colon joint₁).bare :: ts₁) u := by
    have hname : Takes constantName ((Token.word w).bare :: (Token.punct .colon joint₁).bare :: ts₁)
        ((Token.punct .colon joint₁).bare :: ts₁) := by
      simp [constantName, ↓looks, hw]
      exact Reads.map_any (Reads.wordOfAnyKind).takes
    refine hname.next ((takes_generics_none (by simp)).next ((Reads.punct (by decide) rfl).next ?_))
    refine htype.next ((Reads.punct?_of_after (by decide) rfl).step (hvalue.next ?_))
    exact (takes_conditions_none (by simp)).next (Reads.punct (by decide) rfl).takes
  refine (takes_outerAttributes (by simp) docs).next ?_
  refine (reads_visibility_pub (by simp)).step ?_
  refine (reads_peekSecond (blind_punctuation "!")).2 ?_
  rw [if_neg (by simp [afterOne])]
  refine (Reads.word?_of_not (by simp)).step ((reads_peek (blind_theWord _ _)).2 ?_)
  refine (reads_peekSignature ?_ ?_).2.step ?_
  · simp [Word.is_eq_false hw, contextualWords]
  · simp [Word.is_eq_false hw, contextualWords]
  · rw [if_neg (by simp)]
    exact Reads.word?_self.step hconstant

/-- The implementation of a type with one bounded parameter. -/
theorem takes_implementation (hw : w.isName = true) {joint₁ joint₂ : Bool} {ts' : Tokens}
    (hgenerics : Takes (generics g) ((Token.punct .less joint₁).bare :: (Token.word w).bare ::
      (Token.punct .colon joint₂).bare :: ts) u)
    (hcolons : (Parser.punctuation "::").holds ((Token.punct .colon joint₂).bare :: ts) = false)
    (hu : (Parser.punctuation "?").holds u = false ∧ headsWord "const" u = false ∧
      (Parser.punctuation "!").holds u = false)
    (htype : Takes (g.type true) u (groupOf .brace inner :: vs))
    (hitems : Takes (itemsInBraces g (implItem g)) (groupOf .brace inner :: vs) ts') :
    Takes (implementation g) (wordToken "impl" :: (Token.punct .less joint₁).bare ::
      (Token.word w).bare :: (Token.punct .colon joint₂).bare :: ts) ts' := by
  obtain ⟨hmark, hconst, hbang⟩ := hu
  -- a name and one colon tell parameters from a path in angle brackets
  have hparams : Reads peekParams
      ((Token.punct .less joint₁).bare :: (Token.word w).bare ::
        (Token.punct .colon joint₂).bare :: ts)
      ((Token.punct .less joint₁).bare :: (Token.word w).bare ::
        (Token.punct .colon joint₂).bare :: ts) (· = true) := by
    have hsingle : (if joint₂ = true then afterPunct? [':'] ts else none).isNone = true := by
      simpa using hcolons
    simp [peekParams, ↓looks, afterOne, afterTwo, hw, hsingle, Word.is_eq_false hw,
      contextualWords]
    exact (Reads.peekThird (blind_punctuation _)).map fun _ _ => rfl
  refine (Reads.word?_of_not (by simp)).next ?_
  refine (Reads.word?_of_not (by simp)).next (Reads.word.next (hparams.step ?_))
  simp only [↓reduceIte]
  refine hgenerics.bind_any fun _ => ?_
  refine (reads_peek (blind_punctuation "?")).2 ((reads_peekSecond (blind_theWord _ _)).2 ?_)
  rw [hmark, Bool.false_and, if_neg Bool.false_ne_true]
  refine (Reads.word?_of_not hconst).next ?_
  refine (reads_peek (blind_punctuation "!")).2 ((reads_peekSecond blind_braces).2 ?_)
  rw [hbang, Bool.false_and, if_neg Bool.false_ne_true]
  refine Reads.step (.pure rfl) (htype.next ((Reads.word?_of_not (by simp)).step ?_))
  exact (takes_conditions_none (by simp)).next hitems

/-! ### Items of a file -/

theorem reads_item_struct {P : StructItem → Prop}
    (h : Reads (structItem g) (wordToken "struct" :: ts) u P) :
    Reads (item g) (wordToken "pub" :: wordToken "struct" :: ts) u fun a =>
      ∃ s, a = .struct s ∧ P s := by
  refine Reads.get fun _ _ => (reads_visibility_pub (by simp)).step ?_
  refine (reads_peek (blind_theWord _ _)).2 ?_
  rw [if_pos (by simp)]
  exact h.bind fun s hs => .pure ⟨s, rfl, hs⟩

/-- An import or an implementation, of which nothing is kept. -/
theorem reads_item_other {text : String} {known : isKnown text = true} {p : Parser Unit}
    (hp : text = "use" ∧ p = importItem g ∨ text = "impl" ∧ p = implementation g)
    (h : Takes p (wordToken text known :: ts) u) :
    Reads (item g) (wordToken text known :: ts) u (· = .other) := by
  rcases hp with ⟨rfl, rfl⟩ | ⟨rfl, rfl⟩ <;>
  · refine Reads.get fun _ _ => (reads_visibility (by simp)).step ?_
    refine (reads_peek (blind_theWord _ _)).2 ?_
    rw [if_neg (by simp)]
    refine Reads.next (P := fun _ => True) (u := u) ?_ (.pure rfl)
    refine (reads_peek (blind_theWord _ _)).2 ((reads_peekSignature ?_ ?_).1.step ?_)
    · simp
    · simp
    · rw [if_neg (by simp)]
      simpa [↓looks] using h

/-! ### Files -/

/-- An item of a file, with the comments in front of it. -/
def fileItem (g : Grammar) : Parser Item := do
  let _ ← outerAttributes g
  item g

theorem reads_fileItem {P : Item → Prop} (docs : Nat) (hts : (Parser.punctuation "#").holds ts = false)
    (h : Reads (item g) ts u P) : Reads (fileItem g) (docsTokens docs ++ ts) u P :=
  (takes_outerAttributes hts docs).next h

theorem reads_fileItems {R : List Item → Prop} (h : ReadsAll (fileItem g) ts R)
    (hts : ((Parser.punctuation "#").holds ts && afterOne (Parser.punctuation "!").holds ts) = false) :
    Reads (fileItems g) ts [] fun f => R f.items := by
  refine (takes_innerAttributes hts).next (h.reads.bind fun items hitems => ?_)
  exact .pure hitems

/-- What reads trees to their end succeeds on them as a whole. -/
theorem Reads.runAll {α : Type} {p : Parser α} {P : α → Prop} {scope : Span} {tokens : Tokens}
    (h : Reads p (bareAll tokens) [] P) : ∃ a, Parser.runAll p scope tokens = .ok a ∧ P a := by
  obtain ⟨a, s, hrun, hs, ha⟩ := h { rest := tokens, scope } ⟨rfl, rfl⟩
  refine ⟨a, ?_, ha⟩
  rw [Parser.runAll, hrun]
  simp [hs.leftover, bareAll_eq_nil hs.rest]

end RecordStore.Source
