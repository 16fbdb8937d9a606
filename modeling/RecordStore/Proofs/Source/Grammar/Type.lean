import RecordStore.Proofs.Source.Grammar.Attribute
import RecordStore.Source.Grammar.Type

/-!
# Reading paths and types

What stands after a type must not be something that the type could go on with. Under that condition
a path with arguments, a reference and the empty tuple are read as types.
-/

namespace RecordStore.Source

open Source.Parser

variable {g : Grammar} {ts u rest inner : Tokens} {w : Word} {plus inExpression joint : Bool} {c : Sign}
  {n : String}

/-! ### The ends of types -/

/-- Nothing that a type could go on with. -/
structure EndsType (rest : Tokens) : Prop where
  less : (Parser.punctuation "<").holds rest = false
  colons : (Parser.punctuation "::").holds rest = false
  bang : (Parser.punctuation "!").holds rest = false
  plus : (Parser.punctuation "+").holds rest = false

namespace EndsType

theorem nil : EndsType [] := by constructor <;> simp

theorem punct (h : c.char ∉ ['<', ':', '!', '+']) : EndsType ((Token.punct c joint).bare :: rest) := by
  simp only [List.mem_cons, List.not_mem_nil, or_false, not_or] at h
  obtain ⟨hless, hcolon, hbang, hplus⟩ := h
  constructor <;> simp [Ne.symm hless, Ne.symm hcolon, Ne.symm hbang, Ne.symm hplus]

theorem colon : EndsType ((Token.punct .colon false).bare :: rest) := by constructor <;> simp

theorem word : EndsType ((Token.word w).bare :: rest) := by constructor <;> simp

theorem braces : EndsType (groupOf .brace inner :: rest) := by constructor <;> simp

end EndsType

/-! ### Paths -/

/-- The words that a type may start with here. -/
def Word.IsTypeName (w : Word) : Prop := w.isName = true ∨ w = .of "Self"

theorem reads_pathSegment_named (hw : w.IsTypeName)
    (hless : inExpression = false → (Parser.punctuation "<").holds rest = false)
    (hcolons : ¬((Parser.punctuation "::").holds rest = true ∧
      afterTwo (Parser.punctuation "<").holds rest = true)) :
    Reads (pathSegment g inExpression) ((Token.word w).bare :: rest) rest (· = { word := w }) := by
  rcases hw with hw | rfl
  · simp [pathSegment, ↓looks, Word.is_eq_false hw, contextualWords]
    refine (Reads.name hw).step ?_
    cases inExpression with
    | false =>
      simp [↓looks, hless rfl, hcolons]
      exact .pure rfl
    | true =>
      simp [↓looks, hcolons]
      exact .pure rfl
  · simp [pathSegment, ↓looks]
    refine Reads.wordOfAnyKind.step ?_
    cases inExpression with
    | false =>
      simp [↓looks, hless rfl, hcolons]
      exact .pure rfl
    | true =>
      simp [↓looks, hcolons]
      exact .pure rfl

theorem takes_pathSegment_applied (hw : w.isName = true)
    (hless : ((Parser.punctuation "<").holds ts &&
      !(["<=", "<<="].any fun l => (Parser.punctuation l).holds ts)) = true)
    (h : Takes (angledArguments g false) ts rest) :
    Takes (pathSegment g false) ((Token.word w).bare :: ts) rest := by
  simp [pathSegment, ↓looks, Word.is_eq_false hw, contextualWords]
  refine (Reads.name hw).step ?_
  rw [reads_peekPunctNot, hless, if_pos (by rfl)]
  exact h.map_any

theorem reads_path {P : PathSegment → Prop} (hts : (Parser.punctuation "::").holds ts = false)
    (h : Reads (pathSegment g inExpression) ts rest P)
    (hrest : (Parser.punctuation "::").holds rest = false) :
    Reads (path g inExpression) ts rest fun p => ∃ s, P s ∧ p = { segments := [s] } := by
  refine (Reads.punct?_of_not hts).step (h.bind fun s hs => ?_)
  refine Reads.step (Loops.reads (Loops.nil ?_)) (.pure ⟨s, hs, rfl⟩)
  rw [reads_peekPunct, reads_peekThird blind_parens, hrest, Bool.false_and, if_neg Bool.false_ne_true]
  exact .pure rfl

theorem reads_qualifiedPath {P : Path → Prop} (hts : (Parser.punctuation "<").holds ts = false)
    (h : Reads (path g inExpression) ts rest P) :
    Reads (qualifiedPath g inExpression) ts rest fun a => a.1 = none ∧ P a.2 := by
  refine Reads.bind (Reads.silently (P := fun a => a.1 = none ∧ P a.2) ?_) fun _ ha => .pure ha
  rw [reads_peekPunct, hts, if_neg Bool.false_ne_true]
  exact h.bind fun p hp => .pure ⟨rfl, hp⟩

/-! ### Generic arguments -/

theorem takes_genericArgument_lifetime (h : (Parser.punctuation "+").holds rest = false) :
    Takes (genericArgument g) ((Token.lifetime n).bare :: rest) rest := by
  simp [genericArgument, ↓looks, afterOne, h]
  exact Reads.lifetime.next .done

theorem takes_genericArgument_type (htype : Takes (g.type true) ts rest)
    (hlifetime : aLifetime.holds ts = false) (hconstant : [aLiteral, braces].any (·.holds ts) = false)
    (hequals : (Parser.punctuation "=").holds rest = false)
    (hcolon : (Parser.punctuation ":").holds rest = false) :
    Takes (genericArgument g) ts rest := by
  simp only [genericArgument, ↓reads_peek blind_aLifetime, ↓reads_peekSecond (blind_punctuation "+"),
    hlifetime, Bool.false_and, Bool.false_eq_true, ↓reduceIte]
  refine (reads_peekAny (by simp)).2 ?_
  rw [hconstant, if_neg Bool.false_ne_true]
  refine htype.bind_any fun t => ?_
  split
  · refine (Reads.punct?_of_not hequals).step ((Reads.punct?_of_not hcolon).step ?_)
    exact .done
  · exact .done

theorem takes_angledArguments {colons : Bool}
    (h : Separates (peekPunct ">") "," (captured (genericArgument g)) ts
      ((Token.punct .greater joint).bare :: rest)) {joint' : Bool} :
    Takes (angledArguments g colons) ((Token.punct .less joint').bare :: ts) rest := by
  refine Reads.bind_any (Reads.takes (Reads.silently (P := fun _ => True) ?_)) fun _ =>
    Reads.write.next .done
  refine (Reads.punct (by decide) rfl).next (h.takes.bind_any fun _ => ?_)
  exact (Reads.punct (by decide) rfl).next .done

/-! ### Types -/

theorem takes_type (h : Takes (typeForm g plus) ts rest) : Takes (type g plus) ts rest :=
  Reads.bind_any h.silently.takes fun _ => Reads.write.next .done

theorem reads_typeQuantifier (h : headsWord "for" ts = false) :
    Reads (typeQuantifier g) ts ts (· = []) := by
  refine reads_peekWord.2 ?_
  rw [h, if_neg Bool.false_ne_true]
  exact .pure rfl

theorem takes_pathType (hts : (Parser.punctuation "<").holds ts = false)
    (h : Takes (path g false) ts rest) (hrest : EndsType rest) :
    Takes (pathType g [] plus) ts rest := by
  refine (reads_qualifiedPath hts h).bind ?_
  rintro ⟨_, p⟩ ⟨rfl, -⟩
  simp [↓looks, hrest.bang, hrest.plus]
  exact .done

theorem takes_type_path (hw : w.IsTypeName)
    (h : Takes (path g false) ((Token.word w).bare :: ts) rest) (hrest : EndsType rest) :
    Takes (type g plus) ((Token.word w).bare :: ts) rest := by
  have hpath : Takes (pathType g [] plus) ((Token.word w).bare :: ts) rest :=
    takes_pathType (by simp) h hrest
  refine takes_type ?_
  rcases hw with hw | rfl
  · refine (reads_typeQuantifier (by simp [Word.is_eq_false hw, contextualWords])).step ?_
    simpa [↓looks, pointerWords, typeWords, Word.is_eq_false hw, contextualWords, hw] using hpath
  · refine (reads_typeQuantifier (by simp)).step ?_
    simpa [↓looks, pointerWords, typeWords] using hpath

/-- A type that is a word. -/
theorem takes_type_named (hw : w.IsTypeName) (hrest : EndsType rest) :
    Takes (type g plus) ((Token.word w).bare :: rest) rest := by
  refine takes_type_path hw
    (Reads.takes (reads_path (by simp) (reads_pathSegment_named hw ?_ ?_) hrest.colons)) hrest
  · exact fun _ => hrest.less
  · simp [hrest.colons]

/-- A type with arguments. -/
theorem takes_type_applied (hw : w.isName = true) {joint' : Bool}
    (h : Separates (peekPunct ">") "," (captured (genericArgument g)) ts
      ((Token.punct .greater joint).bare :: rest))
    (hts : ["<=", "<<="].any (fun l =>
      (Parser.punctuation l).holds ((Token.punct .less joint').bare :: ts)) = false)
    (hrest : EndsType rest) :
    Takes (type g plus) ((Token.word w).bare :: (Token.punct .less joint').bare :: ts) rest := by
  refine takes_type_path (.inl hw) ?_ hrest
  have hsegment : Takes (pathSegment g false)
      ((Token.word w).bare :: (Token.punct .less joint').bare :: ts) rest := by
    refine takes_pathSegment_applied hw ?_ (takes_angledArguments h)
    rw [hts]
    simp
  exact (reads_path (by simp) hsegment hrest.colons).takes

/-- The empty tuple. -/
theorem takes_type_unit : Takes (type g plus) (groupOf .parenthesis [] :: rest) rest := by
  refine takes_type ((reads_typeQuantifier (by simp)).step ?_)
  simp [↓looks]
  refine Reads.groupThen (Reads.captured (P := (· = .tuple)) ?_) fun a ha => ?_
  · rw [parenthesizedContent, reads_atEnd]
    exact .pure rfl
  · obtain ⟨_, content⟩ := a
    obtain rfl : _ = Parenthesized.tuple := ha
    exact .done

theorem takes_type_of_reference
    (h : Takes (referenceType g) ((Token.punct .ampersand joint).bare :: ts) rest) :
    Takes (type g plus) ((Token.punct .ampersand joint).bare :: ts) rest := by
  refine takes_type ((reads_typeQuantifier (by simp)).step ?_)
  simpa [↓looks, pointerWords, typeWords] using h

/-- A reference. -/
theorem takes_type_reference (h : Takes (g.type false) ts rest) (hlifetime : aLifetime.holds ts = false)
    (hmut : headsWord "mut" ts = false) :
    Takes (type g plus) ((Token.punct .ampersand joint).bare :: ts) rest := by
  refine takes_type_of_reference (Reads.bind_any (Reads.tokensOf (P := fun _ => True) ?_) fun _ => .done)
  refine (Reads.punct (by decide) rfl).next ?_
  rw [reads_peek blind_aLifetime, hlifetime, if_neg Bool.false_ne_true]
  exact (Reads.word?_of_not hmut).next (h.next .done)

/-- A reference with a lifetime. -/
theorem takes_type_reference_lifetime (h : Takes (g.type false) ts rest)
    (hmut : headsWord "mut" ts = false) :
    Takes (type g plus) ((Token.punct .ampersand joint).bare :: (Token.lifetime n).bare :: ts) rest := by
  refine takes_type_of_reference (Reads.bind_any (Reads.tokensOf (P := fun _ => True) ?_) fun _ => .done)
  refine (Reads.punct (by decide) rfl).next ?_
  rw [reads_peek blind_aLifetime, if_pos (by simp)]
  exact Reads.lifetime.next ((Reads.word?_of_not hmut).next (h.next .done))

/-! ### What a function answers -/

theorem takes_returnType (h : Takes (g.type plus) ts rest) :
    Takes (returnType g plus)
      ((Token.punct .minus true).bare :: (Token.punct .greater joint).bare :: ts) rest :=
  (Reads.punct?_of_after (by decide) rfl).step (h.bind_any fun _ => .done)

end RecordStore.Source
