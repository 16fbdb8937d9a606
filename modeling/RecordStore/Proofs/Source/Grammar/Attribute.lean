import RecordStore.Proofs.Source.Reads
import RecordStore.Source.Grammar.Attribute
import RecordStore.Source.Lexeme

/-!
# Reading documentation

A comment that documents stands for an attribute, whatever it says. In front of what it is about any
number of them can be read.
-/

namespace RecordStore.Source

open Source.Parser

variable {g : Grammar} {u rest : Tokens} {w : Word}

/-- A string, whatever it says. -/
def textToken : TokenTree := (Token.literal .nothing).bare

/-- The attribute that a comment stands for. -/
def docTokens : Tokens :=
  [(Token.punct .hash false).bare,
    groupOf .bracket [(Token.word docWord).bare, (Token.punct .equals false).bare, textToken]]

/-- The attributes that some number of comments stand for. -/
def docsTokens (docs : Nat) : Tokens := (List.replicate docs docTokens).flatten

@[simp]
theorem docsTokens_zero : docsTokens 0 = [] := rfl

theorem docsTokens_succ (docs : Nat) : docsTokens (docs + 1) = docTokens ++ docsTokens docs := by
  rw [docsTokens, List.replicate_succ, List.flatten_cons, docsTokens]

/-! ### Plain paths -/

theorem reads_plainSegment?
    (hw : (aName :: pathWords).any (·.holds ((Token.word w).bare :: u)) = true) :
    Reads plainSegment? ((Token.word w).bare :: u) u (· = some { word := w }) := by
  refine (reads_peekAny (by simp [pathWords])).2 ?_
  rw [hw, if_pos rfl]
  exact Reads.wordOfAnyKind.bind fun _ ha => .pure (by rw [ha])

theorem takes_plainPath (hw : w.isName = true)
    (h : (Parser.punctuation "::").holds u = false) :
    Takes plainPath ((Token.word w).bare :: u) u := by
  refine (Reads.punct?_of_not (by simp)).step ?_
  refine (reads_plainSegment? (by simp [hw])).step (Reads.get fun s _ => ?_)
  rw [plainSegments]
  exact Reads.bind_any ((Reads.punct?_of_not h).step .done) fun _ => .done

/-! ### Attributes -/

theorem takes_attributeValue : Takes (attributeValue g) [textToken] [] := by
  have hform : Takes literalForm [textToken] [] := by
    refine Reads.literal.bind ?_
    rintro _ ⟨l, rfl, -⟩
    exact .done
  have hlast : Takes lastLiteral [textToken] [] := by
    refine hform.captured.bind fun _ _ => ?_
    rw [reads_atEnd, List.isEmpty_nil, if_pos rfl]
    exact .done
  refine (Reads.attempt_of_reads hlast).bind ?_
  rintro _ ⟨value, rfl, -⟩
  exact .done

theorem takes_outerAttribute : Takes (outerAttribute g) (docTokens ++ u) u := by
  refine (Reads.punct (by decide) rfl).next (Reads.map_any (Reads.group ?_))
  simp [attributeContent, ↓looks, docWord]
  refine Reads.bind_any (takes_plainPath rfl rfl) fun p => ?_
  simp [attributeAfter, ↓looks]
  exact (Reads.punct (by decide) rfl).next takes_attributeValue.map_any

theorem loops_docs (h : (Parser.punctuation "#").holds rest = false) (docs : Nat) :
    Loops (do if ← peekPunct "#" then return some (← outerAttribute g) else return none)
      (docsTokens docs ++ rest) rest fun _ => True := by
  induction docs with
  | zero =>
    refine (Loops.nil ?_).any
    rw [docsTokens_zero, List.nil_append, reads_peekPunct, h, if_neg Bool.false_ne_true]
    exact .pure rfl
  | succ docs ih =>
    rw [docsTokens_succ, List.append_assoc]
    refine (Loops.cons (P := fun _ => True) ?_ ?_ ih).any
    · rw [reads_peekPunct, if_pos (by rfl)]
      exact takes_outerAttribute.map fun a _ => ⟨a, rfl, trivial⟩
    · have hpos : 0 < docTokens.length := by decide
      simp only [List.length_append]
      omega

/-- Comments in front of what they are about. -/
theorem takes_outerAttributes (h : (Parser.punctuation "#").holds rest = false) (docs : Nat) :
    Takes (outerAttributes g) (docsTokens docs ++ rest) rest :=
  (loops_docs h docs).reads

theorem reads_outerAttributes_nil (h : (Parser.punctuation "#").holds rest = false) :
    Reads (outerAttributes g) rest rest (· = []) := by
  refine (Loops.nil ?_).reads
  rw [reads_peekPunct, h, if_neg Bool.false_ne_true]
  exact .pure rfl

theorem takes_innerAttributes
    (h : ((Parser.punctuation "#").holds rest && afterOne (Parser.punctuation "!").holds rest) = false) :
    Takes (innerAttributes g) rest rest := by
  refine Reads.bind_any (Loops.reads (Loops.nil ?_)).takes fun _ => .done
  simp only [↓reads_peekPunct, ↓reads_peekSecond (blind_punctuation "!"), h, Bool.false_eq_true,
    ↓reduceIte]
  exact .pure rfl

end RecordStore.Source
