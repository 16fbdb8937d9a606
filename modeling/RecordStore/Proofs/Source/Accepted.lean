import RecordStore.Proofs.Source.Program
import RecordStore.Proofs.Source.Grammar.Item

/-!
# Small programs are read

Whatever the names are, every small program is read as a source file with the one struct that it
declares (`RecordStore.Source.Program.reads`). The proof goes along the syntax of programs: there is
one lemma for each kind of construct, and it needs as many levels of the grammar as the construct is
deep.
-/

namespace RecordStore.Source

open Source.Parser

variable {N : StoreNames} {rest : Tokens} {n : Nat} {plus joint : Bool}

/-! ### Types -/

/-- The word of the name of a type. -/
def TypeName.word (names : StoreNames) : TypeName → Word
  | plain n => .plain n
  | self => .of "Self"
  | stored => names.stored

theorem TypeName.tree_shape (t : TypeName) : t.shape.tree N = (Token.word (t.word N)).bare := by
  cases t <;> rfl

theorem TypeName.isTypeName (t : TypeName) : (t.word N).IsTypeName := by
  cases t with
  | plain n => exact .inl rfl
  | self => exact .inr rfl
  | stored => exact .inl N.isName

namespace TypeTree

/-- No type starts like one of the other arguments in angle brackets, nor like a mutable one. -/
theorem starts (t : TypeTree) (joint : Bool) (rest : Tokens) :
    aLifetime.holds (trees N (t.shapes joint) ++ rest) = false ∧
      [aLiteral, braces].any (·.holds (trees N (t.shapes joint) ++ rest)) = false ∧
      headsWord "mut" (trees N (t.shapes joint) ++ rest) = false ∧
      (Parser.punctuation ">").holds (trees N (t.shapes joint) ++ rest) = false ∧
      (Parser.punctuation "...").holds (trees N (t.shapes joint) ++ rest) = false ∧
      (Parser.punctuation "=").holds (trees N (t.shapes joint) ++ rest) = false ∧
      (trees N (t.shapes joint) ++ rest).isEmpty = false := by
  cases t with
  | named t =>
    rw [shapes, trees, t.tree_shape]
    cases t <;> simp [TypeName.word, Word.is_eq_false N.isName, contextualWords]
  | applied m elided argument => simp [shapes]
  | reference lifetime target => cases lifetime <;> simp [shapes]
  | unit => simp [shapes]

/-- A type as an argument of another one. -/
theorem takes_argument {argument : TypeTree} {joint' : Bool}
    (h : ∀ {rest plus joint}, EndsType rest →
      Takes (type (.level n) plus) (trees N (argument.shapes joint) ++ rest) rest) :
    Separates (peekPunct ">") "," (captured (genericArgument (.level (n + 1))))
      (trees N (argument.shapes joint) ++ (Token.punct .greater joint').bare :: rest)
      ((Token.punct .greater joint').bare :: rest) := by
  obtain ⟨hlifetime, hconstant, -, hgreater, -⟩ :=
    argument.starts (N := N) joint ((Token.punct .greater joint').bare :: rest)
  have htype : Takes ((Grammar.level (n + 1)).type true)
      (trees N (argument.shapes joint) ++ (Token.punct .greater joint').bare :: rest)
      ((Token.punct .greater joint').bare :: rest) :=
    h (EndsType.punct (by decide))
  have hargument := (takes_genericArgument_type htype hlifetime hconstant (by simp) (by simp)).captured
  exact .last (hgreater ▸ Reads.peekPunct) hargument Reads.peekPunct

theorem takes (t : TypeTree) (ht : t.depth ≤ n) (hrest : EndsType rest) :
    Takes (type (.level n) plus) (trees N (t.shapes joint) ++ rest) rest := by
  induction t generalizing n rest plus joint with
  | named t =>
    rw [shapes, trees, t.tree_shape]
    exact takes_type_named t.isTypeName hrest
  | applied m elided argument ih =>
    obtain ⟨n, rfl⟩ := Nat.exists_eq_add_one.2 (Nat.zero_lt_of_lt ht)
    have hargument {joint' : Bool} :
        Separates (peekPunct ">") "," (captured (genericArgument (.level (n + 1))))
          (trees N (argument.shapes true) ++ (Token.punct .greater joint').bare :: rest)
          ((Token.punct .greater joint').bare :: rest) :=
      takes_argument (ih (Nat.le_of_succ_le_succ ht))
    cases elided with
    | false =>
      have happlied : Takes (type (.level (n + 1)) plus)
          ((Token.word (.plain m)).bare :: (Token.punct .less false).bare ::
            (trees N (argument.shapes true) ++ (Token.punct .greater joint).bare :: rest)) rest :=
        takes_type_applied rfl hargument (by simp) hrest
      simpa [shapes] using happlied
    | true =>
      have hlifetime : Takes (captured (genericArgument (.level (n + 1))))
          ((Token.lifetime "_").bare :: (Token.punct .comma false).bare ::
            (trees N (argument.shapes true) ++ (Token.punct .greater joint).bare :: rest))
          ((Token.punct .comma false).bare ::
            (trees N (argument.shapes true) ++ (Token.punct .greater joint).bare :: rest)) :=
        (takes_genericArgument_lifetime (by simp)).captured.takes
      have happlied : Takes (type (.level (n + 1)) plus)
          ((Token.word (.plain m)).bare :: (Token.punct .less true).bare ::
            (Token.lifetime "_").bare :: (Token.punct .comma false).bare ::
              (trees N (argument.shapes true) ++ (Token.punct .greater joint).bare :: rest)) rest :=
        takes_type_applied rfl (.cons Reads.peekPunct hlifetime Reads.peekPunct
          (Reads.punct (by decide) rfl) (by simp only [List.length_cons]; omega) hargument) (by simp) hrest
      simpa [shapes, elidedLifetime] using happlied
  | reference lifetime target ih =>
    obtain ⟨n, rfl⟩ := Nat.exists_eq_add_one.2 (Nat.zero_lt_of_lt ht)
    have htarget : Takes ((Grammar.level (n + 1)).type false) (trees N (target.shapes joint) ++ rest) rest :=
      ih (Nat.le_of_succ_le_succ ht) hrest
    obtain ⟨hlifetime, -, hmut, -⟩ := target.starts (N := N) joint rest
    cases lifetime with
    | none => exact takes_type_reference htarget hlifetime hmut
    | some l => exact takes_type_reference_lifetime htarget hmut
  | unit => exact takes_type_unit

end TypeTree

/-! ### Expressions -/

/-- The word that a path starts with. -/
def Head.word : Head → Word
  | name n => .plain n
  | self => .of "self"
  | type => .of "Self"

theorem Head.tree_shape (h : Head) : h.shape.tree N = (Token.word h.word).bare := by
  cases h <;> rfl

theorem Head.isHead (h : Head) : h.word.IsHead := by
  cases h with
  | name n => exact .inl ⟨n, rfl⟩
  | self => exact .inr (.inr rfl)
  | type => exact .inr (.inl rfl)

theorem trees_pathShapes (ns : List PlainName) : trees N (pathShapes ns) = colonTokens ns := by
  induction ns with
  | nil => rfl
  | cons n ns ih =>
    rw [pathShapes, List.flatMap_cons, trees_append, ← pathShapes, ih]
    rfl

theorem Trailers.ends (t : Trailers) (hrest : EndsExpression rest) :
    EndsPath (trees N t.shapes ++ rest) ∧
      (aGroup .brace).holds (trees N t.shapes ++ rest) = false ∧
      (aGroup .parenthesis).holds (trees N t.shapes ++ rest) = false := by
  cases t with
  | nil => cases hrest <;> exact ⟨⟨by simp [shapes], by simp [shapes]⟩, by simp [shapes]⟩
  | _ => exact ⟨⟨by simp [shapes], by simp [shapes]⟩, by simp [shapes]⟩

/-- What an expression starts with. -/
theorem Expr.starts (e : Expr) (hrest : EndsExpression rest) :
    StartsExpression (trees N e.shapes ++ rest) := by
  cases e with
  | reference target => exact .reference _ _
  | record field =>
    have hstart : StartsExpression ((Token.word (.of "Self")).bare :: (colonTokens [] ++
        groupOf .brace (trees N [field.shape]) :: rest)) :=
      .head [] (.inr (.inl rfl)) ⟨by simp, by simp⟩
    simpa [shapes] using hstart
  | path head ns more =>
    have hstart := StartsExpression.head ns head.isHead (more.ends (N := N) hrest).1
    simpa [shapes, head.tree_shape, trees_pathShapes] using hstart
  | call head ns arguments more =>
    have hends : EndsPath (groupOf .parenthesis (trees N arguments.shapes) ::
        (trees N more.shapes ++ rest)) := ⟨by simp, by simp⟩
    have hstart := StartsExpression.head ns head.isHead hends
    simpa [shapes, head.tree_shape, trees_pathShapes] using hstart

/-- No word follows a path or call. -/
theorem Trailers.no_word (t : Trailers) (hrest : EndsExpression rest) (text : String) :
    headsWord text (trees N t.shapes ++ rest) = false := by
  cases t with
  | nil => cases hrest <;> simp [shapes]
  | _ => simp [shapes]

/-- No reference is taken to a place that may be changed. -/
theorem Expr.not_mut (e : Expr) (hrest : EndsExpression rest) :
    afterOne (headsWord "mut") (trees N e.shapes ++ rest) = false ∧
      afterOne (headsWord "const") (trees N e.shapes ++ rest) = false ∧
      headsWord "mut" (trees N e.shapes ++ rest) = false := by
  have hhead (head : Head) : head.word.is "mut" = false := by cases head <;> rfl
  cases e with
  | reference target =>
    have htarget (text : String) (htext : text ∉ ["self", "Self"]) :
        headsWord text (trees N target.shapes ++ rest) = false := by
      simp only [List.mem_cons, List.not_mem_nil, or_false, not_or] at htext
      have hstart := target.starts (N := N) hrest
      generalize trees N target.shapes ++ rest = ts at hstart ⊢
      cases hstart with
      | reference => simp
      | head words hw => rcases hw with ⟨n, rfl⟩ | rfl | rfl <;> simp [Ne.symm htext.1, Ne.symm htext.2]
    simp [shapes, afterOne, htarget]
  | record field => simp [shapes, afterOne]
  | path head ns more =>
    cases ns with
    | nil => simp [shapes, head.tree_shape, hhead, pathShapes, afterOne, more.no_word hrest]
    | cons n ns => simp [shapes, head.tree_shape, hhead, trees_pathShapes, afterOne]
  | call head ns arguments more =>
    cases ns with
    | nil => simp [shapes, head.tree_shape, hhead, pathShapes, afterOne]
    | cons n ns => simp [shapes, head.tree_shape, hhead, trees_pathShapes, afterOne]

-- A reference and an argument each take a level of the grammar. What trails a path or a call does not:
-- it is read in a loop, at the level of the path.
mutual

theorem Expr.reads {n : Nat} {rest : Tokens} (e : Expr) (he : e.depth ≤ n) (hrest : EndsExpression rest) :
    Reads (unary (.level n) true) (trees N e.shapes ++ rest) rest (· = .other) := by
  cases e with
  | reference target =>
    obtain ⟨n, rfl⟩ := Nat.exists_eq_add_one.2 (Nat.zero_lt_of_lt he)
    have htarget : Reads ((Grammar.level (n + 1)).unary true) (trees N target.shapes ++ rest) rest
        (· = .other) :=
      Expr.reads target (Nat.le_of_succ_le_succ he) hrest
    exact reads_unary_reference htarget.takes (target.not_mut hrest)
  | record field =>
    have hpath : Takes (path (.level n) true)
        ((Token.word (.of "Self")).bare :: groupOf .brace (trees N [field.shape]) :: rest)
        (groupOf .brace (trees N [field.shape]) :: rest) :=
      takes_path_head (.inr (.inl rfl)) [] ⟨by simp, by simp⟩
    have hatom := reads_atom (.inr (.inl rfl)) (reads_pathExpression_record hpath (.last rfl))
    exact reads_unary (reads_postfixed hatom (.nil hrest))
  | path head ns more =>
    obtain ⟨hends, hbraces, -⟩ := more.ends (N := N) hrest
    have hatom : Reads (atom (.level n) true)
        ((Token.word head.word).bare :: (colonTokens ns ++ (trees N more.shapes ++ rest)))
        (trees N more.shapes ++ rest) (· = .other) :=
      reads_atom head.isHead
        (reads_pathExpression (takes_path_head head.isHead ns hends) hends.bang hbraces)
    have hunary := reads_unary (reads_postfixed hatom (Trailers.takes more he hrest))
    simpa [Expr.shapes, head.tree_shape, trees_pathShapes] using hunary
  | call head ns arguments more =>
    have harguments : Takes (expressions (.level n)) (trees N arguments.shapes) [] :=
      takes_expressions (Arguments.separates arguments (Nat.le_trans (Nat.le_max_left _ _) he))
    have hatom : Reads (atom (.level n) true)
        ((Token.word head.word).bare :: (colonTokens ns ++
          groupOf .parenthesis (trees N arguments.shapes) :: (trees N more.shapes ++ rest)))
        (groupOf .parenthesis (trees N arguments.shapes) :: (trees N more.shapes ++ rest)) (· = .other) :=
      reads_atom head.isHead
        (reads_pathExpression (takes_path_head head.isHead ns ⟨by simp, by simp⟩) (by simp) (by simp))
    have hunary := reads_unary (reads_postfixed hatom
      (.call harguments (Trailers.takes more (Nat.le_trans (Nat.le_max_right _ _) he) hrest)))
    simpa [Expr.shapes, head.tree_shape, trees_pathShapes] using hunary

theorem Trailers.takes {n : Nat} {rest : Tokens} (t : Trailers) (ht : t.depth ≤ n)
    (hrest : EndsExpression rest) : TakesTrailers (.level n) (trees N t.shapes ++ rest) rest := by
  cases t with
  | nil => exact .nil hrest
  | field m more =>
    have hmore := Trailers.takes more ht hrest
    obtain ⟨⟨hcolons, -⟩, -, hparens⟩ := more.ends (N := N) hrest
    have hpoint {w : Word} (hw : w.isName = true) :
        TakesTrailers (.level n) ((Token.punct .point false).bare :: (Token.word w).bare ::
          (trees N more.shapes ++ rest)) rest :=
      .point (takes_afterPoint_field hw hcolons hparens) (Nat.le_succ _) hmore
    cases m with
    | name m => exact hpoint (w := .plain m) rfl
    | key =>
      -- a name and a position are tokens of different kinds
      simp only [Trailers.shapes, MemberName.shape, trees, Shape.tree, Leaf.token, List.cons_append]
      cases N.key with
      | name w isName => exact hpoint isName
      | position i fits => exact .point (takes_afterPoint_position fits) (Nat.le_succ _) hmore
  | method m arguments more =>
    have harguments : Takes (expressions (.level n)) (trees N arguments.shapes) [] :=
      takes_expressions (Arguments.separates arguments (Nat.le_trans (Nat.le_max_left _ _) ht))
    refine .point (takes_afterPoint_method rfl harguments) ?_
      (Trailers.takes more (Nat.le_trans (Nat.le_max_right _ _) ht) hrest)
    simp
    omega
  | mark more => exact .mark (Trailers.takes more ht hrest)

theorem Arguments.separates {n : Nat} (a : Arguments) (ha : a.depth ≤ n) :
    Separates atEnd "," ((Grammar.level n).expr true) (trees N a.shapes) [] := by
  cases a with
  | nil => exact .nil Reads.atEnd
  | cons e more =>
    obtain ⟨n, rfl⟩ : ∃ m, n = m + 1 :=
      Nat.exists_eq_add_one_of_ne_zero (Nat.ne_of_gt (Nat.lt_of_lt_of_le (Nat.succ_pos _)
        (Nat.le_trans (Nat.le_max_left _ _) ha)))
    have he {rest : Tokens} (hrest : EndsExpression rest) :
        Takes ((Grammar.level (n + 1)).expr true) (trees N e.shapes ++ rest) rest :=
      takes_expression (Expr.reads e (Nat.le_of_succ_le_succ (Nat.le_trans (Nat.le_max_left _ _) ha)) hrest)
        hrest
    cases more with
    | nil =>
      have hlast := he .nil
      have hne := (e.starts (N := N) .nil).isEmpty
      rw [List.append_nil] at hlast hne
      exact .last (hne ▸ Reads.atEnd) hlast Reads.atEnd
    | cons e' more =>
      have hne := (e.starts (N := N) (.comma false (trees N (Arguments.cons e' more).shapes))).isEmpty
      rw [Arguments.shapes, trees_append]
      · exact .cons (hne ▸ Reads.atEnd) (he (.comma false _)) Reads.atEnd (Reads.punct (by decide) rfl)
          (by simp; omega) (Arguments.separates (.cons e' more) (Nat.le_trans (Nat.le_max_right _ _) ha))
      · exact nofun

end

theorem Expr.takes (e : Expr) (he : e.depth ≤ n) (hrest : EndsExpression rest) :
    Takes ((Grammar.level (n + 1)).expr true) (trees N e.shapes ++ rest) rest :=
  takes_expression (e.reads he hrest) hrest

/-! ### Blocks -/

theorem takes_name_pattern (m : PlainName) {c : Sign} (hc : c ∈ [Sign.colon, .equals]) :
    Takes ((Grammar.level (n + 1)).pattern)
      ((Token.word (.plain m)).bare :: (Token.punct c false).bare :: rest)
      ((Token.punct c false).bare :: rest) := by
  have hpattern : Takes (pattern (.level n))
      ((Token.word (.plain m)).bare :: (Token.punct c false).bare :: rest)
      ((Token.punct c false).bare :: rest) := by
    refine reads_pattern rfl ?_
    simp only [List.mem_cons, List.not_mem_nil, or_false] at hc
    rcases hc with rfl | rfl <;> simp [afterPathWord]
  exact hpattern

theorem Binding.reads (b : Binding) (hb : b.depth ≤ n) :
    Reads (statement (.level n)) (trees N b.shapes ++ rest) rest (· = false) := by
  obtain ⟨n, rfl⟩ := Nat.exists_eq_add_one.2 (Nat.zero_lt_of_lt hb)
  have hmax := Nat.max_le.1 (Nat.le_of_succ_le_succ hb)
  have hvalue := b.value.takes (N := N) (n := n) hmax.2 (.semicolon false rest)
  have hname {c : Sign} {rest : Tokens} (hc : c ∈ [Sign.colon, .equals]) :
      Takes ((Grammar.level (n + 1)).pattern)
        ((Token.word (.plain b.name)).bare :: (Token.punct c false).bare :: rest)
        ((Token.punct c false).bare :: rest) :=
    takes_name_pattern b.name hc
  rcases b with ⟨name, _ | t, value⟩
  · have hlet := takes_letStatement (hname (by simp)) hvalue
    simpa [shapes, sign] using reads_statement_let hlet
  · have htype : Takes ((Grammar.level (n + 1)).type true)
        (trees N (t.shapes false) ++ (Token.punct .equals false).bare :: (trees N value.shapes ++
          (Token.punct .semicolon false).bare :: rest))
        ((Token.punct .equals false).bare :: (trees N value.shapes ++
          (Token.punct .semicolon false).bare :: rest)) :=
      t.takes hmax.1 (.punct (by decide))
    have hlet := takes_letStatement_typed (hname (by simp)) htype hvalue
    simpa [shapes, sign] using reads_statement_let hlet

theorem Block.isEmpty (b : Block) : (trees N b.shapes).isEmpty = false := by
  have hstart := (b.result.starts (N := N) .nil).isEmpty
  rw [List.append_nil] at hstart
  rw [shapes, trees_append]
  simp at hstart ⊢
  exact fun _ => hstart

theorem Block.takesStatements (b : Block) (hb : b.depth ≤ n) :
    TakesStatements (.level n) (trees N b.shapes) := by
  rcases b with ⟨bindings, result⟩
  induction bindings with
  | nil =>
    obtain ⟨n, rfl⟩ := Nat.exists_eq_add_one.2 (Nat.zero_lt_of_lt hb)
    have hstart := result.starts (N := N) .nil
    have hunary := result.reads (N := N) (Nat.le_of_succ_le_succ hb) .nil
    rw [List.append_nil] at hstart hunary
    have hearly : Reads ((Grammar.level (n + 1)).early) (trees N result.shapes) [] (· = .other) :=
      reads_early hstart hunary .nil
    exact .last hstart.semicolon hstart.isEmpty (reads_statement_expression hstart hearly)
  | cons b bindings ih =>
    have hmax := Nat.max_le.1 hb
    have hbinding : Reads (statement (.level n))
        (trees N b.shapes ++ trees N (Block.shapes ⟨bindings, result⟩))
        (trees N (Block.shapes ⟨bindings, result⟩)) (· = false) :=
      b.reads hmax.1
    have hshapes : trees N (Block.shapes ⟨b :: bindings, result⟩) =
        trees N b.shapes ++ trees N (Block.shapes ⟨bindings, result⟩) := by
      simp [shapes]
    rw [hshapes]
    refine .cons ?_ ?_ hbinding (Block.isEmpty _) ?_ (ih hmax.2)
    · simp [Binding.shapes]
    · simp [Binding.shapes]
    · simp [Binding.shapes]
      omega

/-- A block as the body of a function. -/
theorem Block.takes (b : Block) (hb : b.depth ≤ n) :
    Takes (functionBody (.level (n + 1))) (groupOf .brace (trees N b.shapes) :: rest) rest := by
  have hstatements : Takes ((Grammar.level (n + 1)).statements) (trees N b.shapes) [] :=
    (b.takesStatements hb).takes
  refine takes_functionBody hstatements ?_
  rcases b with ⟨_ | ⟨b, bindings⟩, result⟩
  · have hstart := result.starts (N := N) .nil
    rw [List.append_nil] at hstart
    exact hstart.hash
  · simp [shapes, Binding.shapes]

/-! ### Methods -/

theorem trees_docsShapes (docs : Nat) : trees N (docsShapes docs) = docsTokens docs := by
  induction docs with
  | zero => rfl
  | succ docs ih =>
    rw [docsTokens_succ, ← ih, docsShapes, List.replicate_succ, List.flatten_cons, trees_append]
    rfl

theorem FunctionParam.takes_generics (p : FunctionParam) :
    Takes (generics (.level n)) (trees N p.shapes ++ rest) rest := by
  have hparam (attributes : Tokens) : Takes (typeParam (.level n) attributes)
      ((Token.word (.plain p.name)).bare :: (Token.punct .greater false).bare :: rest)
      ((Token.punct .greater false).bare :: rest) :=
    takes_typeParam rfl (by simp) (by simp)
  exact RecordStore.Source.takes_generics (by simp) (takes_genericParam rfl hparam)

/-- The path of a trait. -/
theorem reads_path_trait (m : PlainName) (hrest : (Parser.punctuation "<").holds rest = false ∧
      (Parser.punctuation "::").holds rest = false) :
    Reads (path (.level n) false) ((Token.word (.plain m)).bare :: rest) rest fun p =>
      p.lastArguments.isEmpty = true := by
  refine (reads_path (by simp) (reads_pathSegment_named (.inl rfl) (fun _ => hrest.1)
    (by simp [hrest.2])) hrest.2).mono ?_
  rintro _ ⟨_, rfl, rfl⟩
  rfl

/-- The trait of functions with the types of their argument and answer. -/
theorem FunctionParam.takes_bound (p : FunctionParam) (hargument : p.argument.depth ≤ n)
    (hanswer : p.answer.depth ≤ n) (hrest : EndsType rest) {rules : BoundRules} :
    Takes (bound (.level (n + 1)) rules)
      ((Token.word (.plain p.trait)).bare ::
        groupOf .parenthesis (trees N (p.argument.shapes false)) ::
        (Token.punct .minus true).bare :: (Token.punct .greater false).bare ::
        (trees N (p.answer.shapes false) ++ rest)) rest := by
  obtain ⟨-, -, -, -, -, -, hne⟩ := p.argument.starts (N := N) false []
  have htype : Takes ((Grammar.level (n + 1)).type true) (trees N (p.argument.shapes false) ++ []) [] :=
    p.argument.takes hargument .nil
  rw [List.append_nil] at htype hne
  have harguments : Takes (commaSeparated ((Grammar.level (n + 1)).type true))
      (trees N (p.argument.shapes false)) [] :=
    Separates.commaSeparated (.last (Reads.atEnd.mono fun _ h => h.trans hne) htype Reads.atEnd)
  have hanswer' : Takes ((Grammar.level (n + 1)).type false)
      (trees N (p.answer.shapes false) ++ rest) rest :=
    p.answer.takes hanswer hrest
  exact RecordStore.Source.takes_bound rfl (takes_traitPath_parenthesized
    (reads_path_trait p.trait (by simp)) harguments (takes_returnType hanswer'))

theorem FunctionParam.takes_condition (p : FunctionParam) (hp : p.depth ≤ n) {inner : Tokens} :
    Takes (conditions (.level n)) (trees N p.condition ++ groupOf .brace inner :: rest)
      (groupOf .brace inner :: rest) := by
  obtain ⟨n, rfl⟩ := Nat.exists_eq_add_of_le' (Nat.le_trans (Nat.le_add_left 2 _) hp)
  have hmax := Nat.max_le.1 (Nat.le_of_add_le_add_right hp)
  have hbound : Takes ((Grammar.level (n + 2)).bound { constant := true })
      ((Token.word (.plain p.trait)).bare ::
        groupOf .parenthesis (trees N (p.argument.shapes false)) ::
        (Token.punct .minus true).bare :: (Token.punct .greater false).bare ::
        (trees N (p.answer.shapes false) ++ (Token.punct .comma false).bare ::
          groupOf .brace inner :: rest))
      ((Token.punct .comma false).bare :: groupOf .brace inner :: rest) :=
    p.takes_bound hmax.1 hmax.2 (.punct (by decide))
  have htype {more : Tokens} : Takes ((Grammar.level (n + 2)).type true)
      ((Token.word (.plain p.name)).bare :: (Token.punct .colon false).bare :: more)
      ((Token.punct .colon false).bare :: more) :=
    takes_type_named (g := .level (n + 1)) (.inl rfl) .colon
  have hcondition := RecordStore.Source.takes_condition rfl htype reads_peekConditionEnd_word hbound
    (by simp)
  have hconditions := takes_conditions hcondition reads_peekConditionEnd_word
    reads_peekConditionEnd_braces (by simp; omega)
  simpa [condition] using hconditions

/-! ### Arguments of methods -/

theorem foldr_max_le {α : Type} {f : α → Nat} {as : List α} {start : Nat} :
    as.foldr (fun a d => max (f a) d) start ≤ n ↔ start ≤ n ∧ ∀ a ∈ as, f a ≤ n := by
  induction as with
  | nil => simp
  | cons a as ih =>
    rw [List.foldr_cons, Nat.max_le, ih, List.forall_mem_cons]
    exact and_left_comm

theorem Param.reads (p : Param) (hp : p.type.depth ≤ n) (hrest : EndsType rest) :
    Reads (argument (.level (n + 1))) (trees N p.shapes ++ rest) rest (· = .typed) := by
  obtain ⟨-, -, -, -, hpoints, -⟩ := p.type.starts (N := N) false rest
  have htype : Takes ((Grammar.level (n + 1)).type true) (trees N (p.type.shapes false) ++ rest) rest :=
    p.type.takes hp hrest
  exact reads_argument_typed rfl (takes_name_pattern p.name (by decide)) hpoints htype

theorem takes_paramShapes (params : List Param) (hparams : ∀ p ∈ params, p.type.depth ≤ n) (count : Nat)
    (received : Bool) :
    TakesArguments (.level (n + 1)) count received (trees N (Method.paramShapes params)) := by
  induction params generalizing count with
  | nil => exact .nil
  | cons p params ih =>
    have hp := hparams p (List.mem_cons_self ..)
    cases params with
    | nil =>
      have hlast := p.reads (N := N) hp .nil
      rw [List.append_nil] at hlast
      exact .last hlast rfl
    | cons p' params =>
      have hmore := ih (fun q hq => hparams q (List.mem_cons_of_mem _ hq)) (count + 1)
      rw [Method.paramShapes, trees_append]
      · exact .cons (p.reads hp (.punct (by decide))) rfl (by simp; omega) hmore
      · exact nofun

theorem Method.takes_argumentShapes (m : Method) (hm : ∀ p ∈ m.params, p.type.depth ≤ n) :
    TakesArguments (.level (n + 1)) 0 false (trees N m.argumentShapes) := by
  have hparams (count : Nat) (received : Bool) := takes_paramShapes (N := N) m.params hm count received
  rcases m with ⟨docs, name, param, _ | _, params, answer, body⟩
  · exact hparams 0 false
  · cases params with
    | nil => exact .receiver reads_argument_receiver rfl
    | cons p params =>
      have hlt : (trees N (paramShapes (p :: params))).length <
          ((Token.punct .ampersand false).bare :: wordToken "self" :: (Token.punct .comma false).bare ::
            trees N (paramShapes (p :: params))).length := by
        simp only [List.length_cons]
        omega
      exact .receiver_cons reads_argument_receiver rfl hlt (hparams 1 true)

/-! ### Methods -/

theorem Method.takes (m : Method) (hm : m.depth ≤ n) :
    Takes (implItem (.level n)) (trees N m.shapes ++ rest) rest := by
  obtain ⟨n, rfl⟩ := Nat.exists_eq_add_one.2 (Nat.zero_lt_of_lt hm)
  obtain ⟨hdeclared, hbody⟩ := Nat.max_le.1 (Nat.le_of_succ_le_succ hm)
  obtain ⟨hparam, hparams⟩ := Nat.max_le.1 hdeclared
  obtain ⟨hanswer, hbody⟩ := Nat.max_le.1 hbody
  have harguments := m.takes_argumentShapes (N := N) (n := n) (foldr_max_le.1 hparams).2
  have hbody : Takes (functionBody (.level (n + 1))) (groupOf .brace (trees N m.body.shapes) :: rest) rest :=
    m.body.takes hbody
  have hanswer {rest : Tokens} (hrest : EndsType rest) :
      Takes (returnType (.level (n + 1)) true)
        ((Token.punct .minus true).bare :: (Token.punct .greater false).bare ::
          (trees N (m.answer.shapes false) ++ rest)) rest :=
    takes_returnType (g := .level (n + 1)) (m.answer.takes hanswer hrest)
  have hitem {ts ts' : Tokens} (hgenerics : Takes (generics (.level (n + 1))) ts
        (groupOf .parenthesis (trees N m.argumentShapes) :: (Token.punct .minus true).bare ::
          (Token.punct .greater false).bare :: (trees N (m.answer.shapes false) ++ ts')))
      (hends : EndsType ts') (hconditions : Takes (conditions (.level (n + 1))) ts'
        (groupOf .brace (trees N m.body.shapes) :: rest)) :=
    takes_implItem_function m.docs
      (takes_signature (w := .plain m.name) rfl hgenerics harguments (hanswer hends) hconditions) hbody
      (by simp)
  rcases m with ⟨docs, name, _ | p, receiver, params, answer, body⟩
  · have h := hitem (takes_generics_none (by simp)) .braces (takes_conditions_none (by simp))
    simpa [shapes, trees_docsShapes] using h
  · have hends : EndsType (trees N p.condition ++ groupOf .brace (trees N body.shapes) :: rest) :=
      .word
    have h := hitem (p.takes_generics (N := N)) hends
      (p.takes_condition (Nat.le_succ_of_le hparam))
    simpa [shapes, trees_docsShapes] using h

/-! ### Imports -/

theorem ImportTree.takes_group (first : PlainName) (more : List PlainName) :
    Separates atEnd "," ((Grammar.level (n + 1)).useTree false) (trees N (groupShapes first more)) [] := by
  have hname {m : PlainName} {ts : Tokens} (hts : (Parser.punctuation "::").holds ts = false)
      (has : headsWord "as" ts = false) :
      Takes ((Grammar.level (n + 1)).useTree false) ((Token.word (.plain m)).bare :: ts) ts :=
    takes_useTree_word (g := .level n) rfl hts has
  induction more generalizing first with
  | nil => exact .last Reads.atEnd (hname (by simp) (by simp)) Reads.atEnd
  | cons m more ih =>
    exact .cons Reads.atEnd (hname (by simp) (by simp)) Reads.atEnd (Reads.punct (by decide) rfl)
      (Nat.lt_succ_of_lt (Nat.lt_succ_self _)) (ih m)

theorem ImportTree.takes (t : ImportTree) (ht : t.depth ≤ n)
    (hrest : (Parser.punctuation "::").holds rest = false ∧ headsWord "as" rest = false) :
    Takes (useTree (.level n) false) (trees N t.shapes ++ rest) rest := by
  induction t generalizing n with
  | name m => exact takes_useTree_word rfl hrest.1 hrest.2
  | path m more ih =>
    obtain ⟨n, rfl⟩ := Nat.exists_eq_add_one.2 (Nat.zero_lt_of_lt ht)
    have hmore : Takes ((Grammar.level (n + 1)).useTree false) (trees N more.shapes ++ rest) rest :=
      ih (Nat.le_of_succ_le_succ ht)
    exact takes_useTree_path rfl hmore
  | group first more =>
    obtain ⟨n, rfl⟩ := Nat.exists_eq_add_one.2 (Nat.zero_lt_of_lt ht)
    exact takes_useTree_group (takes_group first more)

theorem Import.reads (i : Import) (hi : i.tree.depth ≤ n) :
    Reads (item (.level (n + 2))) (trees N i.shapes ++ rest) rest (· = .other) := by
  have htree : Takes ((Grammar.level (n + 1)).useTree false)
      (trees N i.tree.shapes ++ (Token.punct .semicolon false).bare :: rest)
      ((Token.punct .semicolon false).bare :: rest) :=
    i.tree.takes hi (by simp)
  have hpath : Takes ((Grammar.level (n + 2)).useTree true)
      ((Token.word (.plain i.package)).bare :: (Token.punct .colon true).bare ::
        (Token.punct .colon false).bare ::
          (trees N i.tree.shapes ++ (Token.punct .semicolon false).bare :: rest))
      ((Token.punct .semicolon false).bare :: rest) :=
    takes_useTree_path rfl htree
  have himport := takes_importItem (by simp) hpath
  simpa [shapes, doubleColon] using reads_item_other (.inl ⟨rfl, rfl⟩) himport

/-! ### Programs -/

theorem TextConstant.takes (c : TextConstant) (hc : c.type.depth ≤ n) :
    Takes (implItem (.level (n + 1))) (trees N c.shapes ++ rest) rest := by
  have htype : Takes ((Grammar.level (n + 1)).type true)
      (trees N (c.type.shapes false) ++ (Token.punct .equals false).bare :: textToken ::
        (Token.punct .semicolon false).bare :: rest)
      ((Token.punct .equals false).bare :: textToken :: (Token.punct .semicolon false).bare :: rest) :=
    c.type.takes hc (.punct (by decide))
  have hvalue : Takes ((Grammar.level (n + 1)).expr true)
      (textToken :: (Token.punct .semicolon false).bare :: rest)
      ((Token.punct .semicolon false).bare :: rest) :=
    takes_expression_text (.semicolon false rest)
  have h : Takes (implItem (.level (n + 1)))
      (docsTokens c.docs ++ wordToken "pub" :: wordToken "const" :: (Token.word (.plain c.name)).bare ::
        (Token.punct .colon false).bare :: (trees N (c.type.shapes false) ++
          (Token.punct .equals false).bare :: textToken :: (Token.punct .semicolon false).bare :: rest))
      rest :=
    takes_implItem_constant c.docs rfl htype hvalue
  simpa [shapes, trees_docsShapes, textToken] using h

namespace Program

theorem takes_params (p : Program) (rest : Tokens) :
    Takes (generics (.level (n + 1))) (trees N p.paramShapes ++ rest) rest := by
  have hbound : Takes ((Grammar.level (n + 1)).bound { constant := true })
      ((Token.word (.plain p.bound)).bare :: (Token.punct .greater false).bare :: rest)
      ((Token.punct .greater false).bare :: rest) :=
    takes_bound (g := .level n) rfl (takes_traitPath (reads_path_trait p.bound (by simp)) (by simp) (by simp))
  have hparam (attributes : Tokens) : Takes (typeParam (.level (n + 1)) attributes)
      ((Token.word (.plain p.param)).bare :: (Token.punct .colon false).bare ::
        (Token.word (.plain p.bound)).bare :: (Token.punct .greater false).bare :: rest)
      ((Token.punct .greater false).bare :: rest) :=
    takes_typeParam_bounded rfl (by simp) hbound (by simp) (by simp)
  have hgenerics : Takes (generics (.level (n + 1)))
      ((Token.punct .less false).bare :: (Token.word (.plain p.param)).bare ::
        (Token.punct .colon false).bare :: (Token.word (.plain p.bound)).bare ::
          (Token.punct .greater false).bare :: rest) rest :=
    takes_generics (by simp) (takes_genericParam rfl hparam)
  simpa [paramShapes] using hgenerics

theorem reads_struct (p : Program) :
    Reads (fileItem (.level (n + 2))) (trees N p.structShapes ++ rest) rest fun a =>
      ∃ s, a = .struct s ∧ s.name = .plain N.store := by
  have htype : Takes ((Grammar.level (n + 2)).type true)
      [(Token.word (.plain p.param)).bare, (Token.punct .comma false).bare]
      [(Token.punct .comma false).bare] :=
    takes_type_named (g := .level (n + 1)) (.inl rfl) (.punct (by decide))
  have hfields : Separates atEnd "," (namedField (.level (n + 2)))
      [(Token.word (.plain p.field)).bare, (Token.punct .colon false).bare,
        (Token.word (.plain p.param)).bare, (Token.punct .comma false).bare] [] :=
    .cons Reads.atEnd (takes_namedField rfl htype) Reads.atEnd (Reads.punct (by decide) rfl) (by simp)
      (.nil Reads.atEnd)
  have hstruct := reads_structItem (w := .plain N.store) rfl
    (p.takes_params (N := N) (groupOf .brace [(Token.word (.plain p.field)).bare,
      (Token.punct .colon false).bare, (Token.word (.plain p.param)).bare,
      (Token.punct .comma false).bare] :: rest)) hfields
  have h := reads_fileItem p.docs (by simp) (reads_item_struct hstruct)
  simpa [structShapes, trees_docsShapes] using h

theorem readsAll_methods (methods : List Method) (hmethods : ∀ m ∈ methods, m.depth ≤ n) :
    ReadsAll (implItem (.level n)) (trees N (methods.flatMap Method.shapes)) fun _ => True := by
  induction methods with
  | nil => exact ReadsAll.nil.any
  | cons m methods ih =>
    rw [List.flatMap_cons, trees_append]
    refine (ReadsAll.cons ?_ (m.takes (hmethods m (List.mem_cons_self ..))) ?_
      (ih fun m hm => hmethods m (List.mem_cons_of_mem _ hm))).any
    · simp [Method.shapes]
    · simp [Method.shapes]
      omega

theorem readsAll_members (p : Program) (hconstant : p.constant.type.depth ≤ n)
    (hmethods : ∀ m ∈ p.methods, m.depth ≤ n + 1) :
    ReadsAll (implItem (.level (n + 1)))
      (trees N (p.constant.shapes ++ p.methods.flatMap Method.shapes)) fun _ => True := by
  rw [trees_append]
  refine (ReadsAll.cons ?_ (p.constant.takes hconstant) ?_ (readsAll_methods p.methods hmethods)).any
  · simp [TextConstant.shapes]
  · simp [TextConstant.shapes]
    omega

theorem takes_items (p : Program) (hconstant : p.constant.type.depth ≤ n)
    (hmethods : ∀ m ∈ p.methods, m.depth ≤ n + 1) :
    Takes (itemsInBraces (.level (n + 1)) (implItem (.level (n + 1))))
      (groupOf .brace (trees N (p.constant.shapes ++ p.methods.flatMap Method.shapes)) :: rest) rest := by
  refine takes_itemsInBraces (p.readsAll_members hconstant hmethods) ?_
  -- an attribute of the block itself would have an exclamation mark where documentation has a bracket
  cases hdocs : p.constant.docs with
  | zero => simp [TextConstant.shapes, trees_docsShapes, hdocs]
  | succ docs =>
    simp [TextConstant.shapes, trees_docsShapes, hdocs, docsTokens_succ, docTokens, afterOne]

theorem reads_implementation (p : Program) (hn : 1 ≤ n) (hconstant : p.constant.type.depth ≤ n)
    (hmethods : ∀ m ∈ p.methods, m.depth ≤ n + 1) :
    Reads (fileItem (.level (n + 1))) (trees N p.implementationShapes ++ rest) rest (· = .other) := by
  let inner := trees N (p.constant.shapes ++ p.methods.flatMap Method.shapes)
  have htarget : Takes ((Grammar.level (n + 1)).type true)
      (trees N ((TypeTree.applied N.store false (.named (.plain p.param))).shapes false) ++
        groupOf .brace inner :: rest) (groupOf .brace inner :: rest) :=
    TypeTree.takes _ hn .braces
  have himplementation := takes_implementation rfl
    (p.takes_params (N := N) ((Token.word (.plain N.store)).bare :: (Token.punct .less false).bare ::
      (Token.word (.plain p.param)).bare :: (Token.punct .greater false).bare ::
      groupOf .brace inner :: rest))
    (by simp) (by simp) htarget (p.takes_items hconstant hmethods)
  have h := reads_fileItem 0 (by simp) (reads_item_other (.inr ⟨rfl, rfl⟩) himplementation)
  simpa [implementationShapes, paramShapes, inner] using h

/-- The structs among items have these names. -/
def Declares (ws : List Word) (items : List Item) : Prop :=
  (items.filterMap Item.struct?).map StructItem.name = ws

theorem readsAll_imports {imports : List Import} (himports : ∀ i ∈ imports, i.tree.depth ≤ n)
    {ws : List Word} (h : ReadsAll (fileItem (.level (n + 2))) rest (Declares ws)) :
    ReadsAll (fileItem (.level (n + 2))) (trees N (imports.flatMap Import.shapes) ++ rest)
      (Declares ws) := by
  induction imports with
  | nil => exact h
  | cons i imports ih =>
    have himport : Reads (item (.level (n + 2)))
        (trees N i.shapes ++ (trees N (imports.flatMap Import.shapes) ++ rest))
        (trees N (imports.flatMap Import.shapes) ++ rest) (· = .other) :=
      i.reads (himports i (List.mem_cons_self ..))
    rw [List.flatMap_cons, trees_append, List.append_assoc]
    refine (ReadsAll.cons ?_ (reads_fileItem 0 ?_ himport) ?_
      (ih fun i hi => himports i (List.mem_cons_of_mem _ hi))).mono ?_
    · simp [Import.shapes]
    · simp [Import.shapes]
    · simp [Import.shapes]
      omega
    · rintro _ ⟨_, items, rfl, rfl, hitems⟩
      exact hitems

/-- **Every small program is read as a file** with the one struct that it declares. -/
theorem reads (p : Program) (hp : p.depth ≤ n) :
    Reads (fileItems (.level n)) (trees N p.shapes) [] fun file =>
      file.structs.map StructItem.name = [.plain N.store] := by
  obtain ⟨n, rfl⟩ := Nat.exists_eq_add_of_le' (Nat.le_trans (Nat.le_add_left 2 _) hp)
  obtain ⟨himports, hmembers⟩ := Nat.max_le.1 (Nat.le_of_add_le_add_right hp)
  obtain ⟨hconstant, hmethods⟩ := Nat.max_le.1 hmembers
  obtain ⟨hn, himports⟩ := foldr_max_le.1 himports
  obtain ⟨-, hmethods⟩ := foldr_max_le.1 hmethods
  have himplementation : Reads (fileItem (.level (n + 2))) (trees N p.implementationShapes ++ []) []
      (· = .other) :=
    p.reads_implementation (Nat.le_add_left _ _) (Nat.le_succ_of_le hconstant)
      fun m hm => Nat.le_trans (hmethods m hm) (Nat.le_add_right n 2)
  rw [List.append_nil] at himplementation
  have hrest : ReadsAll (fileItem (.level (n + 2))) (trees N p.implementationShapes)
      (Declares []) := by
    refine (ReadsAll.cons ?_ himplementation ?_ .nil).mono ?_
    · simp [implementationShapes]
    · simp [implementationShapes]
    · rintro _ ⟨_, _, rfl, rfl, rfl⟩
      rfl
  have hstruct : ReadsAll (fileItem (.level (n + 2)))
      (trees N p.structShapes ++ trees N p.implementationShapes)
      (Declares [.plain N.store]) := by
    refine (ReadsAll.cons ?_ (p.reads_struct (n := n)) ?_ hrest).mono ?_
    · simp [structShapes]
    · simp [structShapes]
      omega
    · rintro _ ⟨_, items, rfl, ⟨s, rfl, hs⟩, hitems⟩
      simpa [Declares, Item.struct?, hs] using hitems
  rw [shapes, trees_append, trees_append, List.append_assoc]
  refine (reads_fileItems (readsAll_imports himports hstruct) ?_).mono fun file hfile => hfile
  -- no attribute of the file stands in front
  cases p.imports with
  | nil =>
    cases hdocs : p.docs with
    | zero => simp [structShapes, trees_docsShapes, hdocs]
    | succ docs => simp [structShapes, trees_docsShapes, hdocs, docsTokens_succ, docTokens, afterOne]
  | cons i imports => simp [Import.shapes]

end Program

end RecordStore.Source
