import RecordStore.Proofs.Source.Name
import RecordStore.Proofs.Source.Parser

/-!
# What parsers answer

Every answer of a parser satisfies a condition (`RecordStore.Source.Answers`) if those of the parsers in
it satisfy theirs. So the names in a file can be told from the parsers that read them: a struct is
called by a name, and so are its fields, unless they have a line in place of a name, or none
(`RecordStore.Source.answers_fileItems`).
-/

namespace RecordStore.Source

open Source.Parser

variable {α β : Type} {p : Parser α} {f : α → Parser β} {P Q : α → Prop} {R : β → Prop}

/-- **Every answer of a parser** satisfies a condition. -/
def Answers (p : Parser α) (P : α → Prop) : Prop := ∀ ⦃s a t⦄, p.run s = .ok (a, t) → P a

namespace Answers

/-! ### Parsers that are put together -/

theorem trivial : Answers p fun _ => True := fun _ _ _ _ => .intro

theorem pure {a : α} (h : P a) : Answers (Pure.pure a) P := by
  intro s a' t hrun
  cases hrun
  exact h

theorem bind (hp : Answers p P) (hf : ∀ a, P a → Answers (f a) R) :
    Answers (p >>= f) R := by
  intro s b t hrun
  obtain ⟨a, u, hp', hf'⟩ := run_bind_eq_ok_iff.1 hrun
  exact hf a (hp hp') hf'

/-- What comes before a parser does not matter if the parser does not depend on it. -/
theorem after (hf : ∀ a, Answers (f a) R) : Answers (p >>= f) R :=
  bind trivial fun a _ => hf a

theorem ite {c : Prop} [Decidable c] {q : Parser α} (hp : c → Answers p P)
    (hq : ¬c → Answers q P) : Answers (if c then p else q) P := by
  split
  · exact hp ‹_›
  · exact hq ‹_›

theorem noneOf {ps : List Peek} : Answers (Parser.noneOf ps) P :=
  fun _ _ _ hrun => absurd hrun noneOf_ne_ok

theorem spanned (h : Answers p P) : Answers (Parser.spanned p) fun a => P a.1 :=
  after fun _ => bind h fun _ ha => after fun _ => pure ha

theorem group {d : Delimiter} (h : Answers p P) : Answers (Parser.group d p) P := by
  intro s a t hrun
  rw [Parser.group, groupThen, run_get_bind] at hrun
  split at hrun
  · split at hrun
    · split at hrun
      · cases hrun
      · rename_i hcontent
        cases hrun
        exact h hcontent
    · cases hrun
  · cases hrun

/-! ### Repetition -/

/-- Items that are read one after the other. -/
theorem loop {step : Parser (Option α)} (h : Answers step fun o => ∀ a ∈ o, P a) :
    Answers (Parser.loop step) fun as => ∀ a ∈ as, P a := by
  refine after fun s => ?_
  induction s.rest.length + 1 with
  | zero => exact pure (List.forall_mem_nil _)
  | succ n ih =>
    refine bind h fun o ho => ?_
    cases o with
    | none => exact pure (List.forall_mem_nil _)
    | some a => exact bind ih fun as has => pure (List.forall_mem_cons.2 ⟨ho a rfl, has⟩)

theorem untilEnd (h : Answers p P) : Answers (Parser.untilEnd p) fun as => ∀ a ∈ as, P a := by
  refine loop (after fun done => ite (fun _ => pure (by simp)) fun _ => ?_)
  exact bind h fun a ha => pure (by simpa using ha)

/-- Items with separators between them. -/
theorem separatedFrom {stop : Parser Bool} {separator : String} (h : Answers p P) (n : Nat) :
    Answers (Parser.separatedFrom stop separator p n) fun as => ∀ a ∈ as, P a.1 := by
  induction n with
  | zero => exact pure (List.forall_mem_nil _)
  | succ n ih =>
    refine after fun done => ite (fun _ => pure (List.forall_mem_nil _)) fun _ => ?_
    refine bind h fun a ha => after fun last => ite (fun _ => pure ?_) fun _ => after fun _ => ?_
    · exact List.forall_mem_singleton.2 ha
    · exact bind ih fun as has => pure (List.forall_mem_cons.2 ⟨ha, has⟩)

theorem commaSeparated (h : Answers p P) :
    Answers (Parser.commaSeparated p) fun as => ∀ a ∈ as, P a :=
  bind (after fun _ => separatedFrom h _) fun _ has => pure (List.forall_mem_map.2 has)

/-! ### Names -/

theorem name : Answers Parser.name fun w => w.isName = true := by
  intro s w t hrun
  rw [Parser.name, run_get_bind] at hrun
  split at hrun
  · split at hrun
    · cases hrun
      assumption
    · cases hrun
  · cases hrun

/-- What may stand in place of the name of a field. -/
theorem fieldName : Answers Parser.fieldName fun w => w.isName = true ∨ w.text = "_" := by
  intro s w t hrun
  rw [Parser.fieldName] at hrun
  change (if (theWord "_").holds s.rest then wordOfAnyKind else Parser.name).run s = _ at hrun
  split at hrun
  · rename_i hline
    rw [wordOfAnyKind, run_get_bind] at hrun
    split at hrun
    · rename_i w' _ _ hrest
      cases hrun
      rw [hrest] at hline
      cases w with
      | known w => exact Or.inr (eq_of_beq hline)
      | plain n => cases hline
    · cases hrun
  · exact Or.inl (name hrun)

end Answers

/-! ### Structs -/

/-- A field of a struct that is called by a name, has a line in its place, or has neither. -/
def Field.IsNamed (f : Field) : Prop := ∀ w ∈ f.name, w.isName = true ∨ w.text = "_"

/-- **A struct is called by a name**, and its fields are named like fields. -/
structure StructItem.IsNamed (s : StructItem) : Prop where
  name : s.name.isName = true
  fields : ∀ f ∈ s.fields, f.IsNamed

namespace Answers

variable {g : Grammar}

theorem namedField : Answers (Parser.namedField g) Field.IsNamed := by
  refine bind (spanned (?_ : Answers _ fun parts : List Attribute × Word × TypeExpr × Span =>
    parts.2.1.isName = true ∨ parts.2.1.text = "_")) fun parts hname => pure ?_
  · refine after fun attributes => after fun inherited => bind fieldName fun w hw => ?_
    refine after fun _ => after fun union => after fun struct => after fun isStruct => ?_
    exact ite (fun _ => after fun _ => pure hw) fun _ => after fun _ => pure hw
  · rintro w ⟨⟩
    exact hname

theorem unnamedField : Answers (Parser.unnamedField g) Field.IsNamed :=
  after fun _ => pure (by rintro w ⟨⟩)

theorem fieldsInBraces : Answers (Parser.fieldsInBraces g) fun fs => ∀ f ∈ fs, f.IsNamed :=
  group (commaSeparated namedField)

theorem fieldsInParentheses :
    Answers (Parser.fieldsInParentheses g) fun fs => ∀ f ∈ fs, f.IsNamed :=
  group (commaSeparated unnamedField)

theorem structBody : Answers (Parser.structBody g) fun body => ∀ f ∈ body.1, f.IsNamed := by
  have hbraces (conditions : Tokens) : Answers (do return (← Parser.fieldsInBraces g, conditions))
      fun body => ∀ f ∈ body.1, f.IsNamed :=
    bind fieldsInBraces fun fs hfs => pure hfs
  have hnone (conditions : Tokens) : Answers (Pure.pure (([] : List Field), conditions))
      fun body => ∀ f ∈ body.1, f.IsNamed :=
    pure (List.forall_mem_nil _)
  refine after fun _ => ite (fun _ => after fun conditions => after fun _ => ?_) fun _ => ?_
  · exact ite (fun _ => hbraces conditions) fun _ =>
      after fun _ => ite (fun _ => hnone conditions) fun _ => noneOf
  refine after fun _ => ite (fun _ => bind fieldsInParentheses fun fs hfs => ?_) fun _ => ?_
  · exact after fun _ => after fun _ => after fun _ => ite (fun _ => pure hfs) fun _ => noneOf
  refine after fun _ => ite (fun _ => hbraces []) fun _ => ?_
  exact after fun _ => ite (fun _ => hnone []) fun _ => noneOf

theorem structItem : Answers (Parser.structItem g) StructItem.IsNamed := by
  refine after fun _ => bind (spanned name) fun named hname => ?_
  exact after fun params => bind structBody fun body hfields => pure ⟨hname, hfields⟩

/-! ### Files -/

theorem item : Answers (Parser.item g) fun i => ∀ s ∈ i.struct?, s.IsNamed := by
  refine after fun _ => after fun _ => after fun _ => ite (fun _ => ?_) fun _ => ?_
  · exact bind structItem fun s hs => pure (by simpa [Item.struct?] using hs)
  · exact after fun _ => pure (by simp [Item.struct?])

theorem fileItems : Answers (Parser.fileItems g) fun file => ∀ s ∈ file.structs, s.IsNamed := by
  refine after fun _ => bind (untilEnd (after fun _ => item)) fun items hitems => pure ?_
  intro s hs
  obtain ⟨i, hi, hs⟩ := List.mem_filterMap.1 hs
  exact hitems i hi s hs

end Answers

/-- **The structs of a file are called by names**, and their fields are named like fields. -/
theorem SourceText.isNamed_of_parse {text : String} {file : SourceText}
    (h : SourceText.parse text = .ok file) : ∀ s ∈ file.structs, s.IsNamed := by
  rw [SourceText.parse] at h
  split at h
  · cases h
  · obtain ⟨t, hrun, -⟩ := runAll_eq_ok_iff.1 h
    exact Answers.fileItems hrun

end RecordStore.Source
