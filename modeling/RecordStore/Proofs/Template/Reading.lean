import RecordStore.Proofs.Template.Grammar

/-!
# Templates are read by their grammar

The builder takes directives one by one and keeps the conditionals that are open, while
the grammar nests. Each direction needs its own account of the open conditionals.

* A block leaves them as it found them, and adds its text
  (`RecordStore.Block.exists_applyAll`). This is an induction on the derivation.
* A run that ends with none open has read what closes those that were open at its start
  (`RecordStore.closes_of_applyAll`). This is an induction on the directives, and
  `RecordStore.Closes` says what is left to derive, conditional by conditional.

What directives build does not depend on the lines that they stand in, so a text is read as
what its directives build (`RecordStore.parse_eq_ok_iff_builds`).

Together with the agreement on characters this is the statement about whole texts
(`RecordStore.Template.parse_iff_means`): a text is read exactly if it derives from
the grammar, and then it renders to the text of its derivation.
-/

namespace RecordStore

/-! ### What parts in a row render to -/

theorem renderNodes_append (c : TemplateContext) (nodes more : List Node) :
    renderNodes c (nodes ++ more) = renderNodes c nodes ++ renderNodes c more := by
  induction nodes with
  | nil => rfl
  | cons node nodes ih => simp [renderNodes, ih]

theorem renderNodes_singleton (c : TemplateContext) (node : Node) :
    renderNodes c [node] = node.render c := by
  simp [renderNodes]

theorem renderNodes_appendText (c : TemplateContext) (nodes : List Node) (chars : List Char) :
    renderNodes c (appendText nodes chars) = renderNodes c nodes ++ chars := by
  fun_induction appendText nodes chars with
  | case1 nodes h => rw [List.isEmpty_iff.1 h, List.append_nil]
  | case2 => simp [renderNodes, Node.render]
  | case3 => simp [renderNodes, Node.render]
  | case4 node rest _ _ ih => simp [renderNodes, ih]

theorem render_conditional (c : TemplateContext) (v : Variable) (first second : List Node) :
    (Node.conditional v first second).render c =
      if c.value v = "" then renderNodes c second else renderNodes c first := by
  simp [Node.render]

/-! ### Directives in a row -/

namespace Builder

/-- The builder after directives, each with its line. -/
def applyAll (b : Builder) : List (Nat × Directive) → Except TemplateFault Builder
  | [] => .ok b
  | (line, d) :: rest => (b.apply line d).bind fun b => b.applyAll rest

variable {b b' : Builder} {numbered more : List (Nat × Directive)}

theorem applyAll_cons_of_ok {line : Nat} {d : Directive} (h : b.apply line d = .ok b') :
    b.applyAll ((line, d) :: more) = b'.applyAll more := by
  rw [applyAll, h]
  rfl

/-- Directives are carried out if the first one is, and the others behind it. -/
theorem applyAll_cons_cases {line : Nat} {d : Directive}
    (h : b.applyAll ((line, d) :: more) = .ok b') :
    ∃ b₁, b.apply line d = .ok b₁ ∧ b₁.applyAll more = .ok b' := by
  rw [applyAll] at h
  cases hstep : b.apply line d with
  | error fault =>
    rw [hstep] at h
    cases h
  | ok b₁ =>
    rw [hstep] at h
    exact ⟨b₁, rfl, h⟩

theorem applyAll_append (b : Builder) (numbered more : List (Nat × Directive)) :
    b.applyAll (numbered ++ more) = (b.applyAll numbered).bind fun b => b.applyAll more := by
  induction numbered generalizing b with
  | nil => rfl
  | cons step rest ih =>
    obtain ⟨line, d⟩ := step
    rw [List.cons_append, applyAll, applyAll]
    cases b.apply line d with
    | error fault => rfl
    | ok b₁ => exact ih b₁

theorem applyAll_append_of_ok (h : b.applyAll numbered = .ok b') :
    b.applyAll (numbered ++ more) = b'.applyAll more := by
  rw [applyAll_append, h]
  rfl

theorem apply_switch_cases {line : Nat} (h : b.apply line .switch = .ok b') :
    ∃ block outer, b.blocks = block :: outer ∧ block.first = none ∧
      b' = ⟨[], { block with first := some b.current } :: outer⟩ := by
  cases hblocks : b.blocks with
  | nil => simp [apply, hblocks] at h
  | cons block outer =>
    cases hfirst : block.first with
    | some first => simp [apply, hblocks, hfirst] at h
    | none =>
      simp only [apply, hblocks, hfirst, Except.ok.injEq] at h
      exact ⟨block, outer, rfl, hfirst, h.symm⟩

theorem apply_close_cases {line : Nat} (h : b.apply line .close = .ok b') :
    ∃ block outer first second, b.blocks = block :: outer ∧
      (block.first = some first ∧ b.current = second ∨
        block.first = none ∧ b.current = first ∧ second = []) ∧
      b' = ⟨block.before ++ [.conditional block.condition first second], outer⟩ := by
  cases hblocks : b.blocks with
  | nil => simp [apply, hblocks] at h
  | cons block outer =>
    cases hfirst : block.first with
    | some first =>
      simp only [apply, hblocks, hfirst, Except.ok.injEq] at h
      exact ⟨block, outer, first, b.current, rfl, Or.inl ⟨hfirst, rfl⟩, h.symm⟩
    | none =>
      simp only [apply, hblocks, hfirst, Except.ok.injEq] at h
      exact ⟨block, outer, b.current, [], rfl, Or.inr ⟨hfirst, rfl, rfl⟩, h.symm⟩

/-- The builder after a conditional was opened. -/
def opened (b : Builder) (line : Nat) (v : Variable) : Builder :=
  ⟨[], ⟨b.current, v, line, none⟩ :: b.blocks⟩

theorem applyAll_openIf (b : Builder) (line : Nat) (v : Variable)
    (more : List (Nat × Directive)) :
    b.applyAll ((line, .openIf v) :: more) = (b.opened line v).applyAll more :=
  applyAll_cons_of_ok rfl

end Builder

/-! ### Blocks are read -/

/-- **A block leaves the open conditionals alone and adds its text**, whatever the lines are. -/
theorem Block.exists_applyAll {ds : List Directive} {text : TemplateContext → List Char}
    (h : Block ds text) (b : Builder) (numbered : List (Nat × Directive))
    (hds : numbered.map Prod.snd = ds) :
    ∃ b', b.applyAll numbered = .ok b' ∧ b'.blocks = b.blocks ∧
      ∀ c, renderNodes c b'.current = renderNodes c b.current ++ text c := by
  induction h generalizing b numbered with
  | nil =>
    rw [List.map_eq_nil_iff.1 hds]
    exact ⟨b, rfl, rfl, fun c => (List.append_nil _).symm⟩
  | literal chars _ ih =>
    obtain ⟨⟨line, _⟩, rest, rfl, rfl, hrest⟩ := List.map_eq_cons_iff.1 hds
    obtain ⟨b', hrun, hblocks, hrender⟩ := ih (b.text chars) rest hrest
    refine ⟨b', (Builder.applyAll_cons_of_ok rfl).trans hrun, hblocks, fun c => ?_⟩
    rw [hrender, Builder.text, renderNodes_appendText, List.append_assoc]
  | value v _ ih =>
    obtain ⟨⟨line, _⟩, rest, rfl, rfl, hrest⟩ := List.map_eq_cons_iff.1 hds
    obtain ⟨b', hrun, hblocks, hrender⟩ :=
      ih { b with current := b.current ++ [.variable v] } rest hrest
    refine ⟨b', (Builder.applyAll_cons_of_ok rfl).trans hrun, hblocks, fun c => ?_⟩
    rw [hrender, renderNodes_append, renderNodes_singleton, Node.render, List.append_assoc]
  | choice v _ _ ih₁ ih =>
    obtain ⟨⟨line, _⟩, inside, rfl, rfl, hinside⟩ := List.map_eq_cons_iff.1 hds
    obtain ⟨first, closed, rfl, hfirst, hclosed⟩ := List.map_eq_append_iff.1 hinside
    obtain ⟨⟨line', _⟩, rest, rfl, rfl, hrest⟩ := List.map_eq_cons_iff.1 hclosed
    obtain ⟨b₁, hrun₁, hblocks₁, hrender₁⟩ := ih₁ (b.opened line v) first hfirst
    have hclose : b₁.apply line' .close =
        .ok ⟨b.current ++ [.conditional v b₁.current []], b.blocks⟩ := by
      simp [Builder.apply, hblocks₁, Builder.opened]
    obtain ⟨b', hrun, hblocks, hrender⟩ :=
      ih ⟨b.current ++ [.conditional v b₁.current []], b.blocks⟩ rest hrest
    refine ⟨b', ?_, hblocks, fun c => ?_⟩
    · rw [Builder.applyAll_openIf,
        Builder.applyAll_append_of_ok hrun₁, Builder.applyAll_cons_of_ok hclose]
      exact hrun
    · rw [hrender, renderNodes_append, renderNodes_singleton, render_conditional, hrender₁,
        List.append_assoc]
      rfl
  | branches v _ _ _ ih₁ ih₂ ih =>
    obtain ⟨⟨line, _⟩, inside, rfl, rfl, hinside⟩ := List.map_eq_cons_iff.1 hds
    obtain ⟨first, switched, rfl, hfirst, hswitched⟩ := List.map_eq_append_iff.1 hinside
    obtain ⟨⟨line', _⟩, inside', rfl, rfl, hinside'⟩ := List.map_eq_cons_iff.1 hswitched
    obtain ⟨second, closed, rfl, hsecond, hclosed⟩ := List.map_eq_append_iff.1 hinside'
    obtain ⟨⟨line'', _⟩, rest, rfl, rfl, hrest⟩ := List.map_eq_cons_iff.1 hclosed
    obtain ⟨b₁, hrun₁, hblocks₁, hrender₁⟩ := ih₁ (b.opened line v) first hfirst
    have hswitch : b₁.apply line' .switch =
        .ok ⟨[], ⟨b.current, v, line, some b₁.current⟩ :: b.blocks⟩ := by
      simp [Builder.apply, hblocks₁, Builder.opened]
    obtain ⟨b₂, hrun₂, hblocks₂, hrender₂⟩ :=
      ih₂ ⟨[], ⟨b.current, v, line, some b₁.current⟩ :: b.blocks⟩ second hsecond
    have hclose : b₂.apply line'' .close =
        .ok ⟨b.current ++ [.conditional v b₁.current b₂.current], b.blocks⟩ := by
      simp [Builder.apply, hblocks₂]
    obtain ⟨b', hrun, hblocks, hrender⟩ :=
      ih ⟨b.current ++ [.conditional v b₁.current b₂.current], b.blocks⟩ rest hrest
    refine ⟨b', ?_, hblocks, fun c => ?_⟩
    · rw [Builder.applyAll_openIf,
        Builder.applyAll_append_of_ok hrun₁, Builder.applyAll_cons_of_ok hswitch,
        Builder.applyAll_append_of_ok hrun₂, Builder.applyAll_cons_of_ok hclose]
      exact hrun
    · rw [hrender, renderNodes_append, renderNodes_singleton, render_conditional, hrender₁,
        hrender₂, List.append_assoc]
      rfl

/-! ### What was read are blocks -/

/-- Directives that derive from the grammar. -/
def IsBlock (ds : List Directive) : Prop := ∃ text, Block ds text

/-- Directives that end an open conditional, and those that follow it; `switched` tells whether its
second branch is under way. -/
inductive EndsConditional (switched : Bool) : List Directive → List Directive → Prop
  | close {body rest : List Directive} (h : IsBlock body) :
      EndsConditional switched (body ++ .close :: rest) rest
  | switch {body second rest : List Directive} (hfirst : switched = false) (h : IsBlock body)
      (h' : IsBlock second) :
      EndsConditional switched (body ++ .switch :: (second ++ .close :: rest)) rest

/-- **Directives that close all open conditionals**, given with the innermost first, and go on with
a block. -/
def Closes : List OpenBlock → List Directive → Prop
  | [], ds => IsBlock ds
  | block :: outer, ds => ∃ rest, EndsConditional block.first.isSome ds rest ∧ Closes outer rest

theorem isBlock_nil : IsBlock [] := ⟨_, .nil⟩

/-- What can be put in front of a block can be put in front of what closes the conditionals. -/
theorem Closes.prepend (front : List Directive)
    (hfront : ∀ {ds}, IsBlock ds → IsBlock (front ++ ds)) {blocks : List OpenBlock}
    {ds : List Directive} (h : Closes blocks ds) : Closes blocks (front ++ ds) := by
  cases blocks with
  | nil => exact hfront h
  | cons block outer =>
    obtain ⟨rest, hends, houter⟩ := h
    refine ⟨rest, ?_, houter⟩
    cases hends with
    | close hbody =>
      rw [← List.append_assoc]
      exact .close (hfront hbody)
    | switch hfirst hbody hsecond =>
      rw [← List.append_assoc]
      exact .switch hfirst (hfront hbody) hsecond

/-- **A run that ends with no open conditional has read what closes those at its start.** -/
theorem closes_of_applyAll {b b' : Builder} (numbered : List (Nat × Directive))
    (h : b.applyAll numbered = .ok b') (hend : b'.blocks = []) :
    Closes b.blocks (numbered.map Prod.snd) := by
  induction numbered generalizing b with
  | nil =>
    cases h
    rw [hend]
    exact isBlock_nil
  | cons step rest ih =>
    obtain ⟨line, d⟩ := step
    obtain ⟨b₁, hstep, hrun⟩ := Builder.applyAll_cons_cases h
    have hrest := ih hrun
    rw [List.map_cons]
    generalize rest.map Prod.snd = ds at hrest ⊢
    cases d with
    | literal chars =>
      cases hstep
      exact hrest.prepend [_] fun ⟨_, h⟩ => ⟨_, h.literal chars⟩
    | «variable» v =>
      cases hstep
      exact hrest.prepend [_] fun ⟨_, h⟩ => ⟨_, h.value v⟩
    | openIf v =>
      cases hstep
      obtain ⟨after, hends, houter⟩ := hrest
      -- the conditional that was opened is closed, and becomes part of the block it stands in
      cases hends with
      | close hbody =>
        obtain ⟨_, hbody⟩ := hbody
        have := houter.prepend (.openIf v :: (_ ++ [.close]))
          fun ⟨_, h⟩ => ⟨_, by simpa using Block.choice v hbody h⟩
        simpa using this
      | switch _ hbody hsecond =>
        obtain ⟨_, hbody⟩ := hbody
        obtain ⟨_, hsecond⟩ := hsecond
        have := houter.prepend (.openIf v :: (_ ++ .switch :: (_ ++ [.close])))
          fun ⟨_, h⟩ => ⟨_, by simpa using Block.branches v hbody hsecond h⟩
        simpa using this
    | switch =>
      obtain ⟨block, outer, hblocks, hfirst, rfl⟩ := Builder.apply_switch_cases hstep
      obtain ⟨after, hends, houter⟩ := hrest
      rw [hblocks]
      refine ⟨after, ?_, houter⟩
      cases hends with
      | close hbody =>
        have hopen : block.first.isSome = false := by
          rw [hfirst]
          rfl
        exact List.nil_append _ ▸ .switch hopen isBlock_nil hbody
      | switch hfirst => cases hfirst
    | close =>
      obtain ⟨block, outer, _, _, hblocks, -, rfl⟩ := Builder.apply_close_cases hstep
      rw [hblocks]
      exact ⟨ds, List.nil_append (_ :: ds) ▸ .close isBlock_nil, hrest⟩

/-! ### Runs over a cut text -/

/-- What the reader takes from a cut text: the chunks as it trims them and the directives with their
lines. -/
inductive Understood : Bool → List (List Char × Action) → List Char → List (Nat × Directive) → Prop
  | chunk {trimStart : Bool} {tail : List Char} :
      Understood trimStart [] tail [(0, .literal (trimChunk trimStart false tail))]
  | action {trimStart : Bool} {chunk tail : List Char} {action : Action} {d : Directive}
      {actions : List (List Char × Action)} {numbered : List (Nat × Directive)}
      (hd : Directive.ofBody action.body = .ok d)
      (hrest : Understood action.trimsAfter actions tail numbered) :
      Understood trimStart ((chunk, action) :: actions) tail
        ((0, .literal (trimChunk trimStart action.trimsBefore chunk)) ::
          (action.line, d) :: numbered)

/-- **A run succeeds if every action says something, and the directives leave no conditional
open.** -/
theorem Builder.run_eq_ok_iff {b : Builder} {trimStart : Bool} {tail : List Char}
    {actions : List (List Char × Action)} {t : Template} :
    b.run trimStart (.chunk tail) actions = .ok t ↔ ∃ numbered b',
      Understood trimStart actions tail numbered ∧ b.applyAll numbered = .ok b' ∧
        b'.blocks = [] ∧ b'.current = t := by
  induction actions generalizing b trimStart with
  | nil =>
    rw [Builder.run]
    constructor
    · intro h
      split at h
      · rename_i hblocks
        cases h
        exact ⟨_, _, .chunk, rfl, hblocks, rfl⟩
      · cases h
    · rintro ⟨_, b', hsays, hrun, hblocks, rfl⟩
      cases hsays
      cases hrun
      rw [hblocks]
  | cons cut actions ih =>
    obtain ⟨chunk, action⟩ := cut
    rw [Builder.run]
    constructor
    · intro h
      cases hbody : Directive.ofBody action.body with
      | error fault =>
        rw [hbody] at h
        cases h
      | ok d =>
        rw [hbody, Except.bind] at h
        cases hstep : (b.text (trimChunk trimStart action.trimsBefore chunk)).apply action.line d with
        | error fault =>
          rw [hstep] at h
          cases h
        | ok b₁ =>
          rw [hstep] at h
          obtain ⟨numbered, b', hsays, hrun, hblocks, rfl⟩ := ih.1 h
          refine ⟨_, b', .action hbody hsays, ?_, hblocks, rfl⟩
          rw [applyAll_cons_of_ok rfl, applyAll_cons_of_ok hstep]
          exact hrun
    · rintro ⟨_, b', hsays, hrun, hblocks, rfl⟩
      cases hsays with
      | action hbody hrest =>
        rw [applyAll_cons_of_ok rfl] at hrun
        obtain ⟨b₁, hstep, hrun⟩ := applyAll_cons_cases hrun
        rw [hbody, Except.bind, hstep]
        exact ih.2 ⟨_, b', hrest, hrun, hblocks, rfl⟩

/-- The reader takes from a cut text what the text says. -/
theorem says_iff {trimStart : Bool} {tail : List Char} {ds : List Directive}
    {actions : List (List Char × Action)} {cuts : List (List Char × List Char)}
    (h : List.Forall₂ SameAction actions cuts) :
    Says trimStart cuts tail ds ↔
      ∃ numbered, Understood trimStart actions tail numbered ∧ numbered.map Prod.snd = ds := by
  induction h generalizing trimStart ds with
  | nil =>
    constructor
    · intro hsays
      cases hsays with
      | chunk hkept => exact ⟨_, .chunk, by rw [← kept_iff.1 hkept]; rfl⟩
    · rintro ⟨_, hsays, rfl⟩
      cases hsays
      exact .chunk (kept_iff.2 rfl)
  | @cons action cut actions cuts hsame _ ih =>
    obtain ⟨chunk, action⟩ := action
    obtain ⟨chunk', inner⟩ := cut
    obtain ⟨hchunk, line, haction⟩ := hsame
    obtain rfl : chunk = chunk' := hchunk
    obtain rfl : action = .ofInner line inner := haction
    constructor
    · intro hsays
      cases hsays with
      | action hd hkept hrest =>
        obtain ⟨hbefore, hafter, hbody⟩ := (Directive.inside_iff line).1 hd
        subst hbefore hafter
        obtain ⟨numbered, hunderstood, rfl⟩ := ih.1 hrest
        refine ⟨_, .action hbody hunderstood, ?_⟩
        rw [List.map_cons, List.map_cons, kept_iff.1 hkept]
    · rintro ⟨_, hunderstood, rfl⟩
      cases hunderstood with
      | action hbody hrest =>
        exact .action ((Directive.inside_iff line).2 ⟨rfl, rfl, hbody⟩) (kept_iff.2 rfl)
          (ih.2 ⟨_, hrest, rfl⟩)

/-- A run over a text with an action that is never closed fails at its end, if not before. -/
theorem Builder.run_unterminated_ne_ok (b : Builder) (trimStart : Bool) (line : Nat)
    (actions : List (List Char × Action)) (t : Template) :
    b.run trimStart (.unterminated line) actions ≠ .ok t := by
  induction actions generalizing b trimStart with
  | nil => exact fun h => nomatch h
  | cons cut actions ih =>
    rw [Builder.run]
    split
    · exact fun h => nomatch h
    · exact ih _ _

/-! ### Lines do not matter -/

namespace Builder

/-- The builder without the lines of its open conditionals. -/
def unnumbered (b : Builder) : Builder :=
  { b with blocks := b.blocks.map fun block => { block with line := 0 } }

theorem unnumbered_apply (b : Builder) (line : Nat) (d : Directive) :
    (b.apply line d).map unnumbered = b.unnumbered.apply 0 d := by
  obtain ⟨current, blocks⟩ := b
  cases d with
  | literal chars => rfl
  | «variable» v => rfl
  | openIf v => rfl
  | switch =>
    cases blocks with
    | nil => rfl
    | cons block outer =>
      obtain ⟨before, condition, opened, first⟩ := block
      cases first <;> rfl
  | close =>
    cases blocks with
    | nil => rfl
    | cons block outer =>
      obtain ⟨before, condition, opened, first⟩ := block
      cases first <;> rfl

theorem unnumbered_applyAll (b : Builder) (numbered : List (Nat × Directive)) :
    (b.applyAll numbered).map unnumbered =
      b.unnumbered.applyAll ((numbered.map Prod.snd).map (Prod.mk 0)) := by
  induction numbered generalizing b with
  | nil => rfl
  | cons step rest ih =>
    obtain ⟨line, d⟩ := step
    rw [List.map_cons, List.map_cons, applyAll, applyAll, ← unnumbered_apply b line d]
    cases b.apply line d with
    | error fault => rfl
    | ok b₁ => exact ih b₁

end Builder

/-- **What directives build**: the template that they leave, if they leave no conditional open. -/
def Builds (ds : List Directive) (t : Template) : Prop :=
  ∃ b, ({} : Builder).applyAll (ds.map (Prod.mk 0)) = .ok b ∧ b.blocks = [] ∧ b.current = t

theorem map_snd_map_mk (line : Nat) (ds : List Directive) :
    (ds.map (Prod.mk line)).map Prod.snd = ds := by
  rw [List.map_map]
  exact List.map_id ds

/-- Directives build the same in whatever lines they stand. -/
theorem builds_map_snd_iff {numbered : List (Nat × Directive)} {t : Template} :
    Builds (numbered.map Prod.snd) t ↔
      ∃ b, ({} : Builder).applyAll numbered = .ok b ∧ b.blocks = [] ∧ b.current = t := by
  have hlines := Builder.unnumbered_applyAll {} numbered
  change Except.map _ _ = ({} : Builder).applyAll _ at hlines
  rw [Builds, ← hlines]
  cases ({} : Builder).applyAll numbered with
  | error fault =>
    constructor
    · rintro ⟨_, h, -⟩
      cases h
    · rintro ⟨_, h, -⟩
      cases h
  | ok b =>
    constructor
    · rintro ⟨_, h, hblocks, hcurrent⟩
      cases h
      exact ⟨b, rfl, List.map_eq_nil_iff.1 hblocks, hcurrent⟩
    · rintro ⟨_, h, hblocks, hcurrent⟩
      cases h
      exact ⟨_, rfl, List.map_eq_nil_iff.2 hblocks, hcurrent⟩

/-! ### Whole texts -/

/-- **What a text is read as** is what the directives build that it says. -/
theorem parse_eq_ok_iff_builds {text : String} {t : Template} :
    Template.parse text = .ok t ↔ ∃ cuts tail ds, CutsInto text.toList cuts tail ∧
      Says false cuts tail ds ∧ Builds ds t := by
  change Builder.run {} false (Pieces.cutFrom 1 text.toList).ending
    (Pieces.cutFrom 1 text.toList).actions = .ok t ↔ _
  constructor
  · intro h
    cases hending : (Pieces.cutFrom 1 text.toList).ending with
    | unterminated line =>
      rw [hending] at h
      exact absurd h (Builder.run_unterminated_ne_ok _ _ _ _ t)
    | chunk tail =>
      rw [hending] at h
      obtain ⟨cuts, hcut, hsame⟩ := cutsInto_of_ending 1 text.toList hending
      obtain ⟨numbered, b, hunderstood, hbuilt⟩ := Builder.run_eq_ok_iff.1 h
      exact ⟨cuts, tail, _, hcut, (says_iff hsame).2 ⟨numbered, hunderstood, rfl⟩,
        builds_map_snd_iff.2 ⟨b, hbuilt⟩⟩
  · rintro ⟨cuts, tail, ds, hcut, hsays, hbuilds⟩
    obtain ⟨hending, hsame⟩ := cutFrom_of_cutsInto hcut 1
    obtain ⟨numbered, hunderstood, rfl⟩ := (says_iff hsame).1 hsays
    obtain ⟨b, hbuilt⟩ := builds_map_snd_iff.1 hbuilds
    rw [hending]
    exact Builder.run_eq_ok_iff.2 ⟨numbered, b, hunderstood, hbuilt⟩

/-- Directives that build a template are a block, which stands for what the template renders to. -/
theorem Builds.block {ds : List Directive} {t : Template} (h : Builds ds t) :
    Block ds fun c => renderNodes c t := by
  obtain ⟨b, hrun, hblocks, rfl⟩ := h
  obtain ⟨rendered, hblock⟩ := closes_of_applyAll _ hrun hblocks
  rw [map_snd_map_mk] at hblock
  -- the text of the derivation is the one that the builder made
  obtain ⟨b', hrun', -, hrender⟩ := hblock.exists_applyAll {} _ (map_snd_map_mk 0 ds)
  rw [hrun] at hrun'
  cases hrun'
  have htext : (fun c => renderNodes c b.current) = rendered := funext hrender
  exact htext ▸ hblock

/-- A template that was read derives from the grammar, with the text that it renders to. -/
theorem means_of_parse {text : String} {t : Template} (h : Template.parse text = .ok t) :
    TemplateMeans text fun c => renderNodes c t := by
  obtain ⟨cuts, tail, ds, hcut, hsays, hbuilds⟩ := parse_eq_ok_iff_builds.1 h
  exact ⟨cuts, tail, ds, hcut, hsays, hbuilds.block⟩

/-- A text that derives from the grammar is read, and renders to the text of its derivation. -/
theorem exists_parse_of_means {text : String} {rendered : TemplateContext → List Char}
    (h : TemplateMeans text rendered) :
    ∃ t, Template.parse text = .ok t ∧ ∀ c, renderNodes c t = rendered c := by
  obtain ⟨cuts, tail, ds, hcut, hsays, hblock⟩ := h
  obtain ⟨b, hrun, hblocks, hrender⟩ := hblock.exists_applyAll {} _ (map_snd_map_mk 0 ds)
  exact ⟨b.current,
    parse_eq_ok_iff_builds.2 ⟨cuts, tail, ds, hcut, hsays, b, hrun, hblocks, rfl⟩, hrender⟩

/-- **Templates are read by their grammar**: a text is accepted exactly if it derives from the
grammar, and it renders, in every context, to the text that its derivation stands for. -/
theorem Template.parse_iff_means (text : String) :
    ((∃ t, Template.parse text = .ok t) ↔ ∃ rendered, TemplateMeans text rendered) ∧
    ∀ rendered, TemplateMeans text rendered ↔
      ∃ t, Template.parse text = .ok t ∧ ∀ c, t.render c = String.ofList (rendered c) := by
  refine ⟨⟨?_, ?_⟩, fun rendered => ⟨?_, ?_⟩⟩
  · rintro ⟨t, ht⟩
    exact ⟨_, means_of_parse ht⟩
  · rintro ⟨rendered, h⟩
    obtain ⟨t, ht, -⟩ := exists_parse_of_means h
    exact ⟨t, ht⟩
  · intro h
    obtain ⟨t, ht, hrender⟩ := exists_parse_of_means h
    exact ⟨t, ht, fun c => congrArg String.ofList (hrender c)⟩
  · rintro ⟨t, ht, hrender⟩
    have htext : (fun c => renderNodes c t) = rendered :=
      funext fun c => String.ofList_injective (hrender c)
    exact htext ▸ means_of_parse ht

end RecordStore
