import RecordStore.Proofs.Template.Cutting
import RecordStore.Proofs.Template.Printing

/-!
# Templates are read into normal form

The constant text of a template may come in any number of chunks and literals. None of
this is left in what is read: no list of parts, at any depth, holds an empty text or two
adjacent ones, and texts that differ only in how their constant text is split are read
as the same template (`RecordStore.Template.parse_normalizes`).

The first half is an invariant of the builder. It concerns every list that is under way
(`RecordStore.Builder.IsNormal`): the innermost one, what stands before each open
conditional, and the first branches of those whose second one has begun. An action moves
parts between these lists, and each of its moves keeps them normal
(`RecordStore.Builder.IsNormal.apply`); a run is an induction on the directives.

The second half goes through a form of what a text says in which constant text is taken
one character at a time (`RecordStore.Directive.spelledOut`), so that the places where it was
split cannot be seen any more. The builder joins the characters again, and makes of them
what it makes of the directives as they were (`RecordStore.builds_spelledOut_iff`).
-/

namespace RecordStore

/-! ### Normal lists of parts -/

section

variable {nodes : List Node} {node : Node}

/-- A list is normal if its last part and those before it are, and no two texts meet there. -/
theorem normalNodes_concat_iff : NormalNodes (nodes ++ [node]) ↔
    NormalNodes nodes ∧ (∀ last ∈ nodes.getLast?, ¬(last.isText ∧ node.isText)) ∧
      node.IsNormal := by
  induction nodes with
  | nil => simp [NormalNodes]
  | cons first nodes ih =>
    rw [List.cons_append, NormalNodes, NormalNodes, ih]
    cases nodes with
    | nil => simp [NormalNodes]
    | cons second nodes =>
      rw [List.getLast?_cons_cons, and_assoc, and_assoc]
      rfl

theorem NormalNodes.concat (h : NormalNodes nodes) (hnode : node.IsNormal)
    (hkind : node.isText = false) : NormalNodes (nodes ++ [node]) :=
  normalNodes_concat_iff.2 ⟨h, fun _ _ htext => by simp [hkind] at htext, hnode⟩

/-- **Adding text keeps a list normal**: it joins the text at the end, or follows another part. -/
theorem NormalNodes.appendText (h : NormalNodes nodes) (chars : List Char) :
    NormalNodes (appendText nodes chars) := by
  by_cases hne : chars = []
  · rwa [hne, appendText_nil]
  rcases eq_concat_text_or nodes with ⟨before, cs, rfl⟩ | hlast
  · rw [appendText_concat_text]
    obtain ⟨hbefore, hmeet, hcs⟩ := normalNodes_concat_iff.1 h
    exact normalNodes_concat_iff.2
      ⟨hbefore, hmeet, fun hnil => hcs (List.append_eq_nil_iff.1 hnil).1⟩
  · rw [appendText_of_not_isText hne hlast]
    refine normalNodes_concat_iff.2 ⟨h, fun last hmem htext => ?_, hne⟩
    simp [hlast last hmem] at htext

end

/-! ### The lists under way are normal -/

/-- What is kept of an open conditional is normal: the parts before it, and its first branch if that
one is complete. -/
structure OpenBlock.IsNormal (block : OpenBlock) : Prop where
  before : NormalNodes block.before
  first : ∀ nodes ∈ block.first, NormalNodes nodes

/-- **Every list of parts under way is normal.** -/
structure Builder.IsNormal (b : Builder) : Prop where
  current : NormalNodes b.current
  blocks : ∀ block ∈ b.blocks, block.IsNormal

namespace Builder.IsNormal

variable {b b' : Builder}

theorem empty : ({} : Builder).IsNormal := ⟨trivial, nofun⟩

theorem text (h : b.IsNormal) (chars : List Char) : (b.text chars).IsNormal :=
  ⟨h.current.appendText chars, h.blocks⟩

/-- **An action keeps the lists normal.** -/
theorem apply {line : Nat} {d : Directive} (h : b.IsNormal) (hstep : b.apply line d = .ok b') :
    b'.IsNormal := by
  obtain ⟨hcurrent, hblocks⟩ := h
  cases d with
  | literal chars =>
    cases hstep
    exact text ⟨hcurrent, hblocks⟩ chars
  | «variable» v =>
    cases hstep
    exact ⟨hcurrent.concat trivial rfl, hblocks⟩
  | openIf v =>
    cases hstep
    exact ⟨trivial, List.forall_mem_cons.2 ⟨⟨hcurrent, nofun⟩, hblocks⟩⟩
  | switch =>
    obtain ⟨block, outer, heq, -, rfl⟩ := apply_switch_cases hstep
    rw [heq] at hblocks
    obtain ⟨hblock, houter⟩ := List.forall_mem_cons.1 hblocks
    refine ⟨trivial, List.forall_mem_cons.2 ⟨⟨hblock.before, ?_⟩, houter⟩⟩
    rintro nodes ⟨⟩
    exact hcurrent
  | close =>
    obtain ⟨block, outer, first, second, heq, hbranches, rfl⟩ := apply_close_cases hstep
    rw [heq] at hblocks
    obtain ⟨hblock, houter⟩ := List.forall_mem_cons.1 hblocks
    refine ⟨hblock.before.concat ?_ rfl, houter⟩
    rcases hbranches with ⟨hfirst, rfl⟩ | ⟨-, rfl, rfl⟩
    · exact ⟨hblock.first first hfirst, hcurrent⟩
    · exact ⟨hcurrent, trivial⟩

theorem applyAll {numbered : List (Nat × Directive)} (h : b.IsNormal)
    (hrun : b.applyAll numbered = .ok b') : b'.IsNormal := by
  induction numbered generalizing b with
  | nil =>
    cases hrun
    exact h
  | cons step rest ih =>
    obtain ⟨line, d⟩ := step
    obtain ⟨b₁, hstep, hrest⟩ := applyAll_cons_cases hrun
    exact ih (h.apply hstep) hrest

end Builder.IsNormal

/-- What directives build is normal. -/
theorem Builds.normalNodes {ds : List Directive} {t : Template} (h : Builds ds t) :
    NormalNodes t := by
  obtain ⟨b, hrun, -, rfl⟩ := h
  exact (Builder.IsNormal.empty.applyAll hrun).current

/-! ### Where constant text is split -/

/-- What a directive adds, with constant text taken one character at a time. -/
def Directive.spelledOut : Directive → List Directive
  | .literal chars => chars.map fun c => .literal [c]
  | d => [d]

section

variable {text : String} {t : Template} {ds : List Directive} {trimStart : Bool}
  {tail : List Char} {cuts : List (List Char × List Char)}

/-- The builder joins characters that come one by one. -/
theorem Builder.applyAll_spelledOut (b : Builder) (line : Nat) (d : Directive)
    (more : List (Nat × Directive)) :
    b.applyAll (d.spelledOut.map (Prod.mk line) ++ more) = b.applyAll ((line, d) :: more) := by
  cases d with
  | literal chars =>
    rw [applyAll_cons_of_ok rfl]
    induction chars generalizing b with
    | nil =>
      rw [text_nil]
      rfl
    | cons c chars ih =>
      rw [Directive.spelledOut, List.map_cons, List.map_cons, List.cons_append,
        applyAll_cons_of_ok rfl]
      refine (ih (b.text [c])).trans ?_
      rw [text_text]
      rfl
  | _ => rfl

theorem Builder.applyAll_flatMap_spelledOut (b : Builder) (ds : List Directive) :
    b.applyAll ((ds.flatMap Directive.spelledOut).map (Prod.mk 0)) =
      b.applyAll (ds.map (Prod.mk 0)) := by
  induction ds generalizing b with
  | nil => rfl
  | cons d ds ih =>
    rw [List.flatMap_cons, List.map_append, applyAll_spelledOut, List.map_cons, applyAll, applyAll]
    cases b.apply 0 d with
    | error fault => rfl
    | ok b' => exact ih b'

/-- **What directives build does not show where their text was split.** -/
theorem builds_spelledOut_iff : Builds (ds.flatMap Directive.spelledOut) t ↔ Builds ds t := by
  rw [Builds, Builds, Builder.applyAll_flatMap_spelledOut]

/-! ### What a text says, character by character -/

/-- What pieces say, if each of their actions says something. -/
def directivesOf (tail : List Char) :
    Bool → List (List Char × List Char) → Except TemplateFault (List Directive)
  | trimStart, [] => .ok [.literal (trimChunk trimStart false tail)]
  | trimStart, (chunk, inner) :: cuts => do
    let d ← directiveIn inner
    let more ← directivesOf tail (marksAfter inner) cuts
    return .literal (trimChunk trimStart (marksBefore inner) chunk) :: d :: more

theorem says_iff_directivesOf :
    Says trimStart cuts tail ds ↔ directivesOf tail trimStart cuts = .ok ds := by
  induction cuts generalizing trimStart ds with
  | nil => rw [says_nil_iff, directivesOf, Except.ok.injEq, eq_comm]
  | cons cut cuts ih =>
    obtain ⟨chunk, inner⟩ := cut
    rw [says_cons_iff, directivesOf]
    simp only [ih]
    cases directiveIn inner with
    | error fault => simp [bind, Except.bind]
    | ok d =>
      cases directivesOf tail (marksAfter inner) cuts with
      | error fault => simp [bind, Except.bind]
      | ok more => simp [bind, Except.bind, pure, Except.pure, eq_comm]

/-- What a text says, with constant text taken one character at a time, be it from chunks, from
what is kept of trimmed ones, or from literals. -/
def SpellsOut (text : String) (ds : List Directive) : Prop :=
  ∃ cuts tail es, CutsInto text.toList cuts tail ∧ Says false cuts tail es ∧
    ds = es.flatMap Directive.spelledOut

/-- **Two texts differ only in how their constant text is split**: character by character they say
the same. -/
def SameButSplit (a b : String) : Prop := ∃ ds, SpellsOut a ds ∧ SpellsOut b ds

theorem spellsOut_iff : SpellsOut text ds ↔ ¬['\x7b', '\x7b'] <:+: (cutText text.toList).2 ∧
    (directivesOf (cutText text.toList).2 false (cutText text.toList).1).map
      (·.flatMap Directive.spelledOut) = .ok ds := by
  constructor
  · rintro ⟨cuts, tail, es, hcut, hsays, rfl⟩
    obtain ⟨hcut, htail⟩ := cutsInto_iff.1 hcut
    rw [hcut, says_iff_directivesOf.1 hsays]
    exact ⟨htail, rfl⟩
  · rintro ⟨htail, hds⟩
    cases hes : directivesOf (cutText text.toList).2 false (cutText text.toList).1 with
    | error fault =>
      rw [hes] at hds
      cases hds
    | ok es =>
      rw [hes] at hds
      cases hds
      exact ⟨_, _, es, cutsInto_iff.2 ⟨rfl, htail⟩, says_iff_directivesOf.2 hes, rfl⟩

/-- A text is read as what it says builds, character by character. -/
theorem SpellsOut.parse_eq_ok_iff (h : SpellsOut text ds) :
    Template.parse text = .ok t ↔ Builds ds t := by
  rw [parse_eq_ok_iff_builds]
  constructor
  · rintro ⟨cuts, tail, es, hcut, hsays, hbuilds⟩
    have h' : SpellsOut text (es.flatMap Directive.spelledOut) :=
      ⟨cuts, tail, es, hcut, hsays, rfl⟩
    cases (spellsOut_iff.1 h).2.symm.trans (spellsOut_iff.1 h').2
    exact builds_spelledOut_iff.2 hbuilds
  · intro hbuilds
    obtain ⟨cuts, tail, es, hcut, hsays, rfl⟩ := h
    exact ⟨cuts, tail, es, hcut, hsays, builds_spelledOut_iff.1 hbuilds⟩

end

/-- **Templates are read into normal form**: in a template that was read, no list of parts at any
depth holds an empty text or two adjacent ones. Two texts that differ only in how their constant
text is split are read as the same template, or neither is read. -/
theorem Template.parse_normalizes :
    (∀ text t, Template.parse text = .ok t → NormalNodes t) ∧
    ∀ a b, SameButSplit a b → ∀ t, Template.parse a = .ok t ↔ Template.parse b = .ok t := by
  constructor
  · intro text t h
    obtain ⟨cuts, tail, ds, -, -, hbuilds⟩ := parse_eq_ok_iff_builds.1 h
    exact hbuilds.normalNodes
  · rintro a b ⟨ds, ha, hb⟩ t
    rw [ha.parse_eq_ok_iff, hb.parse_eq_ok_iff]

/-- Literals and trimmed chunks in a row, empty ones among them, in a conditional and outside of it,
and the same text in one chunk each. -/
theorem Template.parse_normalizes_of_literals :
    let a := "a\x7b\x7b \"\n \" \x7d\x7db \x7b\x7b- \"\" -\x7d\x7d \x7b\x7b if name \x7d\x7d" ++
      "\x7b\x7b \"c\" \x7d\x7d\x7b\x7b else \x7d\x7dd\x7b\x7b \"e\" \x7d\x7d\x7b\x7b end \x7d\x7d"
    let b := "a\n b\x7b\x7b if name \x7d\x7dc\x7b\x7b else \x7d\x7dde\x7b\x7b end \x7d\x7d"
    let t : Template :=
      [.text "a\n b".toList, .conditional .name [.text ['c']] [.text "de".toList]]
    (Template.parse a = .ok t ∧ SameButSplit a b) ∧
    NormalNodes t ∧ (Template.parse a = .ok t ↔ Template.parse b = .ok t) := by
  intro a b t
  let ds : List Directive := ("a\n b".toList.map fun c => .literal [c]) ++
    [.openIf .name, .literal ['c'], .switch, .literal ['d'], .literal ['e'], .close]
  have ha : SpellsOut a ds := spellsOut_iff.2 (by decide +kernel)
  have hb : SpellsOut b ds := spellsOut_iff.2 (by decide +kernel)
  have hparse : Template.parse a = .ok t := ha.parse_eq_ok_iff.2 ⟨_, rfl, rfl, rfl⟩
  exact ⟨⟨hparse, ds, ha, hb⟩, parse_normalizes.1 a t hparse,
    parse_normalizes.2 a b ⟨ds, ha, hb⟩ t⟩

end RecordStore
