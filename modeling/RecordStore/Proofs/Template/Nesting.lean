import Mathlib.Data.List.Induction
import RecordStore.Proofs.Template.Reading

/-!
# Which conditionals are open

A conditional is open where its `if` has been read and its `end` has not. What directives in a row
leave open can be told by the grammar: behind the `if` of the innermost open conditional stands a
block, or two with an `else` between them, and what stands before the `if` leaves the outer ones open
(`RecordStore.LeavesOpen`).

The builder keeps the same account. What it does to the open conditionals depends on these alone,
not on the parts that it has made (`RecordStore.Builder.levels_apply`), and it takes for open exactly
what the grammar says (`RecordStore.enterAll_eq_ok_iff`). One direction is an induction on the
directives, the last one first, with `RecordStore.LeavesOpen.enter` for its step; the other is one on
the derivation.
-/

namespace RecordStore

/-! ### What a directive does to the open conditionals -/

/-- An open conditional: the line of its `if`, and whether its second branch is under way. -/
structure Level where
  line : Nat
  switched : Bool
  deriving DecidableEq, Repr

/-- The open conditionals of a builder, innermost first. -/
def Builder.levels (b : Builder) : List Level :=
  b.blocks.map fun block => ⟨block.line, block.first.isSome⟩

/-- The open conditionals after a directive in a line. -/
def enter (levels : List Level) (line : Nat) (d : Directive) :
    Except TemplateFault (List Level) :=
  match d, levels with
  | .literal _, _ | .variable _, _ => .ok levels
  | .openIf _, _ => .ok (⟨line, false⟩ :: levels)
  | .switch, [] => .error .elseOutside
  | .switch, ⟨_, true⟩ :: _ => .error .secondElse
  | .switch, ⟨start, false⟩ :: outer => .ok (⟨start, true⟩ :: outer)
  | .close, [] => .error .endWithoutIf
  | .close, _ :: outer => .ok outer

/-- The open conditionals after directives, each with its line. -/
def enterAll (levels : List Level) : List (Nat × Directive) → Except TemplateFault (List Level)
  | [] => .ok levels
  | (line, d) :: rest => (enter levels line d).bind fun levels => enterAll levels rest

section

variable {levels levels' : List Level} {numbered front : List (Nat × Directive)} {line : Nat}
  {d : Directive} {switched : Bool} {ds es : List Directive}

theorem enterAll_append (levels : List Level) (front numbered : List (Nat × Directive)) :
    enterAll levels (front ++ numbered) =
      (enterAll levels front).bind fun levels => enterAll levels numbered := by
  induction front generalizing levels with
  | nil => rfl
  | cons step rest ih =>
    obtain ⟨line, d⟩ := step
    rw [List.cons_append, enterAll, enterAll]
    cases enter levels line d with
    | error fault => rfl
    | ok levels' => exact ih levels'

/-- **The builder keeps account of the open conditionals** by these alone. -/
theorem Builder.levels_apply (b : Builder) (line : Nat) (d : Directive) :
    (b.apply line d).map Builder.levels = enter b.levels line d := by
  obtain ⟨current, blocks⟩ := b
  cases d with
  | literal chars => rfl
  | «variable» v => rfl
  | openIf v => rfl
  | switch =>
    cases blocks with
    | nil => rfl
    | cons block outer =>
      obtain ⟨before, condition, start, first⟩ := block
      cases first <;> rfl
  | close =>
    cases blocks with
    | nil => rfl
    | cons block outer =>
      obtain ⟨before, condition, start, first⟩ := block
      cases first <;> rfl

theorem Builder.levels_applyAll (b : Builder) (numbered : List (Nat × Directive)) :
    (b.applyAll numbered).map Builder.levels = enterAll b.levels numbered := by
  induction numbered generalizing b with
  | nil => rfl
  | cons step rest ih =>
    obtain ⟨line, d⟩ := step
    rw [applyAll, enterAll, ← levels_apply b line d]
    cases b.apply line d with
    | error fault => rfl
    | ok b' => exact ih b'

/-! ### What directives leave open -/

/-- What has been read of an open conditional: the start of its first branch, or this branch and the
start of the second. -/
inductive BranchesSoFar : Bool → List Directive → Prop
  | first {ds : List Directive} (h : IsBlock ds) : BranchesSoFar false ds
  | second {first second : List Directive} (h : IsBlock first) (h' : IsBlock second) :
      BranchesSoFar true (first ++ .switch :: second)

/-- **Directives that are in place, and the conditionals that they leave open**, innermost first. -/
inductive LeavesOpen : List (Nat × Directive) → List Level → Prop
  | none {numbered : List (Nat × Directive)} (h : IsBlock (numbered.map Prod.snd)) :
      LeavesOpen numbered []
  | inside {front body : List (Nat × Directive)} {outer : List Level} {line : Nat} {v : Variable}
      {switched : Bool} (h : LeavesOpen front outer)
      (hbody : BranchesSoFar switched (body.map Prod.snd)) :
      LeavesOpen (front ++ (line, .openIf v) :: body) (⟨line, switched⟩ :: outer)

theorem leavesOpen_nil : LeavesOpen [] [] := .none isBlock_nil

/-! ### Blocks in a row -/

theorem IsBlock.append (h : IsBlock ds) (h' : IsBlock es) : IsBlock (ds ++ es) := by
  obtain ⟨text, h⟩ := h
  induction h with
  | nil => exact h'
  | literal chars _ ih =>
    obtain ⟨_, ih⟩ := ih
    exact ⟨_, ih.literal chars⟩
  | value v _ ih =>
    obtain ⟨_, ih⟩ := ih
    exact ⟨_, ih.value v⟩
  | choice v h₁ _ _ ih =>
    obtain ⟨_, ih⟩ := ih
    exact ⟨_, by simpa using Block.choice v h₁ ih⟩
  | branches v h₁ h₂ _ _ _ ih =>
    obtain ⟨_, ih⟩ := ih
    exact ⟨_, by simpa using Block.branches v h₁ h₂ ih⟩

theorem BranchesSoFar.append (h : BranchesSoFar switched ds) (h' : IsBlock es) :
    BranchesSoFar switched (ds ++ es) := by
  cases h with
  | first h => exact .first (h.append h')
  | second h hsecond =>
    rw [List.append_assoc, List.cons_append]
    exact .second h (hsecond.append h')

theorem BranchesSoFar.isBlock_of_first (h : BranchesSoFar false ds) : IsBlock ds := by
  cases h with
  | first h => exact h

/-- A conditional whose branches have been read is a block once it is closed. -/
theorem BranchesSoFar.isBlock (h : BranchesSoFar switched ds) (v : Variable) :
    IsBlock (.openIf v :: (ds ++ [.close])) := by
  cases h with
  | first h =>
    obtain ⟨_, h⟩ := h
    exact ⟨_, h.choice v .nil⟩
  | second h h' =>
    obtain ⟨_, h⟩ := h
    obtain ⟨_, h'⟩ := h'
    exact ⟨_, by simpa using Block.branches v h h' .nil⟩

namespace LeavesOpen

/-- A block leaves nothing else open. -/
theorem append (h : LeavesOpen front levels) (hblock : IsBlock (numbered.map Prod.snd)) :
    LeavesOpen (front ++ numbered) levels := by
  cases h with
  | none h => exact .none (by rw [List.map_append]; exact h.append hblock)
  | inside h hbody =>
    rw [List.append_assoc, List.cons_append]
    exact .inside h (by rw [List.map_append]; exact hbody.append hblock)

/-- **One more directive** leaves open what the builder takes for open. -/
theorem enter (h : LeavesOpen front levels) (hd : enter levels line d = .ok levels') :
    LeavesOpen (front ++ [(line, d)]) levels' := by
  cases d with
  | literal chars =>
    cases hd
    exact h.append ⟨_, .literal chars .nil⟩
  | «variable» v =>
    cases hd
    exact h.append ⟨_, .value v .nil⟩
  | openIf v =>
    cases hd
    exact .inside h (.first isBlock_nil)
  | switch =>
    cases h with
    | none => cases hd
    | @inside front body outer start v switched h hbody =>
      cases switched with
      | true => cases hd
      | false =>
        cases hd
        rw [List.append_assoc, List.cons_append]
        refine .inside h ?_
        rw [List.map_append]
        exact .second hbody.isBlock_of_first isBlock_nil
  | close =>
    cases h with
    | none => cases hd
    | @inside front body outer start v switched h hbody =>
      cases hd
      rw [List.append_assoc, List.cons_append]
      refine h.append ?_
      rw [List.map_cons, List.map_append]
      exact hbody.isBlock v

end LeavesOpen

theorem leavesOpen_of_enterAll (h : enterAll [] numbered = .ok levels) :
    LeavesOpen numbered levels := by
  induction numbered using List.reverseRecOn generalizing levels with
  | nil =>
    cases h
    exact leavesOpen_nil
  | append_singleton front step ih =>
    obtain ⟨line, d⟩ := step
    rw [enterAll_append] at h
    cases hfront : enterAll [] front with
    | error fault =>
      rw [hfront] at h
      cases h
    | ok before =>
      rw [hfront] at h
      refine (ih hfront).enter ?_
      change enterAll before [(line, d)] = .ok levels at h
      rw [enterAll] at h
      cases hstep : RecordStore.enter before line d with
      | error fault =>
        rw [hstep] at h
        cases h
      | ok after =>
        rw [hstep] at h
        exact h

/-- Directives that are in place are carried out. -/
theorem LeavesOpen.exists_applyAll (h : LeavesOpen numbered levels) :
    ∃ b, ({} : Builder).applyAll numbered = .ok b ∧ b.levels = levels := by
  induction h with
  | none h =>
    obtain ⟨_, h⟩ := h
    obtain ⟨b, hrun, hblocks, -⟩ := h.exists_applyAll {} _ rfl
    exact ⟨b, hrun, by rw [Builder.levels, hblocks]; rfl⟩
  | @inside front body outer line v switched _ hbody ih =>
    obtain ⟨b, hrun, rfl⟩ := ih
    rw [Builder.applyAll_append_of_ok hrun, Builder.applyAll_openIf]
    generalize hds : body.map Prod.snd = ds at hbody
    cases hbody with
    | first h =>
      obtain ⟨_, h⟩ := h
      obtain ⟨b', hrun', hblocks, -⟩ := h.exists_applyAll (b.opened line v) body hds
      exact ⟨b', hrun', by rw [Builder.levels, hblocks]; rfl⟩
    | second h h' =>
      obtain ⟨_, h⟩ := h
      obtain ⟨_, h'⟩ := h'
      obtain ⟨first, switched, rfl, hfirst, hswitched⟩ := List.map_eq_append_iff.1 hds
      obtain ⟨⟨line', _⟩, second, rfl, rfl, hsecond⟩ := List.map_eq_cons_iff.1 hswitched
      obtain ⟨b₁, hrun₁, hblocks₁, -⟩ := h.exists_applyAll (b.opened line v) first hfirst
      have hswitch : b₁.apply line' .switch =
          .ok ⟨[], ⟨b.current, v, line, some b₁.current⟩ :: b.blocks⟩ := by
        simp [Builder.apply, hblocks₁, Builder.opened]
      obtain ⟨b₂, hrun₂, hblocks₂, -⟩ :=
        h'.exists_applyAll ⟨[], ⟨b.current, v, line, some b₁.current⟩ :: b.blocks⟩ second hsecond
      refine ⟨b₂, ?_, by rw [Builder.levels, hblocks₂]; rfl⟩
      rw [Builder.applyAll_append_of_ok hrun₁, Builder.applyAll_cons_of_ok hswitch]
      exact hrun₂

/-- **What directives leave open** is what the builder takes for open. -/
theorem enterAll_eq_ok_iff : enterAll [] numbered = .ok levels ↔ LeavesOpen numbered levels := by
  refine ⟨leavesOpen_of_enterAll, fun h => ?_⟩
  obtain ⟨b, hrun, hlevels⟩ := h.exists_applyAll
  change enterAll ({} : Builder).levels numbered = .ok levels
  rw [← Builder.levels_applyAll, hrun, ← hlevels, Except.map]

end

end RecordStore
