import RecordStore.Proofs.Template.Joining
import RecordStore.Proofs.Template.Nesting
import RecordStore.Proofs.Template.Offsets

/-!
# Where a template is wrong

A text that is not read has an error at one of three places
(`RecordStore.Template.parse_eq_error_iff`).

* The first action that says nothing, or says something where it must not stand: an `else` or an
  `end` without an `if`, or a second `else` (`RecordStore.FailsAtAction`). What follows such an
  action does not matter, so every text that starts like this one has the same error.
* The braces of an action that is never closed, if all actions before it are in place.
* The `if` of the innermost conditional that is open at the end, if all actions are in place.

In each case the line is one more than the number of line feeds in front of the braces. What a
directive may be depends on the conditionals that are open (`RecordStore.LeavesOpen`), so the
induction is on the actions that are left, with those that were read and what they leave open as its
invariant.
-/

namespace RecordStore

/-- The line of what follows a text. -/
def lineAfter (before : List Char) : Nat := 1 + countLines before

/-! ### What is wrong -/

/-- **Actions that say something**, and what they say, each with the line of its braces. The text
before the first of them is given. -/
inductive Directed : List Char → List (List Char × List Char) → List (Nat × Directive) → Prop
  | nil {before : List Char} : Directed before [] []
  | action {before chunk inner : List Char} {d : Directive} {cuts : List (List Char × List Char)}
      {numbered : List (Nat × Directive)} (hd : directiveIn inner = .ok d)
      (h : Directed (before ++ actionAfter chunk inner) cuts numbered) :
      Directed before ((chunk, inner) :: cuts) ((lineAfter (before ++ chunk), d) :: numbered)

/-- **Why an action is wrong** where some conditionals are open, the innermost one first. -/
inductive Offends : List Level → List Char → TemplateFault → Prop
  /-- It says nothing. -/
  | unreadable {levels : List Level} {inner : List Char} {fault : TemplateFault}
      (h : directiveIn inner = .error fault) : Offends levels inner fault
  | elseOutside {inner : List Char} (h : directiveIn inner = .ok .switch) :
      Offends [] inner .elseOutside
  | secondElse {inner : List Char} {line : Nat} {outer : List Level}
      (h : directiveIn inner = .ok .switch) : Offends (⟨line, true⟩ :: outer) inner .secondElse
  | endWithoutIf {inner : List Char} (h : directiveIn inner = .ok .close) :
      Offends [] inner .endWithoutIf

/-- **An error at an action**: the ones before it are in place, and it is wrong where it stands. The
text behind it may be any. -/
inductive FailsAtAction : List Char → TemplateError → Prop
  | intro {front : List (List Char × List Char)} {chunk inner rest : List Char}
      {numbered : List (Nat × Directive)} {levels : List Level} {fault : TemplateFault}
      (hcuts : ∀ cut ∈ front ++ [(chunk, inner)], IsCut cut) (hfront : Directed [] front numbered)
      (hlevels : LeavesOpen numbered levels) (hwrong : Offends levels inner fault) :
      FailsAtAction (joinCuts (front ++ [(chunk, inner)]) rest)
        ⟨lineAfter (joinCuts front chunk), fault⟩

/-- **The error of a text.** -/
inductive ErrorIn : List Char → TemplateError → Prop
  | action {cs : List Char} {e : TemplateError} (h : FailsAtAction cs e) : ErrorIn cs e
  /-- All actions are in place, and one more is never closed. -/
  | unterminated {cuts : List (List Char × List Char)} {chunk opened : List Char}
      {numbered : List (Nat × Directive)} {levels : List Level} (hcuts : ∀ cut ∈ cuts, IsCut cut)
      (hopen : ¬['\x7b', '\x7b'] <:+: chunk ++ ['\x7b']) (hclose : ¬['\x7d', '\x7d'] <:+: opened)
      (hfront : Directed [] cuts numbered) (hlevels : LeavesOpen numbered levels) :
      ErrorIn (joinCuts cuts (chunk ++ '\x7b' :: '\x7b' :: opened))
        ⟨lineAfter (joinCuts cuts chunk), .unterminated⟩
  /-- All actions are in place, and they leave a conditional open. -/
  | neverClosed {cuts : List (List Char × List Char)} {tail : List Char}
      {numbered : List (Nat × Directive)} {innermost : Level} {outer : List Level}
      (hcuts : ∀ cut ∈ cuts, IsCut cut) (htail : ¬['\x7b', '\x7b'] <:+: tail)
      (hfront : Directed [] cuts numbered) (hlevels : LeavesOpen numbered (innermost :: outer)) :
      ErrorIn (joinCuts cuts tail) ⟨innermost.line, .neverClosed⟩

section

variable {before chunk inner rest tail : List Char} {cuts front : List (List Char × List Char)}
  {numbered : List (Nat × Directive)} {levels levels' : List Level} {line : Nat} {d : Directive}
  {fault : TemplateFault} {e : TemplateError} {trimStart : Bool}

/-! ### Lines -/

theorem joinCuts_eq_append (cuts : List (List Char × List Char)) (tail : List Char) :
    joinCuts cuts tail = joinCuts cuts [] ++ tail := by
  rw [← joinCuts_tail_append, List.nil_append]

theorem joinCuts_cons (chunk inner : List Char) (cuts : List (List Char × List Char))
    (tail : List Char) :
    joinCuts ((chunk, inner) :: cuts) tail = actionAfter chunk inner ++ joinCuts cuts tail := by
  simp [joinCuts, actionAfter]

theorem lineAfter_actionAfter (before chunk inner : List Char) :
    lineAfter (before ++ actionAfter chunk inner) =
      lineAfter (before ++ chunk) + countLines inner := by
  rw [lineAfter, lineAfter, countLines_append, countLines_append, countLines_actionAfter]
  omega

theorem lineAfter_append (before chunk : List Char) :
    lineAfter (before ++ chunk) = lineAfter before + countLines chunk := by
  rw [lineAfter, lineAfter, countLines_append, Nat.add_assoc]

/-- One more action that says something. -/
theorem Directed.concat (h : Directed before cuts numbered) (hd : directiveIn inner = .ok d) :
    Directed before (cuts ++ [(chunk, inner)])
      (numbered ++ [(lineAfter (before ++ joinCuts cuts chunk), d)]) := by
  induction h with
  | nil => exact .action hd .nil
  | @action before chunk' inner' _ cuts _ hd' _ ih =>
    rw [joinCuts_cons, ← List.append_assoc]
    exact .action hd' ih

/-! ### One action -/

/-- An action is wrong exactly if it does nothing to the open conditionals. -/
theorem offends_iff_enter (line : Nat) : Offends levels inner fault ↔
    (directiveIn inner).bind (enter levels line) = .error fault := by
  constructor
  · rintro (h | h | h | h) <;> rw [h] <;> rfl
  · intro h
    cases hd : directiveIn inner with
    | error fault' =>
      rw [hd] at h
      cases h
      exact .unreadable hd
    | ok d =>
      rw [hd] at h
      change enter levels line d = .error fault at h
      cases d with
      | literal | «variable» | openIf => cases h
      | switch =>
        match levels with
        | [] =>
          cases h
          exact .elseOutside hd
        | ⟨_, true⟩ :: _ =>
          cases h
          exact .secondElse hd
        | ⟨_, false⟩ :: _ => cases h
      | close =>
        cases levels with
        | nil =>
          cases h
          exact .endWithoutIf hd
        | cons => cases h

theorem Offends.enter_eq (h : Offends levels inner fault) (hd : directiveIn inner = .ok d)
    (line : Nat) : enter levels line d = .error fault := by
  have hfault := (offends_iff_enter line).1 h
  rwa [hd] at hfault

theorem Offends.unique {fault' : TemplateFault} (h : Offends levels inner fault)
    (h' : Offends levels inner fault') : fault = fault' :=
  Except.error.inj (((offends_iff_enter 0).1 h).symm.trans ((offends_iff_enter 0).1 h'))

/-- **An action is wrong, and the error stands there, or it is carried out.** -/
theorem resume_cases (hcut : IsCut (chunk, inner)) (b : Builder) (trimStart : Bool)
    (before : List Char) :
    (∃ fault, Offends b.levels inner fault ∧ ∀ rest,
      b.resume trimStart (lineAfter before) (actionAfter chunk inner ++ rest) =
        .error ⟨lineAfter (before ++ chunk), fault⟩) ∨
    ∃ (d : Directive) (b' : Builder), directiveIn inner = .ok d ∧
      enter b.levels (lineAfter (before ++ chunk)) d = .ok b'.levels ∧ ∀ rest,
        b.resume trimStart (lineAfter before) (actionAfter chunk inner ++ rest) =
          b'.resume (marksAfter inner) (lineAfter (before ++ actionAfter chunk inner)) rest := by
  have hopen (rest : List Char) : splitAtPair '\x7b' '\x7b' (actionAfter chunk inner ++ rest) =
      some (chunk, inner ++ '\x7d' :: '\x7d' :: rest) :=
    splitAtPair_eq_some_iff.2 ⟨by simp [actionAfter], hcut.opens⟩
  have hclose (rest : List Char) :
      splitAtPair '\x7d' '\x7d' (inner ++ '\x7d' :: '\x7d' :: rest) = some (inner, rest) :=
    splitAtPair_eq_some_iff.2 ⟨rfl, hcut.closes⟩
  have henter := (b.text (trimChunk trimStart (marksBefore inner) chunk)).levels_apply
    (lineAfter (before ++ chunk))
  cases hd : directiveIn inner with
  | error fault =>
    refine Or.inl ⟨fault, .unreadable hd, fun rest => ?_⟩
    rw [Builder.resume_of_cut (hopen rest) (hclose rest), ← lineAfter_append, hd]
    rfl
  | ok d =>
    have henter := henter d
    cases happly : (b.text (trimChunk trimStart (marksBefore inner) chunk)).apply
        (lineAfter (before ++ chunk)) d with
    | error fault =>
      rw [happly] at henter
      refine Or.inl ⟨fault, (offends_iff_enter _).2 (by rw [hd]; exact henter.symm), fun rest => ?_⟩
      rw [Builder.resume_of_cut (hopen rest) (hclose rest), ← lineAfter_append, hd, Except.bind,
        happly]
    | ok b' =>
      rw [happly] at henter
      refine Or.inr ⟨d, b', rfl, henter.symm, fun rest => ?_⟩
      rw [Builder.resume_of_cut (hopen rest) (hclose rest), lineAfter_actionAfter,
        ← lineAfter_append, hd, Except.bind, happly]

/-! ### All actions -/

/-- Actions that are in place are carried out. -/
theorem exists_resume_of_directed (h : Directed before cuts numbered)
    (hcuts : ∀ cut ∈ cuts, IsCut cut) {b : Builder} (trimStart : Bool)
    (hlevels : enterAll b.levels numbered = .ok levels) :
    ∃ (b' : Builder) (trimStart' : Bool), b'.levels = levels ∧ ∀ cs,
      b.resume trimStart (lineAfter before) (joinCuts cuts cs) =
        b'.resume trimStart' (lineAfter (before ++ joinCuts cuts [])) cs := by
  induction h generalizing b trimStart with
  | nil =>
    cases hlevels
    exact ⟨b, trimStart, rfl, fun cs => by rw [joinCuts, joinCuts, List.append_nil]⟩
  | @action before chunk inner d cuts numbered hd _ ih =>
    obtain ⟨hcut, hcuts⟩ := List.forall_mem_cons.1 hcuts
    rcases resume_cases hcut b trimStart before with
      ⟨fault, hwrong, -⟩ | ⟨d', b₁, hd', henter, hresume⟩
    · rw [enterAll, hwrong.enter_eq hd] at hlevels
      cases hlevels
    · cases hd.symm.trans hd'
      rw [enterAll, henter] at hlevels
      obtain ⟨b', trimStart', hb', hrest⟩ := ih hcuts (marksAfter inner) hlevels
      refine ⟨b', trimStart', hb', fun cs => ?_⟩
      rw [joinCuts_cons, joinCuts_cons, hresume, hrest, ← List.append_assoc]

/-- **The first error is found**: `front` are the actions that were read, all of them in place. -/
theorem errorIn_of_resume (hcuts : ∀ cut ∈ front ++ cuts, IsCut cut) (htail : IsRest tail)
    (hfront : Directed [] front numbered) {b : Builder} (hlevels : LeavesOpen numbered b.levels)
    (h : b.resume trimStart (lineAfter (joinCuts front [])) (joinCuts cuts tail) = .error e) :
    ErrorIn (joinCuts (front ++ cuts) tail) e := by
  induction cuts generalizing front numbered b trimStart with
  | nil =>
    rw [List.append_nil] at hcuts ⊢
    rw [joinCuts] at h
    cases hopen : splitAtPair '\x7b' '\x7b' tail with
    | none =>
      rw [Builder.resume_of_no_pair hopen, Builder.run] at h
      cases hblocks : b.blocks with
      | nil =>
        simp only [Builder.text, hblocks] at h
        cases h
      | cons block outer =>
        simp only [Builder.text, hblocks] at h
        cases h
        rw [Builder.levels, hblocks] at hlevels
        exact .neverClosed hcuts (splitAtPair_eq_none_iff.1 hopen) hfront hlevels
    | some split =>
      obtain ⟨chunk, opened⟩ := split
      have hclose := htail chunk opened hopen
      rw [Builder.resume_of_unterminated hopen hclose, ← lineAfter_append,
        ← joinCuts_eq_append] at h
      cases h
      obtain ⟨rfl, hopens⟩ := splitAtPair_eq_some_iff.1 hopen
      exact .unterminated hcuts hopens (splitAtPair_eq_none_iff.1 hclose) hfront hlevels
  | cons cut cuts ih =>
    obtain ⟨chunk, inner⟩ := cut
    rw [List.append_cons] at hcuts ⊢
    have hcut : IsCut (chunk, inner) := hcuts _ (by simp)
    rw [joinCuts_cons] at h
    rcases resume_cases hcut b trimStart (joinCuts front []) with
      ⟨fault, hwrong, hresume⟩ | ⟨d, b', hd, henter, hresume⟩
    · rw [hresume, ← joinCuts_eq_append] at h
      cases h
      rw [joinCuts_append]
      refine .action (.intro (fun cut hcut => hcuts cut ?_) hfront hlevels hwrong)
      exact List.mem_append_left _ hcut
    · rw [← joinCuts_eq_append] at henter
      rw [hresume] at h
      have hread : joinCuts (front ++ [(chunk, inner)]) [] =
          joinCuts front [] ++ actionAfter chunk inner := by
        rw [joinCuts_append, joinCuts_eq_append, joinCuts_cons, joinCuts, List.append_nil]
      rw [← hread] at h
      exact ih hcuts (hfront.concat hd) (hlevels.enter henter) h

/-- **The error of a text is where it is wrong.** -/
theorem Template.parse_eq_error_iff {text : String} :
    Template.parse text = .error e ↔ ErrorIn text.toList e := by
  change ({} : Builder).resume false (lineAfter []) text.toList = .error e ↔ _
  generalize text.toList = cs
  constructor
  · obtain ⟨hcuts, htail, hjoin⟩ := cutText_spec cs
    intro h
    rw [← hjoin] at h ⊢
    exact errorIn_of_resume (b := {}) hcuts htail .nil leavesOpen_nil h
  · -- the actions in front of the place are carried out, and it is wrong for what they leave open
    have hread {cuts : List (List Char × List Char)} {numbered : List (Nat × Directive)}
        {levels : List Level} (hcuts : ∀ cut ∈ cuts, IsCut cut) (hfront : Directed [] cuts numbered)
        (hlevels : LeavesOpen numbered levels) :=
      exists_resume_of_directed hfront hcuts (b := {}) false (enterAll_eq_ok_iff.2 hlevels)
    intro h
    cases h with
    | action h =>
      obtain ⟨hcuts, hfront, hlevels, hwrong⟩ := h
      obtain ⟨hcuts, hcut⟩ := List.forall_mem_append.1 hcuts
      obtain ⟨b, trimStart, rfl, hresume⟩ := hread hcuts hfront hlevels
      rw [joinCuts_append, hresume, joinCuts_cons]
      rcases resume_cases (hcut _ (List.mem_singleton_self _)) b trimStart (joinCuts _ []) with
        ⟨fault, hwrong', hresume⟩ | ⟨d, b', hd, henter, -⟩
      · rw [List.nil_append, joinCuts, hresume, ← joinCuts_eq_append, hwrong.unique hwrong']
      · cases (hwrong.enter_eq hd _).symm.trans henter
    | unterminated hcuts hopen hclose hfront hlevels =>
      obtain ⟨b, trimStart, -, hresume⟩ := hread hcuts hfront hlevels
      rw [hresume, Builder.resume_of_unterminated (splitAtPair_eq_some_iff.2 ⟨rfl, hopen⟩)
        (splitAtPair_eq_none_iff.2 hclose), ← lineAfter_append, List.nil_append,
        ← joinCuts_eq_append]
    | neverClosed hcuts htail hfront hlevels =>
      obtain ⟨b, trimStart, hb, hresume⟩ := hread hcuts hfront hlevels
      obtain ⟨block, outer, hblocks, rfl, -⟩ := List.map_eq_cons_iff.1 hb
      rw [hresume, Builder.resume_of_no_pair (splitAtPair_eq_none_iff.2 htail), Builder.run]
      simp only [Builder.text, hblocks]

theorem FailsAtAction.append {cs : List Char} (h : FailsAtAction cs e) (more : List Char) :
    FailsAtAction (cs ++ more) e := by
  cases h with
  | intro hcuts hfront hlevels hwrong =>
    rw [← joinCuts_tail_append]
    exact .intro hcuts hfront hlevels hwrong

/-- **Errors point at the first action that is wrong**, and do not depend on what follows it. -/
theorem Template.parse_points_at_first_fault (text : String) :
    Template.readBytes text = some (Template.parse text) ∧
    (∀ e, Template.parse text = .error e ↔ ErrorIn text.toList e) ∧
    ∀ e, FailsAtAction text.toList e → ∀ more, Template.parse (text ++ more) = .error e := by
  refine ⟨Template.readBytes_eq text, fun e => parse_eq_error_iff, fun e h more => ?_⟩
  rw [parse_eq_error_iff, String.toList_append]
  exact .action (h.append _)

/-- An `end` in the second line that closes nothing, behind a character of two bytes. -/
theorem Template.parse_end_in_second_line :
    FailsAtAction "é\n\x7b\x7b end \x7d\x7d".toList ⟨2, .endWithoutIf⟩ ∧
      ∀ more, Template.parse ("é\n\x7b\x7b end \x7d\x7d" ++ more) = .error ⟨2, .endWithoutIf⟩ := by
  have hfails : FailsAtAction (joinCuts ([] ++ [("é\n".toList, " end ".toList)]) [])
      ⟨lineAfter (joinCuts [] "é\n".toList), .endWithoutIf⟩ :=
    .intro (List.forall_mem_singleton.2 ⟨by decide, by decide⟩) .nil leavesOpen_nil
      (.endWithoutIf (by decide))
  exact ⟨hfails, (Template.parse_points_at_first_fault _).2.2 _ hfails⟩

end

end RecordStore
