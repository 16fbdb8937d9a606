import RecordStore.Source.Parser

/-!
# Runs of parsers

A run that succeeds is a sequence of runs that do (`RecordStore.Source.Parser.run_bind_eq_ok_iff`),
and what the steps have read can be told from the trees that were left before and after them. A text
is read as a whole if its last run leaves nothing, neither at the end nor in a group
(`RecordStore.Source.Parser.runAll_eq_ok_iff`).
-/

namespace RecordStore.Source.Parser

variable {α β : Type} {p : Parser α} {f : α → Parser β} {s t : ParseState} {a : α} {b : β}

/-! ### Steps -/

/-- **A run of two parsers** in a row is a run of the first, and then one of the second. -/
theorem run_bind_eq_ok_iff : (p >>= f).run s = .ok (b, t) ↔
    ∃ a u, p.run s = .ok (a, u) ∧ (f a).run u = .ok (b, t) := by
  rw [StateT.run_bind]
  cases p.run s with
  | error e => simp [bind, Except.bind]
  | ok r =>
    constructor
    · exact fun h => ⟨r.1, r.2, rfl, h⟩
    · rintro ⟨a, u, heq, h⟩
      cases heq
      exact h

theorem run_bind_of_ok {u : ParseState} (h : p.run s = .ok (a, u)) :
    (p >>= f).run s = (f a).run u := by
  rw [StateT.run_bind, h]
  rfl

theorem run_get_bind {f : ParseState → Parser β} : (get >>= f).run s = (f s).run s := rfl

theorem run_peek_bind {k : Peek} {f : Bool → Parser β} :
    (peek k >>= f).run s = (f (k.holds s.rest)).run s := rfl

theorem run_peekSecond (k : Peek) :
    (peekSecond k).run s = .ok (!s.rest.isEmpty && k.holds s.rest.tail, s) := by
  obtain ⟨rest, _, _, _, _⟩ := s
  cases rest with
  | nil => rfl
  | cons tree rest => rfl

theorem noneOf_ne_ok {ps : List Peek} : (noneOf ps).run s ≠ .ok (b, t) := by
  rw [noneOf, run_get_bind]
  dsimp only
  split
  · intro h
    cases h
  · intro h
    cases h

/-! ### Tokens and groups -/

theorem holds_punctuation (sign : Sign) {text : String} (ht : text.toList = [sign.char])
    {ts : Tokens} : (punctuation text).holds ts = true ↔
      ∃ joint span rest, ts = .token (.punct sign joint) span :: rest := by
  simp only [punctuation, ht]
  constructor
  · intro h
    rw [afterPunct?.eq_def] at h
    split at h <;> simp_all [Sign.ext_iff]
  · rintro ⟨joint, span, rest, rfl⟩
    simp [afterPunct?]

/-- A punctuation character that is read is one tree. -/
theorem rest_of_punct {text : String} {c : Char} (ht : text.toList = [c])
    (h : (punct text).run s = .ok ((), t)) : ∃ tree, s.rest = tree :: t.rest := by
  rw [punct, run_get_bind] at h
  split at h
  · rename_i rest tree hafter _
    rw [ht] at hafter
    cases h
    rw [afterPunct?.eq_def] at hafter
    split at hafter <;> simp_all
  · cases h

/-- What is read as a group is one. -/
theorem exists_group_of_run {d : Delimiter} (h : (group d p).run s = .ok (a, t)) :
    ∃ opening closing content rest, s.rest = .group d opening closing content :: rest := by
  rw [group, groupThen, run_get_bind] at h
  split at h
  · split at h
    · rename_i hd
      subst hd
      exact ⟨_, _, _, _, ‹_›⟩
    · cases h
  · cases h

/-! ### Whole texts -/

/-- Where the first item takes all there is, it is the only one. -/
theorem run_untilEnd (hs : s.rest ≠ []) (hp : p.run s = .ok (a, t)) (ht : t.rest = []) :
    (untilEnd p).run s = .ok ([a], t) := by
  obtain ⟨tree, rest, hrest⟩ := List.exists_cons_of_ne_nil hs
  have hfirst : (do if ← atEnd then return none
                    return some (← p) : Parser (Option α)).run s = .ok (some a, t) := by
    rw [run_bind_of_ok (p := atEnd) rfl, hrest]
    dsimp only [List.isEmpty_cons]
    rw [if_neg Bool.false_ne_true, run_bind_of_ok hp]
    rfl
  have hsecond : (do if ← atEnd then return none
                     return some (← p) : Parser (Option α)).run t = .ok (none, t) := by
    rw [run_bind_of_ok (p := atEnd) rfl, ht]
    rfl
  rw [untilEnd, loop, run_get_bind, hrest, List.length_cons, repeatUntilNone,
    run_bind_of_ok hfirst]
  dsimp only
  rw [repeatUntilNone, bind_assoc, run_bind_of_ok hsecond]
  rfl

/-- **A text is read as a whole** by a run that leaves nothing unread. -/
theorem runAll_eq_ok_iff {scope : Span} {tokens : Tokens} :
    runAll p scope tokens = .ok a ↔
      ∃ t, p.run { rest := tokens, scope } = .ok (a, t) ∧ t.leftover = none ∧ t.rest = [] := by
  rw [runAll]
  cases hrun : p.run { rest := tokens, scope } with
  | error e => simp
  | ok r =>
    obtain ⟨a', t⟩ := r
    constructor
    · intro h
      cases hleft : t.leftover with
      | some place => simp [hleft] at h
      | none =>
        cases hrest : t.rest with
        | cons tree rest => simp [hleft, hrest] at h
        | nil =>
          simp only [hleft, hrest] at h
          cases h
          exact ⟨t, rfl, hleft, hrest⟩
    · rintro ⟨u, heq, hleft, hrest⟩
      cases heq
      simp only [hleft, hrest]

end RecordStore.Source.Parser
