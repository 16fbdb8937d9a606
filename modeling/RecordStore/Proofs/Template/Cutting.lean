import RecordStore.Proofs.Template.Reading

/-!
# The pieces of a template text

The grammar cuts a text by a relation, which says nothing of a text that it cannot cut
to the end. Here every text has its pieces (`RecordStore.cutText`): its complete
actions, each with the chunk before it, and the rest, which may hold the start of an
action that is never closed.

Pieces can be put together again, and the text is cut into the same pieces as long as
no pair of braces begins too early (`RecordStore.cutText_joinCuts`). So a change to a
text can be told as a change to its pieces, and what a text is read as depends on these
alone (`RecordStore.parse_eq_ok_iff_cutText`).
-/

namespace RecordStore

/-! ### Pairs of characters -/

section Pairs

variable {a : Char} {x y left cs : List Char}

/-- No pair is in two texts in a row if none is in either of them, nor where they meet. -/
theorem not_infix_pair_append (hx : ¬[a, a] <:+: x) (hy : ¬[a, a] <:+: y)
    (hseam : ¬(x.getLast? = some a ∧ y.head? = some a)) : ¬[a, a] <:+: x ++ y := by
  induction x with
  | nil => exact hy
  | cons c x ih =>
    rw [List.cons_append, List.infix_cons_iff]
    rintro (hfront | hinfix)
    · obtain ⟨rfl, hsecond⟩ := List.cons_prefix_cons.1 hfront
      cases x with
      | nil =>
        cases y with
        | nil => simp at hsecond
        | cons d y => exact hseam ⟨rfl, congrArg some (List.cons_prefix_cons.1 hsecond).1.symm⟩
      | cons d x =>
        have hd := (List.cons_prefix_cons.1 hsecond).1
        exact hx ⟨[], x, by rw [← hd]; rfl⟩
    · refine ih (fun h => hx (h.trans (List.suffix_cons _ _).isInfix)) (fun h => hseam ?_) hinfix
      cases x with
      | nil => cases h.1
      | cons d x => exact h

theorem not_infix_pair_singleton (c : Char) : ¬[a, a] <:+: [c] := fun h => by
  simpa using h.length_le

/-- A character of another kind in place of one makes no pair. -/
theorem not_infix_pair_replace {c d : Char} (hd : d ≠ a) (h : ¬[a, a] <:+: x ++ c :: y) :
    ¬[a, a] <:+: x ++ d :: y := by
  have hx : ¬[a, a] <:+: x := fun hpair => h (hpair.trans (List.prefix_append x _).isInfix)
  have hy : ¬[a, a] <:+: y := fun hpair =>
    h (hpair.trans ⟨x ++ [c], [], by simp⟩)
  have hdy : ¬[a, a] <:+: [d] ++ y :=
    not_infix_pair_append (not_infix_pair_singleton d) hy fun hseam => hd (Option.some.inj hseam.1)
  exact not_infix_pair_append hx hdy fun hseam => hd (Option.some.inj hseam.2)

/-- Characters of another kind in front change nothing. -/
theorem infix_pair_append_iff (h : a ∉ left) : [a, a] <:+: left ++ cs ↔ [a, a] <:+: cs := by
  rw [← not_iff_not, ← splitAtPair_eq_none_iff, ← splitAtPair_eq_none_iff, splitAtPair_append h,
    Option.map_eq_none_iff]

end Pairs

/-! ### Pieces -/

/-- **A text cut at its complete actions**: these, each as the chunk before it and the text between
its braces, and what follows the last. -/
def cutText (cs : List Char) : List (List Char × List Char) × List Char :=
  match _h₁ : splitAtPair '\x7b' '\x7b' cs with
  | none => ([], cs)
  | some (chunk, opened) =>
    match _h₂ : splitAtPair '\x7d' '\x7d' opened with
    | none => ([], cs)
    | some (inner, rest) => ((chunk, inner) :: (cutText rest).1, (cutText rest).2)
termination_by cs.length
decreasing_by
  all_goals
    have := splitAtPair_length _h₁
    have := splitAtPair_length _h₂
    omega

/-- The text that pieces are cut from. -/
def joinCuts : List (List Char × List Char) → List Char → List Char
  | [], tail => tail
  | (chunk, inner) :: cuts, tail =>
    chunk ++ '\x7b' :: '\x7b' :: (inner ++ '\x7d' :: '\x7d' :: joinCuts cuts tail)

/-- A piece that is cut off as it is: no pair of braces begins before those of the action. -/
structure IsCut (cut : List Char × List Char) : Prop where
  opens : ¬['\x7b', '\x7b'] <:+: cut.1 ++ ['\x7b']
  closes : ¬['\x7d', '\x7d'] <:+: cut.2 ++ ['\x7d']

/-- A text from which nothing is cut off: it has no action, or one that is never closed. -/
def IsRest (cs : List Char) : Prop :=
  ∀ chunk opened, splitAtPair '\x7b' '\x7b' cs = some (chunk, opened) →
    splitAtPair '\x7d' '\x7d' opened = none

section Pieces

variable {cs tail left : List Char} {cuts : List (List Char × List Char)}

theorem isRest_of_no_pair (h : ¬['\x7b', '\x7b'] <:+: cs) : IsRest cs := by
  intro chunk opened hopen
  cases (splitAtPair_eq_none_iff.2 h).symm.trans hopen

/-- Characters in front that open no action change nothing. -/
theorem isRest_append_iff (h : '\x7b' ∉ left) : IsRest (left ++ cs) ↔ IsRest cs := by
  have hsplit := splitAtPair_append h cs
  constructor
  · intro hrest chunk opened hopen
    rw [hopen, Option.map_some] at hsplit
    exact hrest _ _ hsplit
  · intro hrest chunk opened hopen
    rw [hopen] at hsplit
    obtain ⟨⟨chunk', opened'⟩, hopen', heq⟩ := Option.map_eq_some_iff.1 hsplit.symm
    cases heq
    exact hrest _ _ hopen'

theorem cutText_of_isRest (h : IsRest cs) : cutText cs = ([], cs) := by
  rw [cutText]
  split
  · rfl
  · rename_i chunk opened hopen
    split
    · rfl
    · rename_i hclose
      cases (h _ _ hopen).symm.trans hclose

theorem cutText_of_isCut {chunk inner : List Char} (h : IsCut (chunk, inner)) (rest : List Char) :
    cutText (chunk ++ '\x7b' :: '\x7b' :: (inner ++ '\x7d' :: '\x7d' :: rest)) =
      ((chunk, inner) :: (cutText rest).1, (cutText rest).2) := by
  have hopen : splitAtPair '\x7b' '\x7b'
      (chunk ++ '\x7b' :: '\x7b' :: (inner ++ '\x7d' :: '\x7d' :: rest)) =
      some (chunk, inner ++ '\x7d' :: '\x7d' :: rest) := splitAtPair_eq_some_iff.2 ⟨rfl, h.opens⟩
  have hclose : splitAtPair '\x7d' '\x7d' (inner ++ '\x7d' :: '\x7d' :: rest) =
      some (inner, rest) := splitAtPair_eq_some_iff.2 ⟨rfl, h.closes⟩
  rw [cutText]
  split
  · rename_i hnone
    cases hnone.symm.trans hopen
  · rename_i hsome
    cases hsome.symm.trans hopen
    split
    · rename_i hnone
      cases hnone.symm.trans hclose
    · rename_i hsome
      cases hsome.symm.trans hclose
      rfl

/-- **What a text is cut into**: pieces that are cut off as they are, and a rest. -/
theorem cutText_spec (cs : List Char) : (∀ cut ∈ (cutText cs).1, IsCut cut) ∧
    IsRest (cutText cs).2 ∧ joinCuts (cutText cs).1 (cutText cs).2 = cs := by
  fun_induction cutText cs with
  | case1 cs hopen =>
    refine ⟨nofun, fun chunk opened h => ?_, rfl⟩
    cases hopen.symm.trans h
  | case2 cs chunk opened hopen hclose =>
    refine ⟨nofun, fun chunk' opened' h => ?_, rfl⟩
    cases hopen.symm.trans h
    exact hclose
  | case3 cs chunk opened hopen inner rest hclose ih =>
    obtain ⟨hcuts, hrest, hjoin⟩ := ih
    obtain ⟨rfl, hopens⟩ := splitAtPair_eq_some_iff.1 hopen
    obtain ⟨rfl, hcloses⟩ := splitAtPair_eq_some_iff.1 hclose
    refine ⟨fun cut hcut => ?_, hrest, by rw [joinCuts, hjoin]⟩
    rcases List.mem_cons.1 hcut with rfl | hcut
    · exact ⟨hopens, hcloses⟩
    · exact hcuts cut hcut

/-- **Pieces that are put together are cut again.** -/
theorem cutText_joinCuts (hcuts : ∀ cut ∈ cuts, IsCut cut) (htail : IsRest tail) :
    cutText (joinCuts cuts tail) = (cuts, tail) := by
  induction cuts with
  | nil => exact cutText_of_isRest htail
  | cons cut cuts ih =>
    rw [joinCuts, cutText_of_isCut (hcuts cut (List.mem_cons_self ..)),
      ih fun c hc => hcuts c (List.mem_cons_of_mem _ hc)]

theorem joinCuts_append (cuts more : List (List Char × List Char)) (tail : List Char) :
    joinCuts (cuts ++ more) tail = joinCuts cuts (joinCuts more tail) := by
  induction cuts with
  | nil => rfl
  | cons cut cuts ih => rw [List.cons_append, joinCuts, joinCuts, ih]

/-! ### What the pieces say -/

/-- Whether the text between braces starts with a trim marker. -/
def marksBefore (inner : List Char) : Bool := inner.head? == some '-'

/-- Whether the text between braces ends with a trim marker, behind one that it may start with. -/
def marksAfter (inner : List Char) : Bool := inner.tail.getLast? == some '-'

/-- Whether the last action, or one before the first chunk, trims what follows. -/
def marksTail : Bool → List (List Char × List Char) → Bool
  | trimStart, [] => trimStart
  | _, (_, inner) :: cuts => marksTail (marksAfter inner) cuts

theorem getLast?_cons_dash {c : Char} (hc : c ≠ '-') (rest : List Char) :
    (c :: rest).getLast? = some '-' ↔ rest.getLast? = some '-' := by
  rcases List.eq_nil_or_concat rest with rfl | ⟨rest, d, rfl⟩
  · simp [hc]
  · rw [List.concat_eq_append, ← List.cons_append, List.getLast?_concat, List.getLast?_concat]

/-- The reader finds the markers that are there. -/
theorem trims_ofInner (line : Nat) (inner : List Char) :
    (Action.ofInner line inner).trimsBefore = marksBefore inner ∧
      (Action.ofInner line inner).trimsAfter = marksAfter inner := by
  cases inner with
  | nil => exact ⟨rfl, rfl⟩
  | cons c rest =>
    by_cases hc : c = '-'
    · subst hc
      by_cases hlast : rest.getLast? = some '-'
      · simp [Action.ofInner, marksBefore, marksAfter, hlast]
      · simp [Action.ofInner, marksBefore, marksAfter, hlast]
    · by_cases hlast : rest.getLast? = some '-'
      · simp [Action.ofInner, marksBefore, marksAfter, hc, hlast, getLast?_cons_dash hc]
      · simp [Action.ofInner, marksBefore, marksAfter, hc, hlast, getLast?_cons_dash hc]

/-- What an action says, from the text between its braces. -/
def directiveIn (inner : List Char) : Except TemplateFault Directive :=
  Directive.ofBody (Action.ofInner 0 inner).body

theorem says_nil_iff {trimStart : Bool} {ds : List Directive} :
    Says trimStart [] tail ds ↔ ds = [.literal (trimChunk trimStart false tail)] := by
  constructor
  · rintro ⟨hkept⟩
    rw [kept_iff.1 hkept]
  · rintro rfl
    exact .chunk (kept_iff.2 rfl)

theorem says_cons_iff {trimStart : Bool} {chunk inner : List Char} {ds : List Directive} :
    Says trimStart ((chunk, inner) :: cuts) tail ds ↔
      ∃ d more, directiveIn inner = .ok d ∧ Says (marksAfter inner) cuts tail more ∧
        ds = .literal (trimChunk trimStart (marksBefore inner) chunk) :: d :: more := by
  obtain ⟨hbefore, hafter⟩ := trims_ofInner 0 inner
  constructor
  · intro h
    cases h with
    | action hd hkept hrest =>
      obtain ⟨hb, ha, hbody⟩ := (Directive.inside_iff 0).1 hd
      rw [hbefore] at hb
      rw [hafter] at ha
      subst hb ha
      exact ⟨_, _, hbody, hrest, by rw [kept_iff.1 hkept]⟩
  · rintro ⟨d, more, hbody, hrest, rfl⟩
    exact .action ((Directive.inside_iff 0).2 ⟨hbefore, hafter, hbody⟩) (kept_iff.2 rfl) hrest

/-- The grammar cuts a text into its pieces if no action is left open. -/
theorem cutsInto_iff : CutsInto cs cuts tail ↔
    cutText cs = (cuts, tail) ∧ ¬['\x7b', '\x7b'] <:+: tail := by
  constructor
  · intro h
    induction h with
    | chunk h => exact ⟨cutText_of_isRest (isRest_of_no_pair h), h⟩
    | action hopen hclose _ ih =>
      refine ⟨?_, ih.2⟩
      rw [cutText_of_isCut ⟨hopen, hclose⟩, ih.1]
  · rintro ⟨hcut, htail⟩
    obtain ⟨hcuts, -, hjoin⟩ := cutText_spec cs
    rw [hcut] at hcuts hjoin
    subst hjoin
    clear hcut
    induction cuts with
    | nil => exact .chunk htail
    | cons cut cuts ih =>
      obtain ⟨hopen, hclose⟩ := hcuts cut (List.mem_cons_self ..)
      exact .action hopen hclose (ih fun c hc => hcuts c (List.mem_cons_of_mem _ hc))

/-- **What a text is read as**, from its pieces. -/
theorem parse_eq_ok_iff_cutText {text : String} {t : Template} :
    Template.parse text = .ok t ↔ ¬['\x7b', '\x7b'] <:+: (cutText text.toList).2 ∧
      ∃ ds, Says false (cutText text.toList).1 (cutText text.toList).2 ds ∧ Builds ds t := by
  rw [parse_eq_ok_iff_builds]
  constructor
  · rintro ⟨cuts, tail, ds, hcut, hsays, hbuilds⟩
    obtain ⟨hcut, htail⟩ := cutsInto_iff.1 hcut
    rw [hcut]
    exact ⟨htail, ds, hsays, hbuilds⟩
  · rintro ⟨htail, ds, hsays, hbuilds⟩
    exact ⟨_, _, ds, cutsInto_iff.2 ⟨rfl, htail⟩, hsays, hbuilds⟩

end Pieces

end RecordStore
