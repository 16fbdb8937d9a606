import RecordStore.Proofs.Template.Cutting
import RecordStore.Proofs.Template.Printing

/-!
# Templates in a row

Two template texts in a row are read as one that renders to what the two render to, one
after the other (`RecordStore.Template.parse_append`).

The pieces of both texts are the pieces of the whole (`RecordStore.cutText_append`), but
for the end of the first and the first chunk of the second, which make up one chunk.
What could go wrong shows there: that two braces meet, or that an action trims what
belonged to the other text. Otherwise the second text is read by a builder that has no
conditional open, and it goes on with the parts of the first.
-/

namespace RecordStore

/-- Pieces with more characters in front of the first chunk, or of the rest if there is none. -/
def putBefore (chars : List Char) :
    List (List Char × List Char) × List Char → List (List Char × List Char) × List Char
  | ([], tail) => ([], chars ++ tail)
  | ((chunk, inner) :: cuts, tail) => ((chars ++ chunk, inner) :: cuts, tail)

section

variable {trimStart : Bool} {tail cs more : List Char} {cuts : List (List Char × List Char)}
  {front ds : List Directive}

/-! ### The pieces of two texts -/

theorem joinCuts_putBefore (chars : List Char)
    (pieces : List (List Char × List Char) × List Char) :
    joinCuts (putBefore chars pieces).1 (putBefore chars pieces).2 =
      chars ++ joinCuts pieces.1 pieces.2 := by
  obtain ⟨_ | ⟨⟨chunk, inner⟩, cuts⟩, tail⟩ := pieces
  · rfl
  · simp [putBefore, joinCuts]

theorem joinCuts_tail_append (cuts : List (List Char × List Char)) (tail more : List Char) :
    joinCuts cuts (tail ++ more) = joinCuts cuts tail ++ more := by
  induction cuts with
  | nil => rfl
  | cons cut cuts ih => simp [joinCuts, ih]

/-- A text ends as what is left of it, unless nothing is. -/
theorem getLast?_of_cutText {c : Char} (h : (cutText cs).2.getLast? = some c) :
    cs.getLast? = some c := by
  obtain ⟨-, -, hjoin⟩ := cutText_spec cs
  obtain ⟨tail, htail⟩ := List.getLast?_eq_some_iff.1 h
  rw [← hjoin, htail, joinCuts_tail_append, List.getLast?_concat]

/-- More characters in front leave pieces that are cut off as they are, if no two braces meet, and
open no action at the end. -/
theorem isCut_putBefore {chars : List Char} (hchars : ¬['\x7b', '\x7b'] <:+: chars)
    (htail : ¬['\x7b', '\x7b'] <:+: (cutText more).2)
    (hseam : ¬(chars.getLast? = some '\x7b' ∧ more.head? = some '\x7b')) :
    (∀ cut ∈ (putBefore chars (cutText more)).1, IsCut cut) ∧
      ¬['\x7b', '\x7b'] <:+: (putBefore chars (cutText more)).2 := by
  obtain ⟨hcuts, -, hjoin⟩ := cutText_spec more
  generalize cutText more = pieces at *
  obtain ⟨_ | ⟨⟨chunk, inner⟩, cuts⟩, tail⟩ := pieces
  · obtain rfl : tail = more := hjoin
    exact ⟨nofun, not_infix_pair_append hchars htail hseam⟩
  · obtain ⟨hcut, hcuts⟩ := List.forall_mem_cons.1 hcuts
    refine ⟨List.forall_mem_cons.2 ⟨⟨?_, hcut.closes⟩, hcuts⟩, htail⟩
    -- the second text begins as its first chunk with the brace behind it
    have hhead : (chunk ++ ['\x7b']).head? = more.head? := by
      rw [← hjoin]
      cases chunk <;> rfl
    have hpair := not_infix_pair_append hchars hcut.opens (hhead ▸ hseam)
    rwa [← List.append_assoc] at hpair

/-- **The pieces of two texts in a row**, where no action is left open and no two braces meet. -/
theorem cutText_append (htail : ¬['\x7b', '\x7b'] <:+: (cutText cs).2)
    (htail' : ¬['\x7b', '\x7b'] <:+: (cutText more).2)
    (hseam : ¬(cs.getLast? = some '\x7b' ∧ more.head? = some '\x7b')) :
    cutText (cs ++ more) =
        ((cutText cs).1 ++ (putBefore (cutText cs).2 (cutText more)).1,
          (putBefore (cutText cs).2 (cutText more)).2) ∧
      ¬['\x7b', '\x7b'] <:+: (putBefore (cutText cs).2 (cutText more)).2 := by
  obtain ⟨hcuts, -, hjoin⟩ := cutText_spec cs
  obtain ⟨-, -, hjoin'⟩ := cutText_spec more
  obtain ⟨hcuts', hrest⟩ := isCut_putBefore htail htail'
    fun h => hseam ⟨getLast?_of_cutText h.1, h.2⟩
  have htext : cs ++ more = joinCuts ((cutText cs).1 ++
      (putBefore (cutText cs).2 (cutText more)).1) (putBefore (cutText cs).2 (cutText more)).2 := by
    rw [joinCuts_append, joinCuts_putBefore, hjoin', joinCuts_tail_append, hjoin]
  rw [htext]
  exact ⟨cutText_joinCuts (List.forall_mem_append.2 ⟨hcuts, hcuts'⟩) (isRest_of_no_pair hrest),
    hrest⟩

/-! ### What the pieces of two texts say -/

/-- **Pieces say what they say whatever comes behind them**, but for the end of the text, which is
trimmed if the last action says so. -/
theorem Says.exists_front (h : Says trimStart cuts tail ds) : ∃ front,
    ds = front ++ [.literal (trimChunk (marksTail trimStart cuts) false tail)] ∧
    ∀ {cuts' tail' ds'}, Says (marksTail trimStart cuts) cuts' tail' ds' →
      Says trimStart (cuts ++ cuts') tail' (front ++ ds') := by
  induction cuts generalizing trimStart ds with
  | nil => exact ⟨[], says_nil_iff.1 h, id⟩
  | cons cut cuts ih =>
    obtain ⟨chunk, inner⟩ := cut
    obtain ⟨d, rest, hd, hrest, rfl⟩ := says_cons_iff.1 h
    obtain ⟨front, rfl, hfront⟩ := ih hrest
    exact ⟨_ :: d :: front, rfl, fun hmore => says_cons_iff.2 ⟨d, _, hd, hfront hmore, rfl⟩⟩

/-- Characters in front are told of before all else, if the first action trims nothing. -/
theorem Says.exists_putBefore (h : Says false cuts tail ds) (chars : List Char)
    (hfirst : ∀ cut ∈ cuts.head?, marksBefore cut.2 = false) : ∃ kept rest,
    ds = .literal kept :: rest ∧
    Says false (putBefore chars (cuts, tail)).1 (putBefore chars (cuts, tail)).2
      (.literal (chars ++ kept) :: rest) := by
  cases cuts with
  | nil => exact ⟨tail, [], says_nil_iff.1 h, says_nil_iff.2 rfl⟩
  | cons cut cuts =>
    obtain ⟨chunk, inner⟩ := cut
    obtain ⟨d, rest, hd, hrest, rfl⟩ := says_cons_iff.1 h
    have hinner : marksBefore inner = false := hfirst _ rfl
    refine ⟨chunk, d :: rest, by rw [hinner]; rfl, says_cons_iff.2 ⟨d, rest, hd, hrest, ?_⟩⟩
    rw [hinner]
    rfl

/-- The end of a text is not trimmed if its last action does not say so. -/
theorem marksTail_eq_false (h : ∀ cut ∈ cuts.getLast?, cut.2.getLast? ≠ some '-') :
    marksTail false cuts = false := by
  have hlast (trimStart : Bool) (cuts : List (List Char × List Char))
      (cut : List Char × List Char) :
      marksTail trimStart (cuts ++ [cut]) = marksAfter cut.2 := by
    induction cuts generalizing trimStart with
    | nil => rfl
    | cons _ cuts ih => exact ih _
  rcases List.eq_nil_or_concat cuts with rfl | ⟨cuts, ⟨chunk, inner⟩, rfl⟩
  · rfl
  · rw [List.concat_eq_append] at h ⊢
    rw [hlast]
    have hinner : inner.getLast? ≠ some '-' := h _ List.getLast?_concat
    cases inner with
    | nil => rfl
    | cons c rest =>
      refine beq_eq_false_iff_ne.2 fun hrest : rest.getLast? = some '-' => hinner ?_
      rw [List.getLast?_cons, hrest]
      rfl

/-! ### What two texts build -/

/-- **Two builds in a row**: what follows the first template is read on top of it, and the two texts
that meet become one. -/
theorem Builds.append {chars kept : List Char} {s t : Template}
    (hs : Builds (front ++ [.literal chars]) s) (ht : Builds (.literal kept :: ds) t) :
    ∃ u, Builds (front ++ .literal (chars ++ kept) :: ds) u ∧
      ∀ c, renderNodes c u = renderNodes c s ++ renderNodes c t := by
  obtain ⟨b, hrun, hblocks, rfl⟩ := hs
  obtain ⟨b', hrun', hblocks', hrender⟩ := ht.block.exists_applyAll b _ (map_snd_map_mk 0 _)
  refine ⟨b'.current, ⟨b', ?_, hblocks'.trans hblocks, rfl⟩, hrender⟩
  rw [List.map_append, Builder.applyAll_append] at hrun ⊢
  cases hfront : ({} : Builder).applyAll (front.map (Prod.mk 0)) with
  | error fault =>
    rw [hfront] at hrun
    cases hrun
  | ok b₀ =>
    rw [hfront] at hrun
    obtain rfl : b₀.text chars = b := Except.ok.inj hrun
    change (b₀.text (chars ++ kept)).applyAll (ds.map (Prod.mk 0)) = .ok b'
    rw [← Builder.text_text]
    exact hrun'

end

/-- **Templates in a row**: two texts that are read are read as one, which renders in every context
to what they render to, one after the other, if no action comes about where they meet, and none of
the actions there trims what belongs to the other text. -/
theorem Template.parse_append {a b : String} {s t : Template} (ha : Template.parse a = .ok s)
    (hb : Template.parse b = .ok t)
    (hseam : ¬(a.toList.getLast? = some '\x7b' ∧ b.toList.head? = some '\x7b'))
    (hlast : ∀ cut ∈ (cutText a.toList).1.getLast?, cut.2.getLast? ≠ some '-')
    (hfirst : ∀ cut ∈ (cutText b.toList).1.head?, cut.2.head? ≠ some '-') :
    ∃ u, Template.parse (a ++ b) = .ok u ∧ ∀ c, u.render c = s.render c ++ t.render c := by
  obtain ⟨htail, da, hsays, hbuilds⟩ := parse_eq_ok_iff_cutText.1 ha
  obtain ⟨htail', db, hsays', hbuilds'⟩ := parse_eq_ok_iff_cutText.1 hb
  obtain ⟨front, rfl, hfront⟩ := hsays.exists_front
  obtain ⟨kept, rest, rfl, hput⟩ := hsays'.exists_putBefore (cutText a.toList).2
    fun cut hcut => by simpa [marksBefore] using hfirst cut hcut
  rw [marksTail_eq_false hlast] at hbuilds hfront
  obtain ⟨u, hu, hrender⟩ := hbuilds.append hbuilds'
  refine ⟨u, parse_eq_ok_iff_cutText.2 ?_, fun c => ?_⟩
  · obtain ⟨hcut, hrest⟩ := cutText_append htail htail' hseam
    rw [String.toList_append, hcut]
    exact ⟨hrest, _, hfront hput, hu⟩
  · rw [Template.render, Template.render, Template.render, hrender, String.ofList_append]

/-- A conditional whose branch is trimmed, then an action that trims what follows it, among braces
and blanks. -/
theorem Template.parse_append_of_braces :
    let a := "\x7b\x7b if table \x7d\x7d \x7b\x7b- end \x7d\x7d \x7b"
    let b := " \x7b\x7b name -\x7d\x7d \x7b"
    ∃ s t, (Template.parse a = .ok s ∧ Template.parse b = .ok t ∧
        ¬(a.toList.getLast? = some '\x7b' ∧ b.toList.head? = some '\x7b') ∧
        (∀ cut ∈ (cutText a.toList).1.getLast?, cut.2.getLast? ≠ some '-') ∧
        ∀ cut ∈ (cutText b.toList).1.head?, cut.2.head? ≠ some '-') ∧
      ∃ u, Template.parse (a ++ b) = .ok u ∧ ∀ c, u.render c = s.render c ++ t.render c := by
  intro a b
  have hread (text : String) (h : (Template.parse text).isOk = true) :
      ∃ t, Template.parse text = .ok t := by
    cases hparse : Template.parse text with
    | error e =>
      rw [hparse] at h
      cases h
    | ok t => exact ⟨t, rfl⟩
  obtain ⟨s, ha⟩ := hread a (by decide +kernel)
  obtain ⟨t, hb⟩ := hread b (by decide +kernel)
  have hseam : ¬(a.toList.getLast? = some '\x7b' ∧ b.toList.head? = some '\x7b') := by decide
  have hlast : ∀ cut ∈ (cutText a.toList).1.getLast?, cut.2.getLast? ≠ some '-' := by
    decide +kernel
  have hfirst : ∀ cut ∈ (cutText b.toList).1.head?, cut.2.head? ≠ some '-' := by decide +kernel
  exact ⟨s, t, ⟨ha, hb, hseam, hlast, hfirst⟩, parse_append ha hb hseam hlast hfirst⟩

end RecordStore
