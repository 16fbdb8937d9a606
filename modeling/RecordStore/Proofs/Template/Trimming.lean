import RecordStore.Proofs.Template.Cutting

/-!
# Trim markers are blanks removed by hand

A template text has a plain form (`RecordStore.plainForm`), in which nothing is left to
trim: the blanks that a marker would remove are removed, and a space stands in place of
the marker. The plain form is read as the same template
(`RecordStore.Template.parse_plainForm`).

The text is changed piece by piece, and the plain pieces are what the plain form is cut
into. There is one way for this to go wrong. Where the blanks between an opening brace
and an action are removed, the brace joins those of the action, which then begins one
character too early. Markers at the end of an action do no such harm: what follows the
closing braces is no part of the action, whatever it is.
-/

namespace RecordStore

/-! ### Plain pieces -/

/-- The text between braces with a space in place of each trim marker. -/
def blankMarkers : List Char → List Char
  | [] => []
  | c :: rest =>
    (if c = '-' then ' ' else c) ::
      (if rest.getLast? = some '-' then rest.dropLast ++ [' '] else rest)

/-- Pieces without markers: the chunks are trimmed, and spaces stand in place of the markers.
`trimStart` tells whether an action before the first chunk trims it. -/
def plainCuts : Bool → List (List Char × List Char) → List (List Char × List Char)
  | _, [] => []
  | trimStart, (chunk, inner) :: cuts =>
    (trimChunk trimStart (marksBefore inner) chunk, blankMarkers inner) ::
      plainCuts (marksAfter inner) cuts

/-- **The plain form of a template text**: every trim marker is replaced by a space, and the blanks
that it removes are removed. -/
def plainForm (text : String) : String :=
  let cuts := (cutText text.toList).1
  let tail := (cutText text.toList).2
  String.ofList (joinCuts (plainCuts false cuts) (trimChunk (marksTail false cuts) false tail))

section Plain

variable {trimStart : Bool} {chunk inner tail : List Char} {cuts : List (List Char × List Char)}

/-! ### Plain pieces say the same -/

theorem marksBefore_blankMarkers (inner : List Char) :
    marksBefore (blankMarkers inner) = false := by
  cases inner with
  | nil => rfl
  | cons c rest => by_cases hc : c = '-' <;> simp [blankMarkers, marksBefore, hc]

theorem marksAfter_blankMarkers (inner : List Char) : marksAfter (blankMarkers inner) = false := by
  cases inner with
  | nil => rfl
  | cons c rest =>
    by_cases hlast : rest.getLast? = some '-' <;> simp [blankMarkers, marksAfter, hlast]

/-- Between blanks in place of the markers stands what the reader finds between the markers. -/
theorem trim_blankMarkers (line : Nat) (inner : List Char) :
    Text.trim (blankMarkers inner) = (Action.ofInner line inner).body := by
  cases inner with
  | nil => rfl
  | cons c rest =>
    by_cases hc : c = '-'
    · subst hc
      by_cases hlast : rest.getLast? = some '-'
      · have hboth := (Text.trim_concat_space (' ' :: rest.dropLast)).trans
          (Text.trim_space_cons rest.dropLast)
        simpa [blankMarkers, Action.ofInner, hlast] using hboth
      · simp [blankMarkers, Action.ofInner, hlast, Text.trim_space_cons]
    · by_cases hlast : rest.getLast? = some '-'
      · have hne : rest ≠ [] := by
          rintro rfl
          cases hlast
        have hend := (getLast?_cons_dash hc rest).2 hlast
        have hdrop : (c :: rest).dropLast = c :: rest.dropLast := List.dropLast_cons_of_ne_nil hne
        simpa [blankMarkers, Action.ofInner, hc, hlast, hend, hdrop] using
          Text.trim_concat_space (c :: rest.dropLast)
      · have hend := (getLast?_cons_dash hc rest).not.2 hlast
        simp [blankMarkers, Action.ofInner, hc, hlast, hend]

/-- No plain piece has a marker. -/
theorem not_marks_plainCuts : ∀ cut ∈ plainCuts trimStart cuts,
    marksBefore cut.2 = false ∧ marksAfter cut.2 = false := by
  induction cuts generalizing trimStart with
  | nil => exact nofun
  | cons cut cuts ih =>
    intro c hc
    rcases List.mem_cons.1 hc with rfl | hc
    · exact ⟨marksBefore_blankMarkers _, marksAfter_blankMarkers _⟩
    · exact ih c hc

/-- An action without its markers says the same. -/
theorem directiveIn_blankMarkers (inner : List Char) :
    directiveIn (blankMarkers inner) = directiveIn inner := by
  obtain ⟨hbefore, hafter⟩ := trims_ofInner 0 (blankMarkers inner)
  rw [marksBefore_blankMarkers] at hbefore
  rw [marksAfter_blankMarkers] at hafter
  -- without markers the body is the whole text between the braces
  obtain ⟨middle, hmiddle, hbody⟩ := Directive.exists_eq_ofInner 0 (blankMarkers inner)
  rw [hbefore, hafter] at hmiddle
  have hsame : blankMarkers inner = middle := by simpa [trimMarker] using hmiddle
  rw [directiveIn, directiveIn, hbody, ← hsame, trim_blankMarkers 0]

/-- **Plain pieces say what the pieces say.** -/
theorem says_plainCuts_iff {ds : List Directive} :
    Says false (plainCuts trimStart cuts) (trimChunk (marksTail trimStart cuts) false tail) ds ↔
      Says trimStart cuts tail ds := by
  induction cuts generalizing trimStart ds with
  | nil =>
    rw [plainCuts, marksTail, says_nil_iff, says_nil_iff]
    rfl
  | cons cut cuts ih =>
    obtain ⟨chunk, inner⟩ := cut
    rw [plainCuts, marksTail, says_cons_iff, says_cons_iff, directiveIn_blankMarkers,
      marksBefore_blankMarkers, marksAfter_blankMarkers]
    simp only [ih]
    rfl

/-! ### The plain form is cut into the plain pieces -/

theorem isSuffix_trimStart (cs : List Char) : Text.trimStart cs <:+ cs := List.dropWhile_suffix _

/-- What is kept of a chunk stands in the chunk. -/
theorem isInfix_trimChunk (trimStart trimEnd : Bool) (chunk : List Char) :
    trimChunk trimStart trimEnd chunk <:+: chunk := by
  cases trimStart with
  | false =>
    cases trimEnd with
    | false => exact List.infix_refl chunk
    | true => exact (Text.isPrefix_trimEnd chunk).isInfix
  | true =>
    cases trimEnd with
    | false => exact (isSuffix_trimStart chunk).isInfix
    | true => exact (Text.isPrefix_trimEnd _).isInfix.trans (isSuffix_trimStart chunk).isInfix

/-- A chunk that is trimmed at its end ends as if it were trimmed there only. -/
theorem getLast?_of_trimChunk {c : Char}
    (h : (trimChunk trimStart true chunk).getLast? = some c) :
    (Text.trimEnd chunk).getLast? = some c := by
  cases trimStart with
  | false => exact h
  | true => exact Text.getLast?_trimEnd_of_trim h

/-- Spaces in place of the markers close no action. -/
theorem not_infix_blankMarkers (h : ¬['\x7d', '\x7d'] <:+: inner ++ ['\x7d']) :
    ¬['\x7d', '\x7d'] <:+: blankMarkers inner ++ ['\x7d'] := by
  cases inner with
  | nil => exact h
  | cons c rest =>
    have hfront : ¬['\x7d', '\x7d'] <:+: (if c = '-' then ' ' else c) :: (rest ++ ['\x7d']) := by
      split
      · exact not_infix_pair_replace (x := []) (by decide) h
      · exact h
    rw [blankMarkers]
    generalize (if c = '-' then ' ' else c) = front at hfront ⊢
    split
    · rename_i hlast
      rw [← List.dropLast_append_getLast? _ hlast, List.append_assoc] at hfront
      have hback := not_infix_pair_replace (d := ' ') (x := _ :: rest.dropLast) (by decide) hfront
      simpa using hback
    · exact hfront

/-- A plain piece is cut off as it is, unless an opening brace is laid bare before it. -/
theorem isCut_plain (h : IsCut (chunk, inner))
    (hbrace : inner.head? = some '-' → (Text.trimEnd chunk).getLast? ≠ some '\x7b') :
    IsCut (trimChunk trimStart (marksBefore inner) chunk, blankMarkers inner) where
  opens := by
    have hopens : ¬['\x7b', '\x7b'] <:+: chunk ++ ['\x7b'] := h.opens
    change ¬['\x7b', '\x7b'] <:+: trimChunk trimStart (marksBefore inner) chunk ++ ['\x7b']
    cases hmarks : marksBefore inner with
    | true =>
      have hchunk : ¬['\x7b', '\x7b'] <:+: chunk := fun hpair =>
        hopens (hpair.trans (List.prefix_append chunk _).isInfix)
      refine not_infix_pair_append (fun hpair => hchunk (hpair.trans (isInfix_trimChunk ..)))
        (not_infix_pair_singleton _) fun hseam => ?_
      exact hbrace (by simpa [marksBefore] using hmarks) (getLast?_of_trimChunk hseam.1)
    | false =>
      -- nothing is removed at the end
      have hsuffix : trimChunk trimStart false chunk <:+ chunk := by
        cases trimStart with
        | false => exact List.suffix_refl chunk
        | true => exact isSuffix_trimStart chunk
      obtain ⟨before, hbefore⟩ := hsuffix
      refine fun hpair => hopens (hpair.trans ⟨before, [], ?_⟩)
      rw [List.append_nil, ← List.append_assoc, hbefore]
  closes := not_infix_blankMarkers h.closes

theorem forall_isCut_plainCuts (h : ∀ cut ∈ cuts, IsCut cut)
    (hbrace : ∀ cut ∈ cuts, cut.2.head? = some '-' →
      (Text.trimEnd cut.1).getLast? ≠ some '\x7b') :
    ∀ cut ∈ plainCuts trimStart cuts, IsCut cut := by
  induction cuts generalizing trimStart with
  | nil => exact nofun
  | cons cut cuts ih =>
    intro c hc
    rcases List.mem_cons.1 hc with rfl | hc
    · exact isCut_plain (h cut (List.mem_cons_self ..)) (hbrace cut (List.mem_cons_self ..))
    · exact ih (fun c hc => h c (List.mem_cons_of_mem _ hc))
        (fun c hc => hbrace c (List.mem_cons_of_mem _ hc)) c hc

/-- Blanks in front of the rest open no action. -/
theorem exists_eq_append_trimChunk (trimStart : Bool) (tail : List Char) :
    ∃ left, '\x7b' ∉ left ∧ tail = left ++ trimChunk trimStart false tail := by
  cases trimStart with
  | false => exact ⟨[], by simp, rfl⟩
  | true =>
    obtain ⟨left, hleft, htail⟩ := Text.exists_eq_append_trimStart tail
    exact ⟨left, fun hmem => absurd (hleft _ hmem) (by decide), htail⟩

end Plain

/-- **The pieces of the plain form are the plain pieces.** -/
theorem cutText_plainForm {text : String}
    (hbrace : ∀ cut ∈ (cutText text.toList).1, cut.2.head? = some '-' →
      (Text.trimEnd cut.1).getLast? ≠ some '\x7b') :
    cutText (plainForm text).toList = (plainCuts false (cutText text.toList).1,
      trimChunk (marksTail false (cutText text.toList).1) false (cutText text.toList).2) := by
  obtain ⟨hcuts, hrest, -⟩ := cutText_spec text.toList
  obtain ⟨left, hleft, htail⟩ := exists_eq_append_trimChunk
    (marksTail false (cutText text.toList).1) (cutText text.toList).2
  rw [plainForm, String.toList_ofList]
  refine cutText_joinCuts (forall_isCut_plainCuts hcuts hbrace) ?_
  rw [htail] at hrest
  exact (isRest_append_iff hleft).1 hrest

/-- **Trim markers are blanks removed by hand**: where no opening brace is laid bare before a
trimming action, a text and its plain form are read as the same template, or neither is read. So
they render alike in every context. Nothing in the plain form trims. -/
theorem Template.parse_plainForm (text : String)
    (hbrace : ∀ cut ∈ (cutText text.toList).1, cut.2.head? = some '-' →
      (Text.trimEnd cut.1).getLast? ≠ some '\x7b') :
    (∀ t, Template.parse text = .ok t ↔ Template.parse (plainForm text) = .ok t) ∧
    (∀ c, (Template.parse text).toOption.map (fun t => t.render c) =
      (Template.parse (plainForm text)).toOption.map fun t => t.render c) ∧
    ∀ cut ∈ (cutText (plainForm text).toList).1,
      marksBefore cut.2 = false ∧ marksAfter cut.2 = false := by
  have hcut := cutText_plainForm hbrace
  obtain ⟨left, hleft, htail⟩ := exists_eq_append_trimChunk
    (marksTail false (cutText text.toList).1) (cutText text.toList).2
  have hsame (t : Template) :
      Template.parse text = .ok t ↔ Template.parse (plainForm text) = .ok t := by
    rw [parse_eq_ok_iff_cutText, parse_eq_ok_iff_cutText, hcut]
    simp only [says_plainCuts_iff]
    refine and_congr_left' (not_congr ?_)
    conv_lhs => rw [htail]
    exact infix_pair_append_iff hleft
  refine ⟨hsame, fun c => ?_, ?_⟩
  · congr 1
    cases hparse : Template.parse text with
    | ok t => rw [(hsame t).1 hparse]
    | error e =>
      cases hplain : Template.parse (plainForm text) with
      | ok t => cases ((hsame t).2 hplain).symm.trans hparse
      | error e' => rfl
  · rw [hcut]
    exact not_marks_plainCuts

/-- Markers on both sides of a chunk and of a literal, and braces that are not laid bare. -/
theorem Template.parse_plainForm_of_marked :
    let text :=
      "a \n\x7b\x7b- if name -\x7d\x7d  \x7bb \x7b\x7b-\" \"-\x7d\x7d \n \x7b\x7b-end\x7d\x7d\x7d"
    let plain :=
      "a\x7b\x7b  if name  \x7d\x7d\x7bb\x7b\x7b \" \" \x7d\x7d\x7b\x7b end\x7d\x7d\x7d"
    ((∀ cut ∈ (cutText text.toList).1, cut.2.head? = some '-' →
        (Text.trimEnd cut.1).getLast? ≠ some '\x7b') ∧
      plainForm text = plain ∧ (Template.parse text).isOk = true) ∧
    (∀ t, Template.parse text = .ok t ↔ Template.parse plain = .ok t) ∧
    (∀ c, (Template.parse text).toOption.map (fun t => t.render c) =
      (Template.parse plain).toOption.map fun t => t.render c) ∧
    ∀ cut ∈ (cutText plain.toList).1, marksBefore cut.2 = false ∧ marksAfter cut.2 = false := by
  intro text plain
  have hbrace : ∀ cut ∈ (cutText text.toList).1, cut.2.head? = some '-' →
      (Text.trimEnd cut.1).getLast? ≠ some '\x7b' := by
    decide +kernel
  have hplain : plainForm text = plain := by decide +kernel
  have h := parse_plainForm text hbrace
  rw [hplain] at h
  exact ⟨⟨hbrace, hplain, by decide +kernel⟩, h⟩

/-- A brace that is laid bare makes another action. -/
example : (Template.parse "\x7b \x7b\x7b- name \x7d\x7d").isOk = true ∧
    (Template.parse (plainForm "\x7b \x7b\x7b- name \x7d\x7d")).isOk = false := by
  decide +kernel

end RecordStore
