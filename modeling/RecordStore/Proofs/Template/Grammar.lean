import Mathlib.Data.List.Forall2
import RecordStore.Proofs.Text.Blank
import RecordStore.Template.Parser

/-!
# The grammar of templates

What a template says is told here without any reader. A text is cut from the left into
chunks and actions (`RecordStore.CutsInto`), the text between the braces of an action
spells one of five directives (`RecordStore.Directive.Inside`), and chunks and
directives in a row are to derive from the grammar of blocks, each derivation with
the text that it stands for (`RecordStore.Block`).

The second half says that the parts of the reader that look at characters agree with
this: where the text is cut (`RecordStore.cutsInto_of_ending`), and what an action
says (`RecordStore.Directive.inside_iff`). Nothing of it is about nesting, which is
the matter of the builder alone.
-/

namespace RecordStore

open Text (Blank StartsTight EndsTight IsWord)

/-! ### Cutting a text -/

/-- **A text cut from the left**: actions, each with the chunk before it and the text between its
braces, and the chunk at the end. An action runs from the first two opening braces in a row to the
first two closing ones after them. -/
inductive CutsInto : List Char → List (List Char × List Char) → List Char → Prop
  /-- No action is left. -/
  | chunk {tail : List Char} (h : ¬['\x7b', '\x7b'] <:+: tail) : CutsInto tail [] tail
  /-- An action is cut off, with the chunk before it. -/
  | action {chunk inner rest tail : List Char} {actions : List (List Char × List Char)}
      (hopen : ¬['\x7b', '\x7b'] <:+: chunk ++ ['\x7b'])
      (hclose : ¬['\x7d', '\x7d'] <:+: inner ++ ['\x7d']) (hrest : CutsInto rest actions tail) :
      CutsInto (chunk ++ '\x7b' :: '\x7b' :: (inner ++ '\x7d' :: '\x7d' :: rest))
        ((chunk, inner) :: actions) tail

/-! ### What stands in the braces -/

/-- **The spellings of a directive.** -/
inductive Directive.Written : Directive → List Char → Prop
  | literal (chars : List Char) : Written (.literal chars) ('"' :: chars ++ ['"'])
  | value (v : Variable) : Written (.variable v) v.spelling.toList
  | openIf (v : Variable) {gap : List Char} (hne : gap ≠ []) (hgap : Blank gap) :
      Written (.openIf v) ("if".toList ++ (gap ++ v.spelling.toList))
  | switch : Written .switch "else".toList
  | close : Written .close "end".toList

/-- The marker of an action that trims the chunk on one side, or nothing. -/
def trimMarker (trims : Bool) : List Char := if trims then ['-'] else []

/-- **The text between the braces of an action**: a directive with blanks around it, and the markers
at both ends. -/
def Directive.Inside (d : Directive) (trimsBefore trimsAfter : Bool) (inner : List Char) : Prop :=
  ∃ left core right, Blank left ∧ Blank right ∧ d.Written core ∧
    inner = trimMarker trimsBefore ++ (left ++ core ++ right) ++ trimMarker trimsAfter

/-! ### Chunks and directives in a row -/

/-- What is kept of a chunk: the blanks at an end are removed where the action there trims it, and
nothing else is. -/
def Kept (trimStart trimEnd : Bool) (chunk kept : List Char) : Prop :=
  ∃ left right, Blank left ∧ Blank right ∧ chunk = left ++ kept ++ right ∧
    (if trimStart then StartsTight kept else left = []) ∧
    (if trimEnd then EndsTight kept else right = [])

/-- **What a cut text says**: what is kept of the chunks, and the directives between them. A chunk
counts as a literal. `trimStart` tells whether an action before the first chunk trims it. -/
inductive Says : Bool → List (List Char × List Char) → List Char → List Directive → Prop
  | chunk {trimStart : Bool} {tail kept : List Char} (h : Kept trimStart false tail kept) :
      Says trimStart [] tail [.literal kept]
  | action {trimStart trimsBefore trimsAfter : Bool} {chunk inner kept tail : List Char}
      {actions : List (List Char × List Char)} {d : Directive} {ds : List Directive}
      (hd : d.Inside trimsBefore trimsAfter inner) (hkept : Kept trimStart trimsBefore chunk kept)
      (hrest : Says trimsAfter actions tail ds) :
      Says trimStart ((chunk, inner) :: actions) tail (.literal kept :: d :: ds)

/-! ### Blocks -/

/-- **The grammar of blocks**, each with the text that it stands for: constant text and variables in
a row, and conditionals, which hold a block for each branch. -/
inductive Block : List Directive → (TemplateContext → List Char) → Prop
  | nil : Block [] fun _ => []
  | literal (chars : List Char) {ds : List Directive} {text : TemplateContext → List Char}
      (h : Block ds text) : Block (.literal chars :: ds) fun c => chars ++ text c
  | value (v : Variable) {ds : List Directive} {text : TemplateContext → List Char}
      (h : Block ds text) : Block (.variable v :: ds) fun c => (c.value v).toList ++ text c
  /-- A conditional with one branch. -/
  | choice (v : Variable) {first ds : List Directive} {text₁ text : TemplateContext → List Char}
      (h₁ : Block first text₁) (h : Block ds text) :
      Block (.openIf v :: (first ++ .close :: ds))
        fun c => (if c.value v = "" then [] else text₁ c) ++ text c
  /-- A conditional with two branches. -/
  | branches (v : Variable) {first second ds : List Directive}
      {text₁ text₂ text : TemplateContext → List Char} (h₁ : Block first text₁)
      (h₂ : Block second text₂) (h : Block ds text) :
      Block (.openIf v :: (first ++ .switch :: (second ++ .close :: ds)))
        fun c => (if c.value v = "" then text₂ c else text₁ c) ++ text c

/-- **A text is a template that stands for a text in every context.** -/
def TemplateMeans (text : String) (rendered : TemplateContext → List Char) : Prop :=
  ∃ actions tail ds, CutsInto text.toList actions tail ∧ Says false actions tail ds ∧
    Block ds rendered

/-! ### The reader cuts the text in the same way -/

section Cutting

variable {a : Char} {cs before after tail : List Char}

/-- Two equal characters are split off at their first occurrence. -/
theorem splitAtPair_eq_some_iff : splitAtPair a a cs = some (before, after) ↔
    cs = before ++ a :: a :: after ∧ ¬[a, a] <:+: before ++ [a] := by
  induction cs generalizing before with
  | nil => simp [splitAtPair]
  | cons c cs ih =>
    cases cs with
    | nil =>
      simp only [splitAtPair, reduceCtorEq, false_iff, not_and]
      intro h
      have := congrArg List.length h
      simp only [List.length_append, List.length_cons, List.length_nil] at this
      omega
    | cons d cs =>
      rw [splitAtPair]
      split
      · -- the pair stands in front
        rename_i h
        obtain ⟨rfl, rfl⟩ := h
        constructor
        · intro h
          cases h
          exact ⟨rfl, fun h => by simpa using h.length_le⟩
        · rintro ⟨h, hfirst⟩
          cases before with
          | nil =>
            cases h
            rfl
          | cons e before =>
            refine absurd ?_ hfirst
            rw [List.cons_append, List.cons.injEq] at h
            obtain ⟨rfl, h⟩ := h
            cases before with
            | nil => exact List.infix_refl _
            | cons e before =>
              rw [List.cons_append, List.cons.injEq] at h
              obtain ⟨rfl, -⟩ := h
              exact ⟨[], before ++ [_], rfl⟩
      · rename_i hne
        rw [Option.map_eq_some_iff]
        constructor
        · rintro ⟨⟨before', after'⟩, h, heq⟩
          cases heq
          obtain ⟨hcs, hfirst⟩ := ih.1 h
          refine ⟨congrArg (c :: ·) hcs, fun hinfix => ?_⟩
          rcases List.infix_cons_iff.1 hinfix with hfront | hinfix
          · -- a pair in front of the rest would be the one that was excluded
            obtain ⟨hc, hfront⟩ := List.cons_prefix_cons.1 hfront
            refine hne ⟨hc.symm, ?_⟩
            cases before' with
            | nil => exact (List.cons.inj hcs).1
            | cons e before' =>
              exact (List.cons.inj hcs).1.trans (List.cons_prefix_cons.1 hfront).1.symm
          · exact hfirst hinfix
        · rintro ⟨hcs, hfirst⟩
          cases before with
          | nil =>
            simp only [List.nil_append, List.cons.injEq] at hcs
            exact absurd ⟨hcs.1, hcs.2.1⟩ hne
          | cons e before =>
            rw [List.cons_append, List.cons.injEq] at hcs
            obtain ⟨rfl, hcs⟩ := hcs
            refine ⟨(before, after), ih.2 ⟨hcs, fun h => hfirst ?_⟩, rfl⟩
            exact h.trans (List.suffix_cons _ _).isInfix

theorem splitAtPair_eq_none_iff : splitAtPair a a cs = none ↔ ¬[a, a] <:+: cs := by
  induction cs with
  | nil => simp [splitAtPair]
  | cons c cs ih =>
    cases cs with
    | nil =>
      simp only [splitAtPair, true_iff]
      intro h
      simpa using h.length_le
    | cons d cs =>
      rw [splitAtPair, List.infix_cons_iff]
      split
      · rename_i h
        obtain ⟨rfl, rfl⟩ := h
        simp
      · rename_i hne
        have hfront : ¬[a, a] <+: c :: d :: cs := by
          intro hfront
          obtain ⟨hc, hfront⟩ := List.cons_prefix_cons.1 hfront
          exact hne ⟨hc.symm, (List.cons_prefix_cons.1 hfront).1.symm⟩
        rw [Option.map_eq_none_iff, ih]
        simp [hfront]

/-- No pair begins among characters of another kind. -/
theorem splitAtPair_append {chars : List Char} (h : a ∉ chars) (cs : List Char) :
    splitAtPair a a (chars ++ cs) =
      (splitAtPair a a cs).map fun (before, after) => (chars ++ before, after) := by
  induction chars with
  | nil => cases h : splitAtPair a a cs <;> simp [h]
  | cons c chars ih =>
    obtain ⟨hc, hchars⟩ := not_or.1 (fun hmem => h (List.mem_cons.2 hmem))
    have ih := ih hchars
    rw [List.cons_append]
    cases hcs : chars ++ cs with
    | nil =>
      obtain ⟨rfl, rfl⟩ := List.append_eq_nil_iff.1 hcs
      rfl
    | cons d more =>
      rw [splitAtPair, if_neg (fun h => hc h.1.symm), ← hcs, ih, Option.map_map]
      rfl

/-- What the reader keeps of an action that was cut off: its chunk, its line, and what its text
says. -/
def SameAction (action : List Char × Action) (cut : List Char × List Char) : Prop :=
  action.1 = cut.1 ∧ ∃ line, action.2 = .ofInner line cut.2

theorem cutFrom_of_split {line : Nat} {chunk inner rest : List Char}
    (hopen : splitAtPair '\x7b' '\x7b' cs = some (chunk, after))
    (hclose : splitAtPair '\x7d' '\x7d' after = some (inner, rest)) :
    Pieces.cutFrom line cs =
      { Pieces.cutFrom (line + countLines chunk + countLines inner) rest with
        actions := (chunk, .ofInner (line + countLines chunk) inner) ::
          (Pieces.cutFrom (line + countLines chunk + countLines inner) rest).actions } := by
  rw [Pieces.cutFrom]
  split
  · simp_all
  · rename_i h
    rw [hopen] at h
    cases h
    dsimp only
    split
    · simp_all
    · rename_i h
      rw [hclose] at h
      cases h
      rfl

/-- A text that can be cut is cut so by the reader. -/
theorem cutFrom_of_cutsInto {actions : List (List Char × List Char)} (h : CutsInto cs actions tail)
    (line : Nat) : (Pieces.cutFrom line cs).ending = .chunk tail ∧
      List.Forall₂ SameAction (Pieces.cutFrom line cs).actions actions := by
  induction h generalizing line with
  | chunk h =>
    rw [Pieces.cutFrom]
    split
    · exact ⟨rfl, .nil⟩
    · rename_i hsplit
      rw [splitAtPair_eq_none_iff.2 h] at hsplit
      cases hsplit
  | action hopen hclose _ ih =>
    rw [cutFrom_of_split (splitAtPair_eq_some_iff.2 ⟨rfl, hopen⟩)
      (splitAtPair_eq_some_iff.2 ⟨rfl, hclose⟩)]
    exact ⟨(ih _).1, .cons ⟨rfl, _, rfl⟩ (ih _).2⟩

/-- **Where the reader cuts a text to its end, it can be cut.** -/
theorem cutsInto_of_ending (line : Nat) (cs : List Char)
    (h : (Pieces.cutFrom line cs).ending = .chunk tail) :
    ∃ actions, CutsInto cs actions tail ∧
      List.Forall₂ SameAction (Pieces.cutFrom line cs).actions actions := by
  fun_induction Pieces.cutFrom line cs with
  | case1 line cs hopen =>
    cases h
    exact ⟨[], .chunk (splitAtPair_eq_none_iff.1 hopen), .nil⟩
  | case2 => cases h
  | case3 line cs chunk opened hopen _ inner rest hclose _ _ ih =>
    obtain ⟨actions, hcut, hsame⟩ := ih h
    obtain ⟨rfl, hopen'⟩ := splitAtPair_eq_some_iff.1 hopen
    obtain ⟨rfl, hclose'⟩ := splitAtPair_eq_some_iff.1 hclose
    exact ⟨(chunk, inner) :: actions, .action hopen' hclose' hcut, .cons ⟨rfl, _, rfl⟩ hsame⟩

end Cutting

/-! ### The reader understands the same directives -/

namespace Directive

variable {core : List Char} {d : Directive}

theorem isWord_spelling (v : Variable) : IsWord v.spelling.toList := by
  cases v <;> exact .of_all (by decide) (by decide)

/-- The variable that a word names is the one that is spelled so. -/
theorem variableNamed_eq_ok_iff {word : List Char} {v : Variable} :
    variableNamed word = .ok v ↔ word = v.spelling.toList := by
  have hname : Variable.ofName? (String.ofList word) = some v ↔ word = v.spelling.toList := by
    constructor
    · intro h
      have := List.find?_some h
      rw [beq_iff_eq] at this
      rw [this, String.toList_ofList]
    · rintro rfl
      rw [String.ofList_toList]
      cases v <;> rfl
  rw [← hname, variableNamed]
  cases Variable.ofName? (String.ofList word) <;> simp

/-- No variable is spelled like one of the words with a meaning of their own. -/
theorem spelling_ne (v : Variable) : v.spelling.toList ≠ "if".toList ∧
    v.spelling.toList ≠ "else".toList ∧ v.spelling.toList ≠ "end".toList := by
  cases v <;> decide

/-- The first character of a directive: neither a blank nor a marker. -/
theorem Written.exists_cons (h : d.Written core) :
    ∃ c more, core = c :: more ∧ Text.isBlank c = false ∧ c ≠ '-' := by
  cases h with
  | literal chars => exact ⟨_, _, rfl, by decide, by decide⟩
  | value v => cases v <;> exact ⟨_, _, rfl, by decide, by decide⟩
  | openIf => exact ⟨_, _, rfl, by decide, by decide⟩
  | switch => exact ⟨_, _, rfl, by decide, by decide⟩
  | close => exact ⟨_, _, rfl, by decide, by decide⟩

/-- The last character of a directive: neither a blank nor a marker. -/
theorem Written.exists_concat (h : d.Written core) :
    ∃ more c, core = more ++ [c] ∧ Text.isBlank c = false ∧ c ≠ '-' := by
  have hword (v : Variable) : ∃ more c, v.spelling.toList = more ++ [c] ∧
      Text.isBlank c = false ∧ c ≠ '-' := by
    refine ⟨v.spelling.toList.dropLast, v.spelling.toList.getLast (isWord_spelling v).ne_nil,
      (List.dropLast_append_getLast _).symm, ?_, ?_⟩
    · cases v <;> decide
    · cases v <;> decide
  cases h with
  | literal chars => exact ⟨'"' :: chars, '"', rfl, by decide, by decide⟩
  | value v => exact hword v
  | openIf v hne hgap =>
    obtain ⟨more, c, h, hc⟩ := hword v
    exact ⟨_, c, by rw [h, ← List.append_assoc, ← List.append_assoc], hc⟩
  | switch => exact ⟨"els".toList, 'e', by decide, by decide, by decide⟩
  | close => exact ⟨"en".toList, 'd', by decide, by decide, by decide⟩

theorem Written.startsTight (h : d.Written core) : StartsTight core := by
  obtain ⟨c, more, rfl, hc, -⟩ := h.exists_cons
  intro d hd
  cases hd
  exact hc

theorem Written.endsTight (h : d.Written core) : EndsTight core := by
  obtain ⟨more, c, rfl, hc, -⟩ := h.exists_concat
  intro d hd
  rw [List.getLast?_concat] at hd
  cases hd
  exact hc

theorem unquote?_eq_some_iff {chars : List Char} :
    unquote? core = some chars ↔ core = '"' :: chars ++ ['"'] := by
  constructor
  · intro h
    unfold unquote? at h
    split at h
    · rename_i rest
      split at h
      · rename_i hlast
        cases h
        rw [List.cons_append, List.dropLast_append_getLast? _ hlast]
      · cases h
    · cases h
  · rintro rfl
    simp [unquote?]

/-- A directive other than a literal has no quote in front. -/
theorem unquote?_eq_none {c : Char} {more : List Char} (h : c ≠ '"') :
    unquote? (c :: more) = none := by
  unfold unquote?
  split
  · rename_i heq
    exact absurd (List.cons.inj heq).1 h
  · rfl

/-- **The text of an action is read by its spelling.** -/
theorem ofBody_eq_ok_iff (hstart : StartsTight core) (hend : EndsTight core) :
    ofBody core = .ok d ↔ d.Written core := by
  constructor
  · intro h
    unfold ofBody at h
    split at h
    · rename_i chars hquote
      cases h
      rw [unquote?_eq_some_iff.1 hquote]
      exact .literal chars
    · split at h
      · cases h
      · rename_i word hwords
        obtain ⟨-, rfl⟩ := (Text.words_eq_singleton_iff hstart hend).1 hwords
        split at h
        · cases h
        · split at h
          · rename_i helse
            cases h
            exact helse ▸ .switch
          · split at h
            · rename_i hclose
              cases h
              exact hclose ▸ .close
            · cases hv : variableNamed core with
              | error fault =>
                rw [hv] at h
                cases h
              | ok v =>
                rw [hv] at h
                cases h
                rw [variableNamed_eq_ok_iff.1 hv]
                exact .value v
      · rename_i word name hwords
        obtain ⟨-, -, gap, hne, hgap, rfl⟩ := (Text.words_eq_pair_iff hstart hend).1 hwords
        split at h
        · rename_i hif
          cases hv : variableNamed name with
          | error fault =>
            rw [hv] at h
            cases h
          | ok v =>
            rw [hv] at h
            cases h
            rw [hif, variableNamed_eq_ok_iff.1 hv]
            exact .openIf v hne hgap
        · cases h
      · cases h
  · have hone {word : List Char} (h : IsWord word) : Text.words word = [word] :=
      (Text.words_eq_singleton_iff h.startsTight h.endsTight).2 ⟨h, rfl⟩
    intro h
    unfold ofBody
    cases h with
    | literal chars => rw [unquote?_eq_some_iff.2 rfl]
    | value v =>
      obtain ⟨hif, helse, hend⟩ := spelling_ne v
      rw [show unquote? v.spelling.toList = none by cases v <;> rfl, hone (isWord_spelling v)]
      simp only [if_neg hif, if_neg helse, if_neg hend]
      rw [variableNamed_eq_ok_iff.2 rfl]
      rfl
    | openIf v hne hgap =>
      have hwords := (Text.words_eq_pair_iff hstart hend).2
        ⟨.of_all (by decide) (by decide), isWord_spelling v, _, hne, hgap, rfl⟩
      rw [show unquote? ("if".toList ++ _) = none from unquote?_eq_none (by decide), hwords]
      simp only [if_true]
      rw [variableNamed_eq_ok_iff.2 rfl]
      rfl
    | switch => rfl
    | close => rfl

/-! ### Markers -/

/-- An action with the markers that its text says, where no other markers can be seen in it. -/
theorem ofInner_eq (line : Nat) (trimsBefore trimsAfter : Bool) {middle : List Char}
    (hne : middle ≠ []) (hstart : middle.head? ≠ some '-') (hend : middle.getLast? ≠ some '-') :
    Action.ofInner line (trimMarker trimsBefore ++ middle ++ trimMarker trimsAfter) =
      ⟨line, trimsBefore, Text.trim middle, trimsAfter⟩ := by
  obtain ⟨c, more, rfl⟩ := List.exists_cons_of_ne_nil hne
  have hc : c ≠ '-' := fun h => hstart (congrArg some h)
  have hlast : (c :: (more ++ ['-'])).getLast? = some '-' := by
    rw [← List.cons_append, List.getLast?_concat]
  have hdrop : (c :: (more ++ ['-'])).dropLast = c :: more := by
    rw [← List.cons_append, List.dropLast_concat]
  cases trimsBefore with
  | false =>
    cases trimsAfter with
    | false => simp [Action.ofInner, trimMarker, hc, hend]
    | true => simp [Action.ofInner, trimMarker, hc, hlast, hdrop]
  | true =>
    cases trimsAfter with
    | false => simp [Action.ofInner, trimMarker, hend]
    | true => simp [Action.ofInner, trimMarker, hlast, hdrop]

/-- The markers that the reader takes off stand at the ends of the text. -/
theorem exists_eq_ofInner (line : Nat) (inner : List Char) :
    ∃ middle, inner = trimMarker (Action.ofInner line inner).trimsBefore ++ middle ++
        trimMarker (Action.ofInner line inner).trimsAfter ∧
      (Action.ofInner line inner).body = Text.trim middle := by
  have hafter (cs : List Char) :
      ∃ middle, cs = middle ++ trimMarker (decide (cs.getLast? = some '-')) ∧
        (if cs.getLast? = some '-' then (true, cs.dropLast) else (false, cs)) =
          (decide (cs.getLast? = some '-'), middle) := by
    by_cases h : cs.getLast? = some '-'
    · exact ⟨cs.dropLast, by simp [h, trimMarker, List.dropLast_append_getLast? _ h], by simp [h]⟩
    · exact ⟨cs, by simp [h, trimMarker], by simp [h]⟩
  unfold Action.ofInner
  split
  rename_i before rest hbefore
  obtain ⟨middle, hrest, heq⟩ := hafter rest
  rw [heq]
  refine ⟨middle, ?_, rfl⟩
  split at hbefore
  · cases hbefore
    exact congrArg ('-' :: ·) hrest
  · cases hbefore
    exact hrest

/-- **What the reader sees in an action is what stands in its braces.** -/
theorem inside_iff (line : Nat) {trimsBefore trimsAfter : Bool} {inner : List Char} :
    d.Inside trimsBefore trimsAfter inner ↔
      (Action.ofInner line inner).trimsBefore = trimsBefore ∧
      (Action.ofInner line inner).trimsAfter = trimsAfter ∧
      ofBody (Action.ofInner line inner).body = .ok d := by
  constructor
  · rintro ⟨left, core, right, hleft, hright, hcore, rfl⟩
    have hmarker {c : Char} (h : Text.isBlank c = true) : c ≠ '-' := by
      rintro rfl
      cases h
    obtain ⟨c, more, hcons, -, hc⟩ := hcore.exists_cons
    obtain ⟨more', c', hconcat, -, hc'⟩ := hcore.exists_concat
    rw [ofInner_eq]
    · refine ⟨rfl, rfl, ?_⟩
      have htrim : Text.trim (left ++ core ++ right) = core := Text.trim_eq_iff.2
        ⟨⟨hcore.startsTight, hcore.endsTight⟩, left, right, hleft, hright, rfl⟩
      rw [htrim]
      exact (ofBody_eq_ok_iff hcore.startsTight hcore.endsTight).2 hcore
    · simp [hcons]
    · cases left with
      | nil =>
        rw [hcons]
        exact fun h => hc (Option.some.inj h)
      | cons b left => exact fun h => hmarker (hleft b (List.mem_cons_self ..)) (Option.some.inj h)
    · rcases List.eq_nil_or_concat right with rfl | ⟨right, b, rfl⟩
      · rw [List.append_nil, hconcat, ← List.append_assoc, List.getLast?_concat]
        exact fun h => hc' (Option.some.inj h)
      · rw [List.concat_eq_append, ← List.append_assoc, List.getLast?_concat]
        exact fun h => hmarker (hright b (by simp)) (Option.some.inj h)
  · rintro ⟨rfl, rfl, hbody⟩
    obtain ⟨middle, hinner, hmiddle⟩ := exists_eq_ofInner line inner
    obtain ⟨⟨hstart, hend⟩, left, right, hleft, hright, heq⟩ := Text.trim_eq_iff.1 hmiddle.symm
    refine ⟨left, _, right, hleft, hright, (ofBody_eq_ok_iff hstart hend).1 hbody, ?_⟩
    rw [← heq]
    exact hinner

end Directive

/-! ### The reader keeps the same of a chunk -/

/-- **What is kept of a chunk.** -/
theorem kept_iff {trimStart trimEnd : Bool} {chunk kept : List Char} :
    Kept trimStart trimEnd chunk kept ↔ trimChunk trimStart trimEnd chunk = kept := by
  cases trimStart with
  | false =>
    cases trimEnd with
    | false =>
      constructor
      · rintro ⟨left, right, -, -, rfl, hleft, hright⟩
        rw [show left = [] from hleft, show right = [] from hright]
        exact List.append_nil _
      · rintro rfl
        exact ⟨[], [], Text.blank_nil, Text.blank_nil, (List.append_nil _).symm, rfl, rfl⟩
    | true =>
      refine Iff.trans ?_ (Text.trimEnd_eq_iff).symm
      constructor
      · rintro ⟨left, right, -, hright, rfl, hleft, hend⟩
        rw [show left = [] from hleft]
        exact ⟨hend, right, hright, rfl⟩
      · rintro ⟨hend, right, hright, rfl⟩
        exact ⟨[], right, Text.blank_nil, hright, rfl, rfl, hend⟩
  | true =>
    cases trimEnd with
    | false =>
      refine Iff.trans ?_ (Text.trimStart_eq_iff).symm
      constructor
      · rintro ⟨left, right, hleft, -, rfl, hstart, hright⟩
        rw [show right = [] from hright, List.append_nil]
        exact ⟨hstart, left, hleft, rfl⟩
      · rintro ⟨hstart, left, hleft, rfl⟩
        exact ⟨left, [], hleft, Text.blank_nil, (List.append_nil _).symm, hstart, rfl⟩
    | true =>
      refine Iff.trans ?_ (Text.trim_eq_iff).symm
      constructor
      · rintro ⟨left, right, hleft, hright, rfl, hstart, hend⟩
        exact ⟨⟨hstart, hend⟩, left, right, hleft, hright, rfl⟩
      · rintro ⟨⟨hstart, hend⟩, left, right, hleft, hright, rfl⟩
        exact ⟨left, right, hleft, hright, rfl, hstart, hend⟩

end RecordStore
