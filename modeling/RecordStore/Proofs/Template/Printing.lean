import RecordStore.Proofs.Template.Reading

/-!
# Templates are read from their own text

A template is printed part by part (`RecordStore.Template.print`): constant text with a
literal for each opening brace, a variable between braces, a conditional with both of its
branches. What is read from the printed text is the template again, unless it holds an
empty text or two texts in a row, which no reader could tell from one
(`RecordStore.Template.parse_print`).

The reader cuts the whole text first and then builds, but what it makes of a text can be
told from any point on (`RecordStore.Builder.read`). Characters without an opening brace
are added to the text before them, as long as the next action does not trim it
(`RecordStore.Builder.read_append`), and an action is carried out
(`RecordStore.Builder.read_action`). These two are the steps, and the induction is on the
parts, those in a conditional with those behind it: whatever the builder has under way, a
printed list of parts is added to it (`RecordStore.Builder.read_printNodes`).
-/

namespace RecordStore

/-! ### Printing -/

/-- An action: a text between blanks in braces. -/
def actionText (core : List Char) : List Char := "\x7b\x7b ".toList ++ core ++ " \x7d\x7d".toList

/-- Constant text in a template. An opening brace is a literal, and other characters stand for
themselves. -/
def printText (chars : List Char) : List Char :=
  chars.flatMap fun c => if c = '\x7b' then actionText ['"', '\x7b', '"'] else [c]

mutual

/-- The text that a part is read from. -/
def Node.print : Node → List Char
  | .text chars => printText chars
  | .variable v => actionText v.spelling.toList
  | .conditional v first second =>
    actionText ("if".toList ++ ' ' :: v.spelling.toList) ++ printNodes first ++
      actionText "else".toList ++ printNodes second ++ actionText "end".toList

/-- The text that parts in order are read from. -/
def printNodes : List Node → List Char
  | [] => []
  | node :: rest => node.print ++ printNodes rest

end

/-- **The text of a template.** -/
def Template.print (template : Template) : String := String.ofList (printNodes template)

/-! ### Normal templates -/

/-- Whether a part is constant text. -/
def Node.isText : Node → Bool
  | .text _ => true
  | _ => false

mutual

/-- The part is not an empty text, and the lists of parts in it are normal. -/
def Node.IsNormal : Node → Prop
  | .text chars => chars ≠ []
  | .variable _ => True
  | .conditional _ first second => NormalNodes first ∧ NormalNodes second

/-- **A normal list of parts**: no text in it is empty and no two texts are adjacent, at any
depth. -/
def NormalNodes : List Node → Prop
  | [] => True
  | node :: rest =>
    node.IsNormal ∧ (∀ next ∈ rest.head?, ¬(node.isText ∧ next.isText)) ∧ NormalNodes rest

end

/-! ### Text behind parts -/

theorem appendText_nil (nodes : List Node) : appendText nodes [] = nodes := by
  rw [appendText.eq_def]
  rfl

/-- Text behind a text is joined to it. -/
theorem appendText_concat_text (nodes : List Node) (before chars : List Char) :
    appendText (nodes ++ [.text before]) chars = nodes ++ [.text (before ++ chars)] := by
  by_cases hne : chars = []
  · rw [hne, appendText_nil, List.append_nil]
  · have hne : chars.isEmpty = false := List.isEmpty_eq_false_iff.2 hne
    induction nodes with
    | nil => simp [appendText, hne]
    | cons node nodes ih =>
      rw [List.cons_append, appendText.eq_def, hne]
      cases nodes with
      | nil => simpa using ih
      | cons next nodes => simpa using ih

/-- Text that is not behind a text is a part of its own. -/
theorem appendText_of_not_isText {nodes : List Node} {chars : List Char} (hne : chars ≠ [])
    (h : ∀ last ∈ nodes.getLast?, last.isText = false) :
    appendText nodes chars = nodes ++ [.text chars] := by
  have hempty : chars.isEmpty = false := List.isEmpty_eq_false_iff.2 hne
  induction nodes with
  | nil => simp [appendText, hne]
  | cons node nodes ih =>
    rw [appendText.eq_def, hempty]
    cases nodes with
    | nil =>
      cases node with
      | text before => cases h _ rfl
      | «variable» v => simp [appendText, hne]
      | conditional v first second => simp [appendText, hne]
    | cons next nodes => simpa using ih h

theorem eq_concat_text_or (nodes : List Node) :
    (∃ before chars, nodes = before ++ [.text chars]) ∨
      ∀ last ∈ nodes.getLast?, last.isText = false := by
  cases hlast : nodes.getLast? with
  | none => exact Or.inr nofun
  | some last =>
    cases last with
    | text chars =>
      exact Or.inl ⟨nodes.dropLast, chars, (List.dropLast_append_getLast? _ hlast).symm⟩
    | _ => exact Or.inr (by simp [Node.isText])

theorem appendText_appendText (nodes : List Node) (chars more : List Char) :
    appendText (appendText nodes chars) more = appendText nodes (chars ++ more) := by
  by_cases hne : chars = []
  · rw [hne, appendText_nil, List.nil_append]
  · rcases eq_concat_text_or nodes with ⟨before, cs, rfl⟩ | h
    · rw [appendText_concat_text, appendText_concat_text, appendText_concat_text,
        List.append_assoc]
    · have hne' : chars ++ more ≠ [] := fun h => hne (List.append_eq_nil_iff.1 h).1
      rw [appendText_of_not_isText hne h, appendText_of_not_isText hne' h,
        appendText_concat_text]

/-- A part behind others; text behind text is joined to it. -/
def appendNode (nodes : List Node) : Node → List Node
  | .text chars => appendText nodes chars
  | node => nodes ++ [node]

/-- Normal parts stay as they are when one is put behind the other. -/
theorem foldl_appendNode {nodes : List Node} (h : NormalNodes nodes) (before : List Node)
    (hbefore : ∀ last ∈ before.getLast?, ∀ next ∈ nodes.head?, ¬(last.isText ∧ next.isText)) :
    nodes.foldl appendNode before = before ++ nodes := by
  induction nodes generalizing before with
  | nil => simp
  | cons node nodes ih =>
    obtain ⟨hnode, hnext, hnodes⟩ := h
    have happend : appendNode before node = before ++ [node] := by
      cases node with
      | text chars =>
        refine appendText_of_not_isText hnode fun last hlast => ?_
        simpa [Node.isText] using hbefore last hlast
      | _ => rfl
    rw [List.foldl_cons, happend, ih hnodes]
    · simp
    · simpa using hnext

theorem foldl_appendNode_nil {nodes : List Node} (h : NormalNodes nodes) :
    nodes.foldl appendNode [] = nodes :=
  foldl_appendNode h [] (by simp)

namespace Builder

theorem text_nil (b : Builder) : b.text [] = b :=
  congrArg (Builder.mk · b.blocks) (appendText_nil b.current)

theorem text_text (b : Builder) (chars more : List Char) :
    (b.text chars).text more = b.text (chars ++ more) :=
  congrArg (Builder.mk · b.blocks) (appendText_appendText b.current chars more)

/-- The builder with more parts in the list under way. -/
def addNodes (b : Builder) (nodes : List Node) : Builder :=
  { b with current := nodes.foldl appendNode b.current }

end Builder

/-! ### Reading on -/

/-- **What a builder makes of a text** whose first character stands in a line. -/
def Builder.read (b : Builder) (line : Nat) (cs : List Char) : Except TemplateError Template :=
  b.run false (Pieces.cutFrom line cs).ending (Pieces.cutFrom line cs).actions

/-- A text whose first action, if there is one, does not trim what stands before it. -/
def Untrimmed (cs : List Char) : Prop :=
  ∀ chunk after, splitAtPair '\x7b' '\x7b' cs = some (chunk, after) → after.head? ≠ some '-'

section

variable {b b' : Builder} {line : Nat} {chars cs core chunk after : List Char}

theorem countLines_append (cs ds : List Char) :
    countLines (cs ++ ds) = countLines cs + countLines ds :=
  List.count_append

theorem line_ofInner (line : Nat) (inner : List Char) :
    (Action.ofInner line inner).line = line := by
  unfold Action.ofInner
  split
  split
  rfl

theorem trimsBefore_ofInner {inner : List Char} (h : inner.head? ≠ some '-') :
    (Action.ofInner line inner).trimsBefore = false := by
  unfold Action.ofInner
  split
  rename_i trims rest heq
  split at heq
  · exact absurd rfl h
  · cases heq
    rfl

theorem cutFrom_of_none (h : splitAtPair '\x7b' '\x7b' cs = none) :
    Pieces.cutFrom line cs = ⟨[], .chunk cs⟩ := by
  rw [Pieces.cutFrom]
  split
  · rfl
  · rename_i h'
    cases h.symm.trans h'

theorem cutFrom_of_unterminated (hopen : splitAtPair '\x7b' '\x7b' cs = some (chunk, after))
    (hclose : splitAtPair '\x7d' '\x7d' after = none) :
    Pieces.cutFrom line cs = ⟨[], .unterminated (line + countLines chunk)⟩ := by
  rw [Pieces.cutFrom]
  split
  · rename_i h
    cases hopen.symm.trans h
  · rename_i h
    cases hopen.symm.trans h
    dsimp only
    split
    · rfl
    · rename_i h
      cases hclose.symm.trans h

namespace Builder

/-- The end of a text. -/
theorem read_nil (h : b.blocks = []) : b.read line [] = .ok b.current := by
  rw [read, cutFrom_of_none rfl]
  simp only [run, text, trimChunk, h]
  exact congrArg Except.ok (appendText_nil b.current)

/-- **Characters without an opening brace are added to the text** where no action trims them. -/
theorem read_append (hchars : '\x7b' ∉ chars) (hcs : Untrimmed cs) :
    b.read line (chars ++ cs) = (b.text chars).read (line + countLines chars) cs := by
  have hsplit := splitAtPair_append hchars cs
  cases hopen : splitAtPair '\x7b' '\x7b' cs with
  | none =>
    rw [hopen, Option.map_none] at hsplit
    rw [read, read, cutFrom_of_none hsplit, cutFrom_of_none hopen]
    simp only [run, trimChunk, text_text]
    rfl
  | some split =>
    obtain ⟨chunk, after⟩ := split
    rw [hopen, Option.map_some] at hsplit
    rw [read, read]
    cases hclose : splitAtPair '\x7d' '\x7d' after with
    | none =>
      rw [cutFrom_of_unterminated hsplit hclose, cutFrom_of_unterminated hopen hclose,
        countLines_append, Nat.add_assoc]
      rfl
    | some split =>
      obtain ⟨inner, rest⟩ := split
      have hinner : inner.head? ≠ some '-' := by
        obtain ⟨rfl, -⟩ := splitAtPair_eq_some_iff.1 hclose
        intro hhead
        exact hcs chunk _ hopen (by rw [List.head?_append, hhead]; rfl)
      rw [cutFrom_of_split hsplit hclose, cutFrom_of_split hopen hclose, countLines_append]
      simp only [run, trimsBefore_ofInner hinner, trimChunk, text_text, Nat.add_assoc]
      rfl

/-- **An action is carried out**, and reading goes on behind it. -/
theorem read_action {d : Directive} (hd : d.Written core) (hcore : '\x7d' ∉ core)
    (hstep : b.apply line d = .ok b') (rest : List Char) :
    ∃ line', b.read line (actionText core ++ rest) = b'.read line' rest := by
  have hopen : splitAtPair '\x7b' '\x7b' (actionText core ++ rest) =
      some ([], (' ' :: core ++ [' ']) ++ '\x7d' :: '\x7d' :: rest) := by
    simp [actionText, splitAtPair]
  have hclose : splitAtPair '\x7d' '\x7d' ((' ' :: core ++ [' ']) ++ '\x7d' :: '\x7d' :: rest) =
      some (' ' :: core ++ [' '], rest) := by
    rw [splitAtPair_append (by simp [hcore])]
    simp [splitAtPair]
  have hinside : d.Inside false false (' ' :: core ++ [' ']) :=
    ⟨[' '], core, [' '], Text.blank_space, Text.blank_space, hd, by simp [trimMarker]⟩
  obtain ⟨hbefore, hafter, hbody⟩ := (Directive.inside_iff line).1 hinside
  have hempty : b.text (trimChunk false false []) = b := b.text_nil
  refine ⟨line + countLines (' ' :: core ++ [' ']), ?_⟩
  rw [read, cutFrom_of_split hopen hclose]
  simp only [run, countLines, List.count_nil, Nat.add_zero, hbefore, hafter, hbody, hempty]
  rw [Except.bind, line_ofInner, hstep]
  rfl

end Builder

/-! ### No printed action trims -/

theorem Untrimmed.nil : Untrimmed [] := nofun

theorem Untrimmed.append (hchars : '\x7b' ∉ chars) (hcs : Untrimmed cs) :
    Untrimmed (chars ++ cs) := by
  intro chunk after h
  rw [splitAtPair_append hchars, Option.map_eq_some_iff] at h
  obtain ⟨⟨chunk', after'⟩, h, heq⟩ := h
  cases heq
  exact hcs chunk' _ h

theorem untrimmed_actionText (core rest : List Char) : Untrimmed (actionText core ++ rest) := by
  intro chunk after h
  have hopen : splitAtPair '\x7b' '\x7b' (actionText core ++ rest) =
      some ([], ' ' :: core ++ " \x7d\x7d".toList ++ rest) := by
    simp [actionText, splitAtPair]
  cases hopen.symm.trans h
  simp

theorem untrimmed_printText (chars : List Char) (hcs : Untrimmed cs) :
    Untrimmed (printText chars ++ cs) := by
  induction chars with
  | nil => exact hcs
  | cons c chars ih =>
    rw [printText, List.flatMap_cons, List.append_assoc]
    split
    · exact untrimmed_actionText _ _
    · rename_i hc
      exact ih.append (by simpa [eq_comm] using hc)

theorem untrimmed_print (node : Node) (hcs : Untrimmed cs) : Untrimmed (node.print ++ cs) := by
  cases node with
  | text chars => exact untrimmed_printText chars hcs
  | «variable» v => exact untrimmed_actionText _ _
  | conditional v first second =>
    simp only [Node.print, List.append_assoc]
    exact untrimmed_actionText _ _

theorem untrimmed_printNodes (nodes : List Node) (hcs : Untrimmed cs) :
    Untrimmed (printNodes nodes ++ cs) := by
  induction nodes with
  | nil => exact hcs
  | cons node nodes ih =>
    rw [printNodes, List.append_assoc]
    exact untrimmed_print node ih

end

/-! ### Printed parts are read back -/

namespace Builder

theorem read_printText (chars : List Char) {cs : List Char} (hcs : Untrimmed cs) (b : Builder)
    (line : Nat) :
    ∃ line', b.read line (printText chars ++ cs) = (b.text chars).read line' cs := by
  induction chars generalizing b line with
  | nil => exact ⟨line, by rw [text_nil]; rfl⟩
  | cons c chars ih =>
    have htext : b.text (c :: chars) = (b.text [c]).text chars := (b.text_text [c] chars).symm
    rw [printText, List.flatMap_cons, List.append_assoc, ← printText, htext]
    split
    · rename_i hc
      rw [hc]
      obtain ⟨line₁, h₁⟩ := read_action (.literal ['\x7b']) (by decide)
        (rfl : b.apply line _ = .ok (b.text ['\x7b'])) (printText chars ++ cs)
      obtain ⟨line₂, h₂⟩ := ih (b.text ['\x7b']) line₁
      exact ⟨line₂, h₁.trans h₂⟩
    · rename_i hc
      rw [read_append (by simpa [eq_comm] using hc) (untrimmed_printText chars hcs)]
      exact ih (b.text [c]) _

theorem not_mem_spelling (v : Variable) : '\x7d' ∉ v.spelling.toList := by
  cases v <;> decide

mutual

/-- **A printed part is read back.** -/
theorem read_print (node : Node) (h : node.IsNormal) {cs : List Char} (hcs : Untrimmed cs)
    (b : Builder) (line : Nat) :
    ∃ line', b.read line (node.print ++ cs) = (b.addNodes [node]).read line' cs := by
  cases node with
  | text chars => exact read_printText chars hcs b line
  | «variable» v => exact read_action (.value v) (not_mem_spelling v) rfl cs
  | conditional v first second =>
    obtain ⟨hfirst, hsecond⟩ := h
    have hif : (Directive.openIf v).Written ("if".toList ++ ([' '] ++ v.spelling.toList)) :=
      .openIf v (by simp) Text.blank_space
    obtain ⟨line₁, hopen⟩ := read_action hif (by simp [not_mem_spelling])
      (rfl : b.apply line _ = .ok (b.opened line v))
      (printNodes first ++
        (actionText "else".toList ++ (printNodes second ++ (actionText "end".toList ++ cs))))
    obtain ⟨line₂, hread₁⟩ := read_printNodes first hfirst
      (untrimmed_actionText "else".toList (printNodes second ++ (actionText "end".toList ++ cs)))
      (b.opened line v) line₁
    -- a branch is under way with no parts before it, so it is read as it was
    have happly₁ : ((b.opened line v).addNodes first).apply line₂ .switch =
        .ok ⟨[], ⟨b.current, v, line, some first⟩ :: b.blocks⟩ := by
      rw [addNodes, opened, foldl_appendNode_nil hfirst]
      rfl
    obtain ⟨line₃, hswitch⟩ := read_action .switch (by decide) happly₁
      (printNodes second ++ (actionText "end".toList ++ cs))
    obtain ⟨line₄, hread₂⟩ := read_printNodes second hsecond
      (untrimmed_actionText "end".toList cs)
      ⟨[], ⟨b.current, v, line, some first⟩ :: b.blocks⟩ line₃
    have happly₂ : (addNodes ⟨[], ⟨b.current, v, line, some first⟩ :: b.blocks⟩ second).apply line₄
        .close = .ok (b.addNodes [.conditional v first second]) := by
      rw [addNodes, foldl_appendNode_nil hsecond]
      rfl
    obtain ⟨line₅, hclose⟩ := read_action .close (by decide) happly₂ cs
    refine ⟨line₅, ?_⟩
    rw [Node.print, List.append_assoc, List.append_assoc, List.append_assoc, List.append_assoc]
    exact hopen.trans <| hread₁.trans <| hswitch.trans <| hread₂.trans hclose

/-- **Printed parts are read back.** -/
theorem read_printNodes (nodes : List Node) (h : NormalNodes nodes) {cs : List Char}
    (hcs : Untrimmed cs) (b : Builder) (line : Nat) :
    ∃ line', b.read line (printNodes nodes ++ cs) = (b.addNodes nodes).read line' cs := by
  cases nodes with
  | nil => exact ⟨line, rfl⟩
  | cons node nodes =>
    obtain ⟨hnode, -, hnodes⟩ := h
    rw [printNodes, List.append_assoc]
    obtain ⟨line₁, h₁⟩ := read_print node hnode (untrimmed_printNodes nodes hcs) b line
    obtain ⟨line₂, h₂⟩ := read_printNodes nodes hnodes hcs (b.addNodes [node]) line₁
    exact ⟨line₂, h₁.trans h₂⟩

end

end Builder

/-! ### Whole templates -/

/-- A normal template is what is read from its own text. -/
theorem parse_ofList_printNodes {t : Template} (h : NormalNodes t) :
    Template.parse (String.ofList (printNodes t)) = .ok t := by
  obtain ⟨line, hread⟩ := Builder.read_printNodes t h Untrimmed.nil {} 1
  rw [List.append_nil, Builder.addNodes, foldl_appendNode_nil h] at hread
  rw [Template.parse, String.toList_ofList]
  exact hread.trans (Builder.read_nil rfl)

/-- **Reading undoes printing**: what is read from the text of a template, whatever its parts and
its depth, is the template, if it has no empty texts and no adjacent ones. So there is a template
for every text: it renders to this text in every context. -/
theorem Template.parse_print :
    (∀ t : Template, NormalNodes t → Template.parse (Template.print t) = .ok t) ∧
    ∀ s : String, ∃ text t, Template.parse text = .ok t ∧ ∀ c, Template.render t c = s := by
  refine ⟨fun t h => parse_ofList_printNodes h, fun s => ?_⟩
  by_cases hs : s.toList = []
  · refine ⟨_, [], parse_ofList_printNodes trivial, fun c => ?_⟩
    rw [Template.render, renderNodes, ← hs, String.ofList_toList]
  · refine ⟨_, [.text s.toList], parse_ofList_printNodes ⟨hs, by simp, trivial⟩, fun c => ?_⟩
    rw [Template.render, renderNodes_singleton, Node.render, String.ofList_toList]

/-- A conditional in a conditional, among texts with braces, a quote, a dash and a line feed. -/
theorem Template.parse_print_of_nested :
    let t : Template := [.text "a\x7b\x7b-\"\x7d\x7d\n".toList,
      .conditional .typeImport [.conditional .table [] [.text ['-']], .text "\x7b".toList] [],
      .variable .snakeName, .text "\x7d\x7d".toList]
    NormalNodes t ∧
    Template.print t = "a\x7b\x7b \"\x7b\" \x7d\x7d\x7b\x7b \"\x7b\" \x7d\x7d-\"\x7d\x7d\n" ++
      "\x7b\x7b if type_import \x7d\x7d\x7b\x7b if table \x7d\x7d\x7b\x7b else \x7d\x7d-" ++
      "\x7b\x7b end \x7d\x7d\x7b\x7b \"\x7b\" \x7d\x7d\x7b\x7b else \x7d\x7d\x7b\x7b end \x7d\x7d" ++
      "\x7b\x7b snake_name \x7d\x7d\x7d\x7d" ∧
    Template.parse (Template.print t) = .ok t := by
  intro t
  have h : NormalNodes t := by simp [t, NormalNodes, Node.IsNormal, Node.isText]
  exact ⟨h, by decide +kernel, Template.parse_print.1 t h⟩

end RecordStore
