import Mathlib.Data.List.Basic
import Mathlib.Data.List.TakeWhile
import RecordStore.Proofs.Source.Lexing
import RecordStore.Proofs.Source.Program
import RecordStore.Template.Basic

/-!
# Texts with open values

A template is a text in which the values of variables stand open (`RecordStore.allSymbols?`), and for
some templates the lexemes of what they render to can be told without the values.
`RecordStore.spells` goes through such a text and through lexemes with open names side by side. What
it accepts is lexed in that way for all values that fit (`RecordStore.lexes_of_spells`): names in
code, one line in a comment, and nothing that would end or change the string for the table.
-/

namespace RecordStore

open Source
open Text (isIdentifierStart isIdentifierContinue)

/-! ### Symbols -/

/-- A character of a text, or the place of a value. -/
inductive Symbol
  | char (c : Char)
  | value (v : Variable)
  deriving DecidableEq

/-- The characters of a symbol. -/
def Symbol.chars (context : TemplateContext) : Symbol → List Char
  | char c => [c]
  | value v => (context.value v).toList

/-- The text of symbols for some values. -/
def textOf (context : TemplateContext) (symbols : List Symbol) : List Char :=
  symbols.flatMap (Symbol.chars context)

/-- Symbols without open values. -/
def symbolsOf (cs : List Char) : List Symbol := cs.map .char

mutual

/-- The symbols of a part that depends on nothing but the import of the type, where there is none. -/
def Node.symbols? : Node → Option (List Symbol)
  | .text cs => some (symbolsOf cs)
  | .variable v => some [.value v]
  | .conditional .typeImport _ second => allSymbols? second
  | .conditional _ _ _ => none

/-- The symbols of such parts in order. -/
def allSymbols? : List Node → Option (List Symbol)
  | [] => some []
  | node :: rest => do return (← node.symbols?) ++ (← allSymbols? rest)

end

variable {context : TemplateContext} {names : StoreNames} {symbols symbols' rest : List Symbol}
  {v : Variable}

@[simp]
theorem textOf_nil : textOf context [] = [] := rfl

@[simp]
theorem textOf_char (c : Char) (symbols : List Symbol) :
    textOf context (.char c :: symbols) = c :: textOf context symbols := rfl

@[simp]
theorem textOf_value (v : Variable) (symbols : List Symbol) :
    textOf context (.value v :: symbols) =
      (context.value v).toList ++ textOf context symbols := rfl

@[simp]
theorem textOf_append (symbols rest : List Symbol) :
    textOf context (symbols ++ rest) = textOf context symbols ++ textOf context rest :=
  List.flatMap_append

@[simp]
theorem textOf_symbolsOf (cs : List Char) : textOf context (symbolsOf cs) = cs := by
  induction cs with
  | nil => rfl
  | cons c cs ih => rw [symbolsOf, List.map_cons, textOf_char, ← symbolsOf, ih]

/-- What stands in no symbol does not stand in the text. -/
theorem forall_mem_textOf {P : Char → Prop} (h : ∀ s ∈ symbols, ∀ c ∈ s.chars context, P c) :
    ∀ c ∈ textOf context symbols, P c := by
  intro c hc
  obtain ⟨s, hs, hcs⟩ := List.mem_flatMap.1 hc
  exact h s hs c hcs

mutual

theorem Node.render_eq_textOf {symbols : List Symbol} (himport : context.typeImport = "")
    (node : Node) (h : node.symbols? = some symbols) : node.render context = textOf context symbols := by
  cases node with
  | text cs =>
    cases h
    exact (textOf_symbolsOf cs).symm
  | «variable» v =>
    cases h
    exact (List.append_nil _).symm
  | conditional v first second =>
    cases v with
    | typeImport =>
      rw [Node.symbols?] at h
      rw [Node.render, TemplateContext.value, himport, if_pos (by decide)]
      exact renderNodes_eq_textOf himport second h
    | _ => cases h

/-- **What a template renders to** is its symbols with the values in their places. -/
theorem renderNodes_eq_textOf {symbols : List Symbol} (himport : context.typeImport = "")
    (nodes : List Node) (h : allSymbols? nodes = some symbols) :
    renderNodes context nodes = textOf context symbols := by
  cases nodes with
  | nil =>
    cases h
    rfl
  | cons node nodes =>
    rw [allSymbols?] at h
    obtain ⟨first, hfirst, h⟩ := Option.bind_eq_some_iff.1 h
    obtain ⟨more, hmore, h⟩ := Option.bind_eq_some_iff.1 h
    cases h
    rw [renderNodes, textOf_append, Node.render_eq_textOf himport node hfirst,
      renderNodes_eq_textOf himport nodes hmore]

end

/-! ### Marks -/

/-- A lexeme with open names. -/
inductive Mark
  | leaf (l : Leaf)
  | opening (d : Delimiter)
  | closing (d : Delimiter)
  deriving DecidableEq

/-- The lexeme for some names. -/
def Mark.lexeme (names : StoreNames) : Mark → Lexeme
  | leaf l => .token (l.token names)
  | opening d => .opening d
  | closing d => .closing d

mutual

/-- The marks of a shape. -/
def Source.Shape.marks : Shape → List Mark
  | .leaf l => [.leaf l]
  | .group d content => .opening d :: (marksOf content ++ [.closing d])

/-- The marks of shapes. -/
def marksOf : List Shape → List Mark
  | [] => []
  | s :: rest => s.marks ++ marksOf rest

end

/-- The lexemes of marks for some names. -/
def lexemesFor (names : StoreNames) (marks : List Mark) : List Lexeme := marks.map (Mark.lexeme names)

theorem Source.Leaf.blank_token (names : StoreNames) (l : Leaf) :
    (l.token names).blank = l.token names := by
  cases l with
  | key =>
    cases hkey : names.key <;>
      simp [Leaf.token, hkey, Member.token, Token.blank, Literal.blank, Literal.ofNat]
  | _ => rfl

mutual

theorem Source.Shape.lexemes_marks (names : StoreNames) (s : Shape) :
    lexemesFor names s.marks = (s.tree names).lexemes.map bareLexeme := by
  cases s with
  | leaf l =>
    change [Lexeme.token (l.token names)] = [Lexeme.token (l.token names).blank]
    rw [l.blank_token]
  | group d content =>
    rw [Shape.marks, Shape.tree, groupOf, TokenTree.lexemes, List.map_cons, List.map_append,
      ← lexemes_marksOf names content, lexemesFor, List.map_cons, List.map_append, lexemesFor]
    rfl

/-- The marks of shapes stand for the lexemes of their trees. -/
theorem lexemes_marksOf (names : StoreNames) (ss : List Shape) :
    lexemesFor names (marksOf ss) = (lexemesOf (trees names ss)).map bareLexeme := by
  cases ss with
  | nil => rfl
  | cons s ss =>
    rw [marksOf, trees, lexemesOf, List.map_append, ← Source.Shape.lexemes_marks names s,
      ← lexemes_marksOf names ss, lexemesFor, List.map_append, lexemesFor, lexemesFor]

end

mutual

theorem Source.Shape.bare_tree (names : StoreNames) (s : Shape) :
    (s.tree names).bare = s.tree names := by
  cases s with
  | leaf l =>
    change (l.token names).blank.bare = (l.token names).bare
    rw [l.blank_token]
  | group d content =>
    rw [Shape.tree, groupOf, TokenTree.bare, bareAll_trees names content]
    rfl

/-- The trees for some names have no places. -/
theorem bareAll_trees (names : StoreNames) (ss : List Shape) :
    bareAll (trees names ss) = trees names ss := by
  cases ss with
  | nil => rfl
  | cons s ss => rw [trees, bareAll, Source.Shape.bare_tree names s, bareAll_trees names ss]

end

/-! ### Spelling -/

/-- The variables whose values are tokens. -/
def Variable.isToken : Variable → Bool
  | .name | .type | .primaryKey => true
  | _ => false

/-- Characters that may follow a word. -/
def wordEnds : List Char := [' ', '\n', '(', ')', '\x7d', '<', '>', '.', ',', ':', ';', '?']

/-- Whether a word may end before these symbols. -/
def endsWord : List Symbol → Bool
  | [] => true
  | .char c :: _ => wordEnds.contains c
  | .value _ :: _ => false

/-- Whether punctuation is joined to what these symbols start with, if that can be told. -/
def joins? : List Symbol → Option Bool
  | [] => some false
  | .char c :: _ => if c = '/' then none else some (punctuation.contains c)
  | .value v :: _ => if v.isToken then some false else none

/-- Whether a symbol may stand in a string: nothing that ends it or is replaced. -/
def Symbol.inString : Symbol → Bool
  | char c => c != '"' && c != '\\' && c != '\r'
  | value v => v == .table

/-- Whether a symbol may stand in a comment. -/
def Symbol.inComment : Symbol → Bool
  | char c => c != '\n'
  | value v => v.isToken || v == .package || v == .snakeName

/-- Whether a symbol may stand in documentation. -/
def Symbol.inDocs : Symbol → Bool
  | char c => c != '\n' && c != '\r'
  | value v => v.isToken

/-- What follows a word that stands in front. -/
def wordAfter? (spelling symbols : List Symbol) : Option (List Symbol) :=
  (symbols.dropPrefix? spelling).filter endsWord

/-- What follows a line of symbols that are admitted in it. -/
def lineAfter? (admits : Symbol → Bool) (symbols : List Symbol) : Option (List Symbol) :=
  (symbols.dropWhile admits).dropPrefix? [.char '\n']

/-- **What follows a leaf** that stands in front. -/
def Source.Leaf.after? (symbols : List Symbol) : Leaf → Option (List Symbol)
  | .word w => wordAfter? (symbolsOf w.text.toList) symbols
  | .store => wordAfter? (.value .name :: symbolsOf "Store".toList) symbols
  | .stored => wordAfter? [.value .type] symbols
  | .key => (wordAfter? [.value .primaryKey] symbols).filter (·.head? != some (.char '.'))
  | .lifetime name =>
    if (Word.ofText? name).isSome ∧ Text.isIdentifier name.toList then
      wordAfter? (.char '\'' :: symbolsOf name.toList) symbols
    else none
  | .punct sign joint =>
    if sign.char ≠ '\'' ∧ sign.char ≠ '/' then
      (symbols.dropPrefix? [.char sign.char]).filter (joins? · == some joint)
    else none
  | .text =>
    (symbols.dropPrefix? [.char '"']).bind fun rest =>
      ((rest.dropWhile Symbol.inString).dropPrefix? [.char '"']).filter endsWord

/-- **What follows a mark** that stands in front. -/
def Mark.after? (symbols : List Symbol) : Mark → Option (List Symbol)
  | leaf l => l.after? symbols
  | opening d =>
    match symbols with
    | .char c :: rest => if opening? c = some d ∧ (joins? rest).isSome then some rest else none
    | _ => none
  | closing d =>
    match symbols with
    | .char c :: rest => if closing? c = some d then some rest else none
    | _ => none

/-- What follows the comment after two slashes, and the marks after those for documentation. -/
def commentAfter? (symbols : List Symbol) (marks : List Mark) :
    Option (List Symbol × List Mark) :=
  match symbols with
  | .char ' ' :: rest => (lineAfter? Symbol.inComment rest).map (·, marks)
  | .char '/' :: rest =>
    if (joins? rest).isSome then
      match lineAfter? Symbol.inDocs rest, marks.dropPrefix? (marksOf (docsShapes 1)) with
      | some rest, some marks => some (rest, marks)
      | _, _ => none
    else none
  | _ => none

/-- **What is left** after a blank, a comment or a mark. -/
def advance (symbols : List Symbol) (marks : List Mark) : Option (List Symbol × List Mark) :=
  match symbols, marks with
  | .char '/' :: .char '/' :: rest, marks => commentAfter? rest marks
  | .char ' ' :: rest, marks => some (rest, marks)
  | .char '\n' :: rest, marks => some (rest, marks)
  | symbols, m :: marks => (m.after? symbols).map (·, marks)
  | _, [] => none

/-- **Whether symbols spell some marks**; `fuel` bounds the steps. -/
def spells : Nat → List Symbol → List Mark → Bool
  | _, [], marks => marks.isEmpty
  | 0, _ :: _, _ => false
  | fuel + 1, s :: symbols, marks =>
    match advance (s :: symbols) marks with
    | some (rest, marks) => spells fuel rest marks
    | none => false

/-! ### Values that fit -/

/-- **Values that fit** some names. -/
structure Fits (context : TemplateContext) (names : StoreNames) : Prop where
  name : context.name = names.stored.text
  type : context.type = names.stored.text
  store : names.store.text = context.name ++ "Store"
  key : context.primaryKey.toList = names.key.token.print
  package : '\n' ∉ context.package.toList
  snakeName : '\n' ∉ context.snakeName.toList
  table : ∀ c ∈ context.table.toList, c ≠ '"' ∧ c ≠ '\\'
  returns : returnsPaired context.table.toList = true

namespace Fits

/-- The values that are tokens are words and numbers. -/
theorem eq_word_or_number (h : Fits context names) (hv : v.isToken = true) :
    (∃ w : Word, (context.value v).toList = w.text.toList) ∨
      ∃ n : Nat, (context.value v).toList = (toString n).toList := by
  cases v with
  | name => exact .inl ⟨names.stored, by rw [← h.name]; rfl⟩
  | type => exact .inl ⟨names.stored, by rw [← h.type]; rfl⟩
  | primaryKey =>
    have hkey : (context.value .primaryKey).toList = names.key.token.print := h.key
    cases hnames : names.key with
    | name w isName => exact .inl ⟨w, by rw [hkey, hnames]; rfl⟩
    | position i fits => exact .inr ⟨i, by rw [hkey, hnames]; rfl⟩
  | _ => cases hv

/-- Characters that are in no word and no number are not in the values that are tokens. -/
theorem not_mem_value (h : Fits context names) (hv : v.isToken = true) {c : Char}
    (hstart : isIdentifierStart c = false) (hcontinue : isIdentifierContinue c = false)
    (hsign : c ≠ '#') (hdigit : isDigit c = false) : c ∉ (context.value v).toList := by
  rcases h.eq_word_or_number hv with ⟨w, hw⟩ | ⟨n, hn⟩
  · rw [hw]
    exact Word.not_mem_text hstart hcontinue hsign w
  · rw [hn]
    intro hc
    rw [digits n c (by simpa [toString, Nat.repr] using hc)] at hdigit
    cases hdigit

/-- The values that are tokens start neither with punctuation nor with a slash. -/
theorem exists_head_value (h : Fits context names) (hv : v.isToken = true) :
    ∃ c cs, (context.value v).toList = c :: cs ∧ c ∉ punctuation := by
  rcases h.eq_word_or_number hv with ⟨w, hw⟩ | ⟨n, hn⟩
  · obtain ⟨c, cs, hcs, hc⟩ := w.exists_start
    exact ⟨c, cs, hw.trans hcs, not_mem_punctuation hc⟩
  · obtain ⟨c, cs, hcs⟩ := List.exists_cons_of_ne_nil (Nat.toDigits_ne_nil (n := n) (b := 10))
    have hall : punctuation.all (fun d => !isDigit d) = true := by decide +kernel
    have hc := digits n c (by simp [hcs])
    refine ⟨c, cs, hn.trans (by rw [← hcs]; simp [toString, Nat.repr]), fun hmem => ?_⟩
    have hnot := List.all_eq_true.1 hall c hmem
    rw [hc] at hnot
    cases hnot

/-! ### What is spelled is lexed -/

/-- A text that punctuation is joined to or not starts with no slash. -/
theorem head_ne_slash (h : Fits context names) (hjoins : (joins? symbols).isSome = true) :
    (textOf context symbols).head? ≠ some '/' := by
  match symbols with
  | [] => simp
  | .char c :: rest =>
    rintro hhead
    obtain rfl : c = '/' := by simpa using hhead
    cases hjoins
  | .value v :: rest =>
    have hv : v.isToken = true := by
      by_contra hv
      rw [joins?, if_neg hv] at hjoins
      cases hjoins
    obtain ⟨c, cs, hcs, hc⟩ := h.exists_head_value hv
    rw [textOf_value, hcs]
    rintro hhead
    obtain rfl : c = '/' := by simpa using hhead
    exact hc (by decide)

theorem startsPunct_eq (h : Fits context names) {joint : Bool} (hjoins : joins? symbols = some joint) :
    startsPunct (textOf context symbols) = joint := by
  match symbols with
  | [] =>
    cases hjoins
    rfl
  | .char c :: rest =>
    obtain ⟨hc, hjoins⟩ := Option.ite_none_left_eq_some.1 hjoins
    cases hjoins
    rw [textOf_char, startsPunct, startingSign?, Sign.ofChar?]
    · split
      · rename_i hsign
        rw [hsign]
        rfl
      · rename_i hsign
        rw [Bool.eq_false_iff.2 hsign]
        rfl
    · exact fun _ hslash _ => hc hslash
    · exact fun _ hslash _ => hc hslash
  | .value v :: rest =>
    obtain ⟨hv, hjoins⟩ := Option.ite_none_right_eq_some.1 hjoins
    cases hjoins
    obtain ⟨c, cs, hcs, hc⟩ := h.exists_head_value hv
    rw [textOf_value, hcs, List.cons_append, startsPunct, startingSign?_of_not_mem hc]
    rfl

end Fits

variable {ls : List Lexeme}

/-- A word can end before such symbols, and a number too, but for a point. -/
theorem endsWord_textOf (h : endsWord symbols = true) :
    EndsWord (textOf context symbols) ∧ (∀ c ∈ (textOf context symbols).head?,
      isIdentifierStart c = false) ∧
      (symbols.head? ≠ some (.char '.') → EndsNumber (textOf context symbols)) := by
  have hall : ∀ c ∈ wordEnds, (isIdentifierContinue c = false ∧ c ≠ '"' ∧ c ≠ '\'' ∧ c ≠ '#') ∧
      isIdentifierStart c = false := by
    rw [← List.all_iff_forall_prop]
    decide +kernel
  match symbols with
  | [] => exact ⟨by simp [EndsWord], by simp, by simp [EndsNumber]⟩
  | .char c :: rest =>
    obtain ⟨hword, hstart⟩ := hall c (List.contains_iff_mem.1 h)
    have hhead {P : Char → Prop} (hc : P c) : ∀ d ∈ (textOf context (.char c :: rest)).head?, P d := by
      rintro d hd
      obtain rfl : c = d := by simpa using hd
      exact hc
    refine ⟨hhead hword, hhead hstart, fun hpoint => hhead ⟨hstart, hword.1, ?_⟩⟩
    rintro rfl
    exact hpoint rfl
  | .value v :: rest => cases h

theorem eq_append_of_wordAfter? {spelling : List Symbol} (h : wordAfter? spelling symbols = some rest) :
    symbols = spelling ++ rest ∧ endsWord rest = true := by
  obtain ⟨hdrop, hends⟩ := Option.filter_eq_some_iff.1 h
  obtain ⟨front, rfl, hfront⟩ := List.dropPrefix?_eq_some_iff.1 hdrop
  rw [eq_of_beq hfront]
  exact ⟨rfl, hends⟩

theorem eq_append_of_lineAfter? {admits : Symbol → Bool} (h : lineAfter? admits symbols = some rest) :
    ∃ line, symbols = line ++ .char '\n' :: rest ∧ ∀ s ∈ line, admits s = true := by
  obtain ⟨front, hdrop, hfront⟩ := List.dropPrefix?_eq_some_iff.1 h
  rw [eq_of_beq hfront] at hdrop
  refine ⟨symbols.takeWhile admits, ?_, fun s hs => List.mem_takeWhile_imp hs⟩
  rw [← List.singleton_append, ← hdrop, List.takeWhile_append_dropWhile]

theorem lexes_word {spelling : List Symbol} (w : Word)
    (hspelling : textOf context spelling = w.text.toList)
    (h : wordAfter? spelling symbols = some rest) (hrest : Lexes (textOf context rest) ls) :
    Lexes (textOf context symbols) (.token (.word w) :: ls) := by
  obtain ⟨rfl, hends⟩ := eq_append_of_wordAfter? h
  rw [textOf_append, hspelling]
  exact .word w (endsWord_textOf hends).1 hrest

namespace Fits

theorem lexes_key (h : Fits context names) (hafter : Leaf.key.after? symbols = some rest)
    (hrest : Lexes (textOf context rest) ls) :
    Lexes (textOf context symbols) (.token names.key.token :: ls) := by
  obtain ⟨hword, hpoint⟩ := Option.filter_eq_some_iff.1 hafter
  obtain ⟨rfl, hends⟩ := eq_append_of_wordAfter? hword
  have hkey : (context.value .primaryKey).toList = names.key.token.print := h.key
  rw [textOf_append, textOf_value, textOf_nil, List.append_nil, hkey]
  cases names.key with
  | name w isName => exact .word w (endsWord_textOf hends).1 hrest
  | position i fits => exact .number i ((endsWord_textOf hends).2.2 (by simpa using hpoint)) hrest

theorem lexes_lifetime {name : String} (hafter : (Leaf.lifetime name).after? symbols = some rest)
    (hrest : Lexes (textOf context rest) ls) :
    Lexes (textOf context symbols) (.token (.lifetime name) :: ls) := by
  obtain ⟨⟨hsome, hidentifier⟩, hafter⟩ := Option.ite_none_right_eq_some.1 hafter
  obtain ⟨w, hw⟩ := Option.isSome_iff_exists.1 hsome
  obtain rfl := Word.text_of_ofText? hw
  obtain ⟨rfl, hends⟩ := eq_append_of_wordAfter? hafter
  rw [textOf_append, textOf_char, textOf_symbolsOf, List.cons_append]
  exact .lifetime w hidentifier (endsWord_textOf hends).1 hrest

theorem lexes_punct (h : Fits context names) {sign : Sign} {joint : Bool}
    (hafter : (Leaf.punct sign joint).after? symbols = some rest)
    (hrest : Lexes (textOf context rest) ls) :
    Lexes (textOf context symbols) (.token (.punct sign joint) :: ls) := by
  obtain ⟨⟨hquote, hslash⟩, hafter⟩ := Option.ite_none_right_eq_some.1 hafter
  obtain ⟨hdrop, hjoins⟩ := Option.filter_eq_some_iff.1 hafter
  obtain ⟨front, rfl, hfront⟩ := List.dropPrefix?_eq_some_iff.1 hdrop
  rw [eq_of_beq hfront, List.singleton_append, textOf_char, ← h.startsPunct_eq (eq_of_beq hjoins)]
  exact .punct hquote hslash hrest

/-- What stands in a string does not end it, and has its carriage returns at the ends of lines. -/
theorem of_inString (h : Fits context names) {line : List Symbol}
    (hline : ∀ s ∈ line, s.inString = true) :
    (∀ c ∈ textOf context line, c ≠ '"' ∧ c ≠ '\\') ∧ returnsPaired (textOf context line) = true := by
  induction line with
  | nil => exact ⟨List.forall_mem_nil _, rfl⟩
  | cons s line ih =>
    obtain ⟨hs, hline⟩ := List.forall_mem_cons.1 hline
    obtain ⟨hchars, hreturns⟩ := ih hline
    cases s with
    | char c =>
      simp only [Symbol.inString, Bool.and_eq_true, bne_iff_ne, ne_eq] at hs
      rw [textOf_char, returnsPaired_cons hs.2]
      exact ⟨List.forall_mem_cons.2 ⟨hs.1, hchars⟩, hreturns⟩
    | value v =>
      obtain rfl := eq_of_beq hs
      rw [textOf_value, TemplateContext.value, returnsPaired_append h.returns]
      exact ⟨List.forall_mem_append.2 ⟨h.table, hchars⟩, hreturns⟩

theorem lexes_text (h : Fits context names) (hafter : Leaf.text.after? symbols = some rest)
    (hrest : Lexes (textOf context rest) ls) :
    Lexes (textOf context symbols) (.token (.literal .nothing) :: ls) := by
  obtain ⟨inner, hopen, hafter⟩ := Option.bind_eq_some_iff.1 hafter
  obtain ⟨hclose, hends⟩ := Option.filter_eq_some_iff.1 hafter
  obtain ⟨front, rfl, hfront⟩ := List.dropPrefix?_eq_some_iff.1 hopen
  obtain ⟨quote, hinner, hquote⟩ := List.dropPrefix?_eq_some_iff.1 hclose
  rw [eq_of_beq hquote] at hinner
  rw [eq_of_beq hfront, List.singleton_append, textOf_char,
    ← List.takeWhile_append_dropWhile (p := Symbol.inString) (l := inner), hinner,
    textOf_append, List.singleton_append, textOf_char]
  obtain ⟨hchars, hreturns⟩ := h.of_inString fun s hs => List.mem_takeWhile_imp hs
  exact .string hchars hreturns (endsWord_textOf hends).2.1 hrest

/-- **A leaf that stands in front is lexed.** -/
theorem lexes_leaf (h : Fits context names) (l : Leaf) (hafter : l.after? symbols = some rest)
    (hrest : Lexes (textOf context rest) ls) :
    Lexes (textOf context symbols) (.token (l.token names) :: ls) := by
  cases l with
  | word w => exact lexes_word w (textOf_symbolsOf _) hafter hrest
  | store =>
    refine lexes_word (.plain names.store) ?_ hafter hrest
    change _ = names.store.text.toList
    rw [textOf_value, textOf_symbolsOf, h.store, String.toList_append]
    rfl
  | stored =>
    refine lexes_word names.stored ?_ hafter hrest
    rw [textOf_value, textOf_nil, List.append_nil, ← h.type]
    rfl
  | key => exact h.lexes_key hafter hrest
  | punct sign joint => exact h.lexes_punct hafter hrest
  | lifetime name => exact lexes_lifetime hafter hrest
  | text => exact h.lexes_text hafter hrest

/-- **A mark that stands in front is lexed.** -/
theorem lexes_mark (h : Fits context names) (m : Mark) (hafter : m.after? symbols = some rest)
    (hrest : Lexes (textOf context rest) ls) :
    Lexes (textOf context symbols) (m.lexeme names :: ls) := by
  cases m with
  | leaf l => exact h.lexes_leaf l hafter hrest
  | opening d =>
    rw [Mark.after?.eq_def] at hafter
    dsimp only at hafter
    split at hafter
    · obtain ⟨⟨hc, hjoins⟩, hafter⟩ := Option.ite_none_right_eq_some.1 hafter
      cases hafter
      exact .opening hc (h.head_ne_slash hjoins) hrest
    · cases hafter
  | closing d =>
    rw [Mark.after?.eq_def] at hafter
    dsimp only at hafter
    split at hafter
    · obtain ⟨hc, hafter⟩ := Option.ite_none_right_eq_some.1 hafter
      cases hafter
      exact .closing hc hrest
    · cases hafter

/-! ### Comments and runs -/

/-- The values that stand in a comment have no line feed. -/
theorem not_mem_of_inComment (h : Fits context names) {line : List Symbol}
    (hline : ∀ s ∈ line, s.inComment = true) : '\n' ∉ textOf context line := by
  refine fun hmem => forall_mem_textOf (P := (· ≠ '\n')) (fun s hs => ?_) _ hmem rfl
  have hadmitted := hline s hs
  cases s with
  | char c =>
    rintro d hd
    obtain rfl := List.mem_singleton.1 hd
    simpa [Symbol.inComment] using hadmitted
  | value v =>
    simp only [Symbol.inComment, Bool.or_eq_true, beq_iff_eq] at hadmitted
    rintro _ hd rfl
    rcases hadmitted with (hv | rfl) | rfl
    · exact h.not_mem_value hv (by decide) (by decide) (by decide) (by decide) hd
    · exact h.package hd
    · exact h.snakeName hd

/-- The values that stand in documentation have no line feed and no carriage return. -/
theorem not_mem_of_inDocs (h : Fits context names) {line : List Symbol}
    (hline : ∀ s ∈ line, s.inDocs = true) :
    '\n' ∉ textOf context line ∧ '\r' ∉ textOf context line := by
  have hall : ∀ c ∈ textOf context line, c ≠ '\n' ∧ c ≠ '\r' := by
    refine forall_mem_textOf fun s hs => ?_
    have hadmitted := hline s hs
    cases s with
    | char c =>
      rintro d hd
      obtain rfl := List.mem_singleton.1 hd
      simpa [Symbol.inDocs] using hadmitted
    | value v =>
      refine fun d hd => ⟨?_, ?_⟩ <;>
      · rintro rfl
        exact h.not_mem_value hadmitted (by decide) (by decide) (by decide) (by decide) hd
  exact ⟨fun hmem => (hall _ hmem).1 rfl, fun hmem => (hall _ hmem).2 rfl⟩

theorem lexes_comment (h : Fits context names) {marks more : List Mark}
    (hafter : commentAfter? symbols marks = some (rest, more))
    (hrest : Lexes (textOf context rest) (lexemesFor names more)) :
    Lexes ('/' :: '/' :: textOf context symbols) (lexemesFor names marks) := by
  rw [commentAfter?.eq_def] at hafter
  split at hafter
  · -- two slashes, and the line is skipped
    obtain ⟨after, hline, heq⟩ := Option.map_eq_some_iff.1 hafter
    cases heq
    obtain ⟨line, rfl, hadmits⟩ := eq_append_of_lineAfter? hline
    have hcomment := Lexes.comment (h.not_mem_of_inComment hadmits) hrest
    simpa [commentLine] using hcomment
  · -- three slashes, and the line is documentation, which has marks
    obtain ⟨hjoins, hafter⟩ := Option.ite_none_right_eq_some.1 hafter
    split at hafter
    · rename_i after more' hline hmarks
      cases hafter
      have hfirst := h.head_ne_slash hjoins
      obtain ⟨line, rfl, hadmits⟩ := eq_append_of_lineAfter? hline
      obtain ⟨front, rfl, hfront⟩ := List.dropPrefix?_eq_some_iff.1 hmarks
      obtain ⟨hfeed, hreturn⟩ := h.not_mem_of_inDocs hadmits
      have hline : (textOf context line).head? ≠ some '/' := by
        cases hcs : textOf context line with
        | nil => simp
        | cons c cs => simpa [hcs] using hfirst
      have hdoc := Lexes.doc hline hfeed hreturn hrest
      have hdocs : (marksOf (docsShapes 1)).map (Mark.lexeme names) = Lexes.docLexemes := rfl
      rw [eq_of_beq hfront, lexemesFor, List.map_append, hdocs]
      simpa [lexemesFor] using hdoc
    · cases hafter
  · cases hafter

/-- **What `advance` takes is lexed.** -/
theorem lexes_advance (h : Fits context names) {marks more : List Mark}
    (hadvance : advance symbols marks = some (rest, more))
    (hrest : Lexes (textOf context rest) (lexemesFor names more)) :
    Lexes (textOf context symbols) (lexemesFor names marks) := by
  rw [advance.eq_def] at hadvance
  split at hadvance
  · exact h.lexes_comment hadvance hrest
  · cases hadvance
    exact .separator (by decide) hrest
  · cases hadvance
    exact .separator (by decide) hrest
  · rename_i m ms _ _ _
    obtain ⟨after, hafter, heq⟩ := Option.map_eq_some_iff.1 hadvance
    cases heq
    exact h.lexes_mark m hafter hrest
  · cases hadvance

/-- **Symbols that spell marks are lexed like them** for all values that fit. -/
theorem lexes_of_spells (h : Fits context names) {fuel : Nat} {marks : List Mark}
    (hspells : spells fuel symbols marks = true) :
    Lexes (textOf context symbols) (lexemesFor names marks) := by
  -- each unit of fuel pays for what `advance` takes
  induction fuel generalizing symbols marks with
  | zero =>
    cases symbols with
    | nil =>
      obtain rfl := List.isEmpty_iff.1 hspells
      exact .nil
    | cons s symbols => cases hspells
  | succ fuel ih =>
    cases symbols with
    | nil =>
      obtain rfl := List.isEmpty_iff.1 hspells
      exact .nil
    | cons s symbols =>
      rw [spells] at hspells
      split at hspells
      · rename_i rest more hadvance
        exact h.lexes_advance hadvance (ih hspells)
      · cases hspells

end Fits

end RecordStore
