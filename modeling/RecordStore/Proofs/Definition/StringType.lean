import Mathlib.Data.List.Chain
import RecordStore.Definition.File
import RecordStore.Proofs.ModulePath
import RecordStore.Proofs.Source.Printing
import RecordStore.Proofs.Text.Origin

/-!
# Types that are strings

Whether a field is a string is told from the text of its type, so the text has to tell the type. It
does, as far as paths go.

* The text of a path without arguments consists of its names with colons between them
  (`RecordStore.Source.Path.text_of_isPlain`), and tells these, since no name has a colon.
* Arguments show in it by their brackets (`RecordStore.Source.Path.isPlain_or_bracket`).
* A type of any other kind shows by a sign that no path without arguments has, or by a word that it
  starts with (`RecordStore.Source.TypeExpr.showsNoPath`).

So a type counts as a string exactly if it is one of the five paths to it
(`RecordStore.FieldDef.isString_iff_namesString`). Places do not occur in any of this, and blanks
and comments are no tokens, so how the type is laid out in the source does not matter.
-/

namespace RecordStore

namespace Source

/-! ### The text of a path -/

namespace Path

variable {p : Path} {segments : List PathSegment} {n : String}

/-- The names in a path. -/
def names (p : Path) : List String := p.segments.map (·.word.text)

/-- The names in a path, with an empty one before the colons in front. -/
def rootedNames (p : Path) : List String := if p.leading then "" :: p.names else p.names

theorem ne_empty_of_mem_names (h : n ∈ p.names) : n ≠ "" := by
  obtain ⟨s, -, rfl⟩ := List.mem_map.1 h
  intro hempty
  exact s.word.isWord_text.ne_nil (by rw [hempty]; rfl)

theorem colon_not_mem_rootedNames (h : n ∈ p.rootedNames) : ':' ∉ n.toList := by
  have hnames {n : String} (h : n ∈ p.names) : ':' ∉ n.toList := by
    obtain ⟨s, -, rfl⟩ := List.mem_map.1 h
    exact s.word.not_mem_text (by decide) (by decide) (by decide)
  rw [rootedNames] at h
  split at h
  · rcases List.mem_cons.1 h with rfl | h
    · exact List.not_mem_nil
    · exact hnames h
  · exact hnames h

/-- The pieces in the text of words with colons between them. -/
def piecesOf (ws : List Word) : List (List Char) :=
  (ws.map (·.text.toList)).intersperse [':', ':']

theorem tokens_of_isNone {s : PathSegment} (h : s.arguments.isNone = true) :
    s.tokens = [(Token.word s.word).bare] := by
  obtain ⟨w, _ | _ | _⟩ := s
  · rfl
  · cases h
  · cases h

theorem words_segmentTokens (h : segments.all (·.arguments.isNone) = true) :
    Text.words (printTrees (segmentTokens segments)) = piecesOf (segments.map (·.word)) := by
  induction segments with
  | nil => rfl
  | cons s rest ih =>
    rw [List.all_cons, Bool.and_eq_true] at h
    obtain ⟨hs, hrest⟩ := h
    cases rest with
    | nil =>
      rw [segmentTokens, tokens_of_isNone hs]
      exact words_word s.word .whole []
    | cons next more =>
      have htokens : segmentTokens (s :: next :: more) =
          (Token.word s.word).bare :: (punctTokens "::" ++ segmentTokens (next :: more)) := by
        rw [segmentTokens, tokens_of_isNone hs]
        · rfl
        · exact List.cons_ne_nil _ _
      rw [htokens, Token.bare, words_word, words_colons, ih hrest]
      rfl

theorem words_tokens (h : p.isPlain = true) : Text.words (printTrees p.tokens) =
    (if p.leading then [[':', ':']] else []) ++ piecesOf (p.segments.map (·.word)) := by
  rw [tokens]
  cases p.leading with
  | false => exact words_segmentTokens h
  | true => exact (words_colons _).trans (congrArg _ (words_segmentTokens h))

/-- A name is none of the operators with spaces around them, and ends with no separator. -/
theorem name_asks_no_space (w : Word) : Text.spacedOperators.contains w.text.toList = false ∧
    w.text.toList.getLast?.any (fun c => c == ',' || c == ';') = false := by
  have hsign {c : Char} (h : c ∈ ['-', '=', '+', ',', ';']) : c ∉ w.text.toList := by
    have hall : ['-', '=', '+', ',', ';'].all (fun c =>
        !Text.isIdentifierStart c && !Text.isIdentifierContinue c && c != '#') = true := by
      decide
    have hc := List.all_eq_true.1 hall c h
    simp only [Bool.and_eq_true, Bool.not_eq_true', bne_iff_ne] at hc
    exact w.not_mem_text hc.1.1 hc.1.2 hc.2
  constructor
  · rw [Bool.eq_false_iff, ne_eq, List.contains_iff_mem]
    intro hmem
    have hall : Text.spacedOperators.all (fun op =>
        op.any (['-', '=', '+', ',', ';'].contains ·)) = true := by
      decide
    obtain ⟨c, hc, hlisted⟩ := List.any_eq_true.1 (List.all_eq_true.1 hall _ hmem)
    exact hsign (List.contains_iff_mem.1 hlisted) hc
  · cases hlast : w.text.toList.getLast? with
    | none => rfl
    | some c =>
      have hc := List.mem_of_mem_getLast? hlast
      have hcomma : c ≠ ',' := fun h => hsign (by decide) (h ▸ hc)
      have hsemicolon : c ≠ ';' := fun h => hsign (by decide) (h ▸ hc)
      simp [hcomma, hsemicolon]

theorem spaceBetween_name_colons (w : Word) :
    Text.spaceBetween w.text.toList [':', ':'] = false := by
  obtain ⟨hoperator, hlast⟩ := name_asks_no_space w
  have hcolon : Text.isWordChar ':' = false := by decide
  have hcolons : Text.spacedOperators.contains [':', ':'] = false := by decide
  rw [Text.spaceBetween, hlast, hoperator, hcolons]
  simp [hcolon]

theorem spaceBetween_colons_name (w : Word) :
    Text.spaceBetween [':', ':'] w.text.toList = false := by
  obtain ⟨hoperator, -⟩ := name_asks_no_space w
  have hcolon : Text.isWordChar ':' = false := by decide
  have hcolons : Text.spacedOperators.contains [':', ':'] = false := by decide
  rw [Text.spaceBetween, hoperator, hcolons]
  simp [hcolon]

/-- Names with colons between them, and maybe in front, ask for no spaces. -/
theorem isChain_pieces (ws : List Word) :
    ([':', ':'] :: piecesOf ws).IsChain fun left right => Text.spaceBetween left right = false := by
  induction ws with
  | nil => exact List.isChain_singleton _
  | cons w rest ih =>
    cases rest with
    | nil => exact List.isChain_cons_cons.2 ⟨spaceBetween_colons_name w, List.isChain_singleton _⟩
    | cons next more =>
      exact List.isChain_cons_cons.2 ⟨spaceBetween_colons_name w,
        List.isChain_cons_cons.2 ⟨spaceBetween_name_colons w, ih⟩⟩

/-- **The text of a path without arguments**: its names with colons between them. -/
theorem text_of_isPlain (h : p.isPlain = true) (hne : p.segments ≠ []) :
    p.text = "::".intercalate p.rootedNames := by
  have hnames : p.names ≠ [] := fun hnil => hne (List.map_eq_nil_iff.1 hnil)
  have hflatten : (piecesOf (p.segments.map (·.word))).flatten =
      ("::".intercalate p.names).toList := by
    rw [String.toList_intercalate, names, List.map_map, piecesOf, List.map_map]
    rfl
  apply String.toList_inj.1
  rw [text, toList_respace_print, canonical, Text.respaceChars, words_tokens h, rootedNames]
  have hchain := isChain_pieces (p.segments.map (·.word))
  cases p.leading with
  | false => exact (Text.joinPieces_eq_flatten hchain.tail).trans hflatten
  | true =>
    refine (Text.joinPieces_eq_flatten hchain).trans ?_
    rw [List.flatten_cons, hflatten, if_pos rfl, String.intercalate_cons_of_ne_nil hnames]
    simp

theorem rootedNames_ne_nil (h : p.segments ≠ []) : p.rootedNames ≠ [] := by
  rw [rootedNames]
  split
  · exact List.cons_ne_nil _ _
  · exact fun hnil => h (List.map_eq_nil_iff.1 hnil)

/-! ### What the text tells -/

theorem mem_intercalate {c : Char} {names : List String} (h : c ∈ ("::".intercalate names).toList) :
    c = ':' ∨ ∃ n ∈ names, c ∈ n.toList :=
  (Text.mem_of_mem_intercalate h).imp_left fun hc => by simpa using hc

/-- Names without colons can be told from the text that joins them by colons. -/
theorem intercalate_inj {names names' : List String} (hne : names ≠ []) (hne' : names' ≠ [])
    (h : ∀ n ∈ names, ':' ∉ n.toList) (h' : ∀ n ∈ names', ':' ∉ n.toList)
    (heq : "::".intercalate names = "::".intercalate names') : names = names' := by
  refine segments_inj h h' ?_
  rw [joinSegments, joinSegments, String.intercalate_cons_of_ne_nil hne,
    String.intercalate_cons_of_ne_nil hne', heq]

theorem mem_segmentTokens {s : PathSegment} {tree : TokenTree} (hs : s ∈ segments)
    (htree : tree ∈ s.tokens) : tree ∈ segmentTokens segments := by
  induction segments with
  | nil => cases hs
  | cons first rest ih =>
    cases rest with
    | nil =>
      obtain rfl := List.mem_singleton.1 hs
      exact htree
    | cons next more =>
      rw [segmentTokens, List.mem_append, List.mem_append]
      · rcases List.mem_cons.1 hs with rfl | hs
        · exact Or.inl (Or.inl htree)
        · exact Or.inr (ih hs)
      · exact List.cons_ne_nil _ _

/-- Arguments show by their brackets in the text of a path. -/
theorem isPlain_or_bracket (p : Path) :
    p.isPlain = true ∨ '<' ∈ canonical p.tokens ∨ '(' ∈ canonical p.tokens := by
  rw [isPlain, List.all_eq_true]
  by_cases hall : ∀ s ∈ p.segments, s.arguments.isNone = true
  · exact Or.inl hall
  · push Not at hall
    obtain ⟨s, hs, harguments⟩ := hall
    have htokens {tree : TokenTree} (h : tree ∈ s.arguments.tokens) : tree ∈ p.tokens :=
      List.mem_append_right _ (mem_segmentTokens hs (List.mem_cons_of_mem _ h))
    refine Or.inr ?_
    cases harg : s.arguments with
    | none =>
      rw [harg] at harguments
      exact absurd rfl harguments
    | angled colons content =>
      have hangle : (Token.punct (.of '<') false).bare ∈ s.arguments.tokens := by
        rw [harg]
        exact List.mem_append_left _ (List.mem_append_left _
          (List.mem_append_right _ List.mem_cons_self))
      exact Or.inl (mem_canonical (htokens hangle) List.mem_cons_self (by decide))
    | parenthesized content output =>
      have hgroup : groupOf .parenthesis content ∈ s.arguments.tokens := by
        rw [harg]
        exact List.mem_cons_self
      exact Or.inr (mem_canonical (htokens hgroup) List.mem_cons_self (by decide))

/-- **Which names a path has** can be told from its text. -/
theorem text_eq_iff {names : List String} (hsegments : p.segments ≠ []) (hne : names ≠ [])
    (h : ∀ n ∈ names, ':' ∉ n.toList ∧ '<' ∉ n.toList ∧ '(' ∉ n.toList) :
    p.text = "::".intercalate names ↔ p.isPlain = true ∧ p.rootedNames = names := by
  constructor
  · intro heq
    have hbracket {c : Char} (hc : c ∈ canonical p.tokens) :
        c = ':' ∨ ∃ n ∈ names, c ∈ n.toList := by
      rw [← toList_respace_print, ← text, heq] at hc
      exact mem_intercalate hc
    have hplain : p.isPlain = true := by
      rcases isPlain_or_bracket p with hplain | hangle | hparen
      · exact hplain
      · obtain hcolon | ⟨n, hn, hangle⟩ := hbracket hangle
        · cases hcolon
        · exact absurd hangle (h n hn).2.1
      · obtain hcolon | ⟨n, hn, hparen⟩ := hbracket hparen
        · cases hcolon
        · exact absurd hparen (h n hn).2.2
    rw [text_of_isPlain hplain hsegments] at heq
    exact ⟨hplain, intercalate_inj (rootedNames_ne_nil hsegments) hne
      (fun n hn => colon_not_mem_rootedNames hn) (fun n hn => (h n hn).1) heq⟩
  · rintro ⟨hplain, rfl⟩
    exact text_of_isPlain hplain hsegments

end Path

/-! ### Types that are no paths -/

/-- The signs that types other than paths show by. -/
def typeSigns : List Char := ['<', '(', '[', '&', '*', '!', '+', '\'']

/-- The words that types other than paths start with. -/
def typeHeads : List String :=
  ["for", "unsafe", "extern", "fn", "impl", "dyn", "union", "struct", "_"]

/-- Whether a text shows that it is of a type other than a path. -/
def ShowsNoPath (cs : List Char) : Prop :=
  (∃ c ∈ typeSigns, c ∈ cs) ∨ ∃ head ∈ typeHeads, head.toList <+: cs

theorem showsNoPath_of_mem {c : Char} {tree : TokenTree} {tokens : Tokens} (hc : c ∈ typeSigns)
    (htree : tree ∈ tokens) (hprint : c ∈ tree.print) : ShowsNoPath (canonical tokens) := by
  have hall : typeSigns.all (fun c => !Text.isBlank c) = true := by decide
  have hblank := List.all_eq_true.1 hall c hc
  rw [Bool.not_eq_true'] at hblank
  exact Or.inl ⟨c, hc, mem_canonical htree hprint hblank⟩

theorem showsNoPath_of_sign (sign : Sign) {tokens : Tokens} (hsign : sign.char ∈ typeSigns)
    (h : (Token.punct sign false).bare ∈ tokens) : ShowsNoPath (canonical tokens) :=
  showsNoPath_of_mem hsign h List.mem_cons_self

theorem showsNoPath_of_head {w : Word} (hw : w.text ∈ typeHeads) (rest : Tokens) :
    ShowsNoPath (canonical ((Token.word w).bare :: rest)) :=
  Or.inr ⟨w.text, hw, prefix_canonical w .whole rest⟩

theorem showsNoPath_of_group {d : Delimiter} (hd : d ≠ .brace) {content tokens : Tokens}
    (h : groupOf d content ∈ tokens) : ShowsNoPath (canonical tokens) := by
  cases d with
  | parenthesis => exact showsNoPath_of_mem (c := '(') (by decide) h List.mem_cons_self
  | brace => exact absurd rfl hd
  | bracket => exact showsNoPath_of_mem (c := '[') (by decide) h List.mem_cons_self

theorem FirstBound.showsNoPath (first : FirstBound) (rest : Tokens) :
    ShowsNoPath (canonical (first.tokens ++ rest)) := by
  cases first with
  | quantified => exact showsNoPath_of_head (w := .of "for") (by decide) rest
  | lifetime name => exact showsNoPath_of_mem (by decide) List.mem_cons_self List.mem_cons_self
  | parenthesized content => exact showsNoPath_of_group (by decide) List.mem_cons_self
  | path p =>
    refine showsNoPath_of_sign (.of '+') (by decide) ?_
    exact List.mem_append_left _ (List.mem_append_right _ List.mem_cons_self)

/-- **A type that is no path** shows it by a sign or by the word that it starts with. -/
theorem TypeExpr.showsNoPath {t : TypeExpr} (h : ∀ p, t ≠ .path p) :
    ShowsNoPath (canonical t.tokens) := by
  cases t with
  | path p => exact absurd rfl (h p)
  | qualified => exact showsNoPath_of_sign (.of '<') (by decide) List.mem_cons_self
  | macroCall p body =>
    refine showsNoPath_of_sign (.of '!') (by decide) ?_
    exact List.mem_append_left _ (List.mem_append_right _ List.mem_cons_self)
  | reference => exact showsNoPath_of_sign (.of '&') (by decide) List.mem_cons_self
  | pointer => exact showsNoPath_of_sign (.of '*') (by decide) List.mem_cons_self
  | array => exact showsNoPath_of_group (by decide) List.mem_cons_self
  | tuple => exact showsNoPath_of_group (by decide) List.mem_cons_self
  | parenthesized => exact showsNoPath_of_group (by decide) List.mem_cons_self
  | function head rest =>
    cases head with
    | quantified => exact showsNoPath_of_head (w := .of "for") (by decide) rest
    | unchecked => exact showsNoPath_of_head (w := .of "unsafe") (by decide) rest
    | foreign => exact showsNoPath_of_head (w := .of "extern") (by decide) rest
    | plain => exact showsNoPath_of_head (w := .of "fn") (by decide) rest
  | anonymous bounds => exact showsNoPath_of_head (w := .of "impl") (by decide) bounds
  | object bounds => exact showsNoPath_of_head (w := .of "dyn") (by decide) bounds
  | bareObject first rest => exact first.showsNoPath rest
  | nameless union fields =>
    cases union with
    | false => exact showsNoPath_of_head (w := .of "struct") (by decide) fields
    | true => exact showsNoPath_of_head (w := .of "union") (by decide) fields
  | inferred => exact showsNoPath_of_head (w := .of "_") (by decide) []
  | never => exact showsNoPath_of_sign (.of '!') (by decide) List.mem_cons_self

/-! ### The string type -/

/-- The names in the paths to the string type, an empty one for colons in front. -/
def stringNames : List (List String) :=
  [["String"], ["std", "string", "String"], ["", "std", "string", "String"],
    ["alloc", "string", "String"], ["", "alloc", "string", "String"]]

theorem stringTypes_eq : stringTypes = stringNames.map "::".intercalate := by decide

theorem not_showsNoPath_of_mem_stringTypes {text : String} (h : text ∈ stringTypes) :
    ¬ ShowsNoPath text.toList := by
  have hsigns : ∀ text ∈ stringTypes, typeSigns.all (!text.toList.contains ·) = true := by decide
  have hheads : ∀ text ∈ stringTypes, ∀ head ∈ typeHeads, ¬ head.toList <+: text.toList := by decide
  rintro (⟨c, hc, hmem⟩ | ⟨head, hhead, hprefix⟩)
  · have hnot := List.all_eq_true.1 (hsigns text h) c hc
    rw [List.contains_iff_mem.2 hmem] at hnot
    cases hnot
  · exact hheads text h head hhead hprefix

/-- **A path to the string type**: no arguments, and the names of one of the five ways to write
it. Only the long ones may have colons in front. -/
structure Path.NamesString (p : Path) : Prop where
  plain : p.isPlain = true
  names : p.names = ["String"] ∧ p.leading = false ∨ p.names = ["std", "string", "String"] ∨
    p.names = ["alloc", "string", "String"]

theorem Path.rootedNames_mem_stringNames (p : Path) : p.rootedNames ∈ stringNames ↔
    p.names = ["String"] ∧ p.leading = false ∨ p.names = ["std", "string", "String"] ∨
      p.names = ["alloc", "string", "String"] := by
  have hempty : "" ∉ p.names := fun h => ne_empty_of_mem_names h rfl
  rw [rootedNames]
  cases p.leading with
  | false =>
    have hrooted {rest : List String} : p.names ≠ "" :: rest := by
      intro h
      exact hempty (h ▸ List.mem_cons_self)
    simp [stringNames, hrooted]
  | true => simp [stringNames]

theorem Path.text_mem_stringTypes_iff (p : Path) : p.text ∈ stringTypes ↔ p.NamesString := by
  have hnames : ∀ names ∈ stringNames, names ≠ [] ∧
      ∀ n ∈ names, ':' ∉ n.toList ∧ '<' ∉ n.toList ∧ '(' ∉ n.toList := by decide
  by_cases hsegments : p.segments = []
  · obtain ⟨leading, segments⟩ := p
    obtain rfl : segments = [] := hsegments
    refine iff_of_false ?_ fun h => by simpa [names] using h.names
    cases leading <;> decide
  · rw [stringTypes_eq, List.mem_map]
    constructor
    · rintro ⟨names, hmem, htext⟩
      obtain ⟨hne, hsigns⟩ := hnames names hmem
      obtain ⟨hplain, rfl⟩ := (text_eq_iff hsegments hne hsigns).1 htext.symm
      exact ⟨hplain, p.rootedNames_mem_stringNames.1 hmem⟩
    · rintro ⟨hplain, hp⟩
      have hmem := p.rootedNames_mem_stringNames.2 hp
      obtain ⟨hne, hsigns⟩ := hnames _ hmem
      exact ⟨_, hmem, ((text_eq_iff hsegments hne hsigns).2 ⟨hplain, rfl⟩).symm⟩

/-- A type that is a path to the string type. -/
def TypeExpr.NamesString : TypeExpr → Prop
  | path p => p.NamesString
  | _ => False

end Source

open Source

/-- **A field is a string** exactly if its type is a path to the string type. -/
theorem FieldDef.isString_iff_namesString (index : Nat) (field : Field) :
    (FieldDef.ofField index field).isString = true ↔ field.type.NamesString := by
  rw [isString, List.contains_iff_mem]
  change field.type.text ∈ stringTypes ↔ _
  cases htype : field.type with
  | path p => exact p.text_mem_stringTypes_iff
  | _ =>
    refine iff_of_false (fun h => not_showsNoPath_of_mem_stringTypes h ?_) not_false
    rw [TypeExpr.text, toList_respace_print]
    exact TypeExpr.showsNoPath nofun

end RecordStore
