import RecordStore.Definition.File
import RecordStore.Definition.PrimaryKey
import RecordStore.Proofs.Definition.Tags
import RecordStore.Proofs.Source.Printing

/-!
# Attributes that mark the key

The key marker is looked for among texts: the namespace of an attribute is the text of its path, and
a value is the text of an item or of an expression. Still nothing but the marker itself is taken for
it. Of all tokens only words print without a sign, a quote, a digit or a bracket, and two words have
a space between them in canonical spacing, so tokens that print as a plain name are the word of that
name (`RecordStore.Source.canonical_eq_iff`). This decides it for paths
(`RecordStore.Source.Path.text_eq_iff_isWord`), for expressions that are no strings
(`RecordStore.Source.Expression.text_eq_iff_spells`) and for items of lists
(`RecordStore.Source.NestedItem.value_eq_iff`), and so for the attributes that mark the key
(`RecordStore.FieldDef.isPrimaryKey_iff_marksKey`).
-/

namespace RecordStore

namespace Source

variable {name : String} {tokens : Tokens}

/-! ### Plain names -/

/-- A character of words that occurs in no sign and in no bracket, and marks no literal. -/
structure PlainLetter (c : Char) : Prop where
  word : Text.isWordChar c = true
  notSign : c ∉ punctuation
  notBracket : c ∉ ['(', '[', '\x7b']
  notMark : marksLiteral c = false
  notBlank : Text.isBlank c = false

instance (c : Char) : Decidable (PlainLetter c) :=
  decidable_of_iff
    (Text.isWordChar c = true ∧ c ∉ punctuation ∧ c ∉ ['(', '[', '\x7b'] ∧ marksLiteral c = false ∧
      Text.isBlank c = false)
    ⟨fun ⟨h₁, h₂, h₃, h₄, h₅⟩ => ⟨h₁, h₂, h₃, h₄, h₅⟩,
      fun ⟨h₁, h₂, h₃, h₄, h₅⟩ => ⟨h₁, h₂, h₃, h₄, h₅⟩⟩

/-- A name that consists of such characters. -/
structure IsPlainName (name : String) : Prop where
  ne_nil : name.toList ≠ []
  plain : ∀ c ∈ name.toList, PlainLetter c

theorem IsPlainName.of_all (hne : name.toList ≠ [])
    (hall : name.toList.all (fun c => decide (PlainLetter c)) = true) : IsPlainName name where
  ne_nil := hne
  plain c hc := of_decide_eq_true (List.all_eq_true.1 hall c hc)

theorem notBlank_of_marksLiteral {c : Char} (h : marksLiteral c = true) :
    Text.isBlank c = false := by
  simp only [marksLiteral, Bool.or_eq_true, beq_iff_eq] at h
  rcases h with ((rfl | rfl) | h) | rfl
  · decide
  · decide
  · have hdigit : 48 ≤ c.toNat ∧ c.toNat ≤ 57 := by
      simpa [Char.isDigit, UInt32.le_iff_toNat_le] using h
    rw [Bool.eq_false_iff]
    intro hblank
    simp only [Text.isBlank, Bool.or_eq_true, Bool.and_eq_true, decide_eq_true_eq, beq_iff_eq]
      at hblank
    omega
  · decide

/-- The one tree whose text consists of such characters is a word. -/
theorem exists_word_of_plain {tree : TokenTree}
    (h : ∀ c ∈ tree.print, Text.isBlank c = false → PlainLetter c) :
    ∃ w span, tree = .token (.word w) span := by
  cases tree with
  | group d opening closing content =>
    obtain ⟨c, hbracket, hblank, hc⟩ : ∃ c ∈ ['(', '[', '\x7b'], Text.isBlank c = false ∧
        c ∈ (TokenTree.group d opening closing content).print := by
      cases d with
      | parenthesis => exact ⟨'(', by decide, rfl, List.mem_cons_self⟩
      | bracket => exact ⟨'[', by decide, rfl, List.mem_cons_self⟩
      | brace => exact ⟨'\x7b', by decide, rfl, by cases content <;> exact List.mem_cons_self⟩
    exact absurd hbracket (h c hc hblank).notBracket
  | token t span =>
    have hsign {c : Char} (hc : c ∈ t.print) (hmem : c ∈ punctuation) : False := by
      have hall : punctuation.all (fun c => !Text.isBlank c) = true := by decide
      have hblank := List.all_eq_true.1 hall c hmem
      rw [Bool.not_eq_true'] at hblank
      exact (h c hc hblank).notSign hmem
    cases t with
    | word w => exact ⟨w, span, rfl⟩
    | punct s joint =>
      exact (hsign List.mem_cons_self (List.contains_iff_mem.1 s.isPunctuation)).elim
    | literal l =>
      obtain ⟨c, hc, hmark⟩ := List.any_eq_true.1 l.marked
      have hplain := h c hc (notBlank_of_marksLiteral hmark)
      rw [hplain.notMark] at hmark
      cases hmark
    | lifetime n => exact (hsign (c := '\'') List.mem_cons_self (by decide)).elim

/-- **Tokens that print as a plain name** are the word of that name. -/
theorem canonical_eq_iff (hname : IsPlainName name) : canonical tokens = name.toList ↔
    ∃ w span, tokens = [.token (.word w) span] ∧ w.text = name := by
  constructor
  · intro h
    have hplain {tree : TokenTree} {c : Char} (htree : tree ∈ tokens) (hc : c ∈ tree.print)
        (hblank : Text.isBlank c = false) : PlainLetter c :=
      hname.plain c (h ▸ mem_canonical htree hc hblank)
    have hword {tree : TokenTree} (htree : tree ∈ tokens) :
        ∃ w span, tree = .token (.word w) span :=
      exists_word_of_plain fun c hc => hplain htree hc
    match tokens with
    | [] => exact absurd h.symm hname.ne_nil
    | [tree] =>
      obtain ⟨w, span, rfl⟩ := hword List.mem_cons_self
      rw [canonical_word] at h
      exact ⟨w, span, rfl, String.toList_inj.1 h⟩
    | left :: right :: rest =>
      -- the texts of two words in a row would have a space between them
      obtain ⟨v, vspan, rfl⟩ := hword List.mem_cons_self
      obtain ⟨w, wspan, rfl⟩ := hword (List.mem_cons_of_mem _ List.mem_cons_self)
      have hv : ∀ c ∈ v.text.toList, Text.isWordChar c = true := fun c hc =>
        (hplain List.mem_cons_self hc (v.isWord_text.notBlank c hc)).word
      have hw : ∀ c ∈ w.text.toList, Text.isWordChar c = true := fun c hc =>
        (hplain (List.mem_cons_of_mem _ List.mem_cons_self) hc (w.isWord_text.notBlank c hc)).word
      have hspace : ' ' ∈ name.toList := by
        rw [← h, canonical, Text.respaceChars, words_word, words_word]
        exact Text.space_mem_joinPieces
          (Text.spaceBetween_of_isWordChar v.isWord_text.ne_nil w.isWord_text.ne_nil hv hw)
      exact absurd (hname.plain ' ' hspace).notBlank (by decide)
  · rintro ⟨w, span, rfl, rfl⟩
    exact canonical_word w span

/-! ### Paths -/

theorem PathArguments.eq_none_of_tokens {arguments : PathArguments} (h : arguments.tokens = []) :
    arguments = .none := by
  cases arguments with
  | none => rfl
  | angled colons content => cases (List.append_eq_nil_iff.1 h).2
  | parenthesized content output => cases h

namespace Path

variable {p : Path} {w : Word} {span : Span}

/-- A path whose tokens are one word is that word. -/
theorem word?_of_tokens (h : p.tokens = [.token (.word w) span]) : p.word? = some w := by
  obtain ⟨leading, segments⟩ := p
  cases leading with
  | true => cases (List.cons.inj h).1
  | false =>
    match segments with
    | [] => cases h
    | [⟨v, arguments⟩] =>
      obtain ⟨hv, harguments⟩ := List.cons.inj h
      obtain rfl := PathArguments.eq_none_of_tokens harguments
      cases hv
      rfl
    | ⟨v, arguments⟩ :: next :: more =>
      have hrest : arguments.tokens ++ punctTokens "::" ++ segmentTokens (next :: more) = [] :=
        (List.cons.inj h).2
      cases (List.append_eq_nil_iff.1 (List.append_eq_nil_iff.1 hrest).1).2

theorem tokens_of_word? (h : p.word? = some w) : p.tokens = [.token (.word w) .whole] := by
  rw [word?.eq_def] at h
  split at h
  · rename_i hleading hsegments
    cases h
    rw [tokens, hleading, hsegments]
    rfl
  · cases h

/-- **The text of a path is a plain name** exactly if the path is the word of that name. -/
theorem text_eq_iff_isWord (hname : IsPlainName name) : p.text = name ↔ p.isWord name = true := by
  rw [← String.toList_inj, text, toList_respace_print, canonical_eq_iff hname, isWord, beq_iff_eq,
    Option.map_eq_some_iff]
  constructor
  · rintro ⟨w, span, htokens, hw⟩
    exact ⟨w, word?_of_tokens htokens, hw⟩
  · rintro ⟨w, hword, hw⟩
    exact ⟨w, .whole, tokens_of_word? hword, hw⟩

end Path

/-! ### Values -/

/-- The value of an expression that is a string. -/
def Expression.string? (e : Expression) : Option String :=
  match e.form with
  | .literal ⟨.string value, _, _⟩ => some value
  | _ => none

/-- Whether an expression gives a name: it is a string with this value, or a word. -/
def Expression.Spells (e : Expression) (name : String) : Prop :=
  e.string? = some name ∨
    e.string? = none ∧ ∃ w span, e.tokens = [.token (.word w) span] ∧ w.text = name

theorem Expression.text_eq_iff_spells {e : Expression} (hname : IsPlainName name) :
    e.text = name ↔ e.Spells name := by
  rw [text]
  split
  · rename_i value _ _ hform
    have hstring : e.string? = some value := by rw [string?, hform]
    simp [Spells, hstring]
  · rename_i hform
    have hstring : e.string? = none := by
      rw [string?.eq_def]
      split
      · rename_i heq
        exact absurd heq (hform _ _ _)
      · rfl
    rw [← String.toList_inj, toList_respace_print, canonical_eq_iff hname]
    simp [Spells, hstring]

/-- **An item stands for a plain name** exactly if it is a word and nothing else. -/
theorem NestedItem.value_eq_iff {item : NestedItem} (hname : IsPlainName name) :
    item.value = name ↔ item.content = .nothing ∧ item.path.isWord name = true := by
  have hvalue : '=' ∉ name.toList := fun h => (hname.plain _ h).notSign (by decide)
  have hlist : '(' ∉ name.toList := fun h => (hname.plain _ h).notBracket (by decide)
  rw [value]
  cases item.content with
  | nothing => simp [Path.text_eq_iff_isWord hname]
  | value e =>
    refine iff_of_false (fun h => hvalue ?_) fun h => nomatch h.1
    simp [← h]
  | list body =>
    refine iff_of_false (fun h => hlist ?_) fun h => nomatch h.1
    simp [← h]

/-! ### Attributes -/

/-- **An attribute that marks the key**: it has the namespace of the marker for its path, and gives
the marker for its value or as an item of its list. A list of anything but items has none. -/
inductive AttributeContent.MarksKey : AttributeContent → Prop
  | value {p : Path} {e : Expression} (hp : p.isWord keyNamespace = true)
      (he : e.Spells keyMarker) : MarksKey (.nameValue p e)
  | item {p : Path} {d : Delimiter} {body : Tokens} {items : List NestedItem} {item : NestedItem}
      (hp : p.isWord keyNamespace = true) (hitems : NestedItem.parseAll? body = some items)
      (hitem : item ∈ items) (hcontent : item.content = .nothing)
      (hword : item.path.isWord keyMarker = true) : MarksKey (.list p d body)

theorem isPlainName_keyNamespace : IsPlainName keyNamespace :=
  .of_all (by decide) (by decide)

theorem isPlainName_keyMarker : IsPlainName keyMarker :=
  .of_all (by decide) (by decide)

theorem AttributeContent.marksKey_iff {content : AttributeContent} : content.MarksKey ↔
    content.subject.isWord keyNamespace = true ∧ keyMarker ∈ content.values := by
  have hmarker := isPlainName_keyMarker
  constructor
  · intro h
    cases h with
    | value hp he =>
      exact ⟨hp, List.mem_singleton.2 ((Expression.text_eq_iff_spells hmarker).2 he).symm⟩
    | item hp hitems hitem hcontent hword =>
      refine ⟨hp, ?_⟩
      rw [values, hitems]
      exact List.mem_map.2 ⟨_, hitem, (NestedItem.value_eq_iff hmarker).2 ⟨hcontent, hword⟩⟩
  · rintro ⟨hp, hmem⟩
    cases content with
    | path p => cases hmem
    | nameValue p e =>
      exact .value hp ((Expression.text_eq_iff_spells hmarker).1 (List.mem_singleton.1 hmem).symm)
    | list p d body =>
      rw [values] at hmem
      cases hitems : NestedItem.parseAll? body with
      | none =>
        rw [hitems] at hmem
        cases hmem
      | some items =>
        rw [hitems] at hmem
        obtain ⟨item, hitem, hvalue⟩ := List.mem_map.1 hmem
        obtain ⟨hcontent, hword⟩ := (NestedItem.value_eq_iff hmarker).1 hvalue
        exact .item hp hitems hitem hcontent hword

/-- No attribute in the namespace of the key marker is documentation. -/
theorem Attribute.isDoc_eq_false {a : Attribute}
    (h : a.content.subject.isWord keyNamespace = true) : a.isDoc = false := by
  rw [isDoc, Path.isWord, beq_iff_eq.1 h]
  rfl

end Source

open Source

/-- **A field is marked as the key** exactly if one of its attributes marks it. -/
theorem FieldDef.isPrimaryKey_iff_marksKey (index : Nat) (field : Field) :
    (FieldDef.ofField index field).isPrimaryKey = true ↔
      ∃ a ∈ field.attributes, a.content.MarksKey := by
  have hnamespace {p : Path} := Path.text_eq_iff_isWord (p := p) isPlainName_keyNamespace
  change (Tags.ofAttributes field.attributes).contains keyNamespace keyMarker = true ↔ _
  rw [Tags.contains, List.contains_iff_mem, Tags.ofAttributes, Tags.get_ofList, List.mem_flatMap]
  constructor
  · rintro ⟨step, hstep, hmem⟩
    obtain ⟨hstep, htext⟩ := List.mem_filter.1 hstep
    obtain ⟨a, ha, rfl⟩ := List.mem_map.1 hstep
    have hsubject := hnamespace.1 (of_decide_eq_true htext)
    exact ⟨a, (List.mem_filter.1 ha).1, AttributeContent.marksKey_iff.2 ⟨hsubject, hmem⟩⟩
  · rintro ⟨a, ha, hmarks⟩
    obtain ⟨hsubject, hmem⟩ := AttributeContent.marksKey_iff.1 hmarks
    have hkept : a ∈ field.attributes.filter fun a => !a.isDoc :=
      List.mem_filter.2 ⟨ha, by rw [Attribute.isDoc_eq_false hsubject]; rfl⟩
    exact ⟨_, List.mem_filter.2
      ⟨List.mem_map_of_mem hkept, decide_eq_true (hnamespace.2 hsubject)⟩, hmem⟩

end RecordStore
