import Mathlib.Data.Nat.Init
import RecordStore.Source.Parser

/-!
# Reading token trees

What a parser makes of token trees does not depend on where they stand in the text, nor on what the
strings among them say. The statement `RecordStore.Source.Reads p ts rest P` says of the parser `p`
that, where the trees `ts` are left, it succeeds and leaves the trees `rest`, both seen in that way,
and that its answer satisfies `P`. There is a rule for each way in which parsers are put together,
so that a construct of the grammar can be read one token after the other.
-/

namespace RecordStore.Source

open Source.Parser

/-! ### Trees without places -/

/-- A string that says nothing. -/
def Literal.nothing : Literal := ⟨.string "", "\"\"", rfl⟩

/-- A literal, for a string without what it says. -/
def Literal.blank : Literal → Literal
  | ⟨.string _, _, _⟩ => .nothing
  | l => l

/-- A token, for a string without what it says. -/
def Token.blank : Token → Token
  | .literal l => .literal l.blank
  | t => t

mutual

/-- A tree without its places and without what its strings say. -/
def TokenTree.bare : TokenTree → TokenTree
  | .token t _ => t.blank.bare
  | .group d _ _ content => groupOf d (bareAll content)

/-- Trees without their places and without what their strings say. -/
def bareAll : List TokenTree → Tokens
  | [] => []
  | tree :: rest => tree.bare :: bareAll rest

end

@[simp]
theorem Token.blank_eq_word {t : Token} {w : Word} : t.blank = .word w ↔ t = .word w := by
  cases t <;> simp [Token.blank]

@[simp]
theorem Token.blank_eq_lifetime {t : Token} {n : String} :
    t.blank = .lifetime n ↔ t = .lifetime n := by
  cases t <;> simp [Token.blank]

@[simp]
theorem Token.blank_eq_literal {t : Token} {l : Literal} :
    t.blank = .literal l ↔ ∃ l', t = .literal l' ∧ l'.blank = l := by
  cases t <;> simp [Token.blank]

variable {ts u rest : Tokens}

@[simp]
theorem length_bareAll (ts : Tokens) : (bareAll ts).length = ts.length := by
  induction ts with
  | nil => rfl
  | cons tree rest ih => rw [bareAll, List.length_cons, List.length_cons, ih]

theorem bareAll_eq_nil (h : bareAll ts = []) : ts = [] := by
  cases ts with
  | nil => rfl
  | cons tree rest => cases h

theorem bareAll_eq_token {t : Token} (h : bareAll ts = t.bare :: u) :
    ∃ t' span rest, ts = .token t' span :: rest ∧ t'.blank = t ∧ bareAll rest = u := by
  cases ts with
  | nil => cases h
  | cons tree rest =>
    cases tree with
    | token t' span =>
      cases h
      exact ⟨t', span, rest, rfl, rfl, rfl⟩
    | group d o c content => cases h

theorem bareAll_eq_group {d : Delimiter} {inner : Tokens}
    (h : bareAll ts = groupOf d inner :: u) :
    ∃ opening closing content rest, ts = .group d opening closing content :: rest ∧
      bareAll content = inner ∧ bareAll rest = u := by
  cases ts with
  | nil => cases h
  | cons tree rest =>
    cases tree with
    | token t' span => cases h
    | group d' o c content =>
      cases h
      exact ⟨o, c, content, rest, rfl, rfl, rfl⟩

/-! ### Looking ahead -/

/-- Whether a test does not look at places. -/
def Parser.Peek.Blind (p : Peek) : Prop := ∀ ts, p.holds (bareAll ts) = p.holds ts

@[simp]
theorem parens_eq : parens = aGroup .parenthesis := rfl

@[simp]
theorem braces_eq : braces = aGroup .brace := rfl

@[simp]
theorem brackets_eq : brackets = aGroup .bracket := rfl

theorem afterPunct?_bareAll (cs : List Char) (ts : Tokens) :
    afterPunct? cs (bareAll ts) = (afterPunct? cs ts).map bareAll := by
  induction cs generalizing ts with
  | nil => rfl
  | cons c cs ih =>
    cases ts with
    | nil => cases cs <;> rfl
    | cons tree rest =>
      cases tree with
      | group d o cl content => cases cs <;> rfl
      | token t span =>
        cases t with
        | punct d joint =>
          cases cs with
          | nil =>
            simp only [bareAll, TokenTree.bare, Token.blank, Token.bare, afterPunct?]
            split <;> rfl
          | cons c' cs =>
            cases joint with
            | false => rfl
            | true =>
              simp only [bareAll, TokenTree.bare, Token.blank, Token.bare, afterPunct?]
              split
              · exact ih rest
              · rfl
        | _ => cases cs <;> rfl

theorem headWord?_bareAll (ts : Tokens) : headWord? (bareAll ts) = headWord? ts := by
  rcases ts with _ | ⟨_ | _, rest⟩ <;> try rfl
  rename_i t _
  cases t <;> rfl

@[simp]
theorem blind_punctuation (text : String) : (Parser.punctuation text).Blind := by
  intro ts
  simp only [Parser.punctuation, afterPunct?_bareAll, Option.isSome_map]

/-- Whether the trees start with a certain word. -/
def headsWord (text : String) (ts : Tokens) : Bool := (headWord? ts).any (·.is text)

@[simp]
theorem any_headWord? (text : String) (ts : Tokens) :
    (headWord? ts).any (·.is text) = headsWord text ts := rfl

theorem headsWord_bareAll (text : String) (ts : Tokens) :
    headsWord text (bareAll ts) = headsWord text ts := by
  rw [headsWord, headWord?_bareAll, headsWord]

@[simp]
theorem blind_headsWord (name text : String) : Peek.Blind ⟨name, headsWord text⟩ :=
  headsWord_bareAll text

theorem blind_theWord (text : String) (known : isKnown text = true) :
    (theWord text known).Blind :=
  headsWord_bareAll text

@[simp]
theorem blind_aName : aName.Blind := by
  intro ts
  simp only [aName, headWord?_bareAll]

@[simp]
theorem blind_aLifetime : aLifetime.Blind := by
  rintro (_ | ⟨_ | _, rest⟩) <;> try rfl
  rename_i t _
  cases t <;> rfl

@[simp]
theorem blind_aGroup (d : Delimiter) : (aGroup d).Blind := by
  rintro (_ | ⟨_ | _, rest⟩) <;> rfl

@[simp]
theorem blind_parens : parens.Blind := blind_aGroup .parenthesis

@[simp]
theorem blind_braces : braces.Blind := blind_aGroup .brace

@[simp]
theorem blind_brackets : brackets.Blind := blind_aGroup .bracket

theorem startsLiteral_of_ne {c : Sign} {joint : Bool} {span : Span} (hc : c.char ≠ '-') :
    startsLiteral (.token (.punct c joint) span :: rest) = false := by
  refine startsLiteral.eq_4 _ ?_ ?_ ?_
  · nofun
  · nofun
  · rintro _ _ _ _ _ _ heq
    cases heq
    exact hc rfl

@[simp]
theorem blind_aLiteral : aLiteral.Blind := by
  rintro (_ | ⟨⟨t, _⟩ | _, rest⟩) <;> try rfl
  cases t with
  | punct c joint =>
    by_cases hc : c.char = '-'
    · obtain ⟨_, _⟩ := c
      obtain rfl := hc
      rcases rest with _ | ⟨⟨t, _⟩ | _, _⟩ <;> try rfl
      rcases t with _ | _ | ⟨_ | _, _, _⟩ | _ <;> rfl
    · exact (startsLiteral_of_ne hc).trans (startsLiteral_of_ne hc).symm
  | _ => rfl

namespace Sign

/-! Names for signs, so that it is checked once of each that it is one. -/

def hash : Sign := .of '#'

def ampersand : Sign := .of '&'

def comma : Sign := .of ','

def minus : Sign := .of '-'

def point : Sign := .of '.'

def colon : Sign := .of ':'

def semicolon : Sign := .of ';'

def less : Sign := .of '<'

def equals : Sign := .of '='

def greater : Sign := .of '>'

def mark : Sign := .of '?'

attribute [simp] hash ampersand comma minus point colon semicolon less equals greater mark

end Sign

-- The proofs in these are not of the form that rewriting looks for.
attribute [simp] theWord peekWord wordToken Word.of Sign.of

section Heads

theorem Word.is_eq_false {w : Word} (hw : w.isName = true) {text : String}
    (htext : contextualWords.contains text = false) : w.is text = false := by
  cases w with
  | plain n => rfl
  | known k =>
    rw [Word.is, beq_eq_false_iff_ne]
    rintro rfl
    rw [Word.isName] at hw
    rw [hw] at htext
    cases htext

@[simp]
theorem Word.is_plain (n : PlainName) (text : String) : (Word.plain n).is text = false := rfl

@[simp]
theorem Word.is_known (w : KnownWord) (text : String) :
    (Word.known w).is text = (w.text == text) := rfl

@[simp]
theorem Word.isName_plain (n : PlainName) : (Word.plain n).isName = true := rfl

@[simp]
theorem Word.isName_known (w : KnownWord) :
    (Word.known w).isName = contextualWords.contains w.text := rfl

variable {text : String} {d' : Delimiter}

@[simp]
theorem headsWord_bare :
    headsWord text [] = false ∧
      (∀ (w : Word) (ts : Tokens), headsWord text ((Token.word w).bare :: ts) = w.is text) ∧
      (∀ (c : Sign) (joint : Bool) (ts : Tokens), headsWord text ((Token.punct c joint).bare :: ts) = false) ∧
      (∀ (l : Literal) (ts : Tokens), headsWord text ((Token.literal l).bare :: ts) = false) ∧
      (∀ (n : String) (ts : Tokens), headsWord text ((Token.lifetime n).bare :: ts) = false) ∧
      (∀ (d : Delimiter) (inner ts : Tokens), headsWord text (groupOf d inner :: ts) = false) :=
  ⟨rfl, fun _ _ => rfl, fun _ _ _ => rfl, fun _ _ => rfl, fun _ _ => rfl, fun _ _ _ => rfl⟩

@[simp]
theorem holds_aName :
    aName.holds [] = false ∧
      (∀ (w : Word) (ts : Tokens), aName.holds ((Token.word w).bare :: ts) = w.isName) ∧
      (∀ (c : Sign) (joint : Bool) (ts : Tokens), aName.holds ((Token.punct c joint).bare :: ts) = false) ∧
      (∀ (l : Literal) (ts : Tokens), aName.holds ((Token.literal l).bare :: ts) = false) ∧
      (∀ (n : String) (ts : Tokens), aName.holds ((Token.lifetime n).bare :: ts) = false) ∧
      (∀ (d : Delimiter) (inner ts : Tokens), aName.holds (groupOf d inner :: ts) = false) :=
  ⟨rfl, fun _ _ => rfl, fun _ _ _ => rfl, fun _ _ => rfl, fun _ _ => rfl, fun _ _ _ => rfl⟩

@[simp]
theorem holds_aLifetime :
    aLifetime.holds [] = false ∧
      (∀ (w : Word) (ts : Tokens), aLifetime.holds ((Token.word w).bare :: ts) = false) ∧
      (∀ (c : Sign) (joint : Bool) (ts : Tokens),
        aLifetime.holds ((Token.punct c joint).bare :: ts) = false) ∧
      (∀ (l : Literal) (ts : Tokens), aLifetime.holds ((Token.literal l).bare :: ts) = false) ∧
      (∀ (n : String) (ts : Tokens), aLifetime.holds ((Token.lifetime n).bare :: ts) = true) ∧
      (∀ (d : Delimiter) (inner ts : Tokens), aLifetime.holds (groupOf d inner :: ts) = false) :=
  ⟨rfl, fun _ _ => rfl, fun _ _ _ => rfl, fun _ _ => rfl, fun _ _ => rfl, fun _ _ _ => rfl⟩

@[simp]
theorem holds_aGroup :
    (aGroup d').holds [] = false ∧
      (∀ (w : Word) (ts : Tokens), (aGroup d').holds ((Token.word w).bare :: ts) = false) ∧
      (∀ (c : Sign) (joint : Bool) (ts : Tokens),
        (aGroup d').holds ((Token.punct c joint).bare :: ts) = false) ∧
      (∀ (l : Literal) (ts : Tokens), (aGroup d').holds ((Token.literal l).bare :: ts) = false) ∧
      (∀ (n : String) (ts : Tokens), (aGroup d').holds ((Token.lifetime n).bare :: ts) = false) ∧
      (∀ (d : Delimiter) (inner ts : Tokens), (aGroup d').holds (groupOf d inner :: ts) = (d == d')) :=
  ⟨rfl, fun _ _ => rfl, fun _ _ _ => rfl, fun _ _ => rfl, fun _ _ => rfl, fun _ _ _ => rfl⟩

@[simp]
theorem holds_aLiteral :
    aLiteral.holds [] = false ∧
      (∀ (w : Word) (ts : Tokens),
        aLiteral.holds ((Token.word w).bare :: ts) = (w.is "true" || w.is "false")) ∧
      (∀ (c : Sign) (joint : Bool) (ts : Tokens),
        c.char ≠ '-' → aLiteral.holds ((Token.punct c joint).bare :: ts) = false) ∧
      (∀ (l : Literal) (ts : Tokens), aLiteral.holds ((Token.literal l).bare :: ts) = true) ∧
      (∀ (n : String) (ts : Tokens), aLiteral.holds ((Token.lifetime n).bare :: ts) = false) ∧
      (∀ (d : Delimiter) (inner ts : Tokens), aLiteral.holds (groupOf d inner :: ts) = false) :=
  ⟨rfl, fun _ _ => rfl, fun _ _ _ hc => startsLiteral_of_ne hc, fun _ _ => rfl, fun _ _ => rfl,
    fun _ _ _ => rfl⟩

@[simp]
theorem afterPunct?_bare :
    (∀ (c : Char) (d : Sign) (joint : Bool) (ts : Tokens),
      afterPunct? [c] ((Token.punct d joint).bare :: ts) = if c = d.char then some ts else none) ∧
    (∀ (c c' : Char) (cs : List Char) (d : Sign) (joint : Bool) (ts : Tokens),
      afterPunct? (c :: c' :: cs) ((Token.punct d joint).bare :: ts) =
        if c = d.char ∧ joint = true then afterPunct? (c' :: cs) ts else none) ∧
    (∀ (c : Char) (cs : List Char), afterPunct? (c :: cs) [] = none) ∧
    (∀ (c : Char) (cs : List Char) (w : Word) (ts : Tokens),
      afterPunct? (c :: cs) ((Token.word w).bare :: ts) = none) ∧
    (∀ (c : Char) (cs : List Char) (l : Literal) (ts : Tokens),
      afterPunct? (c :: cs) ((Token.literal l).bare :: ts) = none) ∧
    (∀ (c : Char) (cs : List Char) (n : String) (ts : Tokens),
      afterPunct? (c :: cs) ((Token.lifetime n).bare :: ts) = none) ∧
    ∀ (c : Char) (cs : List Char) (d : Delimiter) (inner ts : Tokens),
      afterPunct? (c :: cs) (groupOf d inner :: ts) = none := by
  refine ⟨fun _ _ _ _ => rfl, ?_, ?_, ?_, ?_, ?_, ?_⟩
  · rintro c c' cs d (_ | _) ts
    · simp [afterPunct?, Token.bare]
    · simp [afterPunct?, Token.bare]
  all_goals
    intro c cs
    intros
    cases cs <;> rfl

@[simp]
theorem holds_punctuation_bare :
    (∀ (c : Sign) (joint : Bool) (ts : Tokens),
      (Parser.punctuation text).holds ((Token.punct c joint).bare :: ts) =
        (afterPunct? text.toList ((Token.punct c joint).bare :: ts)).isSome) ∧
    (text ≠ "" → (Parser.punctuation text).holds [] = false) ∧
    (∀ (w : Word) (ts : Tokens), text ≠ "" →
      (Parser.punctuation text).holds ((Token.word w).bare :: ts) = false) ∧
    (∀ (l : Literal) (ts : Tokens), text ≠ "" →
      (Parser.punctuation text).holds ((Token.literal l).bare :: ts) = false) ∧
    (∀ (n : String) (ts : Tokens), text ≠ "" →
      (Parser.punctuation text).holds ((Token.lifetime n).bare :: ts) = false) ∧
    ∀ (d : Delimiter) (inner ts : Tokens), text ≠ "" →
      (Parser.punctuation text).holds (groupOf d inner :: ts) = false := by
  refine ⟨fun _ _ _ => rfl, ?_, ?_, ?_, ?_, ?_⟩
  all_goals
    intros
    rename_i htext
    obtain ⟨c, cs, hcs⟩ := List.exists_cons_of_ne_nil (mt String.toList_eq_nil_iff.1 htext)
    simp [Parser.punctuation, hcs]

end Heads

/-! ### What a parser reads -/

variable {α β : Type} {p : Parser α} {f : α → Parser β} {s : ParseState} {P : α → Prop}
  {Q : β → Prop} {vs : Tokens}

/-- These trees are left, places apart, and no group was left unread so far. -/
structure ParseState.At (s : ParseState) (ts : Tokens) : Prop where
  rest : bareAll s.rest = ts
  leftover : s.leftover = none

/-- **The parser reads** from the trees `ts` on, up to the trees `u`, and its answer is as it should
be. -/
def Reads (p : Parser α) (ts u : Tokens) (P : α → Prop) : Prop :=
  ∀ s : ParseState, s.At ts → ∃ a s', p.run s = .ok (a, s') ∧ s'.At u ∧ P a

/-- The parser reads from the trees `ts` on, up to the trees `u`. -/
abbrev Takes (p : Parser α) (ts u : Tokens) : Prop := Reads p ts u fun _ => True

namespace Reads

theorem mono {post₂ : α → Prop} (h : Reads p ts u P) (hpost : ∀ a, P a → post₂ a) :
    Reads p ts u post₂ := by
  intro s hs
  obtain ⟨a, s', hrun, hs', ha⟩ := h s hs
  exact ⟨a, s', hrun, hs', hpost a ha⟩

/-- The answer is of no interest. -/
theorem takes (h : Reads p ts u P) : Takes p ts u := h.mono fun _ _ => trivial

theorem pure {a : α} (h : P a) : Reads (Pure.pure a) ts ts P :=
  fun s hs => ⟨a, s, rfl, hs, h⟩

theorem bind (h : Reads p ts u P) (hf : ∀ a, P a → Reads (f a) u vs Q) :
    Reads (p >>= f) ts vs Q := by
  intro s hs
  obtain ⟨a, s₁, hrun, hs₁, ha⟩ := h s hs
  obtain ⟨b, s₂, hrun', hs₂, hb⟩ := hf a ha s₁ hs₁
  refine ⟨b, s₂, ?_, hs₂, hb⟩
  rw [StateT.run_bind, hrun]
  exact hrun'

/-- Reading on after a parser whose answer is known. -/
theorem step {a : α} (h : Reads p ts u (· = a)) (hf : Reads (f a) u vs Q) :
    Reads (p >>= f) ts vs Q :=
  h.bind fun _ ha => ha ▸ hf

/-- Reading on after a parser whose answer is of no interest. -/
theorem next {q : Parser β} (h : Reads p ts u P) (hq : Reads q u vs Q) :
    Reads (p >>= fun _ => q) ts vs Q :=
  h.bind fun _ _ => hq

theorem map {g : α → β} (h : Reads p ts u P) (hg : ∀ a, P a → Q (g a)) :
    Reads (g <$> p) ts u Q := by
  rw [map_eq_pure_bind]
  exact h.bind fun a ha => .pure (hg a ha)

theorem discard (h : Reads p ts u P) : Takes (Functor.discard p) ts u :=
  h.map fun _ _ => trivial

theorem done {a : α} : Takes (Pure.pure a) ts ts := pure trivial

/-- Reading on, whatever the answer is. -/
theorem bind_any (h : Takes p ts u) (hf : ∀ a, Reads (f a) u vs Q) :
    Reads (p >>= f) ts vs Q :=
  h.bind fun a _ => hf a

theorem map_any {g : α → β} (h : Takes p ts u) : Takes (g <$> p) ts u := h.map fun _ _ => trivial

/-- A parser that asks for its state. -/
theorem get {f : ParseState → Parser β} (h : ∀ s : ParseState, s.At ts → Reads (f s) ts u Q) :
    Reads (MonadState.get >>= f) ts u Q :=
  fun s hs => h s hs s hs

end Reads

/-! ### Looking ahead while reading -/

theorem reads_congr {q : Parser α} (h : ∀ s : ParseState, s.At ts → p.run s = q.run s) :
    Reads p ts u P ↔ Reads q ts u P :=
  forall₂_congr fun s hs => by rw [h s hs]

section Peeks

variable {q : Peek} {qs : List Peek} {f : Bool → Parser β}

/-- A test on what stands after the first tree. -/
def afterOne (holds : Tokens → Bool) : Tokens → Bool
  | [] => false
  | _ :: rest => holds rest

/-- A test on what stands after the first two trees. -/
def afterTwo (holds : Tokens → Bool) : Tokens → Bool
  | _ :: _ :: rest => holds rest
  | _ => false

theorem Parser.Peek.Blind.holds_of_at (h : q.Blind) (hs : s.At ts) : q.holds s.rest = q.holds ts := by
  rw [← h, hs.rest]

theorem reads_peek (h : q.Blind) :
    Reads (peek q >>= f) ts u Q ↔ Reads (f (q.holds ts)) ts u Q :=
  reads_congr fun s hs => by
    rw [← h.holds_of_at hs]
    rfl

theorem reads_peekSecond (h : q.Blind) :
    Reads (peekSecond q >>= f) ts u Q ↔ Reads (f (afterOne q.holds ts)) ts u Q :=
  reads_congr fun s hs => by
    have hsecond : afterOne q.holds ts = afterOne q.holds s.rest := by
      rw [← hs.rest]
      rcases s.rest with _ | ⟨tree, rest⟩
      · rfl
      · exact h rest
    rw [hsecond, peekSecond]
    rcases hrest : s.rest with _ | ⟨tree, rest⟩ <;> simp [afterOne, hrest]

theorem reads_peekThird (h : q.Blind) :
    Reads (peekThird q >>= f) ts u Q ↔ Reads (f (afterTwo q.holds ts)) ts u Q :=
  reads_congr fun s hs => by
    have hthird : afterTwo q.holds ts = afterTwo q.holds s.rest := by
      rw [← hs.rest]
      rcases s.rest with _ | ⟨tree, _ | ⟨tree', rest⟩⟩
      · rfl
      · rfl
      · exact h rest
    rw [hthird, peekThird]
    rcases hrest : s.rest with _ | ⟨tree, _ | ⟨tree', rest⟩⟩ <;> simp [afterTwo, hrest]

theorem any_holds_bareAll (h : ∀ q ∈ qs, q.Blind) (ts : Tokens) :
    qs.any (·.holds (bareAll ts)) = qs.any (·.holds ts) := by
  rw [Bool.eq_iff_iff, List.any_eq_true, List.any_eq_true]
  exact exists_congr fun q => and_congr_right fun hq => by rw [h q hq]

theorem reads_peekAny (h : ∀ q ∈ qs, q.Blind) :
    Reads (peekAny qs >>= f) ts u Q ↔ Reads (f (qs.any (·.holds ts))) ts u Q :=
  reads_congr fun s hs => by
    rw [← hs.rest, any_holds_bareAll h]
    rfl

theorem reads_peekPunct {text : String} :
    Reads (peekPunct text >>= f) ts u Q ↔
      Reads (f ((Parser.punctuation text).holds ts)) ts u Q :=
  reads_peek (blind_punctuation text)

theorem reads_peekWord {text : String} {known : isKnown text = true} :
    Reads (peekWord text known >>= f) ts u Q ↔
      Reads (f (headsWord text ts)) ts u Q :=
  reads_peek (blind_theWord text known)

theorem reads_peekPunctNot {text : String} {longer : List String} :
    Reads (peekPunctNot text longer >>= f) ts u Q ↔
      Reads (f ((Parser.punctuation text).holds ts &&
        !longer.any fun l => (Parser.punctuation l).holds ts)) ts u Q :=
  reads_congr fun s hs => by
    have hlonger : (longer.any fun l => (Parser.punctuation l).holds ts) =
        longer.any fun l => (Parser.punctuation l).holds s.rest :=
      List.any_congr rfl fun l => ((blind_punctuation l).holds_of_at hs).symm
    rw [hlonger, ← (blind_punctuation text).holds_of_at hs]
    rfl

theorem reads_atEnd : Reads (atEnd >>= f) ts u Q ↔ Reads (f ts.isEmpty) ts u Q :=
  reads_congr fun s hs => by
    have hempty : ts.isEmpty = s.rest.isEmpty := by
      rw [← hs.rest]
      rcases s.rest with _ | ⟨tree, rest⟩ <;> rfl
    rw [hempty]
    rfl

/-- **Looking ahead reads nothing**: what goes on depends on what the tests find. -/
theorem looks :
    (∀ {β : Type} {ts u : Tokens} {P : β → Prop} {q : Peek} {f : Bool → Parser β}, q.Blind →
      (Reads (peek q >>= f) ts u P ↔ Reads (f (q.holds ts)) ts u P)) ∧
    (∀ {β : Type} {ts u : Tokens} {P : β → Prop} {q : Peek} {f : Bool → Parser β}, q.Blind →
      (Reads (peekSecond q >>= f) ts u P ↔ Reads (f (afterOne q.holds ts)) ts u P)) ∧
    (∀ {β : Type} {ts u : Tokens} {P : β → Prop} {q : Peek} {f : Bool → Parser β}, q.Blind →
      (Reads (peekThird q >>= f) ts u P ↔ Reads (f (afterTwo q.holds ts)) ts u P)) ∧
    (∀ {β : Type} {ts u : Tokens} {P : β → Prop} {qs : List Peek} {f : Bool → Parser β},
      (∀ q ∈ qs, q.Blind) →
      (Reads (peekAny qs >>= f) ts u P ↔ Reads (f (qs.any (·.holds ts))) ts u P)) ∧
    (∀ {β : Type} {ts u : Tokens} {P : β → Prop} {text : String} {f : Bool → Parser β},
      Reads (peekPunct text >>= f) ts u P ↔
        Reads (f ((Parser.punctuation text).holds ts)) ts u P) ∧
    (∀ {β : Type} {ts u : Tokens} {P : β → Prop} {text : String} {longer : List String}
      {f : Bool → Parser β}, Reads (peekPunctNot text longer >>= f) ts u P ↔
        Reads (f ((Parser.punctuation text).holds ts &&
          !longer.any fun l => (Parser.punctuation l).holds ts)) ts u P) ∧
    (∀ {β : Type} {ts u : Tokens} {P : β → Prop} {f : Bool → Parser β},
      Reads (atEnd >>= f) ts u P ↔ Reads (f ts.isEmpty) ts u P) :=
  ⟨reads_peek, reads_peekSecond, reads_peekThird, reads_peekAny, reads_peekPunct,
    reads_peekPunctNot, reads_atEnd⟩

namespace Reads

theorem peek (h : q.Blind) : Reads (Parser.peek q) ts ts (· = q.holds ts) := by
  have hpeek := (reads_peek (f := Pure.pure) (u := ts) (Q := (· = q.holds ts)) h).2 (.pure rfl)
  rwa [bind_pure] at hpeek

theorem peekThird (h : q.Blind) : Reads (Parser.peekThird q) ts ts (· = afterTwo q.holds ts) := by
  have hpeek := (reads_peekThird (f := Pure.pure) (u := ts) (Q := (· = afterTwo q.holds ts)) h).2 (.pure rfl)
  rwa [bind_pure] at hpeek

theorem peekAny (h : ∀ q ∈ qs, q.Blind) :
    Reads (Parser.peekAny qs) ts ts (· = qs.any (·.holds ts)) := by
  have hpeek := (reads_peekAny (f := Pure.pure) (u := ts) (Q := (· = qs.any (·.holds ts))) h).2
    (.pure rfl)
  rwa [bind_pure] at hpeek

theorem peekPunct {text : String} :
    Reads (Parser.peekPunct text) ts ts (· = (Parser.punctuation text).holds ts) :=
  peek (blind_punctuation text)

theorem atEnd : Reads Parser.atEnd ts ts (· = ts.isEmpty) := by
  have hend := (reads_atEnd (f := Pure.pure) (u := ts) (Q := (· = ts.isEmpty))).2 (.pure rfl)
  rwa [bind_pure] at hend

end Reads

end Peeks

/-! ### Reading tokens -/

namespace Reads

variable {w : Word} {text : String} {known : isKnown text = true}

/-- A parser that takes the token that stands first. -/
theorem of_take {t : Token} (h : ∀ (s : ParseState) (t' : Token) (span : Span) (tail : Tokens),
    t'.blank = t → s.rest = .token t' span :: tail →
      ∃ a, p.run s = (take (.token t' span) tail *> Pure.pure a).run s ∧ P a) :
    Reads p (t.bare :: u) u P := by
  intro s hs
  obtain ⟨t', span, tail, hrest, ht', htail⟩ := bareAll_eq_token hs.rest
  obtain ⟨a, hrun, ha⟩ := h s t' span tail ht' hrest
  exact ⟨a, _, hrun, ⟨htail, hs.leftover⟩, ha⟩

theorem word : Reads (Parser.word text known) (wordToken text known :: u) u (· = ()) :=
  of_take fun s t' span tail ht' h => by
    obtain rfl := Token.blank_eq_word.1 ht'
    exact ⟨(), by simp [Parser.word, h, Word.is, Word.of], rfl⟩

theorem wordOfAnyKind : Reads Parser.wordOfAnyKind ((Token.word w).bare :: u) u (· = w) :=
  of_take fun s t' span tail ht' h => by
    obtain rfl := Token.blank_eq_word.1 ht'
    exact ⟨w, by simp [Parser.wordOfAnyKind, h], rfl⟩

theorem name (hw : w.isName = true) : Reads Parser.name ((Token.word w).bare :: u) u (· = w) :=
  of_take fun s t' span tail ht' h => by
    obtain rfl := Token.blank_eq_word.1 ht'
    exact ⟨w, by simp [Parser.name, h, hw], rfl⟩

theorem lifetime {n : String} : Reads Parser.lifetime ((Token.lifetime n).bare :: u) u (· = ()) :=
  of_take fun s t' span tail ht' h => by
    obtain rfl := Token.blank_eq_lifetime.1 ht'
    exact ⟨(), by simp [Parser.lifetime, h], rfl⟩

/-- What a string says is known only from the answer. -/
theorem literal {l : Literal} :
    Reads Parser.literal ((Token.literal l).bare :: u) u fun a => ∃ l', a = some l' ∧ l'.blank = l :=
  of_take fun s t' span tail ht' h => by
    obtain ⟨l', rfl, hl'⟩ := Token.blank_eq_literal.1 ht'
    exact ⟨some l', by simp [Parser.literal, h], l', rfl, hl'⟩

theorem lastOfPunct_of_afterPunct? {c : Char} {cs : List Char} (h : afterPunct? (c :: cs) ts = some u) :
    ∃ tree, lastOfPunct (c :: cs) ts = some tree := by
  induction cs generalizing c ts with
  | nil =>
    rcases ts with _ | ⟨tree, tail⟩
    · cases h
    · exact ⟨tree, rfl⟩
  | cons c' cs ih =>
    rw [afterPunct?.eq_def] at h
    split at h
    · rename_i heq
      cases heq
    · rename_i heq
      cases heq
    · rename_i heq
      cases heq
      split at h
      · exact ih h
      · cases h
    · cases h

theorem punct (htext : text ≠ "") (h : afterPunct? text.toList ts = some u) :
    Reads (Parser.punct text) ts u (· = ()) := by
  intro s hs
  rw [← hs.rest, afterPunct?_bareAll, Option.map_eq_some_iff] at h
  obtain ⟨tail, htail, hbare⟩ := h
  obtain ⟨c, cs, htext'⟩ := List.exists_cons_of_ne_nil (mt String.toList_eq_nil_iff.1 htext)
  have hlast := htail
  rw [htext'] at hlast
  obtain ⟨tree, htree⟩ := lastOfPunct_of_afterPunct? hlast
  rw [← htext'] at htree
  let s' : ParseState :=
    { s with rest := tail, last := tree.span.stop, written := (punctTokens text).reverse ++ s.written }
  refine ⟨(), s', ?_, ⟨hbare, hs.leftover⟩, rfl⟩
  simp [Parser.punct, htail, htree, moveTo, Parser.write, s']
  rfl

/-- Some punctuation that may stand here does not. -/
theorem punct?_of_not (h : (Parser.punctuation text).holds ts = false) :
    Reads (Parser.punct? text) ts ts (· = false) := by
  simp only [Parser.punct?, ↓looks, h, Bool.false_eq_true, ↓reduceIte]
  exact .pure rfl

/-- Some punctuation that may stand here does. -/
theorem punct?_of_after (htext : text ≠ "") (h : afterPunct? text.toList ts = some u) :
    Reads (Parser.punct? text) ts u (· = true) := by
  have hholds : (Parser.punctuation text).holds ts = true := by
    simp only [Parser.punctuation, h, Option.isSome_some]
  simp only [Parser.punct?, ↓looks, hholds, ↓reduceIte]
  exact (punct htext h).next (.pure rfl)

/-- A word that may stand here does not. -/
theorem word?_of_not (h : headsWord text ts = false) :
    Reads (Parser.word? text known) ts ts (· = false) := by
  refine reads_peekWord.2 ?_
  rw [h, if_neg Bool.false_ne_true]
  exact .pure rfl

/-- A word that may stand here does. -/
theorem word?_self : Reads (Parser.word? text known) (wordToken text known :: u) u (· = true) := by
  refine reads_peekWord.2 ?_
  rw [if_pos (by simp)]
  exact word.next (.pure rfl)

/-! ### Groups -/

theorem groupThen {d : Delimiter} {inner : Tokens} {next : α → Parser β}
    (hcontent : Reads p inner [] P) (hnext : ∀ a, P a → Reads (next a) u vs Q) :
    Reads (Parser.groupThen d p next) (groupOf d inner :: u) vs Q := by
  intro s hs
  obtain ⟨opening, closing, content, tail, hrest, hinner, htail⟩ := bareAll_eq_group hs.rest
  obtain ⟨a, s₁, hrun, hs₁, ha⟩ := hcontent
    { s with rest := content, scope := closing, last := opening.stop, written := [] }
    ⟨hinner, hs.leftover⟩
  obtain ⟨b, s₂, hrun', hs₂, hb⟩ := hnext a ha
    { s with
      rest := tail
      last := closing.stop
      leftover := s₁.leftover
      written := .group d opening closing s₁.written.reverse :: s.written }
    ⟨htail, hs₁.leftover⟩
  -- the content is read to its end, so that nothing is noted as left over
  have hnone : noteLeftover d s₁ s₂.leftover = none := by
    simp [noteLeftover, hs₂.leftover, bareAll_eq_nil hs₁.rest]
  refine ⟨b, { s₂ with leftover := noteLeftover d s₁ s₂.leftover }, ?_, ⟨hs₂.rest, hnone⟩, hb⟩
  simp only [Parser.groupThen, bind_pure_comp, StateT.run_bind, StateT.run_get, pure_bind, hrest,
    ↓reduceIte, hrun, StateT.run_set, StateT.run_map, StateT.run_modify, map_pure, hrun']
  rfl

theorem group {d : Delimiter} {inner : Tokens} (hcontent : Reads p inner [] P) :
    Reads (Parser.group d p) (groupOf d inner :: u) u P :=
  groupThen hcontent fun _ ha => .pure ha

/-! ### Asking for what was read -/

theorem silently (h : Reads p ts u P) : Reads (Parser.silently p) ts u fun a => P a.1 := by
  intro s hs
  obtain ⟨a, s', hrun, hs', ha⟩ := h { s with written := [] } ⟨hs.rest, hs.leftover⟩
  refine ⟨(a, s'.written.reverse), { s' with written := s.written }, ?_, ⟨hs'.rest, hs'.leftover⟩, ha⟩
  simp only [Parser.silently, bind_pure_comp, StateT.run_bind, StateT.run_get, StateT.run_modify,
    StateT.run_map, map_pure, pure_bind, hrun]
  rfl

theorem write {tokens : Tokens} : Reads (Parser.write tokens) ts ts (· = ()) :=
  fun _ hs => ⟨(), _, rfl, ⟨hs.rest, hs.leftover⟩, rfl⟩

theorem captured (h : Reads p ts u P) : Reads (Parser.captured p) ts u fun a => P a.1 :=
  h.silently.bind fun _ ha => write.next (.pure ha)

theorem tokensOf (h : Reads p ts u P) : Takes (Parser.tokensOf p) ts u :=
  h.captured.bind fun _ _ => .pure trivial

theorem spanned (h : Reads p ts u P) : Reads (Parser.spanned p) ts u fun a => P a.1 :=
  get fun _ _ => h.bind fun _ ha => get fun _ _ => .pure ha

theorem verbatimIf {asks : α → Bool} (h : Reads p ts u P) :
    Reads (Parser.verbatimIf asks p) ts u P := by
  refine get fun s _ => h.bind fun a ha => ?_
  cases asks a with
  | false => exact .pure ha
  | true => exact get fun s' hs' => next (fun t ht => ⟨(), _, rfl, ⟨ht.rest, ht.leftover⟩, rfl⟩) (.pure ha)

end Reads

/-! ### Trying -/

/-- The parser fails where these trees are left. -/
def Fails (p : Parser α) (ts : Tokens) : Prop :=
  ∀ s : ParseState, s.At ts → ∃ e, p.run s = .error e

namespace Fails

theorem bind (h : Fails p ts) : Fails (p >>= f) ts := by
  intro s hs
  obtain ⟨e, hrun⟩ := h s hs
  exact ⟨e, by rw [StateT.run_bind, hrun]; rfl⟩

theorem after (h : Reads p ts u P) (hf : ∀ a, P a → Fails (f a) u) : Fails (p >>= f) ts := by
  intro s hs
  obtain ⟨a, s₁, hrun, hs₁, ha⟩ := h s hs
  obtain ⟨e, hrun'⟩ := hf a ha s₁ hs₁
  exact ⟨e, by rw [StateT.run_bind, hrun]; exact hrun'⟩

/-- A parser that asks for its state. -/
theorem get {f : ParseState → Parser β} (h : ∀ s : ParseState, s.At ts → Fails (f s) ts) :
    Fails (MonadState.get >>= f) ts :=
  fun s hs => h s hs s hs

theorem fail {fault : SyntaxFault} : Fails (Parser.fail fault : Parser α) ts := fun _ _ => ⟨_, rfl⟩

/-- Another parser fails in the same way. -/
theorem congr {q : Parser α} (h : Fails q ts) (heq : ∀ s : ParseState, s.At ts → p.run s = q.run s) :
    Fails p ts := by
  intro s hs
  rw [heq s hs]
  exact h s hs

theorem word {text : String} {known : isKnown text = true} (h : headsWord text ts = false) :
    Fails (Parser.word text known) ts := by
  refine fail.congr (q := Parser.expected s!"`{text}`") fun s hs => ?_
  rw [← hs.rest, headsWord_bareAll] at h
  rcases hrest : s.rest with _ | ⟨⟨⟨w⟩ | _ | _ | _, span⟩ | _, tail⟩
  case cons.token.word =>
    rw [hrest] at h
    have hw : w.is text = false := h
    simp [Parser.word, hrest, hw]
  all_goals simp [Parser.word, hrest]

theorem name (h : aName.holds ts = false) : Fails Parser.name ts := by
  intro s hs
  rw [← blind_aName.holds_of_at hs] at h
  rcases hrest : s.rest with _ | ⟨⟨⟨w⟩ | _ | _ | _, span⟩ | _, tail⟩
  case cons.token.word =>
    rw [hrest] at h
    have hw : w.isName = false := h
    exact ⟨_, by simp [Parser.name, hrest, hw]; rfl⟩
  all_goals exact ⟨_, by simp [Parser.name, hrest]; rfl⟩

end Fails

namespace Reads

theorem ahead (p : Parser α) : Takes (Parser.ahead p) ts ts := by
  intro s hs
  cases hrun : p.run s with
  | error e => exact ⟨none, s, by simp [Parser.ahead, hrun]; rfl, hs, trivial⟩
  | ok answer => exact ⟨some answer.1, s, by simp [Parser.ahead, hrun]; rfl, hs, trivial⟩

theorem ahead_of_reads (h : Reads p ts u P) :
    Reads (Parser.ahead p) ts ts fun a => ∃ b, a = some b ∧ P b := by
  intro s hs
  obtain ⟨a, s', hrun, -, ha⟩ := h s hs
  exact ⟨some a, s, by simp [Parser.ahead, hrun]; rfl, hs, a, rfl, ha⟩

theorem ahead_of_fails (h : Fails p ts) : Reads (Parser.ahead p) ts ts (· = none) := by
  intro s hs
  obtain ⟨e, hrun⟩ := h s hs
  exact ⟨none, s, by simp [Parser.ahead, hrun]; rfl, hs, rfl⟩

theorem attempt_of_reads (h : Reads p ts u P) :
    Reads (Parser.attempt p) ts u fun a => ∃ b, a = some b ∧ P b := by
  intro s hs
  obtain ⟨a, s', hrun, hs', ha⟩ := h s hs
  refine ⟨some a, s', ?_, hs', a, rfl, ha⟩
  simp [Parser.attempt, hrun]
  rfl

theorem attempt_of_fails (h : Fails p ts) : Reads (Parser.attempt p) ts ts (· = none) := by
  intro s hs
  obtain ⟨e, hrun⟩ := h s hs
  exact ⟨none, s, by simp [Parser.attempt, hrun]; rfl, hs, rfl⟩

end Reads

/-! ### Repetition -/

/-- As long as the step answers, it reads from the first trees up to the last ones. -/
def Loops (step : Parser (Option α)) (ts u : Tokens) (P : List α → Prop) : Prop :=
  ∀ fuel, ts.length < fuel → Reads (repeatUntilNone step fuel) ts u P

namespace Loops

variable {step : Parser (Option α)} {R : List α → Prop}

/-- The step may read something and not answer. -/
theorem nil (h : Reads step ts u (· = none)) : Loops step ts u (· = []) := by
  intro fuel hfuel
  obtain ⟨fuel, rfl⟩ := Nat.exists_eq_add_one.2 (Nat.zero_lt_of_lt hfuel)
  exact h.step (.pure rfl)

theorem cons (h : Reads step ts u fun o => ∃ a, o = some a ∧ P a) (hlt : u.length < ts.length)
    (hmore : Loops step u vs R) :
    Loops step ts vs fun as => ∃ a more, as = a :: more ∧ P a ∧ R more := by
  intro fuel hfuel
  obtain ⟨fuel, rfl⟩ := Nat.exists_eq_add_one.2 (Nat.zero_lt_of_lt hfuel)
  refine h.bind ?_
  rintro _ ⟨a, rfl, ha⟩
  -- the step has read something, so the fuel that is left is enough for the trees that are left
  exact (hmore fuel (by omega)).bind fun more hmore => .pure ⟨a, more, rfl, ha, hmore⟩

theorem mono {S : List α → Prop} (h : Loops step ts u R) (himp : ∀ as, R as → S as) :
    Loops step ts u S :=
  fun fuel hfuel => (h fuel hfuel).mono himp

theorem any (h : Loops step ts u R) : Loops step ts u fun _ => True := h.mono fun _ _ => trivial

theorem reads (h : Loops step ts u R) : Reads (loop step) ts u R :=
  Reads.get fun s hs => h _ (by rw [← hs.rest, length_bareAll]; exact Nat.lt_succ_self _)

end Loops

/-- Items with separators between them read from the first trees up to the last ones. -/
def Separates (stop : Parser Bool) (separator : String) (item : Parser α) (ts u : Tokens) : Prop :=
  ∀ fuel, ts.length < fuel → Takes (separatedFrom stop separator item fuel) ts u

namespace Separates

variable {stop : Parser Bool} {separator : String} {item : Parser α}

theorem nil (h : Reads stop ts ts (· = true)) : Separates stop separator item ts ts := by
  intro fuel hfuel
  obtain ⟨fuel, rfl⟩ := Nat.exists_eq_add_one.2 (Nat.zero_lt_of_lt hfuel)
  exact h.step (.pure trivial)

theorem last (h : Reads stop ts ts (· = false)) (hitem : Reads item ts u P)
    (hend : Reads stop u u (· = true)) : Separates stop separator item ts u := by
  intro fuel hfuel
  obtain ⟨fuel, rfl⟩ := Nat.exists_eq_add_one.2 (Nat.zero_lt_of_lt hfuel)
  exact h.step (hitem.bind fun a _ => hend.step (.pure trivial))

theorem cons {ws : Tokens} (h : Reads stop ts ts (· = false)) (hitem : Reads item ts u P)
    (hmore : Reads stop u u (· = false)) (hseparator : Reads (punct separator) u vs (· = ()))
    (hlt : vs.length < ts.length) (hrest : Separates stop separator item vs ws) :
    Separates stop separator item ts ws := by
  intro fuel hfuel
  obtain ⟨fuel, rfl⟩ := Nat.exists_eq_add_one.2 (Nat.zero_lt_of_lt hfuel)
  refine h.step (hitem.bind fun a _ => hmore.step (hseparator.step ?_))
  exact (hrest fuel (by omega)).bind fun _ _ => .pure trivial

theorem takes (h : Separates stop separator item ts u) :
    Takes (separated stop separator item) ts u :=
  Reads.get fun s hs => h _ (by rw [← hs.rest, length_bareAll]; exact Nat.lt_succ_self _)

theorem commaSeparated (h : Separates atEnd "," item ts u) : Takes (commaSeparated item) ts u :=
  h.takes.bind_any fun _ => .done

end Separates

end RecordStore.Source
