import Mathlib.Tactic.SplitIfs
import RecordStore.Json.Convert
import RecordStore.Proofs.SortedMap
import RecordStore.Proofs.Text.Utf8

/-!
# What the readers make of JSON text

Statements about readers never mention places: a reader
`RecordStore.Json.Reader.Reads` an input down to a rest if it succeeds there from
every place, with the same value. Such statements compose along the binds of a
reader (`RecordStore.Json.Reader.Reads.bind`), so each reader needs one statement
for each form of its input, and a whole text is put together from them.

The forms of this file are those that every layout of a text is made of: a value
after any white space, a string in the form the writer gives it, a member of an
object with its comma, its colon and any white space around them
(`RecordStore.Json.Reader.reads_members_cons`), and the end of an object. Neither
the compact nor the indented layout is mentioned.
-/

namespace RecordStore

namespace Json

open Text (Glyph)

namespace Reader

variable {α β : Type}

/-! ### Reading down to a rest -/

/-- **A reader takes an input down to a rest** and gives a value, wherever the input
starts. -/
def Reads (r : Reader α) (input rest : List Glyph) (a : α) : Prop :=
  ∀ place, ∃ place', r ⟨input, place⟩ = .ok (a, ⟨rest, place'⟩)

variable {input mid rest : List Glyph}

theorem Reads.bind {r : Reader α} {f : α → Reader β} {a : α} {b : β} (h : r.Reads input mid a)
    (h' : (f a).Reads mid rest b) : (r >>= f).Reads input rest b := by
  intro place
  obtain ⟨p, hp⟩ := h place
  obtain ⟨p', hp'⟩ := h' p
  refine ⟨p', ?_⟩
  change (r ⟨input, place⟩ >>= fun x => f x.1 x.2) = _
  rw [hp]
  exact hp'

theorem reads_pure (a : α) (input : List Glyph) : (pure a : Reader α).Reads input input a :=
  fun place => ⟨place, rfl⟩

theorem reads_peek (input : List Glyph) : peek.Reads input input input.head? :=
  fun place => ⟨place, rfl⟩

theorem reads_left (input : List Glyph) : left.Reads input input input.length :=
  fun place => ⟨place, rfl⟩

theorem reads_skip (g : Glyph) (rest : List Glyph) : skip.Reads (g :: rest) rest () :=
  fun _ => ⟨_, rfl⟩

theorem reads_takeWhile {p : Glyph → Bool} {taken : List Glyph} (h : ∀ g ∈ taken, p g = true)
    (h' : ∀ g ∈ rest.head?, p g = false) : (takeWhile p).Reads (taken ++ rest) rest taken := by
  intro place
  -- the rest does not go on as what was taken
  have hrest : rest.takeWhile p = [] ∧ rest.dropWhile p = rest := by
    cases rest with
    | nil => exact ⟨rfl, rfl⟩
    | cons g rest => exact ⟨by simp [h' g rfl], by simp [h' g rfl]⟩
  refine ⟨taken.foldl placeAfter place, ?_⟩
  simp only [takeWhile]
  rw [List.takeWhile_append_of_pos h, List.dropWhile_append_of_pos h, hrest.1, hrest.2,
    List.append_nil]

/-! ### Failing -/

/-- **A reader fails on an input** for a cause, wherever the input starts. -/
def Fails (r : Reader α) (input : List Glyph) (cause : Cause) : Prop :=
  ∀ place, ∃ fault, r ⟨input, place⟩ = .error fault ∧ fault.cause = cause

variable {cause : Cause}

theorem fails_failNext (cause : Cause) (input : List Glyph) :
    (failNext cause : Reader α).Fails input cause :=
  fun _ => ⟨_, rfl, rfl⟩

theorem Fails.bind {r : Reader α} (h : r.Fails input cause) (f : α → Reader β) :
    (r >>= f).Fails input cause := by
  intro place
  obtain ⟨fault, hfault, hcause⟩ := h place
  refine ⟨fault, ?_, hcause⟩
  change (r ⟨input, place⟩ >>= fun x => f x.1 x.2) = _
  rw [hfault]
  rfl

/-- A reader that is done before the fault does not matter. -/
theorem Reads.bind_fails {r : Reader α} {f : α → Reader β} {a : α} (h : r.Reads input mid a)
    (h' : (f a).Fails mid cause) : (r >>= f).Fails input cause := by
  intro place
  obtain ⟨p, hp⟩ := h place
  obtain ⟨fault, hfault, hcause⟩ := h' p
  refine ⟨fault, ?_, hcause⟩
  change (r ⟨input, place⟩ >>= fun x => f x.1 x.2) = _
  rw [hp]
  exact hfault

/-! ### White space -/

/-- White space, in front of which any reader of a value may stand. -/
def Blank (ws : List Glyph) : Prop := ∀ g ∈ ws, isSpace g = true

theorem blank_nil : Blank [] := by simp [Blank]

theorem reads_peekToken {ws : List Glyph} (hws : Blank ws) {g : Glyph} (hg : isSpace g = false)
    (rest : List Glyph) : peekToken.Reads (ws ++ g :: rest) (g :: rest) (some g) :=
  (reads_takeWhile hws (by simpa using hg)).bind (reads_peek _)

theorem reads_peekToken_end {ws : List Glyph} (hws : Blank ws) : peekToken.Reads ws [] none := by
  have h : (takeWhile isSpace).Reads (ws ++ []) [] ws := reads_takeWhile hws (by simp)
  rw [List.append_nil] at h
  exact h.bind (reads_peek _)

theorem reads_peekValue {ws : List Glyph} (hws : Blank ws) {g : Glyph} (hg : isSpace g = false)
    (rest : List Glyph) : peekValue.Reads (ws ++ g :: rest) (g :: rest) g :=
  (reads_peekToken hws hg rest).bind (reads_pure _ _)

theorem reads_word (cs : List Char) (rest : List Glyph) :
    (word cs).Reads (cs.map .char ++ rest) rest () := by
  induction cs with
  | nil => exact reads_pure _ _
  | cons c cs ih =>
    refine (reads_peek _).bind ?_
    simp only [List.map_cons, List.cons_append, List.head?_cons, if_true]
    exact (reads_skip _ _).bind ih

theorem reads_endOfText {ws : List Glyph} (hws : Blank ws) : endOfText.Reads ws [] () :=
  (reads_peekToken_end hws).bind (reads_pure () [])

/-- A whole text is read if its value is read and nothing but white space is left. -/
theorem parse_eq_ok [Readable α] {bytes : Bytes} {ws : List Glyph} {a : α} (hws : Blank ws)
    (h : (Readable.decode maxDepth : Reader α).Reads (Text.glyphs bytes) ws a) :
    parse α bytes = .ok a := by
  have hread : Reads (do
      let a ← Readable.decode maxDepth
      endOfText
      return a : Reader α) (Text.glyphs bytes) [] a :=
    h.bind ((reads_endOfText hws).bind (reads_pure a []))
  obtain ⟨place, hp⟩ := hread ⟨1, 0⟩
  exact congrArg (Except.map Prod.fst) hp

/-- A whole text whose value cannot be read has the fault of the value. -/
theorem parse_eq_error [Readable α] {bytes : Bytes}
    (h : (Readable.decode maxDepth : Reader α).Fails (Text.glyphs bytes) cause) :
    ∃ fault, parse α bytes = .error fault ∧ fault.cause = cause := by
  have hfails : Fails (do
      let a ← Readable.decode maxDepth
      endOfText
      return a : Reader α) (Text.glyphs bytes) cause := h.bind _
  obtain ⟨fault, hfault, hcause⟩ := hfails ⟨1, 0⟩
  exact ⟨fault, congrArg (Except.map Prod.fst) hfault, hcause⟩

/-! ### Truth values -/

theorem reads_decodeBool {ws : List Glyph} (hws : Blank ws) (b : Bool) (rest : List Glyph) :
    decodeBool.Reads (ws ++ ((render (.bool b)).map .char ++ rest)) rest b := by
  cases b with
  | true =>
    refine (reads_peekValue hws (g := .char 't') rfl _).bind ?_
    exact (reads_skip _ _).bind ((reads_word "rue".toList rest).bind (reads_pure _ _))
  | false =>
    refine (reads_peekValue hws (g := .char 'f') rfl _).bind ?_
    exact (reads_skip _ _).bind ((reads_word "alse".toList rest).bind (reads_pure _ _))

/-! ### Strings -/

theorem hexValue?_hexDigit : ∀ n, n < 16 → hexValue? (.char (hexDigit n)) = some n := by
  decide

theorem reads_hexEscape {a b d e : Char} {a' b' d' e' : Nat} (ha : hexValue? (.char a) = some a')
    (hb : hexValue? (.char b) = some b') (hd : hexValue? (.char d) = some d')
    (he : hexValue? (.char e) = some e') (rest : List Glyph) :
    hexEscape.Reads (.char a :: .char b :: .char d :: .char e :: rest) rest
      (((a' * 16 + b') * 16 + d') * 16 + e') := by
  intro place
  refine ⟨⟨place.line, place.column + 4⟩, ?_⟩
  simp only [hexEscape, ha, hb, hd, he]

/-- The escape of a control character is read back. -/
theorem reads_escapedCodePoint {c : Char} (hc : c.toNat < 0x20) (rest : List Glyph) :
    escapedCodePoint.Reads
      (.char '0' :: .char '0' :: .char (hexDigit (c.toNat / 16)) ::
        .char (hexDigit (c.toNat % 16)) :: rest) rest c := by
  have h0 : hexValue? (.char '0') = some 0 := rfl
  refine (reads_hexEscape h0 h0 (hexValue?_hexDigit _ (by omega))
    (hexValue?_hexDigit _ (by omega)) rest).bind ?_
  have hn : ((0 * 16 + 0) * 16 + c.toNat / 16) * 16 + c.toNat % 16 = c.toNat := by omega
  rw [hn, if_neg (by omega), if_pos (by omega), Char.ofNat_toNat]
  exact reads_pure _ _

/-- One round of reading a string, on the form of one character. -/
theorem reads_stringRest_escapeChar (c : Char) {fuel : Nat} {cs : List Char}
    (h : (stringRest none fuel).Reads input rest cs) :
    (stringRest none (fuel + 1)).Reads ((escapeChar c).map .char ++ input) rest (c :: cs) := by
  have hsimple : ∀ e : Char, simpleEscape? (.char e) = some c →
      (stringRest none (fuel + 1)).Reads (.char '\\' :: .char e :: input) rest (c :: cs) := by
    intro e he
    refine (reads_peek _).bind ((reads_skip _ _).bind ((reads_peek _).bind ?_))
    simp only [List.head?_cons, he]
    exact (reads_skip _ _).bind (h.bind (reads_pure _ _))
  unfold escapeChar
  -- the seven escapes of one letter, the escape by number, and no escape at all
  split_ifs with h1 h2 h3 h4 h5 h6 h7 h8
  · exact hsimple '"' (by rw [h1]; rfl)
  · exact hsimple '\\' (by rw [h2]; rfl)
  · exact hsimple 'b' (by rw [h3]; rfl)
  · exact hsimple 'f' (by rw [h4]; rfl)
  · exact hsimple 'n' (by rw [h5]; rfl)
  · exact hsimple 'r' (by rw [h6]; rfl)
  · exact hsimple 't' (by rw [h7]; rfl)
  · refine (reads_peek _).bind ((reads_skip _ _).bind ((reads_peek _).bind ?_))
    simp only [List.map_cons, simpleEscape?]
    exact (reads_skip _ _).bind ((reads_escapedCodePoint h8 _).bind (h.bind (reads_pure _ _)))
  · -- a character that stands for itself
    refine (reads_peek _).bind ?_
    simp only [List.map_cons, List.map_nil, List.cons_append, List.nil_append, List.head?_cons]
    have hctl : isControl (.char c) = false := by simpa [isControl] using h8
    split
    · contradiction
    · rename_i heq
      exact absurd (Glyph.char.inj (Option.some.inj heq)) h1
    · rename_i heq
      exact absurd (Glyph.char.inj (Option.some.inj heq)) h2
    · rename_i heq
      cases heq
      rw [hctl]
      exact (reads_skip _ _).bind (h.bind (reads_pure _ _))

theorem reads_stringRest (cs : List Char) (rest : List Glyph) {fuel : Nat}
    (hfuel : cs.length < fuel) :
    (stringRest none fuel).Reads
      ((cs.flatMap escapeChar).map .char ++ .char '"' :: rest) rest cs := by
  induction cs generalizing fuel with
  | nil =>
    obtain ⟨n, rfl⟩ : ∃ n, fuel = n + 1 := ⟨fuel - 1, by simp at hfuel; omega⟩
    exact (reads_peek _).bind ((reads_skip _ _).bind (reads_pure _ _))
  | cons c cs ih =>
    rw [List.length_cons] at hfuel
    obtain ⟨n, rfl⟩ : ∃ n, fuel = n + 1 := ⟨fuel - 1, by omega⟩
    rw [List.flatMap_cons, List.map_append, List.append_assoc]
    exact reads_stringRest_escapeChar c (ih (by omega))

theorem length_le_length_flatMap_escapeChar (cs : List Char) :
    cs.length ≤ (cs.flatMap escapeChar).length := by
  have hpos : ∀ c, 1 ≤ (escapeChar c).length := by
    intro c
    unfold escapeChar
    split_ifs <;> simp
  induction cs with
  | nil => simp
  | cons c cs ih =>
    have := hpos c
    rw [List.flatMap_cons, List.length_append, List.length_cons]
    omega

/-- The glyphs of a string as it is written, its opening quote left out. -/
def stringTail (s : String) (rest : List Glyph) : List Glyph :=
  (s.toList.flatMap escapeChar).map .char ++ .char '"' :: rest

theorem map_renderString (s : String) (rest : List Glyph) :
    (renderString s).map .char ++ rest = .char '"' :: stringTail s rest := by
  simp [renderString, stringTail]

/-- **A string is read back from the form it is written in.** -/
theorem reads_readString (s : String) (rest : List Glyph) :
    readString.Reads (stringTail s rest) rest s := by
  -- a string has at most as many characters as glyphs, so the loop is long enough
  have hchars : (stringRest none ((stringTail s rest).length + 1)).Reads (stringTail s rest) rest
      s.toList := by
    refine reads_stringRest _ _ ?_
    have := length_le_length_flatMap_escapeChar s.toList
    simp only [stringTail, List.length_append, List.length_map, List.length_cons]
    omega
  refine (reads_left _).bind (hchars.bind ?_)
  rw [String.ofList_toList]
  exact reads_pure _ _

theorem reads_decodeString {ws : List Glyph} (hws : Blank ws) (s : String) (rest : List Glyph) :
    decodeString.Reads (ws ++ .char '"' :: stringTail s rest) rest s := by
  refine (reads_peekValue hws rfl _).bind ?_
  rw [if_pos rfl]
  exact (reads_skip _ _).bind (reads_readString s rest)

/-! ### Objects -/

/-- No member follows at the end of an object. -/
theorem reads_hasMember_end (isFirst : Bool) {ws : List Glyph} (hws : Blank ws)
    (rest : List Glyph) :
    (hasMember isFirst).Reads (ws ++ .char '\x7d' :: rest) (.char '\x7d' :: rest) false := by
  refine (reads_peekToken hws rfl _).bind ?_
  exact reads_pure _ _

theorem reads_members_nil (value : Reader α) (isFirst : Bool) (fuel : Nat) {ws : List Glyph}
    (hws : Blank ws) (rest : List Glyph) :
    (members value isFirst (fuel + 1)).Reads (ws ++ .char '\x7d' :: rest) (.char '\x7d' :: rest)
      [] := by
  refine (reads_hasMember_end isFirst hws rest).bind ?_
  exact reads_pure _ _

/-- The comma in front of every member but the first. -/
def commaUnless (isFirst : Bool) : List Glyph := if isFirst then [] else [.char ',']

theorem reads_hasMember (isFirst : Bool) {ws : List Glyph} (hws : Blank ws) (rest : List Glyph) :
    (hasMember isFirst).Reads (commaUnless isFirst ++ ws ++ .char '"' :: rest) (.char '"' :: rest)
      true := by
  cases isFirst with
  | true =>
    refine (reads_peekToken hws rfl _).bind ?_
    exact reads_pure _ _
  | false =>
    refine (reads_peekToken blank_nil rfl _).bind ?_
    refine (reads_skip _ _).bind ((reads_peekToken hws rfl _).bind ?_)
    exact reads_pure _ _

theorem reads_memberName (name : String) (rest : List Glyph) :
    memberName.Reads (.char '"' :: stringTail name rest) rest name :=
  (reads_skip _ _).bind (reads_readString name rest)

theorem reads_colon (rest : List Glyph) : colon.Reads (.char ':' :: rest) rest () := by
  refine (reads_peekToken blank_nil rfl _).bind ?_
  exact reads_skip _ _

theorem reads_endObject (rest : List Glyph) : endObject.Reads (.char '\x7d' :: rest) rest () := by
  refine (reads_peekToken blank_nil rfl _).bind ?_
  exact reads_skip _ _

/-- **One member of an object**, then the others: white space may stand before the name, and
whatever the reader of the value allows may stand before the value. -/
theorem reads_members_cons {value : Reader α} (isFirst : Bool) {fuel : Nat} {ws : List Glyph}
    (hws : Blank ws) (name : String) {a : α} {ms : List (String × α)} {text tail : List Glyph}
    (hvalue : value.Reads text tail a) (h : (members value false fuel).Reads tail rest ms) :
    (members value isFirst (fuel + 1)).Reads
      (commaUnless isFirst ++ ws ++ .char '"' :: stringTail name (.char ':' :: text)) rest
      ((name, a) :: ms) := by
  refine (reads_hasMember isFirst hws _).bind ((reads_memberName name _).bind ?_)
  exact (reads_colon text).bind (hvalue.bind (h.bind (reads_pure _ _)))

/-- An object after its brace: its members, which must not outnumber the glyphs, then its end. -/
theorem reads_objectRest {value : Reader α} {ms : List (String × α)}
    (h : (members value true (input.length + 1)).Reads input (.char '\x7d' :: rest) ms) :
    (objectRest value).Reads input rest ms :=
  (reads_left _).bind (h.bind ((reads_endObject rest).bind (reads_pure _ _)))

/-- An object is read as the map of its members. -/
theorem reads_decodeMap {value : Nat → Reader α} {levels : Nat} {ms : List (String × α)}
    {ws : List Glyph} (hws : Blank ws) (h : (objectRest (value levels)).Reads input rest ms) :
    (decodeMap (levels + 1) value).Reads (ws ++ .char '\x7b' :: input) rest
      (SortedMap.ofList ms) := by
  refine (reads_peekValue hws rfl _).bind ?_
  exact (reads_skip _ _).bind (h.bind (reads_pure _ _))

/-- What does not start as `null` does is read as a value. -/
theorem reads_decodeOption_some {value : Reader α} {ws : List Glyph} (hws : Blank ws) {g : Glyph}
    (hg : isSpace g = false) (hn : g ≠ .char 'n') {a : α}
    (h : value.Reads (g :: input) rest a) :
    (decodeOption value).Reads (ws ++ g :: input) rest (some a) := by
  refine (reads_peekToken hws hg _).bind ?_
  rw [if_neg (by simpa using hn)]
  exact h.bind (reads_pure _ _)

/-- `null` is read as no value. -/
theorem reads_decodeOption_null (value : Reader α) {ws : List Glyph} (hws : Blank ws)
    (rest : List Glyph) :
    (decodeOption value).Reads (ws ++ ("null".toList.map .char ++ rest)) rest none := by
  refine (reads_peekToken hws (g := .char 'n') rfl _).bind ?_
  rw [if_pos rfl]
  exact (reads_skip _ _).bind ((reads_word "ull".toList rest).bind (reads_pure _ _))

end Reader

end Json

end RecordStore
