import Mathlib.Data.List.Basic
import RecordStore.Proofs.Json.Number

/-!
# Arrays and objects read back

In the compact layout the pieces of an array or an object have commas between them and nothing
else. A piece is read down to the comma or the bracket behind it, so what a piece needs is a reader
that takes it back whatever ends it (`RecordStore.Json.Reader.ReadsBack`). Then the whole is taken
back (`RecordStore.Json.Reader.reads_arrayRest`, `RecordStore.Json.Reader.reads_objectRest_pieces`);
and if a piece is one that the reader fails on (`RecordStore.Json.Reader.FailsOn`), while it takes
all the others back, then it fails on the whole.
-/

namespace RecordStore

namespace Json

open Text (Glyph)

namespace Reader

variable {α : Type} {rest : List Glyph} {cause : Cause} {text : α → List Char}

/-! ### Pieces -/

/-- What may start a value in an array: neither white space nor the end of the array. -/
def StartsValue (text : List Char) : Prop :=
  ∃ c cs, text = c :: cs ∧ isSpace (.char c) = false ∧ c ≠ ']'

theorem startsValue_renderInt (n : Int) : StartsValue (renderInt n) := by
  obtain ⟨c, cs, hcs, hstarts⟩ := exists_cons_renderInt n
  have hend : startsNumber (.char ']') = false := rfl
  exact ⟨c, cs, hcs, isSpace_of_startsNumber hstarts,
    fun heq => ne_of_startsNumber hstarts hend (congrArg _ heq)⟩

/-- **A text that a reader takes a value back from**, whatever ends the value. -/
structure ReadsBack (r : Reader α) (text : List Char) (a : α) : Prop where
  starts : StartsValue text
  reads : ∀ {rest}, EndsNumber rest → r.Reads (text.map .char ++ rest) rest a

/-- A text that a reader fails on, whatever follows. -/
structure FailsOn (r : Reader α) (text : List Char) (cause : Cause) : Prop where
  starts : StartsValue text
  fails : ∀ rest, r.Fails (text.map .char ++ rest) cause

/-- The glyphs of pieces with commas between them, the first with one in front if it is not the
first of all. -/
def separated (isFirst : Bool) : List (List Char) → List Glyph
  | [] => []
  | piece :: pieces => commaUnless isFirst ++ piece.map .char ++ separated false pieces

theorem map_joinCommas (pieces : List (List Char)) :
    (joinCommas pieces).map .char = separated true pieces := by
  induction pieces with
  | nil => rfl
  | cons piece pieces ih =>
    cases pieces with
    | nil => simp [joinCommas, separated, commaUnless]
    | cons next pieces =>
      rw [joinCommas.eq_3 _ _ (List.cons_ne_nil _ _), List.map_append, List.map_cons, ih]
      simp [separated, commaUnless]

/-- Every piece has a glyph, but for the first, and the closing bracket makes up for that. -/
theorem length_lt_separated (pieces : List (List Char)) (g : Glyph) (rest : List Glyph) :
    pieces.length < (separated true pieces ++ g :: rest).length + 1 := by
  have hcommas : ∀ pieces : List (List Char), pieces.length ≤ (separated false pieces).length := by
    intro pieces
    induction pieces with
    | nil => exact Nat.le_refl _
    | cons piece pieces ih =>
      simp only [separated, commaUnless, Bool.false_eq_true, if_false, List.length_append,
        List.length_cons]
      omega
  cases pieces with
  | nil => exact Nat.succ_pos _
  | cons piece pieces =>
    have := hcommas pieces
    simp only [separated, List.length_append, List.length_cons]
    omega

/-- A comma or a closing bracket ends a number. -/
theorem endsNumber_separated (pieces : List (List Char)) {c : Char} (hc : c = ']' ∨ c = '\x7d')
    (rest : List Glyph) : EndsNumber (separated false pieces ++ .char c :: rest) := by
  cases pieces with
  | nil =>
    rcases hc with rfl | rfl <;>
      exact endsNumber_cons rfl (by decide) (by decide) (by decide) _
  | cons piece pieces => exact endsNumber_cons rfl (by decide) (by decide) (by decide) _

/-! ### Arrays -/

theorem reads_hasItem_end (isFirst : Bool) (rest : List Glyph) :
    (hasItem isFirst).Reads (.char ']' :: rest) (.char ']' :: rest) false := by
  refine (reads_peekToken blank_nil rfl _).bind ?_
  exact reads_pure _ _

theorem reads_hasItem (isFirst : Bool) {piece : List Char} (h : StartsValue piece)
    (rest : List Glyph) :
    (hasItem isFirst).Reads (commaUnless isFirst ++ (piece.map .char ++ rest))
      (piece.map .char ++ rest) true := by
  obtain ⟨c, cs, rfl, hspace, hend⟩ := h
  have hend : Glyph.char c ≠ .char ']' := by simpa using hend
  cases isFirst with
  | true =>
    refine (reads_peekToken blank_nil hspace _).bind ?_
    dsimp only
    rw [if_neg hend]
    exact reads_pure _ _
  | false =>
    refine (reads_peekToken blank_nil rfl _).bind ?_
    refine (reads_skip _ _).bind ((reads_peekToken blank_nil hspace _).bind ?_)
    dsimp only
    rw [if_neg hend]
    exact reads_pure _ _

theorem reads_endArray (rest : List Glyph) : endArray.Reads (.char ']' :: rest) rest () := by
  refine (reads_peekToken blank_nil rfl _).bind ?_
  exact reads_skip _ _

/-- The items of an array are read back, one round for each and one for the end. -/
theorem reads_items {item : Reader α} {as : List α} (h : ∀ a ∈ as, ReadsBack item (text a) a)
    (isFirst : Bool) {fuel : Nat} (hfuel : as.length < fuel) (rest : List Glyph) :
    (items item isFirst fuel).Reads (separated isFirst (as.map text) ++ .char ']' :: rest)
      (.char ']' :: rest) as := by
  obtain ⟨n, rfl⟩ : ∃ n, fuel = n + 1 := ⟨fuel - 1, by omega⟩
  induction as generalizing isFirst n with
  | nil => exact (reads_hasItem_end isFirst rest).bind (reads_pure _ _)
  | cons a as ih =>
    rw [List.length_cons] at hfuel
    obtain ⟨n, rfl⟩ : ∃ m, n = m + 1 := ⟨n - 1, by omega⟩
    obtain ⟨ha, has⟩ := List.forall_mem_cons.1 h
    rw [List.map_cons, separated, List.append_assoc, List.append_assoc]
    refine (reads_hasItem isFirst ha.starts _).bind ?_
    refine (ha.reads (endsNumber_separated _ (.inl rfl) rest)).bind ?_
    exact (ih has false n (by omega)).bind (reads_pure _ _)

/-- **An array is read back**, after its bracket. -/
theorem reads_arrayRest {item : Reader α} {as : List α}
    (h : ∀ a ∈ as, ReadsBack item (text a) a) (rest : List Glyph) :
    (arrayRest item).Reads (separated true (as.map text) ++ .char ']' :: rest) rest as := by
  have hfuel := length_lt_separated (as.map text) (.char ']') rest
  rw [List.length_map] at hfuel
  refine (reads_left _).bind ((reads_items h true hfuel rest).bind ?_)
  exact (reads_endArray rest).bind (reads_pure _ _)

/-- An array is read as the list of its items. -/
theorem reads_decodeList {item : Nat → Reader α} {levels : Nat} {as : List α} {ws : List Glyph}
    (hws : Blank ws) {input : List Glyph} (h : (arrayRest (item levels)).Reads input rest as) :
    (decodeList (levels + 1) item).Reads (ws ++ .char '[' :: input) rest as := by
  refine (reads_peekValue hws rfl _).bind ?_
  exact (reads_skip _ _).bind h

/-- Reading an array stops at the first item that the reader fails on. -/
theorem fails_items {item : Reader α} {as : List α}
    (h : ∀ a ∈ as, ReadsBack item (text a) a ∨ FailsOn item (text a) cause)
    (hbad : ∃ a ∈ as, FailsOn item (text a) cause) (isFirst : Bool) {fuel : Nat}
    (hfuel : as.length < fuel) (rest : List Glyph) :
    (items item isFirst fuel).Fails (separated isFirst (as.map text) ++ .char ']' :: rest)
      cause := by
  obtain ⟨n, rfl⟩ : ∃ n, fuel = n + 1 := ⟨fuel - 1, by omega⟩
  induction as generalizing isFirst n with
  | nil =>
    obtain ⟨a, ha, -⟩ := hbad
    cases ha
  | cons a as ih =>
    rw [List.length_cons] at hfuel
    obtain ⟨n, rfl⟩ : ∃ m, n = m + 1 := ⟨n - 1, by omega⟩
    obtain ⟨ha, has⟩ := List.forall_mem_cons.1 h
    rw [List.map_cons, separated, List.append_assoc, List.append_assoc]
    by_cases hfails : FailsOn item (text a) cause
    · exact (reads_hasItem isFirst hfails.starts _).bind_fails ((hfails.fails _).bind _)
    · have ha := ha.resolve_right hfails
      have hbad := ((List.exists_mem_cons_iff _ _ _).1 hbad).resolve_left hfails
      refine (reads_hasItem isFirst ha.starts _).bind_fails ?_
      refine (ha.reads (endsNumber_separated _ (.inl rfl) rest)).bind_fails ?_
      exact (ih has hbad false n (by omega)).bind _

theorem fails_arrayRest {item : Reader α} {as : List α}
    (h : ∀ a ∈ as, ReadsBack item (text a) a ∨ FailsOn item (text a) cause)
    (hbad : ∃ a ∈ as, FailsOn item (text a) cause) (rest : List Glyph) :
    (arrayRest item).Fails (separated true (as.map text) ++ .char ']' :: rest) cause := by
  have hfuel := length_lt_separated (as.map text) (.char ']') rest
  rw [List.length_map] at hfuel
  exact (reads_left _).bind_fails ((fails_items h hbad true hfuel rest).bind _)

/-! ### Objects -/

/-- The piece of an object for a member. -/
def memberText (text : α → List Char) (m : String × α) : List Char :=
  renderString m.1 ++ ':' :: text m.2

/-- What is left of a member when its comma is read. -/
theorem map_memberText (m : String × α) (rest : List Glyph) :
    (memberText text m).map .char ++ rest =
      .char '"' :: stringTail m.1 (.char ':' :: ((text m.2).map .char ++ rest)) := by
  rw [memberText, List.map_append, List.append_assoc, map_renderString]
  rfl

/-- The members of an object are read back, one round for each and one for the end. -/
theorem reads_members {value : Reader α} {ms : List (String × α)}
    (h : ∀ m ∈ ms, ReadsBack value (text m.2) m.2) (isFirst : Bool) {fuel : Nat}
    (hfuel : ms.length < fuel) (rest : List Glyph) :
    (members value isFirst fuel).Reads
      (separated isFirst (ms.map (memberText text)) ++ .char '\x7d' :: rest)
      (.char '\x7d' :: rest) ms := by
  obtain ⟨n, rfl⟩ : ∃ n, fuel = n + 1 := ⟨fuel - 1, by omega⟩
  induction ms generalizing isFirst n with
  | nil => exact reads_members_nil value isFirst n blank_nil rest
  | cons m ms ih =>
    rw [List.length_cons] at hfuel
    obtain ⟨n, rfl⟩ : ∃ k, n = k + 1 := ⟨n - 1, by omega⟩
    obtain ⟨hm, hms⟩ := List.forall_mem_cons.1 h
    rw [List.map_cons, separated, List.append_assoc, List.append_assoc, map_memberText]
    have hread := reads_members_cons isFirst blank_nil m.1
      (hm.reads (endsNumber_separated (ms.map (memberText text)) (.inr rfl) rest))
      (ih hms false n (by omega))
    rwa [List.append_nil] at hread

/-- **An object is read back**, after its brace. -/
theorem reads_objectRest_pieces {value : Reader α} {ms : List (String × α)}
    (h : ∀ m ∈ ms, ReadsBack value (text m.2) m.2) (rest : List Glyph) :
    (objectRest value).Reads
      (separated true (ms.map (memberText text)) ++ .char '\x7d' :: rest) rest ms := by
  have hfuel := length_lt_separated (ms.map (memberText text)) (.char '\x7d') rest
  rw [List.length_map] at hfuel
  exact reads_objectRest (reads_members h true hfuel rest)

/-- Reading an object stops at the first member whose value the reader fails on. -/
theorem fails_members {value : Reader α} {ms : List (String × α)}
    (h : ∀ m ∈ ms, ReadsBack value (text m.2) m.2 ∨ FailsOn value (text m.2) cause)
    (hbad : ∃ m ∈ ms, FailsOn value (text m.2) cause) (isFirst : Bool) {fuel : Nat}
    (hfuel : ms.length < fuel) (rest : List Glyph) :
    (members value isFirst fuel).Fails
      (separated isFirst (ms.map (memberText text)) ++ .char '\x7d' :: rest) cause := by
  obtain ⟨n, rfl⟩ : ∃ n, fuel = n + 1 := ⟨fuel - 1, by omega⟩
  induction ms generalizing isFirst n with
  | nil =>
    obtain ⟨m, hm, -⟩ := hbad
    cases hm
  | cons m ms ih =>
    rw [List.length_cons] at hfuel
    obtain ⟨n, rfl⟩ : ∃ k, n = k + 1 := ⟨n - 1, by omega⟩
    obtain ⟨hm, hms⟩ := List.forall_mem_cons.1 h
    have hname := reads_hasMember isFirst blank_nil (stringTail m.1 (.char ':' ::
      ((text m.2).map .char ++ (separated false (ms.map (memberText text)) ++
        .char '\x7d' :: rest))))
    rw [List.append_nil] at hname
    rw [List.map_cons, separated, List.append_assoc, List.append_assoc, map_memberText]
    refine hname.bind_fails ((reads_memberName _ _).bind_fails ((reads_colon _).bind_fails ?_))
    by_cases hfails : FailsOn value (text m.2) cause
    · exact (hfails.fails _).bind _
    · have hm := hm.resolve_right hfails
      have hbad := ((List.exists_mem_cons_iff _ _ _).1 hbad).resolve_left hfails
      refine (hm.reads (endsNumber_separated _ (.inr rfl) rest)).bind_fails ?_
      exact (ih hms hbad false n (by omega)).bind _

theorem fails_objectRest {value : Reader α} {ms : List (String × α)}
    (h : ∀ m ∈ ms, ReadsBack value (text m.2) m.2 ∨ FailsOn value (text m.2) cause)
    (hbad : ∃ m ∈ ms, FailsOn value (text m.2) cause) (rest : List Glyph) :
    (objectRest value).Fails
      (separated true (ms.map (memberText text)) ++ .char '\x7d' :: rest) cause := by
  have hfuel := length_lt_separated (ms.map (memberText text)) (.char '\x7d') rest
  rw [List.length_map] at hfuel
  exact (reads_left _).bind_fails ((fails_members h hbad true hfuel rest).bind _)

end Reader

end Json

end RecordStore
