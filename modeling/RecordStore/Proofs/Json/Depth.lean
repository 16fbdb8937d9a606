import Mathlib.Order.MinMax
import RecordStore.Proofs.Json.Sequence

/-!
# How deep a value may be

A value is taken back from its text as long as no more arrays and objects stand inside each other
than the reader has levels; a deeper one makes the reader fail where the levels run out, and for no
other cause (`RecordStore.Json.IsIntegral.readsBack_or_failsOn`). This needs the numbers to be
integers of 64 bits, signed or not, and the members of objects to ascend, as they do in values that
were read.
-/

namespace RecordStore

namespace Json

open Text (Glyph)
open Reader

variable {v : Json} {items : List Json} {ms : List (String × Json)} {cause : Cause}

/-! ### Depth -/

mutual

/-- **The depth of a value**: how many arrays and objects stand inside each other. -/
def depth : Json → Nat
  | .null => 0
  | .bool _ => 0
  | .number _ => 0
  | .string _ => 0
  | .array items => depthItems items + 1
  | .object members => depthMembers members + 1

/-- The depth of the deepest item. -/
def depthItems : List Json → Nat
  | [] => 0
  | item :: rest => max item.depth (depthItems rest)

/-- The depth of the deepest member. -/
def depthMembers : List (String × Json) → Nat
  | [] => 0
  | (_, value) :: rest => max value.depth (depthMembers rest)

end

theorem lt_depthItems_iff {n : Nat} : n < depthItems items ↔ ∃ item ∈ items, n < item.depth := by
  induction items with
  | nil => simp [depthItems]
  | cons item items ih => rw [depthItems, lt_max_iff, ih, List.exists_mem_cons_iff]

theorem lt_depthMembers_iff {n : Nat} : n < depthMembers ms ↔ ∃ m ∈ ms, n < m.2.depth := by
  induction ms with
  | nil => simp [depthMembers]
  | cons m ms ih => rw [depthMembers, lt_max_iff, ih, List.exists_mem_cons_iff]

/-! ### Values with integers only -/

/-- **A value whose numbers are integers** of 64 bits, signed or not, and whose objects have their
members in ascending order. -/
inductive IsIntegral : Json → Prop
  | null : IsIntegral .null
  | bool (b : Bool) : IsIntegral (.bool b)
  | int {n : Int} (h : FitsWord n) : IsIntegral (.number (.int n))
  | string (s : String) : IsIntegral (.string s)
  | array {items : List Json} (h : ∀ item ∈ items, IsIntegral item) : IsIntegral (.array items)
  | object {members : List (String × Json)} (hnames : members.Pairwise fun a b => a.1 < b.1)
      (h : ∀ m ∈ members, IsIntegral m.2) : IsIntegral (.object members)

theorem renderItems_eq_map (items : List Json) : renderItems items = items.map render := by
  induction items with
  | nil => rfl
  | cons item items ih => rw [renderItems, ih, List.map_cons]

theorem renderMembers_eq_map (ms : List (String × Json)) :
    renderMembers ms = ms.map (memberText render) := by
  induction ms with
  | nil => rfl
  | cons m ms ih =>
    rw [renderMembers, ih, List.map_cons]
    rfl

theorem map_render_array (items : List Json) (rest : List Glyph) :
    (render (.array items)).map .char ++ rest =
      .char '[' :: (separated true (items.map render) ++ .char ']' :: rest) := by
  simp [render, renderItems_eq_map, map_joinCommas]

theorem map_render_object (ms : List (String × Json)) (rest : List Glyph) :
    (render (.object ms)).map .char ++ rest =
      .char '\x7b' :: (separated true (ms.map (memberText render)) ++ .char '\x7d' :: rest) := by
  simp [render, renderMembers_eq_map, map_joinCommas]

namespace Reader

/-! ### Values without others inside -/

section Scalars

variable (array object : Reader Json)

theorem readsBack_null : ReadsBack (decodeAny array object) (render .null) .null where
  starts := ⟨'n', "ull".toList, rfl, rfl, by decide⟩
  reads _ := (reads_peekValue blank_nil rfl _).bind
    ((reads_skip _ _).bind ((reads_word "ull".toList _).bind (reads_pure _ _)))

theorem readsBack_bool (b : Bool) :
    ReadsBack (decodeAny array object) (render (.bool b)) (.bool b) := by
  cases b with
  | true =>
    exact {
      starts := ⟨'t', "rue".toList, rfl, rfl, by decide⟩
      reads := fun _ => (reads_peekValue blank_nil rfl _).bind
        ((reads_skip _ _).bind ((reads_word "rue".toList _).bind (reads_pure _ _))) }
  | false =>
    exact {
      starts := ⟨'f', "alse".toList, rfl, rfl, by decide⟩
      reads := fun _ => (reads_peekValue blank_nil rfl _).bind
        ((reads_skip _ _).bind ((reads_word "alse".toList _).bind (reads_pure _ _))) }

theorem readsBack_string (s : String) :
    ReadsBack (decodeAny array object) (render (.string s)) (.string s) where
  starts := ⟨'"', _, rfl, rfl, by decide⟩
  reads _ := by
    rw [render, map_renderString]
    refine (reads_peekValue blank_nil rfl _).bind ((reads_skip _ _).bind ?_)
    exact (reads_readString s _).bind (reads_pure _ _)

theorem readsBack_int {n : Int} (h : FitsWord n) :
    ReadsBack (decodeAny array object) (render (.number (.int n))) (.number (.int n)) := by
  obtain ⟨c, cs, hcs, hstarts⟩ := exists_cons_renderInt n
  have hne {d : Char} (hd : startsNumber (.char d) = false) : c ≠ d :=
    fun heq => ne_of_startsNumber hstarts hd (congrArg _ heq)
  refine ⟨startsValue_renderInt n, fun hrest => ?_⟩
  have hread := reads_readNumber h hrest
  rw [render, Number.render]
  rw [hcs, List.map_cons, List.cons_append] at hread ⊢
  refine (reads_peekValue blank_nil (isSpace_of_startsNumber hstarts) _).bind ?_
  -- none of the six other kinds of values starts as a number does
  split
  iterate 6
    · rename_i heq
      exact absurd (Glyph.char.inj heq) (hne rfl)
  · rw [if_pos hstarts]
    exact hread.bind (reads_pure _ _)

end Scalars

theorem decodeValue_eq_decodeAny (levels : Nat) :
    ∃ array object, decodeValue levels = decodeAny array object := by
  cases levels with
  | zero => exact ⟨_, _, rfl⟩
  | succ levels => exact ⟨_, _, rfl⟩

/-! ### Values with others inside -/

variable {levels : Nat}

theorem startsValue_array (items : List Json) : StartsValue (render (.array items)) :=
  ⟨'[', _, rfl, rfl, by decide⟩

theorem startsValue_object (ms : List (String × Json)) : StartsValue (render (.object ms)) :=
  ⟨'\x7b', _, rfl, rfl, by decide⟩

theorem readsBack_array (h : ∀ item ∈ items, ReadsBack (decodeValue levels) item.render item) :
    ReadsBack (decodeValue (levels + 1)) (render (.array items)) (.array items) where
  starts := startsValue_array items
  reads _ := by
    rw [map_render_array]
    refine (reads_peekValue blank_nil rfl _).bind ((reads_skip _ _).bind ?_)
    exact (reads_arrayRest h _).bind (reads_pure _ _)

theorem readsBack_object (hnames : ms.Pairwise fun a b => a.1 < b.1)
    (h : ∀ m ∈ ms, ReadsBack (decodeValue levels) m.2.render m.2) :
    ReadsBack (decodeValue (levels + 1)) (render (.object ms)) (.object ms) where
  starts := startsValue_object ms
  reads _ := by
    -- the names ascend, so the map of the members lists them as they are
    have hentries : (SortedMap.ofList ms).entries = ms :=
      congrArg SortedMap.entries (SortedMap.ofList_entries ⟨ms, hnames⟩)
    rw [map_render_object]
    refine (reads_peekValue blank_nil rfl _).bind ((reads_skip _ _).bind ?_)
    refine (reads_objectRest_pieces h _).bind ?_
    rw [hentries]
    exact reads_pure _ _

/-- Without levels left no array is read. -/
theorem failsOn_array_zero (items : List Json) :
    FailsOn (decodeValue 0) (render (.array items)) .recursionLimit where
  starts := startsValue_array items
  fails _ := by
    rw [map_render_array]
    exact (reads_peekValue blank_nil rfl _).bind_fails (fails_failNext _ _)

theorem failsOn_object_zero (ms : List (String × Json)) :
    FailsOn (decodeValue 0) (render (.object ms)) .recursionLimit where
  starts := startsValue_object ms
  fails _ := by
    rw [map_render_object]
    exact (reads_peekValue blank_nil rfl _).bind_fails (fails_failNext _ _)

theorem failsOn_array
    (h : ∀ item ∈ items, ReadsBack (decodeValue levels) item.render item ∨
      FailsOn (decodeValue levels) item.render cause)
    (hbad : ∃ item ∈ items, FailsOn (decodeValue levels) item.render cause) :
    FailsOn (decodeValue (levels + 1)) (render (.array items)) cause where
  starts := startsValue_array items
  fails _ := by
    rw [map_render_array]
    refine (reads_peekValue blank_nil rfl _).bind_fails ((reads_skip _ _).bind_fails ?_)
    exact (fails_arrayRest h hbad _).bind _

theorem failsOn_object
    (h : ∀ m ∈ ms, ReadsBack (decodeValue levels) m.2.render m.2 ∨
      FailsOn (decodeValue levels) m.2.render cause)
    (hbad : ∃ m ∈ ms, FailsOn (decodeValue levels) m.2.render cause) :
    FailsOn (decodeValue (levels + 1)) (render (.object ms)) cause where
  starts := startsValue_object ms
  fails _ := by
    rw [map_render_object]
    refine (reads_peekValue blank_nil rfl _).bind_fails ((reads_skip _ _).bind_fails ?_)
    exact (fails_objectRest h hbad _).bind _

end Reader

/-! ### Values of any depth -/

namespace IsIntegral

/-- **A value is taken back if the levels suffice, and otherwise they run out.** -/
theorem readsBack_or_failsOn (h : v.IsIntegral) (levels : Nat) :
    (v.depth ≤ levels ∧ ReadsBack (decodeValue levels) v.render v) ∨
      (levels < v.depth ∧ FailsOn (decodeValue levels) v.render .recursionLimit) := by
  induction h generalizing levels with
  | null =>
    obtain ⟨array, object, heq⟩ := decodeValue_eq_decodeAny levels
    rw [heq]
    exact Or.inl ⟨Nat.zero_le _, readsBack_null array object⟩
  | bool b =>
    obtain ⟨array, object, heq⟩ := decodeValue_eq_decodeAny levels
    rw [heq]
    exact Or.inl ⟨Nat.zero_le _, readsBack_bool array object b⟩
  | int h =>
    obtain ⟨array, object, heq⟩ := decodeValue_eq_decodeAny levels
    rw [heq]
    exact Or.inl ⟨Nat.zero_le _, readsBack_int array object h⟩
  | string s =>
    obtain ⟨array, object, heq⟩ := decodeValue_eq_decodeAny levels
    rw [heq]
    exact Or.inl ⟨Nat.zero_le _, readsBack_string array object s⟩
  | @array items _ ih =>
    rw [depth]
    cases levels with
    | zero => exact Or.inr ⟨Nat.succ_pos _, failsOn_array_zero items⟩
    | succ levels =>
      rcases Nat.lt_or_ge levels (depthItems items) with hlt | hle
      · -- some item is too deep, and the reader fails on the first such item
        obtain ⟨item, hitem, hdeep⟩ := lt_depthItems_iff.1 hlt
        have hbad := ((ih item hitem levels).resolve_left fun h => by omega).2
        exact Or.inr ⟨Nat.succ_lt_succ hlt, failsOn_array
          (fun item hitem => (ih item hitem levels).imp And.right And.right)
          ⟨item, hitem, hbad⟩⟩
      · refine Or.inl ⟨Nat.succ_le_succ hle, readsBack_array fun item hitem => ?_⟩
        refine ((ih item hitem levels).resolve_right fun h => ?_).2
        exact absurd (lt_depthItems_iff.2 ⟨item, hitem, h.1⟩) (Nat.not_lt.2 hle)
  | @object ms hnames _ ih =>
    rw [depth]
    cases levels with
    | zero => exact Or.inr ⟨Nat.succ_pos _, failsOn_object_zero ms⟩
    | succ levels =>
      rcases Nat.lt_or_ge levels (depthMembers ms) with hlt | hle
      · obtain ⟨m, hm, hdeep⟩ := lt_depthMembers_iff.1 hlt
        have hbad := ((ih m hm levels).resolve_left fun h => by omega).2
        exact Or.inr ⟨Nat.succ_lt_succ hlt, failsOn_object
          (fun m hm => (ih m hm levels).imp And.right And.right) ⟨m, hm, hbad⟩⟩
      · refine Or.inl ⟨Nat.succ_le_succ hle, readsBack_object hnames fun m hm => ?_⟩
        refine ((ih m hm levels).resolve_right fun h => ?_).2
        exact absurd (lt_depthMembers_iff.2 ⟨m, hm, h.1⟩) (Nat.not_lt.2 hle)

/-- A value is taken back from its text if it is not too deep. -/
theorem readsBack (h : v.IsIntegral) {levels : Nat} (hdepth : v.depth ≤ levels) :
    ReadsBack (decodeValue levels) v.render v :=
  ((h.readsBack_or_failsOn levels).resolve_right fun hdeep => by omega).2

/-- The levels run out in a value that is too deep. -/
theorem failsOn (h : v.IsIntegral) {levels : Nat} (hdepth : levels < v.depth) :
    FailsOn (decodeValue levels) v.render .recursionLimit :=
  ((h.readsBack_or_failsOn levels).resolve_left fun hflat => by omega).2

end IsIntegral

end Json

end RecordStore
