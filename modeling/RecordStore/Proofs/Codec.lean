import RecordStore.Proofs.Json.Depth
import RecordStore.Proofs.User

/-!
# The codec gives back what was stored

A type whose texts its reader takes the values back from (`RecordStore.Codec.TakesBack`) has a codec
that loses nothing. Lists and maps of such values have the property with one more level, so it is
checked along the type. Values of any kind have it up to a depth: a deeper one is stored, but can
never be decoded (`RecordStore.Codec.round_trips_to_depth`).
-/

namespace RecordStore

namespace Codec

open Json Json.Reader

open Text (Glyph)

variable {α : Type} {levels : Nat}

/-! ### Values that are taken back -/

/-- The text of a value, if it has one. -/
def textOf [Writable α] (a : α) : List Char := (Writable.encode a).toOption.getD []

/-- **A value that the reader takes back** from its text, with so many levels. -/
structure TakesBack [Writable α] [Readable α] (levels : Nat) (a : α) : Prop where
  encode : Writable.encode a = .ok (textOf a)
  readsBack : ReadsBack (Readable.decode levels) (textOf a) a

/-- **A value that has a payload and is decoded from it**, whatever the entry is. -/
def RoundTrips [Writable α] [Readable α] (a : α) : Prop :=
  ∃ payload, encode a = .ok payload ∧ ∀ table key, decode α table key payload = .ok a

theorem encode_eq_ok [Writable α] {a : α} (h : Writable.encode a = .ok (textOf a)) :
    encode a = .ok (Text.utf8 (String.ofList (textOf a))) := by
  rw [encode, h]

theorem glyphs_utf8_ofList (text : List Char) :
    Text.glyphs (Text.utf8 (String.ofList text)) = text.map .char ++ [] := by
  rw [Text.glyphs_utf8, String.toList_ofList, List.append_nil]

theorem TakesBack.decode [Writable α] [Readable α] {a : α} (h : TakesBack maxDepth a)
    (table key : String) :
    decode α table key (Text.utf8 (String.ofList (textOf a))) = .ok a := by
  have hend : EndsNumber [] := fun g hg => by cases hg
  have hread := h.readsBack.reads hend
  rw [← glyphs_utf8_ofList] at hread
  rw [Codec.decode, parse_eq_ok blank_nil hread]
  rfl

theorem TakesBack.roundTrips [Writable α] [Readable α] {a : α} (h : TakesBack maxDepth a) :
    RoundTrips a :=
  ⟨_, encode_eq_ok h.encode, h.decode⟩

/-- What the reader fails on cannot be decoded, and the error names the entry. -/
theorem decode_eq_error [Readable α] {text : List Char} {cause : Cause}
    (h : FailsOn (Readable.decode maxDepth : Reader α) text cause) (table key : String) :
    ∃ fault : Fault, fault.cause = cause ∧
      decode α table key (Text.utf8 (String.ofList text)) = .error (.decode table key fault) := by
  have hfails := h.fails []
  rw [← glyphs_utf8_ofList] at hfails
  obtain ⟨fault, hparse, hcause⟩ := parse_eq_error hfails
  refine ⟨fault, hcause, ?_⟩
  rw [Codec.decode, hparse]
  rfl

/-! ### The types of fields -/

variable [Writable α] [Readable α] {a : α}

theorem takesBack_uint32 (levels : Nat) (n : UInt32) : TakesBack levels n where
  encode := rfl
  readsBack := ⟨startsValue_renderInt n.toNat, fun hrest => reads_decodeUInt32 blank_nil n hrest⟩

theorem takesBack_int64 (levels : Nat) (n : Int64) : TakesBack levels n where
  encode := rfl
  readsBack := ⟨startsValue_renderInt n.toInt, fun hrest => reads_decodeInt64 blank_nil n hrest⟩

theorem takesBack_bool (levels : Nat) (b : Bool) : TakesBack levels b where
  encode := rfl
  readsBack := by
    refine ⟨?_, fun {rest} _ => reads_decodeBool blank_nil b rest⟩
    cases b with
    | true => exact ⟨'t', "rue".toList, rfl, rfl, by decide⟩
    | false => exact ⟨'f', "alse".toList, rfl, rfl, by decide⟩

theorem takesBack_string (levels : Nat) (s : String) : TakesBack levels s where
  encode := rfl
  readsBack := by
    refine ⟨⟨'"', _, rfl, rfl, by decide⟩, fun {rest} _ => ?_⟩
    have htext : (textOf s).map .char ++ rest = .char '"' :: stringTail s rest :=
      map_renderString s rest
    rw [htext]
    exact reads_decodeString blank_nil s rest

theorem takesBack_none (levels : Nat) : TakesBack levels (none : Option α) where
  encode := rfl
  readsBack := ⟨⟨'n', "ull".toList, rfl, rfl, by decide⟩, fun {rest} _ =>
    reads_decodeOption_null (Readable.decode levels : Reader α) blank_nil rest⟩

/-- A value whose text does not start as `null` does may be there or not. -/
theorem TakesBack.some (h : TakesBack levels a) (hnull : ∀ cs, textOf a ≠ 'n' :: cs) :
    TakesBack levels (some a) where
  encode := h.encode
  readsBack := by
    refine ⟨h.readsBack.starts, fun {rest} hrest => ?_⟩
    obtain ⟨c, cs, hcs, hspace, -⟩ := h.readsBack.starts
    have hread := h.readsBack.reads hrest
    have hne : Glyph.char c ≠ .char 'n' := by
      rw [Ne, Glyph.char.injEq]
      rintro rfl
      exact hnull cs hcs
    change Reads _ ((textOf a).map .char ++ rest) rest _
    rw [hcs] at hread ⊢
    exact reads_decodeOption_some blank_nil hspace hne hread

/-! ### Lists and maps -/

theorem encodeItems_eq_ok {as : List α} (h : ∀ a ∈ as, TakesBack levels a) :
    encodeItems as = .ok (as.map textOf) := by
  induction as with
  | nil => rfl
  | cons a as ih =>
    obtain ⟨ha, has⟩ := List.forall_mem_cons.1 h
    rw [encodeItems, ha.encode, ih has]
    rfl

theorem encodeMembers_eq_ok {ms : List (String × α)} (h : ∀ m ∈ ms, TakesBack levels m.2) :
    encodeMembers ms = .ok (ms.map (memberText textOf)) := by
  induction ms with
  | nil => rfl
  | cons m ms ih =>
    obtain ⟨hm, hms⟩ := List.forall_mem_cons.1 h
    rw [encodeMembers, hm.encode, ih hms]
    rfl

/-- **A list is taken back** with one more level than its items. -/
theorem takesBack_list {as : List α} (h : ∀ a ∈ as, TakesBack levels a) :
    TakesBack (levels + 1) as := by
  have hencode : (Writable.encode as : Except WriteFault (List Char)) =
      .ok ('[' :: joinCommas (as.map textOf) ++ [']']) := by
    change (encodeItems as >>= fun texts => pure ('[' :: joinCommas texts ++ [']'])) = _
    rw [encodeItems_eq_ok h]
    rfl
  have htext : textOf as = '[' :: joinCommas (as.map textOf) ++ [']'] := by
    rw [textOf, hencode]
    rfl
  refine ⟨by rw [hencode, htext], ⟨'[', _, htext, rfl, by decide⟩, fun {rest} _ => ?_⟩
  have hglyphs : (textOf as).map .char ++ rest =
      [] ++ .char '[' :: (separated true (as.map textOf) ++ .char ']' :: rest) := by
    simp [htext, map_joinCommas]
  rw [hglyphs]
  change (decodeList (levels + 1) Readable.decode).Reads _ rest as
  exact reads_decodeList blank_nil (reads_arrayRest (fun a ha => (h a ha).readsBack) rest)

/-- **A map is taken back** with one more level than its values. -/
theorem takesBack_map {m : SortedMap α} (h : ∀ e ∈ m.entries, TakesBack levels e.2) :
    TakesBack (levels + 1) m := by
  have hencode : (Writable.encode m : Except WriteFault (List Char)) =
      .ok ('\x7b' :: joinCommas (m.entries.map (memberText textOf)) ++ ['\x7d']) := by
    change (encodeMembers m.entries >>= fun texts =>
      pure ('\x7b' :: joinCommas texts ++ ['\x7d'])) = _
    rw [encodeMembers_eq_ok h]
    rfl
  have htext : textOf m =
      '\x7b' :: joinCommas (m.entries.map (memberText textOf)) ++ ['\x7d'] := by
    rw [textOf, hencode]
    rfl
  refine ⟨by rw [hencode, htext], ⟨'\x7b', _, htext, rfl, by decide⟩, fun {rest} _ => ?_⟩
  have hglyphs : (textOf m).map .char ++ rest = [] ++ .char '\x7b' ::
      (separated true (m.entries.map (memberText textOf)) ++ .char '\x7d' :: rest) := by
    simp [htext, map_joinCommas]
  rw [hglyphs]
  change (decodeMap (levels + 1) Readable.decode).Reads _ rest m
  have hread := reads_objectRest_pieces (fun e he => (h e he).readsBack) rest
  have hmap := reads_decodeMap blank_nil hread
  rwa [SortedMap.ofList_entries] at hmap

/-! ### Values of any kind -/

/-- A value of any kind is taken back if it is not too deep. -/
theorem takesBack_json {v : Json} (h : v.IsIntegral) (hdepth : v.depth ≤ levels) :
    TakesBack levels v where
  encode := rfl
  readsBack := h.readsBack hdepth

/-- **The codec gives back what was stored.** A value of any kind with integers for its numbers has
a payload. It is decoded as the value just if at most 127 arrays and objects stand inside each
other, and otherwise the error names the entry. Numbers, truth values, strings, optional numbers,
lists, maps and users have payloads that are decoded as what they are, whatever the strings hold. -/
theorem round_trips_to_depth :
    (∀ v : Json, v.IsIntegral → ∃ payload, encode v = .ok payload ∧ ∀ table key,
      (decode Json table key payload = .ok v ↔ v.depth ≤ 127) ∧
        (127 < v.depth → ∃ fault : Fault, fault.cause = .recursionLimit ∧
          decode Json table key payload = .error (.decode table key fault))) ∧
      (∀ n : UInt32, RoundTrips n) ∧ (∀ n : Int64, RoundTrips n) ∧ (∀ b : Bool, RoundTrips b) ∧
        (∀ s : String, RoundTrips s) ∧ (∀ n : Option UInt32, RoundTrips n) ∧
          (∀ l : List String, RoundTrips l) ∧ (∀ m : SortedMap UInt32, RoundTrips m) ∧
            ∀ u : User, RoundTrips u := by
  refine ⟨fun v h => ?_, fun n => (takesBack_uint32 _ n).roundTrips,
    fun n => (takesBack_int64 _ n).roundTrips, fun b => (takesBack_bool _ b).roundTrips,
    fun s => (takesBack_string _ s).roundTrips, fun n => ?_,
    fun l => (takesBack_list fun s _ => takesBack_string 126 s).roundTrips,
    fun m => (takesBack_map fun e _ => takesBack_uint32 126 e.2).roundTrips, fun u => ?_⟩
  · refine ⟨_, encode_eq_ok rfl, fun table key => ?_⟩
    have hdeep : 127 < v.depth → ∃ fault : Fault, fault.cause = .recursionLimit ∧
        decode Json table key (Text.utf8 (String.ofList (textOf v))) =
          .error (.decode table key fault) :=
      fun hlt => decode_eq_error (h.failsOn hlt) table key
    refine ⟨⟨fun hdecode => ?_, fun hle => (takesBack_json h hle).decode table key⟩, hdeep⟩
    by_contra hlt
    obtain ⟨fault, -, herror⟩ := hdeep (Nat.lt_of_not_le hlt)
    rw [hdecode] at herror
    cases herror
  · cases n with
    | none => exact (takesBack_none _).roundTrips
    | some n =>
      refine ((takesBack_uint32 _ n).some fun cs heq => ?_).roundTrips
      obtain ⟨c, cs', hcs, hstarts⟩ := exists_cons_renderInt n.toNat
      obtain rfl := (List.cons.inj (hcs.symm.trans heq)).1
      exact absurd hstarts (by decide)
  · obtain ⟨payload, hencode, -, hdecode⟩ := u.exists_encode
    exact ⟨payload, hencode, hdecode⟩

/-- An integer, which needs all the bits of its sign, inside of so many arrays. -/
def nest : Nat → Json
  | 0 => .number (.int Int64.minValue.toInt)
  | n + 1 => .array [nest n]

theorem isIntegral_nest (n : Nat) : (nest n).IsIntegral := by
  induction n with
  | zero => exact .int (by decide)
  | succ n ih => exact .array fun item h => List.mem_singleton.1 h ▸ ih

theorem depth_nest (n : Nat) : (nest n).depth = n := by
  induction n with
  | zero => rfl
  | succ n ih => simp [nest, depth, depthItems, ih]

/-- The deepest value that is decoded, and one that is deeper. -/
theorem round_trips_to_depth_of_nest :
    (nest 127).IsIntegral ∧ (nest 128).IsIntegral ∧
      (∃ payload, encode (nest 127) = .ok payload ∧
        decode Json "users" "ada" payload = .ok (nest 127)) ∧
      ∃ payload, encode (nest 128) = .ok payload ∧ ∃ fault : Fault, fault.cause = .recursionLimit ∧
        decode Json "users" "ada" payload = .error (.decode "users" "ada" fault) := by
  obtain ⟨flat, hflat, hdecode⟩ := round_trips_to_depth.1 (nest 127) (isIntegral_nest 127)
  obtain ⟨deep, hdeep, hfails⟩ := round_trips_to_depth.1 (nest 128) (isIntegral_nest 128)
  refine ⟨isIntegral_nest 127, isIntegral_nest 128, ⟨flat, hflat, ?_⟩, deep, hdeep, ?_⟩
  · exact (hdecode "users" "ada").1.2 (Nat.le_of_eq (depth_nest 127))
  · exact (hfails "users" "ada").2 (Nat.le_of_eq (depth_nest 128).symm)

end Codec

end RecordStore
