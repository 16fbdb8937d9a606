import RecordStore.Container.Document
import RecordStore.Proofs.Json.Reading

/-!
# Documents and their bytes

The bytes of a document are read back as the document
(`RecordStore.Document.ofBytes_toBytes`), whatever names, keys and strings it
holds: the layout is an object of objects of strings, each read by the statement
for its kind, and the entries that come back are the entries that were written,
in the order they were written in, so they make up the same map again.

A file without any tables can also be blank or hold `null`
(`RecordStore.Document.ofBytes_of_blank`, `RecordStore.Document.ofBytes_null`).
-/

namespace RecordStore

namespace Document

open Text (Glyph)
open Json Json.Reader

variable {α : Type} {rest : List Glyph}

/-! ### One object of the layout -/

theorem blank_newLine (level : Nat) : Blank ((newLine level).map .char) := by
  intro g hg
  obtain ⟨c, hc, rfl⟩ := List.mem_map.1 hg
  rcases List.mem_cons.1 hc with rfl | hc
  · rfl
  · rw [(List.mem_replicate.1 hc).2]
    rfl

theorem blank_space : Blank [.char ' '] := by
  intro g hg
  rw [List.mem_singleton.1 hg]
  rfl

/-- The members that are written for the entries of a map. -/
def membersOf (text : α → List Char) (l : List (String × α)) : List (String × List Char) :=
  l.map fun e => (e.1, text e.2)

/-- The members of a laid out object are read back, the first without a comma in front. -/
theorem reads_layoutMembers {value : Reader α} {text : α → List Char} (level : Nat)
    {e : String × α} {l : List (String × α)}
    (hvalue : ∀ x ∈ e :: l, ∀ rest,
      value.Reads (.char ' ' :: ((text x.2).map .char ++ rest)) rest x.2)
    (isFirst : Bool) {fuel : Nat} (hfuel : l.length + 1 < fuel) :
    (members value isFirst fuel).Reads
      (commaUnless isFirst ++ ((layoutMembers level (membersOf text (e :: l))).map .char ++
        ((newLine (level - 1)).map .char ++ .char '\x7d' :: rest)))
      (.char '\x7d' :: rest) (e :: l) := by
  induction l generalizing e isFirst fuel with
  | nil =>
    -- the last member, then the line of the closing brace
    obtain ⟨n, rfl⟩ : ∃ n, fuel = n + 1 + 1 := ⟨fuel - 2, by simp at hfuel; omega⟩
    have h := reads_members_cons isFirst (blank_newLine level) e.1 (hvalue e (by simp) _)
      (reads_members_nil value false n (blank_newLine (level - 1)) rest)
    simpa [membersOf, layoutMembers, renderString, stringTail] using h
  | cons e' l ih =>
    rw [List.length_cons] at hfuel
    obtain ⟨n, rfl⟩ : ∃ n, fuel = n + 1 := ⟨fuel - 1, by omega⟩
    have htail := ih (e := e') (fun x hx => hvalue x (List.mem_cons_of_mem _ hx)) false
      (show l.length + 1 < n by omega)
    have h := reads_members_cons isFirst (blank_newLine level) e.1 (hvalue e (by simp) _) htail
    simpa [membersOf, layoutMembers, renderString, stringTail, commaUnless] using h

theorem length_le_length_layoutMembers (level : Nat) (l : List (String × List Char)) :
    l.length ≤ (layoutMembers level l).length := by
  induction l with
  | nil => simp
  | cons e l ih =>
    cases l with
    | nil => simp [layoutMembers, newLine]
    | cons e' l =>
      simp only [layoutMembers, List.length_append, List.length_cons] at ih ⊢
      omega

/-- **A laid out object is read back** as the map with its members. -/
theorem reads_layoutObject (value : Nat → Reader α) {text : α → List Char} (level levels : Nat)
    (l : List (String × α))
    (hvalue : ∀ x ∈ l, ∀ rest,
      (value levels).Reads (.char ' ' :: ((text x.2).map .char ++ rest)) rest x.2)
    {ws : List Glyph} (hws : Blank ws) (rest : List Glyph) :
    (decodeMap (levels + 1) value).Reads
      (ws ++ ((layoutObject level (membersOf text l)).map .char ++ rest)) rest
      (SortedMap.ofList l) := by
  cases l with
  | nil => exact reads_decodeMap hws (reads_objectRest (reads_members_nil _ true _ blank_nil _))
  | cons e l =>
    have hobject : (layoutObject level (membersOf text (e :: l))).map Glyph.char ++ rest =
        Glyph.char '\x7b' :: ((layoutMembers level (membersOf text (e :: l))).map Glyph.char ++
          ((newLine (level - 1)).map Glyph.char ++ Glyph.char '\x7d' :: rest)) := by
      simp [layoutObject, membersOf]
    -- every member has a glyph, so there is a round for each of them and one for the end
    have hfuel : l.length + 1 < ((layoutMembers level (membersOf text (e :: l))).map Glyph.char ++
        ((newLine (level - 1)).map Glyph.char ++ Glyph.char '\x7d' :: rest)).length + 1 := by
      have hlen := length_le_length_layoutMembers level (membersOf text (e :: l))
      rw [membersOf, List.length_map, List.length_cons] at hlen
      simp only [List.length_append, List.length_map, List.length_cons, membersOf]
      omega
    rw [hobject]
    exact reads_decodeMap hws (reads_objectRest (reads_layoutMembers level hvalue true hfuel))

/-! ### The whole document -/

/-- A table is read back from its layout. -/
theorem reads_layoutTable (levels : Nat) (entries : SortedMap String) {ws : List Glyph}
    (hws : Blank ws) (rest : List Glyph) :
    (decodeMap (levels + 1) fun _ => decodeString).Reads
      (ws ++ ((layoutTable entries).map .char ++ rest)) rest entries := by
  have hvalue : ∀ x ∈ entries.entries, ∀ rest,
      decodeString.Reads (.char ' ' :: ((renderString x.2).map .char ++ rest)) rest x.2 := by
    intro x _ rest
    rw [map_renderString]
    exact reads_decodeString blank_space x.2 rest
  have h := reads_layoutObject (fun _ => decodeString) 2 levels entries.entries hvalue hws rest
  rwa [SortedMap.ofList_entries] at h

/-- A document is read back from its layout. -/
theorem reads_layout (document : Document) :
    (Readable.decode maxDepth : Reader Document).Reads (document.layout.map .char) [] document := by
  have h := reads_layoutObject Readable.decode 1 126 document.entries
    (fun x _ rest => reads_layoutTable 125 x.2 blank_space rest) blank_nil []
  rwa [SortedMap.ofList_entries, List.nil_append, List.append_nil] at h

theorem exists_layout_eq_cons (document : Document) : ∃ cs, document.layout = '\x7b' :: cs := by
  unfold layout layoutObject
  split
  · exact ⟨_, rfl⟩
  · exact ⟨_, rfl⟩

/-- **The bytes of a document are read back as the document.** -/
theorem ofBytes_toBytes (document : Document) : ofBytes document.toBytes = .ok document := by
  obtain ⟨cs, hcs⟩ := exists_layout_eq_cons document
  -- the brace in front is neither white space nor the start of `null`
  have hblank : ¬ document.toBytes.all isBlankByte = true := by
    rw [toBytes, hcs, Text.utf8, String.toList_ofList, List.flatMap_cons]
    simp [String.utf8EncodeChar, isBlankByte]
  have hread := reads_layout document
  rw [hcs] at hread
  have hparse : Json.parse (Option Document) document.toBytes = .ok (some document) := by
    refine parse_eq_ok blank_nil ?_
    rw [toBytes, Text.glyphs_utf8, String.toList_ofList, hcs]
    exact reads_decodeOption_some blank_nil rfl (by simp) hread
  rw [ofBytes, if_neg hblank, hparse]
  rfl

/-- No two documents have the same bytes. -/
theorem toBytes_injective : Function.Injective toBytes := by
  intro d d' h
  have h' := ofBytes_toBytes d
  rw [h, ofBytes_toBytes] at h'
  exact (Except.ok.inj h').symm

/-! ### Documents without tables -/

theorem ofBytes_of_blank {bytes : Bytes} (h : bytes.all isBlankByte = true) :
    ofBytes bytes = .ok .empty := by
  rw [ofBytes, if_pos h]

/-- `null` stands for the document without tables, with white space around it or not. -/
theorem ofBytes_null {ws ws' : List Char} (hws : Blank (ws.map .char))
    (hws' : Blank (ws'.map .char)) :
    ofBytes (Text.utf8 (String.ofList (ws ++ "null".toList ++ ws'))) = .ok .empty := by
  have hparse : Json.parse (Option Document)
      (Text.utf8 (String.ofList (ws ++ "null".toList ++ ws'))) = .ok none := by
    refine parse_eq_ok hws' ?_
    rw [Text.glyphs_utf8, String.toList_ofList, List.map_append, List.map_append,
      List.append_assoc]
    exact reads_decodeOption_null _ hws _
  rw [ofBytes, hparse]
  split <;> rfl

end Document

end RecordStore
