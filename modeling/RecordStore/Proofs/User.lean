import RecordStore.Codec
import RecordStore.Proofs.Json.Number
import RecordStore.User

/-!
# Users read back from their payloads

A user is written as an object with three members and is read back from it, whatever
characters stand in the identifier and the name
(`RecordStore.User.exists_encode`). Payloads of users are texts, so that a container
can keep them in either encoding.
-/

namespace RecordStore

namespace User

open Json Json.Reader

open Text (Glyph)

/-- The glyphs of a user as it is written, the opening brace left out. -/
def objectTail (u : User) : List Glyph :=
  .char '"' :: stringTail "id" (.char ':' :: .char '"' :: stringTail u.id
    (.char ',' :: .char '"' :: stringTail "name" (.char ':' :: .char '"' :: stringTail u.name
      (.char ',' :: .char '"' :: stringTail "age" (.char ':' ::
        ((renderInt u.age.toNat).map .char ++ [.char '\x7d']))))))

/-- The members of a user are read back, each of them once. -/
theorem reads_readMembers (u : User) (fuel : Nat) :
    (readMembers {} true (fuel + 4)).Reads u.objectTail [.char '\x7d']
      (.complete { id := some u.id, name := some u.name, age := some u.age }) := by
  have hage : EndsNumber [.char '\x7d'] :=
    endsNumber_cons rfl (by decide) (by decide) (by decide) []
  refine (reads_hasMember true blank_nil _).bind ((reads_memberName "id" _).bind ?_)
  refine (reads_colon _).bind ((reads_decodeString blank_nil u.id _).bind ?_)
  refine (reads_hasMember false blank_nil _).bind ((reads_memberName "name" _).bind ?_)
  refine (reads_colon _).bind ((reads_decodeString blank_nil u.name _).bind ?_)
  refine (reads_hasMember false blank_nil _).bind ((reads_memberName "age" _).bind ?_)
  refine (reads_colon _).bind ((reads_decodeUInt32 blank_nil u.age hage).bind ?_)
  refine (reads_hasMember_end false blank_nil _).bind ?_
  exact reads_pure _ _

theorem reads_decode (u : User) (levels : Nat) :
    (User.decode (levels + 1)).Reads (.char '\x7b' :: u.objectTail) [] u := by
  -- three members and the end take four rounds, and there are as many glyphs
  have hlen : 3 ≤ u.objectTail.length := by
    simp only [objectTail, stringTail, List.length_cons, List.length_append]
    omega
  obtain ⟨fuel, hfuel⟩ : ∃ fuel, u.objectTail.length + 1 = fuel + 4 :=
    ⟨u.objectTail.length - 3, by omega⟩
  have hmembers := reads_readMembers u fuel
  rw [← hfuel] at hmembers
  refine (reads_peekValue blank_nil rfl _).bind ((reads_skip _ _).bind ?_)
  refine (reads_left _).bind (hmembers.bind ((reads_endObject []).bind ?_))
  exact reads_pure _ _

/-- **A user has a payload, which is a text, and is read back from it.** -/
theorem exists_encode (u : User) :
    ∃ payload, Codec.encode u = .ok payload ∧ (∃ text, payload = Text.utf8 text) ∧
      ∀ table key, Codec.decode User table key payload = .ok u := by
  have hparse : ∀ text : List Char, text.map .char = .char '\x7b' :: u.objectTail →
      Json.parse User (Text.utf8 (String.ofList text)) = .ok u := by
    intro text htext
    refine parse_eq_ok blank_nil ?_
    rw [Text.glyphs_utf8, String.toList_ofList, htext]
    exact reads_decode u 126
  refine ⟨_, rfl, ⟨_, rfl⟩, fun table key => ?_⟩
  rw [Codec.decode, hparse _ (by simp [objectTail, stringTail, renderString, joinCommas])]
  rfl

end User

end RecordStore
