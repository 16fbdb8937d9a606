import RecordStore.Proofs.Json.Reading

/-!
# Integers read back

The text of an integer that fits into 64 bits, signed or not, is read as the integer
(`RecordStore.Json.Reader.reads_readNumber`), as long as nothing follows that would be
taken for a part of it (`RecordStore.Json.Reader.EndsNumber`). Two things make this
more than a sum of digits: the reader absorbs digits only while they find a place, and
a zero in front must be the whole number.
-/

namespace RecordStore

namespace Json

open Text (Glyph)

namespace Reader

variable {rest : List Glyph}

/-! ### Digits -/

/-- What may stand after a number: no digit, no point and no exponent. -/
def EndsNumber (rest : List Glyph) : Prop :=
  ∀ g ∈ rest.head?, digit? g = none ∧ g ≠ .char '.' ∧ g ≠ .char 'e' ∧ g ≠ .char 'E'

theorem endsNumber_cons {c : Char} (h : digit? (.char c) = none) (h1 : c ≠ '.') (h2 : c ≠ 'e')
    (h3 : c ≠ 'E') (rest : List Glyph) : EndsNumber (.char c :: rest) := by
  rintro g hg
  cases hg
  exact ⟨h, by simpa using h1, by simpa using h2, by simpa using h3⟩

/-- The value of a digit. -/
def digitValue (c : Char) : Nat := c.toNat - 48

theorem digit?_of_isDigit {c : Char} (h : c.isDigit = true) :
    digit? (.char c) = some (digitValue c) := if_pos h

/-- A digit is none of the characters that are not digits. -/
theorem ne_of_isDigit {c d : Char} (h : c.isDigit = true) (hd : d.isDigit = false) : c ≠ d := by
  rintro rfl
  rw [h] at hd
  cases hd

theorem digitValue_ne_zero {c : Char} (h : c.isDigit = true) (h0 : c ≠ '0') :
    digitValue c ≠ 0 := by
  have hle : 48 ≤ c.toNat := (Char.isDigit_iff_toNat.1 h).1
  intro hzero
  rw [digitValue] at hzero
  exact h0 (Char.toNat_inj.1 (show c.toNat = 48 by omega))

theorem filterMap_digit? {cs : List Char} (h : ∀ c ∈ cs, c.isDigit = true) :
    (cs.map Glyph.char).filterMap digit? = cs.map digitValue := by
  induction cs with
  | nil => rfl
  | cons c cs ih =>
    rw [List.map_cons, List.map_cons,
      List.filterMap_cons_some (digit?_of_isDigit (h c (by simp))),
      ih fun c hc => h c (List.mem_cons_of_mem _ hc)]

/-- Digits are read up to the first glyph that is none. -/
theorem reads_digits {cs : List Char} (hcs : ∀ c ∈ cs, c.isDigit = true)
    (hrest : EndsNumber rest) :
    digits.Reads (cs.map .char ++ rest) rest (cs.map digitValue) := by
  have hall : ∀ g ∈ cs.map Glyph.char, (digit? g).isSome = true := by
    intro g hg
    obtain ⟨c, hc, rfl⟩ := List.mem_map.1 hg
    rw [digit?_of_isDigit (hcs c hc)]
    rfl
  have hstop : ∀ g ∈ rest.head?, (digit? g).isSome = false := by
    intro g hg
    rw [(hrest g hg).1]
    rfl
  refine (reads_takeWhile hall hstop).bind ?_
  rw [filterMap_digit? hcs]
  exact reads_pure _ _

/-- Digits find a place as long as the number that they make up does. -/
theorem absorb_digitValue (cs : List Char) {n : Nat}
    (h : Nat.ofDigitChars 10 cs n < UInt64.size) :
    absorb n (cs.map digitValue) = (Nat.ofDigitChars 10 cs n, []) := by
  induction cs generalizing n with
  | nil => rfl
  | cons c cs ih =>
    have hstep : n * 10 + digitValue c = 10 * n + (c.toNat - '0'.toNat) := by
      rw [Nat.mul_comm, digitValue]
      rfl
    rw [Nat.ofDigitChars_cons, ← hstep] at h ⊢
    -- the number only grows, so it is small enough all along
    have hle : n * 10 + digitValue c ≤ Nat.ofDigitChars 10 cs (n * 10 + digitValue c) := by
      rw [Nat.ofDigitChars_eq_ofDigitChars_zero]
      have hpow : 1 ≤ 10 ^ cs.length := Nat.one_le_pow _ _ (by decide)
      exact Nat.le_add_right_of_le (Nat.le_mul_of_pos_left _ hpow)
    rw [List.map_cons, absorb, if_pos (Nat.lt_of_le_of_lt hle h), ih h]

/-- Only the number zero has a zero in front. -/
theorem toDigits_head_ne_zero {n : Nat} (hn : n ≠ 0) {c : Char} {cs : List Char}
    (h : Nat.toDigits 10 n = c :: cs) : c ≠ '0' := by
  -- by removing the last digit, which leaves the first one in place
  induction n using Nat.strongRecOn generalizing cs with
  | _ n ih =>
    by_cases hlt : n < 10
    · rw [Nat.toDigits_of_lt_base hlt] at h
      cases h
      intro hzero
      exact hn (Nat.digitChar_eq_zero.1 hzero)
    · rw [Nat.toDigits_of_base_le (by decide) (Nat.not_lt.1 hlt)] at h
      obtain ⟨d, ds, hd⟩ := List.exists_cons_of_ne_nil (Nat.toDigits_ne_nil (n := n / 10) (b := 10))
      rw [hd] at h
      cases h
      exact ih (n / 10) (by omega) (by omega) hd

/-! ### Numbers -/

theorem isDigit_of_mem_toDigits {n : Nat} : ∀ c ∈ Nat.toDigits 10 n, c.isDigit = true :=
  fun _ hc => Nat.isDigit_of_mem_toDigits (by decide) (by decide) hc

/-- Every number has a first digit. -/
theorem exists_cons_toDigits (n : Nat) :
    ∃ c cs, Nat.toDigits 10 n = c :: cs ∧ c.isDigit = true := by
  obtain ⟨c, cs, hcs⟩ := List.exists_cons_of_ne_nil (Nat.toDigits_ne_nil (n := n) (b := 10))
  exact ⟨c, cs, hcs, isDigit_of_mem_toDigits c (by rw [hcs]; exact List.mem_cons_self ..)⟩

/-- What stands in front of a number is its sign or its first digit. -/
theorem exists_cons_renderInt (n : Int) :
    ∃ c cs, renderInt n = c :: cs ∧ startsNumber (.char c) = true := by
  rw [renderInt, Nat.toList_repr]
  split
  · exact ⟨'-', _, rfl, rfl⟩
  · obtain ⟨c, cs, hcs, hc⟩ := exists_cons_toDigits n.natAbs
    refine ⟨c, cs, hcs, ?_⟩
    rw [startsNumber, digit?_of_isDigit hc]
    simp

theorem ne_of_startsNumber {g g' : Glyph} (h : startsNumber g = true)
    (h' : startsNumber g' = false) : g ≠ g' := by
  rintro rfl
  rw [h] at h'
  cases h'

theorem isSpace_of_startsNumber {c : Char} (h : startsNumber (.char c) = true) :
    isSpace (.char c) = false := by
  have hne {d : Char} (hd : startsNumber (.char d) = false) : c ≠ d :=
    fun heq => ne_of_startsNumber h hd (congrArg _ heq)
  simp only [isSpace, hne (d := ' ') rfl, hne (d := '\n') rfl, hne (d := '\t') rfl,
    hne (d := '\r') rfl]
  rfl

/-- What a number with the given digits is when they end it. -/
theorem reads_afterWhole (negative : Bool) (n : Nat) (hrest : EndsNumber rest) :
    (afterWhole negative n).Reads rest rest
      (if ¬ negative then .int n
        else if n = 0 ∨ Nat.pow 2 63 < n then signed true n.toUInt64.toFloat else .int (-n)) := by
  refine (reads_peek _).bind ?_
  have hpoint : rest.head? ≠ some (.char '.') := fun h => (hrest _ h).2.1 rfl
  have he : rest.head? ≠ some (.char 'e') := fun h => (hrest _ h).2.2.1 rfl
  have hE : rest.head? ≠ some (.char 'E') := fun h => (hrest _ h).2.2.2 rfl
  have hexp : startsExponent rest.head? = false := by simp [startsExponent, he, hE]
  rw [if_neg hpoint, hexp]
  split
  · contradiction
  · split
    · exact reads_pure _ _
    · split <;> exact reads_pure _ _

/-- **The digits of a number are read as the number**, whatever comes of it with its sign. -/
theorem reads_unsignedNumber {negative : Bool} {n : Nat} {m : Number} (hn : n < UInt64.size)
    (hrest : EndsNumber rest) (hafter : (afterWhole negative n).Reads rest rest m) :
    (unsignedNumber negative).Reads ((Nat.toDigits 10 n).map .char ++ rest) rest m := by
  have hdigits := isDigit_of_mem_toDigits (n := n)
  by_cases hzero : n = 0
  · subst hzero
    refine (reads_peek _).bind ((reads_skip _ _).bind ((reads_peek _).bind ?_))
    have hnone : rest.head?.bind digit? = none := by
      cases hhead : rest.head? with
      | none => rfl
      | some g => exact (hrest g hhead).1
    change (if (rest.head?.bind digit?).isSome = true then _ else _ : Reader _).Reads rest rest _
    rw [hnone]
    exact hafter
  · obtain ⟨c, cs, hcs, hc⟩ := exists_cons_toDigits n
    obtain ⟨k, hk⟩ := Nat.exists_eq_succ_of_ne_zero
      (digitValue_ne_zero hc (toDigits_head_ne_zero hzero hcs))
    have habsorb : absorb 0 ((Nat.toDigits 10 n).map digitValue) = (n, []) := by
      have h := absorb_digitValue (Nat.toDigits 10 n) (n := 0)
      rw [Nat.ofDigitChars_ten_toDigits] at h
      exact h hn
    refine (reads_peek _).bind ?_
    rw [hcs] at hdigits habsorb ⊢
    simp only [List.map_cons, List.cons_append, List.head?_cons]
    rw [digit?_of_isDigit hc, hk]
    refine (reads_digits hdigits hrest).bind ?_
    rw [habsorb]
    exact hafter

/-- **An integer of 64 bits, signed or not**: in one of the two ranges, which overlap. -/
def FitsWord (n : Int) : Prop := Int64.minValue.toInt ≤ n ∧ n < UInt64.size

instance : DecidablePred FitsWord := fun _ => inferInstanceAs (Decidable (_ ∧ _))

/-- **An integer of 64 bits, signed or not, is read back from its text.** -/
theorem reads_readNumber {n : Int} (h : FitsWord n) (hrest : EndsNumber rest) :
    readNumber.Reads ((renderInt n).map .char ++ rest) rest (.int n) := by
  have hlimit : Int64.minValue.toInt = -(Nat.pow 2 63 : Nat) := rfl
  obtain ⟨hmin, hmax⟩ := h
  have hsize : n.natAbs < UInt64.size := by
    have : Nat.pow 2 63 < UInt64.size := by decide
    omega
  rw [renderInt, Nat.toList_repr]
  split
  · rename_i hneg
    refine (reads_peek _).bind ?_
    rw [List.map_cons, List.cons_append, List.head?_cons, if_pos rfl]
    have hafter := reads_afterWhole true n.natAbs hrest
    rw [if_neg (by decide), if_neg (by omega), show -(n.natAbs : Int) = n by omega] at hafter
    exact (reads_skip _ _).bind (reads_unsignedNumber hsize hrest hafter)
  · rename_i hpos
    have hafter := reads_afterWhole false n.natAbs hrest
    rw [if_pos (by decide), show (n.natAbs : Int) = n by omega] at hafter
    have hread := reads_unsignedNumber hsize hrest hafter
    obtain ⟨c, cs, hcs, hc⟩ := exists_cons_toDigits n.natAbs
    have hminus : c ≠ '-' := ne_of_isDigit hc rfl
    refine (reads_peek _).bind ?_
    rw [hcs] at hread ⊢
    rw [List.map_cons, List.cons_append, List.head?_cons, if_neg (by simpa using hminus)]
    exact hread

/-- An integer that fits is read as what it fits as. -/
theorem reads_decodeInteger {α : Type} {ws : List Glyph} (hws : Blank ws) {n : Int}
    (h : FitsWord n) {fit : Int → Option α} {a : α} (hfit : fit n = some a) (expected : String)
    (hrest : EndsNumber rest) :
    (decodeInteger expected fit).Reads (ws ++ ((renderInt n).map .char ++ rest)) rest a := by
  have hread := reads_readNumber h hrest
  obtain ⟨c, cs, hcs, hstarts⟩ := exists_cons_renderInt n
  rw [hcs, List.map_cons, List.cons_append] at hread ⊢
  refine (reads_peekValue hws (isSpace_of_startsNumber hstarts) _).bind ?_
  rw [hstarts]
  refine hread.bind ?_
  simp only [hfit]
  exact reads_pure _ _

theorem fitUInt32_toNat (n : UInt32) : fitUInt32 n.toNat = some n := by
  have hlt : ((n.toNat : Nat) : Int).toNat < UInt32.size := n.toNat_lt
  rw [fitUInt32, if_pos ⟨Int.natCast_nonneg _, hlt⟩, Int.toNat_natCast, UInt32.ofNat_toNat]

theorem fitInt64_toInt (n : Int64) : fitInt64 n.toInt = some n := by
  rw [fitInt64, if_pos ⟨Int64.minValue_le_toInt n, Int64.toInt_le n⟩, Int64.ofInt_toInt]

/-- **An unsigned number of 32 bits is read back from its text.** -/
theorem reads_decodeUInt32 {ws : List Glyph} (hws : Blank ws) (n : UInt32)
    (hrest : EndsNumber rest) :
    (decodeInteger "u32" fitUInt32).Reads (ws ++ ((renderInt n.toNat).map .char ++ rest)) rest
      n := by
  have hmin : Int64.minValue.toInt ≤ 0 := by decide
  have hmax : n.toNat < UInt64.size := Nat.lt_trans n.toNat_lt (by decide)
  exact reads_decodeInteger hws ⟨by omega, by omega⟩ (fitUInt32_toNat n) _ hrest

/-- **A signed number of 64 bits is read back from its text.** -/
theorem reads_decodeInt64 {ws : List Glyph} (hws : Blank ws) (n : Int64)
    (hrest : EndsNumber rest) :
    (decodeInteger "i64" fitInt64).Reads (ws ++ ((renderInt n.toInt).map .char ++ rest)) rest
      n := by
  have hmax : Int64.maxValue.toInt < UInt64.size := by decide
  have hn : FitsWord n.toInt :=
    ⟨Int64.minValue_le_toInt n, Int.lt_of_le_of_lt (Int64.toInt_le n) hmax⟩
  exact reads_decodeInteger hws hn (fitInt64_toInt n) _ hrest

end Reader

end Json

end RecordStore
