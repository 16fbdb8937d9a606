import Mathlib.Tactic.SplitIfs
import RecordStore.Text.Utf8

/-!
# Reading back what is text

A character is read back from its bytes whatever follows them
(`RecordStore.Text.readChar_utf8EncodeChar`): the first byte tells the length,
and none of the bytes after it falls into the ranges that are kept free so that
no character has two forms. Everything else follows character by character: the
bytes of a text are read as exactly its characters, by the strict reader
(`RecordStore.Text.decode_utf8`) as by the lenient one
(`RecordStore.Text.glyphs_utf8`). Nothing else is read, so bytes that are read as a
text are its bytes (`RecordStore.Text.utf8_of_decode`). The order of the characters is the order of
their bytes, so texts compare as the bytes they are kept in
(`RecordStore.Text.utf8_lt_utf8`).
-/

namespace RecordStore

namespace Text

/-! ### One character -/

theorem toNat_ofNat {n : Nat} (h : n < 256) : (UInt8.ofNat n).toNat = n := by
  rw [UInt8.toNat_ofNat']
  exact Nat.mod_eq_of_lt h

theorem ofNat_eq_ofNat_iff {n m : Nat} (hn : n < 256) (hm : m < 256) :
    UInt8.ofNat n = UInt8.ofNat m ↔ n = m := by
  rw [← UInt8.toNat_inj, toNat_ofNat hn, toNat_ofNat hm]

theorem isContinuation_tail (n : Nat) :
    isContinuation (UInt8.ofNat (n % 0x40 + 0x80)) = true := by
  have hn : (UInt8.ofNat (n % 0x40 + 0x80)).toNat = n % 0x40 + 0x80 := toNat_ofNat (by omega)
  simp only [isContinuation, UInt8.le_iff_toNat_le, hn, UInt8.reduceToNat, Bool.and_eq_true,
    decide_eq_true_eq]
  omega

theorem payloadBits_tail (n : Nat) :
    payloadBits (UInt8.ofNat (n % 0x40 + 0x80)) = n % 0x40 := by
  rw [payloadBits, toNat_ofNat (by omega)]
  omega

/-- Which second bytes are allowed, in terms of numbers. -/
theorem isSecond_ofNat {a b : Nat} (ha : a < 256) (h : 0x80 ≤ b) (h' : b ≤ 0xBF)
    (hE0 : a = 0xE0 → 0xA0 ≤ b) (hED : a = 0xED → b ≤ 0x9F) (hF0 : a = 0xF0 → 0x90 ≤ b)
    (hF4 : a = 0xF4 → b ≤ 0x8F) : isSecond (UInt8.ofNat a) (UInt8.ofNat b) = true := by
  have hb : (UInt8.ofNat b).toNat = b := toNat_ofNat (by omega)
  have heq : ∀ m : Nat, m < 256 → (UInt8.ofNat a = UInt8.ofNat m ↔ a = m) := fun m hm =>
    ofNat_eq_ofNat_iff ha hm
  have h1 : UInt8.ofNat a = 0xE0 ↔ a = 0xE0 := heq 0xE0 (by omega)
  have h2 : UInt8.ofNat a = 0xED ↔ a = 0xED := heq 0xED (by omega)
  have h3 : UInt8.ofNat a = 0xF0 ↔ a = 0xF0 := heq 0xF0 (by omega)
  have h4 : UInt8.ofNat a = 0xF4 ↔ a = 0xF4 := heq 0xF4 (by omega)
  simp only [isSecond, secondRange, UInt8.le_iff_toNat_le, hb, Bool.and_eq_true, decide_eq_true_eq,
    h1, h2, h3, h4]
  split_ifs <;> simp only [UInt8.reduceToNat] <;> omega

theorem readChar_one {v : Nat} (h : v ≤ 0x7f) (rest : Bytes) :
    readChar (UInt8.ofNat v) rest = .char (Char.ofNat v) rest := by
  have hv : (UInt8.ofNat v).toNat = v := toNat_ofNat (by omega)
  simp only [readChar, UInt8.lt_iff_toNat_lt, hv, UInt8.reduceToNat]
  rw [if_pos (by omega)]

theorem readChar_two {v : Nat} (h : 0x7f < v) (h' : v ≤ 0x7ff) (rest : Bytes) :
    readChar (UInt8.ofNat (v / 64 % 0x20 + 0xc0)) (UInt8.ofNat (v % 0x40 + 0x80) :: rest) =
      .char (Char.ofNat v) rest := by
  have hv : (UInt8.ofNat (v / 64 % 0x20 + 0xc0)).toNat = v / 64 % 0x20 + 0xc0 :=
    toNat_ofNat (by omega)
  simp only [readChar, UInt8.lt_iff_toNat_lt, UInt8.le_iff_toNat_le, hv, UInt8.reduceToNat,
    isContinuation_tail, payloadBits_tail, Bool.and_eq_true, decide_eq_true_eq, Bool.not_true,
    Bool.false_eq_true, if_false]
  rw [if_neg (by omega), if_pos (by omega)]
  exact congrArg (fun n => Reading.char (Char.ofNat n) rest) (by omega)

/-- The second byte keeps clear of the surrogates and of the forms that are too long. -/
theorem readChar_three {v : Nat} (h : 0x7ff < v) (h' : v ≤ 0xffff)
    (hv : v < 0xd800 ∨ 0xdfff < v) (rest : Bytes) :
    readChar (UInt8.ofNat (v / 4096 % 0x10 + 0xe0))
        (UInt8.ofNat (v / 64 % 0x40 + 0x80) :: UInt8.ofNat (v % 0x40 + 0x80) :: rest) =
      .char (Char.ofNat v) rest := by
  have hf : (UInt8.ofNat (v / 4096 % 0x10 + 0xe0)).toNat = v / 4096 % 0x10 + 0xe0 :=
    toNat_ofNat (by omega)
  have hs : isSecond (UInt8.ofNat (v / 4096 % 0x10 + 0xe0))
      (UInt8.ofNat (v / 64 % 0x40 + 0x80)) = true :=
    isSecond_ofNat (by omega) (by omega) (by omega) (by omega) (by omega) (by omega) (by omega)
  simp only [readChar, readThree, UInt8.lt_iff_toNat_lt, UInt8.le_iff_toNat_le, hf, hs,
    UInt8.reduceToNat, isContinuation_tail, payloadBits_tail, Bool.and_eq_true, decide_eq_true_eq,
    Bool.not_true, Bool.false_eq_true, if_false]
  rw [if_neg (by omega), if_neg (by omega), if_pos (by omega)]
  exact congrArg (fun n => Reading.char (Char.ofNat n) rest) (by omega)

theorem readChar_four {v : Nat} (h : 0xffff < v) (h' : v < 0x110000) (rest : Bytes) :
    readChar (UInt8.ofNat (v / 262144 % 0x08 + 0xf0))
        (UInt8.ofNat (v / 4096 % 0x40 + 0x80) :: UInt8.ofNat (v / 64 % 0x40 + 0x80) ::
          UInt8.ofNat (v % 0x40 + 0x80) :: rest) =
      .char (Char.ofNat v) rest := by
  have hf : (UInt8.ofNat (v / 262144 % 0x08 + 0xf0)).toNat = v / 262144 % 0x08 + 0xf0 :=
    toNat_ofNat (by omega)
  have hs : isSecond (UInt8.ofNat (v / 262144 % 0x08 + 0xf0))
      (UInt8.ofNat (v / 4096 % 0x40 + 0x80)) = true :=
    isSecond_ofNat (by omega) (by omega) (by omega) (by omega) (by omega) (by omega) (by omega)
  simp only [readChar, readFour, UInt8.lt_iff_toNat_lt, UInt8.le_iff_toNat_le, hf, hs,
    UInt8.reduceToNat, isContinuation_tail, payloadBits_tail, Bool.and_eq_true, decide_eq_true_eq,
    Bool.not_true, Bool.false_eq_true, if_false]
  rw [if_neg (by omega), if_neg (by omega), if_neg (by omega), if_pos (by omega)]
  exact congrArg (fun n => Reading.char (Char.ofNat n) rest) (by omega)

/-- **A character is read back from its bytes**, whatever follows them. -/
theorem readChar_utf8EncodeChar (c : Char) (rest : Bytes) :
    ∃ first tail, String.utf8EncodeChar c = first :: tail ∧
      readChar first (tail ++ rest) = .char c rest := by
  have hvalid : c.val.toNat < 0xd800 ∨ 0xdfff < c.val.toNat ∧ c.val.toNat < 0x110000 := c.valid
  have hc : Char.ofNat c.val.toNat = c := Char.ofNat_toNat c
  unfold String.utf8EncodeChar
  dsimp only
  -- one case for each length of the form
  split
  · rename_i h
    exact ⟨_, _, rfl, by rw [List.nil_append, readChar_one h, hc]⟩
  · rename_i h
    split
    · rename_i h'
      exact ⟨_, _, rfl, by rw [List.cons_append, List.nil_append,
        readChar_two (Nat.lt_of_not_le h) h', hc]⟩
    · rename_i h'
      split
      · rename_i h''
        refine ⟨_, _, rfl, ?_⟩
        rw [List.cons_append, List.cons_append, List.nil_append,
          readChar_three (Nat.lt_of_not_le h') h'' (hvalid.imp_right And.left), hc]
      · rename_i h''
        refine ⟨_, _, rfl, ?_⟩
        rw [List.cons_append, List.cons_append, List.cons_append, List.nil_append,
          readChar_four (Nat.lt_of_not_le h'') (by omega), hc]

/-! ### A whole text -/

theorem glyphs_utf8EncodeChar_append (c : Char) (rest : Bytes) :
    glyphs (String.utf8EncodeChar c ++ rest) = .char c :: glyphs rest := by
  obtain ⟨first, tail, hc, hread⟩ := readChar_utf8EncodeChar c rest
  rw [hc, List.cons_append, glyphs]
  split
  · rename_i h
    rw [hread] at h
    cases h
    rfl
  · rename_i h
    rw [hread] at h
    cases h
  · rename_i h
    rw [hread] at h
    cases h

theorem glyphs_flatMap_utf8EncodeChar (cs : List Char) :
    glyphs (cs.flatMap String.utf8EncodeChar) = cs.map .char := by
  induction cs with
  | nil => rw [List.flatMap_nil, glyphs, List.map_nil]
  | cons c cs ih => rw [List.flatMap_cons, glyphs_utf8EncodeChar_append, ih, List.map_cons]

/-- **The bytes of a text hold its characters** and no stray byte. -/
theorem glyphs_utf8 (s : String) : glyphs (utf8 s) = s.toList.map .char :=
  glyphs_flatMap_utf8EncodeChar s.toList

theorem decodeFrom_utf8EncodeChar_append (index : Nat) (c : Char) (rest : Bytes) :
    decodeFrom index (String.utf8EncodeChar c ++ rest) =
      (decodeFrom (index + (String.utf8EncodeChar c).length) rest).map (c :: ·) := by
  obtain ⟨first, tail, hc, hread⟩ := readChar_utf8EncodeChar c rest
  have hlen : (tail ++ rest).length + 1 - rest.length = (first :: tail).length := by
    rw [List.length_append, List.length_cons]
    omega
  rw [hc, List.cons_append, decodeFrom]
  split
  · rename_i h
    rw [hread] at h
    cases h
    rw [hlen]
  · rename_i h
    rw [hread] at h
    cases h
  · rename_i h
    rw [hread] at h
    cases h

theorem decodeFrom_flatMap_utf8EncodeChar (index : Nat) (cs : List Char) :
    decodeFrom index (cs.flatMap String.utf8EncodeChar) = .ok cs := by
  induction cs generalizing index with
  | nil => rw [List.flatMap_nil, decodeFrom]
  | cons c cs ih =>
    rw [List.flatMap_cons, decodeFrom_utf8EncodeChar_append, ih]
    rfl

/-- **The bytes of a text are read back as the text.** -/
theorem decode_utf8 (s : String) : decode (utf8 s) = .ok s := by
  rw [decode, utf8, decodeFrom_flatMap_utf8EncodeChar]
  exact congrArg Except.ok (String.ofList_toList (s := s))

/-! ### Bytes that were read -/

section Read

variable {first second : UInt8} {c : Char} {bytes rest : Bytes}

theorem val_ofNat {n : Nat} (h : n.isValidChar) : (Char.ofNat n).val.toNat = n := by
  rw [Char.ofNat, dif_pos h]
  rfl

/-- A byte is known by its number. -/
theorem ofNat_of_toNat {b : UInt8} {n : Nat} (h : n = b.toNat) : UInt8.ofNat n = b := by
  rw [h, UInt8.ofNat_toNat]

theorem toNat_of_isContinuation {b : UInt8} (h : isContinuation b = true) :
    b.toNat = payloadBits b + 0x80 ∧ payloadBits b < 0x40 := by
  simp only [isContinuation, UInt8.le_iff_toNat_le, UInt8.reduceToNat, Bool.and_eq_true,
    decide_eq_true_eq] at h
  rw [payloadBits]
  omega

theorem toNat_of_isSecond (h : isSecond first second = true) :
    second.toNat = payloadBits second + 0x80 ∧ payloadBits second < 0x40 ∧
      (first.toNat = 0xE0 → 0x20 ≤ payloadBits second) ∧
      (first.toNat = 0xED → payloadBits second < 0x20) ∧
      (first.toNat = 0xF0 → 0x10 ≤ payloadBits second) ∧
      (first.toNat = 0xF4 → payloadBits second < 0x10) := by
  have heq : ∀ b : UInt8, first = b ↔ first.toNat = b.toNat := fun b => UInt8.toNat_inj.symm
  simp only [isSecond, secondRange, heq, UInt8.reduceToNat] at h
  rw [payloadBits]
  split_ifs at h <;>
    simp only [UInt8.le_iff_toNat_le, UInt8.reduceToNat, Bool.and_eq_true, decide_eq_true_eq] at h <;>
    omega

theorem append_of_readThree (hfirst : 0xE0 ≤ first.toNat ∧ first.toNat ≤ 0xEF)
    (h : readThree first bytes = .char c rest) :
    String.utf8EncodeChar c ++ rest = first :: bytes := by
  rw [readThree.eq_def] at h
  split at h
  · cases h
  · split at h
    · cases h
    · rename_i second _ hsecond
      split at h
      · cases h
      · split at h
        · cases h
        · rename_i third _ hthird
          obtain ⟨h₂, hbits₂, hlong, hsurrogate, -⟩ := toNat_of_isSecond (by simpa using hsecond)
          obtain ⟨h₃, hbits₃⟩ := toNat_of_isContinuation (by simpa using hthird)
          cases h
          have hv := val_ofNat
            (n := first.toNat % 16 * 4096 + payloadBits second * 64 + payloadBits third)
            (by unfold Nat.isValidChar; omega)
          simp only [String.utf8EncodeChar, hv]
          rw [if_neg (by omega), if_neg (by omega), if_pos (by omega),
            ofNat_of_toNat (b := first) (by omega), ofNat_of_toNat (b := second) (by omega),
            ofNat_of_toNat (b := third) (by omega)]
          rfl

theorem append_of_readFour (hfirst : 0xF0 ≤ first.toNat ∧ first.toNat ≤ 0xF4)
    (h : readFour first bytes = .char c rest) :
    String.utf8EncodeChar c ++ rest = first :: bytes := by
  rw [readFour.eq_def] at h
  split at h
  · cases h
  · split at h
    · cases h
    · rename_i second _ hsecond
      split at h
      · cases h
      · split at h
        · cases h
        · rename_i third _ hthird
          split at h
          · cases h
          · split at h
            · cases h
            · rename_i fourth _ hfourth
              obtain ⟨h₂, hbits₂, -, -, hlong, hlarge⟩ := toNat_of_isSecond (by simpa using hsecond)
              obtain ⟨h₃, hbits₃⟩ := toNat_of_isContinuation (by simpa using hthird)
              obtain ⟨h₄, hbits₄⟩ := toNat_of_isContinuation (by simpa using hfourth)
              cases h
              have hv := val_ofNat
                (n := first.toNat % 8 * 262144 + payloadBits second * 4096 +
                  payloadBits third * 64 + payloadBits fourth)
                (by unfold Nat.isValidChar; omega)
              simp only [String.utf8EncodeChar, hv]
              rw [if_neg (by omega), if_neg (by omega), if_neg (by omega),
                ofNat_of_toNat (b := first) (by omega), ofNat_of_toNat (b := second) (by omega),
                ofNat_of_toNat (b := third) (by omega), ofNat_of_toNat (b := fourth) (by omega)]
              rfl

/-- **A character that was read stands in its bytes**, before what follows it. -/
theorem append_of_readChar (h : readChar first bytes = .char c rest) :
    String.utf8EncodeChar c ++ rest = first :: bytes := by
  rw [readChar.eq_def] at h
  simp only [UInt8.lt_iff_toNat_lt, UInt8.le_iff_toNat_le, UInt8.reduceToNat, Bool.and_eq_true,
    decide_eq_true_eq] at h
  split at h
  · cases h
    have hv := val_ofNat (n := first.toNat) (by unfold Nat.isValidChar; omega)
    simp only [String.utf8EncodeChar, hv]
    rw [if_pos (by omega), ofNat_of_toNat rfl]
    rfl
  · split at h
    · split at h
      · cases h
      · split at h
        · cases h
        · rename_i second _ hsecond
          obtain ⟨h₂, hbits⟩ := toNat_of_isContinuation (by simpa using hsecond)
          cases h
          have hv := val_ofNat (n := first.toNat % 32 * 64 + payloadBits second)
            (by unfold Nat.isValidChar; omega)
          simp only [String.utf8EncodeChar, hv]
          rw [if_neg (by omega), if_pos (by omega), ofNat_of_toNat (b := first) (by omega),
            ofNat_of_toNat (b := second) (by omega)]
          rfl
    · split at h
      · rename_i hfirst
        exact append_of_readThree hfirst h
      · split at h
        · rename_i hfirst
          exact append_of_readFour hfirst h
        · cases h

theorem flatMap_of_decodeFrom {index : Nat} {cs : List Char} (h : decodeFrom index bytes = .ok cs) :
    cs.flatMap String.utf8EncodeChar = bytes := by
  fun_induction decodeFrom index bytes generalizing cs with
  | case1 =>
    cases h
    rfl
  | case2 index first tail c rest hread _ ih =>
    cases hrest : decodeFrom (index + (tail.length + 1 - rest.length)) rest with
    | error fault =>
      rw [hrest] at h
      cases h
    | ok more =>
      rw [hrest] at h
      cases h
      rw [List.flatMap_cons, ih hrest, append_of_readChar hread]
  | case3 => cases h
  | case4 => cases h

/-- **Bytes that are read as a text are its bytes.** -/
theorem utf8_of_decode {s : String} (h : decode bytes = .ok s) : utf8 s = bytes := by
  rw [decode] at h
  cases hcs : decodeFrom 0 bytes with
  | error fault =>
    rw [hcs] at h
    cases h
  | ok cs =>
    rw [hcs] at h
    cases h
    rw [utf8, String.toList_ofList]
    exact flatMap_of_decodeFrom hcs

end Read

/-! ### The order of texts -/

theorem ofNat_cons_lt_iff {n m : Nat} (hn : n < 256) (hm : m < 256) {x y : Bytes} :
    UInt8.ofNat n :: x < UInt8.ofNat m :: y ↔ n < m ∨ n = m ∧ x < y := by
  rw [List.cons_lt_cons_iff, UInt8.lt_iff_toNat_lt, toNat_ofNat hn, toNat_ofNat hm,
    ofNat_eq_ofNat_iff hn hm]

theorem utf8EncodeChar_append_lt {c d : Char} (h : c < d) (x y : Bytes) :
    String.utf8EncodeChar c ++ x < String.utf8EncodeChar d ++ y := by
  have hlt : c.val.toNat < d.val.toNat := h
  have hd : d.val.toNat < 0x110000 := by
    rcases d.valid with hd | hd <;> omega
  unfold String.utf8EncodeChar
  dsimp only
  split_ifs <;> simp only [List.cons_append, List.nil_append] <;>
    rw [ofNat_cons_lt_iff (by omega) (by omega)]
  -- of two forms of different lengths the first bytes decide
  all_goals try omega
  · rw [ofNat_cons_lt_iff (by omega) (by omega)]
    omega
  · rw [ofNat_cons_lt_iff (by omega) (by omega), ofNat_cons_lt_iff (by omega) (by omega)]
    omega
  · rw [ofNat_cons_lt_iff (by omega) (by omega), ofNat_cons_lt_iff (by omega) (by omega),
      ofNat_cons_lt_iff (by omega) (by omega)]
    -- in terms of the groups of six bits
    have h₁ : ∀ n : Nat, n / 4096 = n / 64 / 64 := fun n => by omega
    have h₂ : ∀ n : Nat, n / 262144 = n / 64 / 64 / 64 := fun n => by omega
    rw [h₁, h₁, h₂, h₂]
    omega

/-- **Texts are ordered as their bytes are.** -/
theorem utf8_lt_utf8 {a b : String} (h : a < b) : utf8 a < utf8 b := by
  have hl : a.toList < b.toList := String.lt_iff.1 h
  unfold utf8
  generalize a.toList = cs at hl
  generalize b.toList = ds at hl
  induction cs generalizing ds with
  | nil =>
    cases ds with
    | nil => exact absurd hl (List.lt_irrefl _)
    | cons d ds =>
      obtain ⟨first, tail, hd, -⟩ := readChar_utf8EncodeChar d []
      rw [List.flatMap_nil, List.flatMap_cons, hd]
      exact List.nil_lt_cons _ _
  | cons c cs ih =>
    cases ds with
    | nil => exact absurd hl (List.not_lt_nil _)
    | cons d ds =>
      rw [List.flatMap_cons, List.flatMap_cons]
      -- the first characters decide, or they have the same bytes
      rcases List.cons_lt_cons_iff.1 hl with hcd | ⟨rfl, hlt⟩
      · exact utf8EncodeChar_append_lt hcd _ _
      · exact List.append_left_lt (ih ds hlt)

end Text

end RecordStore
