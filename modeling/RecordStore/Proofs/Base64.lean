import RecordStore.Base64
import RecordStore.Proofs.Text.Utf8

/-!
# Base64 texts are read back

The text of some bytes is cut into the groups of six bits it was made of
(`RecordStore.Base64.sextets`) and the padding behind them, and the groups give
the bytes again with no bit left over. So reading succeeds on every text that
writing produces, with the bytes it was produced from
(`RecordStore.Base64.decode_encode`). It succeeds on no other text: the padding is
required and the bits that carry nothing must be zero, so the groups of a text that is
read are those of its bytes (`RecordStore.Base64.encode_of_decode`).
-/

namespace RecordStore

namespace Base64

/-! ### Groups of six bits and padding -/

/-- The groups of six bits that some bytes are written as, filled up with zero bits. -/
def sextets : Bytes → List Nat
  | [] => []
  | [a] => [a.toNat * 16 / 64, a.toNat * 16 % 64]
  | [a, b] =>
    let n := (a.toNat * 256 + b.toNat) * 4
    [n / 4096, n / 64 % 64, n % 64]
  | a :: b :: c :: rest =>
    let n := (a.toNat * 256 + b.toNat) * 256 + c.toNat
    n / 262144 :: n / 4096 % 64 :: n / 64 % 64 :: n % 64 :: sextets rest

/-- The number of padding characters behind the groups. -/
def padCount (bytes : Bytes) : Nat := (3 - bytes.length % 3) % 3

theorem lt_of_mem_sextets (bytes : Bytes) : ∀ n ∈ sextets bytes, n < 64 := by
  fun_induction sextets bytes with
  | case1 => simp
  | case2 a =>
    have := a.toNat_lt
    simp only [List.mem_cons, List.not_mem_nil, or_false]
    rintro n (rfl | rfl) <;> omega
  | case3 a b m =>
    have := a.toNat_lt
    have := b.toNat_lt
    simp only [List.mem_cons, List.not_mem_nil, or_false]
    rintro n (rfl | rfl | rfl) <;> omega
  | case4 a b c rest m ih =>
    have := a.toNat_lt
    have := b.toNat_lt
    have := c.toNat_lt
    simp only [List.mem_cons]
    rintro n (rfl | rfl | rfl | rfl | hn)
    · omega
    · omega
    · omega
    · omega
    · exact ih n hn

theorem length_sextets (bytes : Bytes) :
    (sextets bytes).length % 4 + padCount bytes = (if bytes.length % 3 = 0 then 0 else 4) := by
  fun_induction sextets bytes with
  | case1 => rfl
  | case2 a => rfl
  | case3 a b => rfl
  | case4 a b c rest m ih =>
    have hpad : padCount (a :: b :: c :: rest) = padCount rest := by
      simp only [padCount, List.length_cons]
      omega
    have hlen : (a :: b :: c :: rest).length % 3 = rest.length % 3 := by
      simp only [List.length_cons]
      omega
    rw [hpad, hlen, ← ih]
    simp only [List.length_cons]
    omega

/-- **A Base64 text is its groups, then its padding.** -/
theorem encodeBytes_eq (bytes : Bytes) :
    encodeBytes bytes = (sextets bytes).map symbol ++ List.replicate (padCount bytes) pad := by
  fun_induction sextets bytes with
  | case1 => rfl
  | case2 a => rfl
  | case3 a b => rfl
  | case4 a b c rest m ih =>
    have hpad : padCount (a :: b :: c :: rest) = padCount rest := by
      simp only [padCount, List.length_cons]
      omega
    rw [encodeBytes, ih, hpad]
    rfl

/-- **The groups hold the bytes** and no bit more. -/
theorem joinBits_sextets (bytes : Bytes) : joinBits (sextets bytes) = (bytes, 0) := by
  have hbyte : ∀ (a : UInt8) (n : Nat), n = a.toNat → n.toUInt8 = a := by
    rintro a n rfl
    exact UInt8.ofNat_toNat
  fun_induction sextets bytes with
  | case1 => rfl
  | case2 a =>
    -- two groups: a byte, and four bits that must be zero
    have := a.toNat_lt
    simp only [joinBits]
    rw [hbyte a _ (by omega)]
    exact congrArg _ (by omega)
  | case3 a b m =>
    -- three groups: two bytes, and two bits that must be zero
    have := a.toNat_lt
    have := b.toNat_lt
    simp only [joinBits]
    rw [hbyte a _ (by omega), hbyte b _ (by omega)]
    exact congrArg _ (by omega)
  | case4 a b c rest m ih =>
    have := a.toNat_lt
    have := b.toNat_lt
    have := c.toNat_lt
    simp only [joinBits, ih]
    rw [hbyte a _ (by omega), hbyte b _ (by omega), hbyte c _ (by omega)]

/-! ### The alphabet -/

theorem value?_symbol : ∀ n, n < 64 → value? (symbol n) = some n := by decide

theorem value?_pad : value? pad = none := by decide

theorem symbol_lt : ∀ n, n < 64 → (symbol n).toNat < 128 := by decide

theorem filterMap_value?_map_symbol {l : List Nat} (h : ∀ n ∈ l, n < 64) :
    (l.map symbol).filterMap value? = l := by
  induction l with
  | nil => rfl
  | cons n l ih =>
    rw [List.map_cons, List.filterMap_cons, value?_symbol n (h n (by simp))]
    exact congrArg (n :: ·) (ih fun m hm => h m (List.mem_cons_of_mem _ hm))

/-- Bytes of the ASCII range are the text of the characters with their numbers. -/
theorem utf8_ofList_map_ofNat {bytes : Bytes} (h : ∀ b ∈ bytes, b.toNat < 128) :
    Text.utf8 (String.ofList (bytes.map fun b => Char.ofNat b.toNat)) = bytes := by
  rw [Text.utf8, String.toList_ofList]
  induction bytes with
  | nil => rfl
  | cons b bytes ih =>
    have hb := h b (by simp)
    have hc : (Char.ofNat b.toNat).val.toNat = b.toNat := by
      rw [Char.ofNat, dif_pos (Or.inl (by omega))]
      rfl
    rw [List.map_cons, List.flatMap_cons, ih fun x hx => h x (List.mem_cons_of_mem _ hx)]
    unfold String.utf8EncodeChar
    dsimp only
    rw [hc, if_pos (by omega), UInt8.ofNat_toNat]
    rfl

theorem lt_of_mem_encodeBytes (bytes : Bytes) : ∀ b ∈ encodeBytes bytes, b.toNat < 128 := by
  intro b hb
  rw [encodeBytes_eq, List.mem_append] at hb
  rcases hb with hb | hb
  · obtain ⟨n, hn, rfl⟩ := List.mem_map.1 hb
    exact symbol_lt n (lt_of_mem_sextets bytes n hn)
  · rw [(List.mem_replicate.1 hb).2]
    decide

/-! ### Reading -/

theorem length_encodeBytes (bytes : Bytes) : (encodeBytes bytes).length % 4 = 0 := by
  have h := length_sextets bytes
  rw [encodeBytes_eq, List.length_append, List.length_map, List.length_replicate]
  split at h <;> omega

/-- The padding is never out of place. -/
theorem padCount_eq (bytes : Bytes) :
    padCount bytes = 0 ∨ 2 ≤ (sextets bytes).length % 4 ∧
      (sextets bytes).length % 4 + padCount bytes ≤ 4 := by
  have h := length_sextets bytes
  have hpad : padCount bytes < 3 := Nat.mod_lt _ (by omega)
  split at h <;> omega

theorem decodeGroups_encodeBytes (bytes : Bytes) :
    decodeGroups (encodeBytes bytes) = .ok bytes := by
  have hsym : ∀ b ∈ (sextets bytes).map symbol, (value? b).isSome = true := by
    intro b hb
    obtain ⟨n, hn, rfl⟩ := List.mem_map.1 hb
    rw [value?_symbol n (lt_of_mem_sextets bytes n hn)]
    rfl
  -- the symbols end where the padding begins
  have htake : (encodeBytes bytes).takeWhile (fun b => (value? b).isSome) =
      (sextets bytes).map symbol := by
    rw [encodeBytes_eq, List.takeWhile_append_of_pos hsym, List.takeWhile_replicate]
    simp [value?_pad]
  have hdrop : (encodeBytes bytes).dropWhile (fun b => (value? b).isSome) =
      List.replicate (padCount bytes) pad := by
    rw [encodeBytes_eq, List.dropWhile_append_of_pos hsym, List.dropWhile_replicate]
    simp [value?_pad]
  have hlen := length_encodeBytes bytes
  simp only [decodeGroups, htake, hdrop, hlen, List.length_map, joinBits_sextets,
    filterMap_value?_map_symbol (lt_of_mem_sextets bytes)]
  -- what is left to check is that the padding, if any, fills up the last group of four
  rcases padCount_eq bytes with h0 | ⟨h2, h4⟩
  · rw [h0]
    rfl
  · cases hp : padCount bytes with
    | zero => rfl
    | succ n =>
      rw [hp] at h4
      have hfill : ¬ (pad ≠ pad ∨ (sextets bytes).length % 4 < 2 ∨
          (List.replicate (n + 1) pad).any (fun b => decide (b ≠ pad)) = true ∨
          4 < (sextets bytes).length % 4 + (List.replicate (n + 1) pad).length) := by
        rw [List.length_replicate]
        simp only [ne_eq, not_true_eq_false, false_or, not_or, Nat.not_lt]
        refine ⟨h2, ?_, h4⟩
        simp
      rw [List.replicate_succ] at hfill ⊢
      simp only [if_neg hfill]
      rfl

/-- **The text of some bytes is read back as the bytes.** -/
theorem decode_encode (bytes : Bytes) : decode (encode bytes) = .ok bytes := by
  have hlen := length_encodeBytes bytes
  have hutf8 : Text.utf8 (encode bytes) = encodeBytes bytes :=
    utf8_ofList_map_ofNat (lt_of_mem_encodeBytes bytes)
  rw [decode, hutf8]
  simp only [hlen]
  exact decodeGroups_encodeBytes bytes

/-! ### One text for some bytes -/

/-- A character of the alphabet is the one for its six bits. -/
theorem symbol_of_value? {b : UInt8} {n : Nat} (h : value? b = some n) : n < 64 ∧ symbol n = b := by
  have hall : ∀ k, k < 256 → ∀ n ∈ value? (UInt8.ofNat k), n < 64 ∧ symbol n = UInt8.ofNat k := by
    decide +kernel
  have hb := hall b.toNat b.toNat_lt n
  rw [UInt8.ofNat_toNat] at hb
  exact hb h

theorem map_symbol_filterMap_value? {bytes : Bytes} (h : ∀ b ∈ bytes, (value? b).isSome = true) :
    (bytes.filterMap value?).map symbol = bytes := by
  induction bytes with
  | nil => rfl
  | cons b bytes ih =>
    obtain ⟨hb, hbytes⟩ := List.forall_mem_cons.1 h
    obtain ⟨n, hn⟩ := Option.isSome_iff_exists.1 hb
    rw [List.filterMap_cons_some hn, List.map_cons, (symbol_of_value? hn).2, ih hbytes]

theorem lt_of_mem_filterMap_value? {bytes : Bytes} : ∀ n ∈ bytes.filterMap value?, n < 64 := by
  intro n hn
  obtain ⟨b, -, hb⟩ := List.mem_filterMap.1 hn
  exact (symbol_of_value? hb).1

/-- **Groups that leave no bit over** are the groups of the bytes they hold, unless a single one is
left over. -/
theorem sextets_joinBits {l : List Nat} (hl : ∀ n ∈ l, n < 64) (hlength : l.length % 4 ≠ 1)
    (hleft : (joinBits l).2 = 0) : sextets (joinBits l).1 = l := by
  have hbyte : ∀ n, n < 256 → n.toUInt8.toNat = n := fun n hn => Nat.mod_eq_of_lt hn
  fun_induction joinBits l with
  | case1 a b c d rest n bytes left hjoin ih =>
    simp only [List.forall_mem_cons] at hl
    obtain ⟨ha, hb, hc, hd, hl⟩ := hl
    rw [List.length_cons, List.length_cons, List.length_cons, List.length_cons] at hlength
    have hrest := ih hl (by omega) (by rw [hjoin]; exact hleft)
    rw [hjoin] at hrest
    rw [sextets, hbyte _ (by omega), hbyte _ (by omega), hbyte _ (by omega), hrest,
      show (n / 65536 * 256 + n / 256 % 256) * 256 + n % 256 = n by omega,
      show n / 262144 = a by omega, show n / 4096 % 64 = b by omega,
      show n / 64 % 64 = c by omega, show n % 64 = d by omega]
  | case2 a b c n =>
    -- two bytes, and two bits that are zero
    simp only [List.forall_mem_cons] at hl
    obtain ⟨ha, hb, hc, -⟩ := hl
    have hzero : n % 4 = 0 := hleft
    rw [sextets, hbyte _ (by omega), hbyte _ (by omega),
      show (n / 1024 * 256 + n / 4 % 256) * 4 = n by omega, show n / 4096 = a by omega,
      show n / 64 % 64 = b by omega, show n % 64 = c by omega]
  | case3 a b n =>
    -- a byte, and four bits that are zero
    simp only [List.forall_mem_cons] at hl
    obtain ⟨ha, hb, -⟩ := hl
    have hzero : n % 16 = 0 := hleft
    rw [sextets, hbyte _ (by omega), show n / 16 * 16 / 64 = a by omega,
      show n / 16 * 16 % 64 = b by omega]
  | case4 a => exact absurd rfl hlength
  | case5 => rfl

/-- What `decodeGroups` accepts: characters of the alphabet, then padding that fills up the last
group of four, which holds two characters at least, and no bit left over. -/
theorem of_decodeGroups {bytes decoded : Bytes} (h : decodeGroups bytes = .ok decoded) :
    ∃ symbols count, bytes = symbols ++ List.replicate count pad ∧
      (∀ b ∈ symbols, (value? b).isSome = true) ∧ (symbols.length + count) % 4 = 0 ∧
      (count = 0 ∨ 2 ≤ symbols.length % 4 ∧ symbols.length % 4 + count ≤ 4) ∧
      joinBits (symbols.filterMap value?) = (decoded, 0) := by
  have hbytes := List.takeWhile_append_dropWhile (p := fun b => (value? b).isSome) (l := bytes)
  have hsymbols : ∀ b ∈ bytes.takeWhile fun b => (value? b).isSome, (value? b).isSome = true :=
    List.all_eq_true.1 List.all_takeWhile
  simp only [decodeGroups] at h
  generalize bytes.takeWhile (fun b => (value? b).isSome) = symbols at *
  generalize bytes.dropWhile (fun b => (value? b).isSome) = ending at *
  split at h
  · cases h
  · rename_i hmisplaced
    split at h
    · cases h
    · rename_i hlength
      split at h
      · cases h
      · rename_i hleft
        cases h
        have hending : (∀ b ∈ ending, b = pad) ∧ (ending.length = 0 ∨
            2 ≤ symbols.length % 4 ∧ symbols.length % 4 + ending.length ≤ 4) := by
          cases ending with
          | nil => exact ⟨List.forall_mem_nil _, Or.inl rfl⟩
          | cons b rest =>
            simp only [ite_eq_right_iff, reduceCtorEq, imp_false, not_or] at hmisplaced
            obtain ⟨-, hgroup, hpad, hfill⟩ := hmisplaced
            exact ⟨by simpa using hpad, Or.inr ⟨Nat.not_lt.1 hgroup, Nat.not_lt.1 hfill⟩⟩
        obtain ⟨hpad, hfill⟩ := hending
        rw [← hbytes, List.length_append] at hlength
        refine ⟨symbols, ending.length, ?_, hsymbols, by omega, hfill, Prod.ext rfl (by omega)⟩
        rw [← List.eq_replicate_iff.2 ⟨rfl, hpad⟩, hbytes]

/-- **What is accepted is what is written** for the bytes that come of it. -/
theorem encodeBytes_of_decodeGroups {bytes decoded : Bytes} (h : decodeGroups bytes = .ok decoded) :
    encodeBytes decoded = bytes := by
  obtain ⟨symbols, count, rfl, hsymbols, hlength, hfill, hjoin⟩ := of_decodeGroups h
  have hmap := map_symbol_filterMap_value? hsymbols
  have hcount : (symbols.filterMap value?).length = symbols.length := by
    rw [← List.length_map symbol, hmap]
  have hsextets : sextets decoded = symbols.filterMap value? := by
    have hgroups := sextets_joinBits (l := symbols.filterMap value?)
      lt_of_mem_filterMap_value? (by omega) (by rw [hjoin])
    rwa [hjoin] at hgroups
  -- the padding is as long as it has to be
  have hpad : padCount decoded = count := by
    have hlast := length_sextets decoded
    have hshort : padCount decoded < 3 := Nat.mod_lt _ (by omega)
    rw [hsextets, hcount] at hlast
    split at hlast <;> omega
  rw [encodeBytes_eq, hsextets, hmap, hpad]

/-- **A text that is read is the text of the bytes it is read as.** -/
theorem encode_of_decode {text : String} {bytes : Bytes} (h : decode text = .ok bytes) :
    encode bytes = text := by
  rw [decode] at h
  split at h
  · -- one character is left over
    split at h
    · split at h <;> cases h
    · cases h
  · have hutf8 : Text.utf8 (encode bytes) = Text.utf8 text := by
      rw [encode, utf8_ofList_map_ofNat (lt_of_mem_encodeBytes bytes),
        encodeBytes_of_decodeGroups h]
    have hdecode := Text.decode_utf8 (encode bytes)
    rw [hutf8, Text.decode_utf8] at hdecode
    exact (Except.ok.inj hdecode).symm

end Base64

end RecordStore
