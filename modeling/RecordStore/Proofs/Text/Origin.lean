import Mathlib.Data.List.Basic
import RecordStore.Text.SnakeCase

/-!
# Where the characters of a text come from

A text that is joined from others has their characters and those of the separator, and what a text is
split into has only characters of the text. The snake-case form of a name joins words that are cut from
the name, and changing their case makes letters only: a character in front of the low line, in the order
of characters, is in the form only if it is in the name (`RecordStore.Text.not_mem_snakeCase`).
-/

namespace RecordStore.Text

variable {c d : Char} {current cs word : List Char} {before : WordCase}

/-! ### Joining and splitting -/

theorem mem_of_mem_intercalate {separator : String} {texts : List String}
    (h : c ∈ (separator.intercalate texts).toList) :
    c ∈ separator.toList ∨ ∃ t ∈ texts, c ∈ t.toList := by
  induction texts with
  | nil => cases h
  | cons first rest ih =>
    rcases eq_or_ne rest [] with rfl | hne
    · rw [String.intercalate_singleton] at h
      exact Or.inr ⟨first, List.mem_cons_self, h⟩
    · rw [String.intercalate_cons_of_ne_nil hne, String.toList_append, String.toList_append,
        List.mem_append, List.mem_append] at h
      rcases h with (h | h) | h
      · exact Or.inr ⟨first, List.mem_cons_self, h⟩
      · exact Or.inl h
      · exact (ih h).imp_right fun ⟨t, ht, hc⟩ => ⟨t, List.mem_cons_of_mem _ ht, hc⟩

theorem mem_of_mem_splitOn (hword : word ∈ cs.splitOn d) (hc : c ∈ word) : c ∈ cs := by
  induction cs generalizing word with
  | nil =>
    rw [List.splitOn_nil, List.mem_singleton] at hword
    subst hword
    exact hc
  | cons b cs ih =>
    rw [List.splitOn_cons_eq_if_modifyHead] at hword
    split at hword
    · rcases List.mem_cons.1 hword with rfl | hword
      · cases hc
      · exact List.mem_cons_of_mem _ (ih hword hc)
    · cases hwords : cs.splitOn d with
      | nil => exact absurd hwords (List.splitOn_ne_nil d cs)
      | cons first words =>
        rw [hwords] at hword ih
        rcases List.mem_cons.1 hword with rfl | hword
        · exact (List.mem_cons.1 hc).elim (by rintro rfl; simp) fun hc =>
            List.mem_cons_of_mem _ (ih (List.mem_cons_self ..) hc)
        · exact List.mem_cons_of_mem _ (ih (List.mem_cons_of_mem _ hword) hc)

/-! ### Words -/

theorem mem_of_mem_alphanumericRuns (hword : word ∈ alphanumericRuns current cs) (hc : c ∈ word) :
    c ∈ current ∨ c ∈ cs := by
  induction cs generalizing current with
  | nil =>
    obtain rfl := List.mem_singleton.1 hword
    exact Or.inl (List.mem_reverse.1 hc)
  | cons d cs ih =>
    rw [alphanumericRuns] at hword
    split at hword
    · rcases ih hword with hmem | hmem
      · rcases List.mem_cons.1 hmem with rfl | hmem
        · exact Or.inr (List.mem_cons_self ..)
        · exact Or.inl hmem
      · exact Or.inr (List.mem_cons_of_mem _ hmem)
    · rcases List.mem_cons.1 hword with rfl | hword
      · exact Or.inl (List.mem_reverse.1 hc)
      · rcases ih hword with hmem | hmem
        · cases hmem
        · exact Or.inr (List.mem_cons_of_mem _ hmem)

theorem mem_of_mem_splitCased (hword : word ∈ splitCased before current cs) (hc : c ∈ word) :
    c ∈ current ∨ c ∈ cs := by
  fun_induction splitCased before current cs with
  | case1 => cases hword
  | case2 =>
    obtain rfl := List.mem_singleton.1 hword
    exact Or.inl (List.mem_reverse.1 hc)
  | case3 =>
    obtain rfl := List.mem_singleton.1 hword
    simpa [or_comm] using hc
  | case4 before current a next rest hgoesUp ih =>
    rcases List.mem_cons.1 hword with rfl | hword
    · simp only [List.mem_reverse, List.mem_cons] at hc
      exact hc.elim (by rintro rfl; simp) Or.inl
    · exact Or.inr (List.mem_cons_of_mem _ ((ih hword).resolve_left List.not_mem_nil))
  | case5 before current a next rest hstays hlast ih =>
    rcases List.mem_cons.1 hword with rfl | hword
    · exact Or.inl (List.mem_reverse.1 hc)
    · rcases ih hword with hmem | hmem
      · obtain rfl := List.mem_singleton.1 hmem
        exact Or.inr (List.mem_cons_self ..)
      · exact Or.inr (List.mem_cons_of_mem _ hmem)
  | case6 before current a next rest hstays hlast ih =>
    rcases ih hword with hmem | hmem
    · rcases List.mem_cons.1 hmem with rfl | hmem
      · exact Or.inr (List.mem_cons_self ..)
      · exact Or.inl hmem
    · exact Or.inr (List.mem_cons_of_mem _ hmem)

/-! ### Cases -/

theorem ofNat_ne_of_lt {n : Nat} (hzero : 0 < d.toNat) (hn : d.toNat < n) : Char.ofNat n ≠ d := by
  rintro rfl
  by_cases hvalid : n.isValidChar
  · have heq : Char.ofNat n = Char.ofNatAux n hvalid := dif_pos hvalid
    rw [heq] at hn
    exact absurd hn (Nat.lt_irrefl n)
  · have heq : Char.ofNat n = '\x00' := dif_neg hvalid
    rw [heq] at hzero
    exact absurd hzero (by decide)

/-- A change of case makes letters. -/
theorem not_mem_toLowercase (hzero : 0 < d.toNat) (hlow : d.toNat < 95) (hc : c ≠ d) :
    d ∉ toLowercase c := by
  have hruns : ∀ run ∈ lowercaseRuns, 95 ≤ (run.1 : Int) + run.2.2.2 := by decide +kernel
  rw [toLowercase]
  split
  · intro hmem
    simp only [List.mem_cons, List.not_mem_nil, or_false] at hmem
    rcases hmem with rfl | rfl
    · exact absurd hlow (by decide)
    · exact absurd hlow (by decide)
  · split
    · rename_i first last step shift hfound
      intro hmem
      have hrun := hruns _ (List.mem_of_find?_eq_some hfound)
      have hfirst := List.find?_some hfound
      simp only [decide_eq_true_eq] at hfirst
      refine ofNat_ne_of_lt hzero ?_ (List.mem_singleton.1 hmem).symm
      dsimp only at hrun
      omega
    · simpa using hc.symm

theorem not_mem_lowercaseWord (hzero : 0 < d.toNat) (hlow : d.toNat < 95) (hword : d ∉ word) :
    d ∉ lowercaseWord word := by
  fun_induction lowercaseWord word with
  | case1 => exact hword
  | case2 =>
    rintro hmem
    obtain rfl := List.mem_singleton.1 hmem
    exact absurd hlow (by decide)
  | case3 c hc =>
    exact not_mem_toLowercase hzero hlow fun h => hword (by simp [h])
  | case4 c rest hrest ih =>
    rw [List.mem_cons, not_or] at hword
    rw [List.mem_append, not_or]
    exact ⟨not_mem_toLowercase hzero hlow (Ne.symm hword.1), ih hword.2⟩

/-- **The snake-case form of a name has no new characters** in front of the low line. -/
theorem not_mem_snakeCase {name : String} (hzero : 0 < d.toNat) (hlow : d.toNat < 95)
    (hname : d ∉ name.toList) : d ∉ (snakeCase name).toList := by
  intro hmem
  rcases mem_of_mem_intercalate hmem with hjoin | ⟨t, ht, hmem⟩
  · rw [show "_".toList = ['_'] from String.toList_ofList, List.mem_singleton] at hjoin
    subst hjoin
    exact absurd hlow (by decide)
  · obtain ⟨word, hword, rfl⟩ := List.mem_map.1 ht
    obtain ⟨run, hrun, hword⟩ := List.mem_flatMap.1 hword
    rw [String.toList_ofList] at hmem
    refine not_mem_lowercaseWord hzero hlow (fun hd => hname ?_) hmem
    have hd := (mem_of_mem_splitCased hword hd).resolve_left List.not_mem_nil
    exact (mem_of_mem_alphanumericRuns hrun hd).resolve_left List.not_mem_nil

end RecordStore.Text
