import RecordStore.Proofs.Template.Cutting
import RecordStore.Proofs.Template.Printing

/-!
# Reading by byte offsets

A reader that holds the text as bytes knows places by their offsets. It looks for pairs of braces in
the rest of the text, cuts it there, and finds the line of an action from the offset of the rest and
the place of the braces in it. An offset inside of a character or behind the end cuts nothing
(`RecordStore.dropBytes?_eq_some_iff`, `RecordStore.takeBytes?_eq_some_iff`), and then such a reader
has no answer at all.

It always has one, the same as the reader of characters (`RecordStore.Template.readBytes_eq`). What
the loop preserves is that the offset is the number of bytes in front of the rest
(`RecordStore.Builder.readBytes_eq`): so every cut is behind a piece of text as a whole.
-/

namespace RecordStore

variable {cs front rest chunk opened inner : List Char}

/-! ### Reading on -/

namespace Builder

variable {b : Builder} {trimStart : Bool} {line : Nat}

/-- **What a builder makes of the rest of a text** whose first character stands in a line;
`trimStart` tells whether an action before it trims it. -/
def resume (b : Builder) (trimStart : Bool) (line : Nat) (cs : List Char) :
    Except TemplateError Template :=
  b.run trimStart (Pieces.cutFrom line cs).ending (Pieces.cutFrom line cs).actions

theorem resume_of_no_pair (h : splitAtPair '\x7b' '\x7b' cs = none) :
    b.resume trimStart line cs = b.run trimStart (.chunk cs) [] := by
  rw [resume, cutFrom_of_none h]

theorem resume_of_unterminated (hopen : splitAtPair '\x7b' '\x7b' cs = some (chunk, opened))
    (hclose : splitAtPair '\x7d' '\x7d' opened = none) :
    b.resume trimStart line cs = .error ⟨line + countLines chunk, .unterminated⟩ := by
  rw [resume, cutFrom_of_unterminated hopen hclose]
  rfl

/-- **An action is carried out**, and reading goes on behind it. -/
theorem resume_of_cut (hopen : splitAtPair '\x7b' '\x7b' cs = some (chunk, opened))
    (hclose : splitAtPair '\x7d' '\x7d' opened = some (inner, rest)) :
    b.resume trimStart line cs =
      match (directiveIn inner).bind
        ((b.text (trimChunk trimStart (marksBefore inner) chunk)).apply
          (line + countLines chunk)) with
      | .error fault => .error ⟨line + countLines chunk, fault⟩
      | .ok b' =>
        b'.resume (marksAfter inner) (line + countLines chunk + countLines inner) rest := by
  obtain ⟨hbefore, hafter⟩ := trims_ofInner (line + countLines chunk) inner
  rw [resume, cutFrom_of_split hopen hclose, run, hbefore, hafter, line_ofInner]
  rfl

end Builder

/-! ### Bytes -/

/-- The number of bytes of a text. -/
def byteLength : List Char → Nat
  | [] => 0
  | c :: cs => c.utf8Size + byteLength cs

theorem byteLength_append (cs rest : List Char) :
    byteLength (cs ++ rest) = byteLength cs + byteLength rest := by
  induction cs with
  | nil => simp [byteLength]
  | cons c cs ih => rw [List.cons_append, byteLength, byteLength, ih, Nat.add_assoc]

/-- The text behind so many bytes, if these are whole characters. -/
def dropBytes? : Nat → List Char → Option (List Char)
  | 0, cs => some cs
  | _ + 1, [] => none
  | n + 1, c :: cs => if c.utf8Size ≤ n + 1 then dropBytes? (n + 1 - c.utf8Size) cs else none

/-- The text of so many bytes at the start, if these are whole characters. -/
def takeBytes? : Nat → List Char → Option (List Char)
  | 0, _ => some []
  | _ + 1, [] => none
  | n + 1, c :: cs =>
    if c.utf8Size ≤ n + 1 then (takeBytes? (n + 1 - c.utf8Size) cs).map (c :: ·) else none

theorem exists_byteLength_cons (c : Char) (cs : List Char) : ∃ n, byteLength (c :: cs) = n + 1 ∧
    c.utf8Size ≤ n + 1 ∧ n + 1 - c.utf8Size = byteLength cs := by
  have hc := c.utf8Size_pos
  rw [byteLength]
  exact ⟨c.utf8Size + byteLength cs - 1, by omega, by omega, by omega⟩

/-- **What is behind some bytes** is what is behind some characters. -/
theorem dropBytes?_eq_some_iff {n : Nat} :
    dropBytes? n cs = some rest ↔ ∃ front, byteLength front = n ∧ cs = front ++ rest := by
  constructor
  · intro h
    fun_induction dropBytes? n cs with
    | case1 cs =>
      cases h
      exact ⟨[], rfl, rfl⟩
    | case2 => cases h
    | case3 n c cs hle ih =>
      obtain ⟨front, hlength, rfl⟩ := ih h
      refine ⟨c :: front, ?_, rfl⟩
      rw [byteLength, hlength]
      omega
    | case4 => cases h
  · rintro ⟨front, rfl, rfl⟩
    induction front with
    | nil => rw [List.nil_append, byteLength, dropBytes?]
    | cons c front ih =>
      obtain ⟨n, hn, hle, hsub⟩ := exists_byteLength_cons c front
      rw [hn, List.cons_append, dropBytes?, if_pos hle, hsub, ih]

/-- **Some bytes at the start** are some characters at the start. -/
theorem takeBytes?_eq_some_iff {n : Nat} :
    takeBytes? n cs = some front ↔ byteLength front = n ∧ ∃ rest, cs = front ++ rest := by
  constructor
  · intro h
    fun_induction takeBytes? n cs generalizing front with
    | case1 cs =>
      cases h
      exact ⟨rfl, cs, rfl⟩
    | case2 => cases h
    | case3 n c cs hle ih =>
      obtain ⟨front, hfront, rfl⟩ := Option.map_eq_some_iff.1 h
      obtain ⟨hlength, rest, rfl⟩ := ih hfront
      refine ⟨?_, rest, rfl⟩
      rw [byteLength, hlength]
      omega
    | case4 => cases h
  · rintro ⟨rfl, rest, rfl⟩
    induction front with
    | nil => rw [List.nil_append, byteLength, takeBytes?]
    | cons c front ih =>
      obtain ⟨n, hn, hle, hsub⟩ := exists_byteLength_cons c front
      rw [hn, List.cons_append, takeBytes?, if_pos hle, hsub, ih]
      rfl

theorem length_of_dropBytes? {n : Nat} (hn : 0 < n) (h : dropBytes? n cs = some rest) :
    rest.length < cs.length := by
  obtain ⟨front, hlength, rfl⟩ := dropBytes?_eq_some_iff.1 h
  cases front with
  | nil =>
    subst hlength
    cases hn
  | cons c front =>
    rw [List.cons_append, List.length_cons, List.length_append]
    omega

/-! ### The reader of bytes -/

/-- The offset of the first two equal characters in a row. -/
def findPair? (a : Char) (cs : List Char) : Option Nat :=
  (splitAtPair a a cs).map fun (before, _) => byteLength before

/-- The line of the place at an offset. -/
def lineAt? (whole : List Char) (offset : Nat) : Option Nat :=
  (takeBytes? offset whole).map fun before => countLines before + 1

/-- **What a builder makes of the rest of a text**, which starts at an offset of the whole. -/
def Builder.readBytes (whole : List Char) (b : Builder) (trimStart : Bool) (offset : Nat)
    (rest : List Char) : Option (Except TemplateError Template) :=
  match findPair? '\x7b' rest with
  | none => some (b.run trimStart (.chunk rest) [])
  | some start => do
    let line ← lineAt? whole (offset + start)
    let opened ← dropBytes? (start + 2) rest
    match findPair? '\x7d' opened with
    | none => return .error ⟨line, .unterminated⟩
    | some stop =>
      let inner ← takeBytes? stop opened
      let chunk ← takeBytes? start rest
      let action := Action.ofInner line inner
      let b := b.text (trimChunk trimStart action.trimsBefore chunk)
      match (Directive.ofBody action.body).bind (b.apply line) with
      | .error fault => return .error ⟨line, fault⟩
      | .ok b =>
        match _h : dropBytes? (start + 2 + stop + 2) rest with
        | none => none
        | some more => b.readBytes whole action.trimsAfter (offset + (start + 2 + stop + 2)) more
termination_by rest.length
decreasing_by exact length_of_dropBytes? (by omega) _h

/-- **Reads a template** by byte offsets. There is no answer if a cut is inside of a character. -/
def Template.readBytes (text : String) : Option (Except TemplateError Template) :=
  ({} : Builder).readBytes text.toList false 0 text.toList

/-- The text of two braces is two bytes long. -/
theorem byteLength_pair (cs : List Char) {brace : Char} (h : brace.utf8Size = 1) :
    byteLength (cs ++ [brace, brace]) = byteLength cs + 2 := by
  rw [byteLength_append, byteLength, byteLength, h]
  rfl

/-- A chunk and the action behind it. -/
def actionAfter (chunk inner : List Char) : List Char :=
  chunk ++ ['\x7b', '\x7b'] ++ inner ++ ['\x7d', '\x7d']

theorem byteLength_actionAfter (chunk inner : List Char) :
    byteLength (actionAfter chunk inner) = byteLength chunk + 2 + byteLength inner + 2 := by
  rw [actionAfter, byteLength_pair _ (by decide), byteLength_append,
    byteLength_pair _ (by decide)]

theorem countLines_actionAfter (chunk inner : List Char) :
    countLines (actionAfter chunk inner) = countLines chunk + countLines inner := by
  have hbraces : countLines ['\x7b', '\x7b'] = 0 ∧ countLines ['\x7d', '\x7d'] = 0 := by decide
  rw [actionAfter, countLines_append, countLines_append, countLines_append, hbraces.1, hbraces.2]
  rfl

theorem findPair?_of_split {a : Char} {after : List Char}
    (h : splitAtPair a a cs = some (front, after)) : findPair? a cs = some (byteLength front) := by
  rw [findPair?, h]
  rfl

theorem dropBytes?_of_split {a : Char} (ha : a.utf8Size = 1) {after : List Char}
    (h : splitAtPair a a cs = some (front, after)) :
    dropBytes? (byteLength front + 2) cs = some after := by
  obtain ⟨rfl, -⟩ := splitAtPair_eq_some_iff.1 h
  exact dropBytes?_eq_some_iff.2 ⟨front ++ [a, a], byteLength_pair front ha, by simp⟩

theorem takeBytes?_of_split {a : Char} {after : List Char}
    (h : splitAtPair a a cs = some (front, after)) :
    takeBytes? (byteLength front) cs = some front := by
  obtain ⟨rfl, -⟩ := splitAtPair_eq_some_iff.1 h
  exact takeBytes?_eq_some_iff.2 ⟨rfl, _, rfl⟩

/-- **The reader of bytes always has an answer**: that of the reader of characters. -/
theorem Builder.readBytes_eq (b : Builder) (trimStart : Bool) (before rest : List Char) :
    b.readBytes (before ++ rest) trimStart (byteLength before) rest =
      some (b.resume trimStart (1 + countLines before) rest) := by
  have hopens : ('\x7b' : Char).utf8Size = 1 := by decide
  have hcloses : ('\x7d' : Char).utf8Size = 1 := by decide
  induction hlength : rest.length using Nat.strong_induction_on
    generalizing b trimStart before rest with
  | _ n ih =>
  rw [readBytes]
  cases hopen : splitAtPair '\x7b' '\x7b' rest with
  | none =>
    rw [findPair?, hopen, resume_of_no_pair hopen]
    rfl
  | some split =>
    obtain ⟨chunk, opened⟩ := split
    obtain ⟨hrest, -⟩ := splitAtPair_eq_some_iff.1 hopen
    have hline : lineAt? (before ++ rest) (byteLength before + byteLength chunk) =
        some (1 + countLines before + countLines chunk) := by
      have htake : takeBytes? (byteLength before + byteLength chunk) (before ++ rest) =
          some (before ++ chunk) :=
        takeBytes?_eq_some_iff.2 ⟨byteLength_append .., _, by rw [hrest, ← List.append_assoc]⟩
      rw [lineAt?, htake, Option.map_some, countLines_append, Nat.add_comm, ← Nat.add_assoc]
    rw [findPair?_of_split hopen]
    simp only [hline, dropBytes?_of_split hopens hopen, Option.bind_eq_bind, Option.bind_some]
    cases hclose : splitAtPair '\x7d' '\x7d' opened with
    | none =>
      rw [findPair?, hclose, resume_of_unterminated hopen hclose]
      rfl
    | some split =>
      obtain ⟨inner, more⟩ := split
      obtain ⟨hopened, -⟩ := splitAtPair_eq_some_iff.1 hclose
      rw [findPair?_of_split hclose, resume_of_cut hopen hclose]
      simp only [takeBytes?_of_split hopen, takeBytes?_of_split hclose, Option.bind_some]
      obtain ⟨hbefore, hafter⟩ := trims_ofInner (1 + countLines before + countLines chunk) inner
      have hbody : Directive.ofBody
          (Action.ofInner (1 + countLines before + countLines chunk) inner).body =
          directiveIn inner := rfl
      rw [hbody, hbefore, hafter]
      cases (directiveIn inner).bind _ with
      | error fault => rfl
      | ok b' =>
        have hread : rest = actionAfter chunk inner ++ more := by
          rw [hrest, hopened, actionAfter]
          simp
        have hdrop : dropBytes? (byteLength chunk + 2 + byteLength inner + 2) rest = some more :=
          dropBytes?_eq_some_iff.2 ⟨_, byteLength_actionAfter chunk inner, hread⟩
        dsimp only
        split
        · rename_i h
          cases h.symm.trans hdrop
        · rename_i h
          cases h.symm.trans hdrop
          have hmore : more.length < n := hlength ▸ length_of_dropBytes? (by omega) h
          have hnext :=
            ih _ hmore b' (marksAfter inner) (before ++ actionAfter chunk inner) more rfl
          have hlines : 1 + countLines (before ++ actionAfter chunk inner) =
              1 + countLines before + countLines chunk + countLines inner := by
            rw [countLines_append, countLines_actionAfter]
            omega
          rwa [List.append_assoc, ← hread, byteLength_append, byteLength_actionAfter, hlines]
            at hnext

theorem Template.readBytes_eq (text : String) :
    Template.readBytes text = some (Template.parse text) :=
  Builder.readBytes_eq {} false [] text.toList

end RecordStore
