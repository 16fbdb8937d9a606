/-!
# Text as bytes

UTF-8 in both directions. Reading reports the first place where the bytes are no text and what is
wrong there: a sequence cut off by the end, or bytes that no text holds. Bytes that are only
partly text can also be read as a mixture of characters and stray bytes.
-/

namespace RecordStore

/-- File contents and stored payloads. -/
abbrev Bytes := List UInt8

namespace Text

/-- The bytes of a text. -/
def utf8 (s : String) : Bytes := s.toList.flatMap String.utf8EncodeChar

/-- Whether `b` continues a sequence. -/
def isContinuation (b : UInt8) : Bool := 0x80 ≤ b && b ≤ 0xBF

/-- The six bits that a continuation byte carries. -/
def payloadBits (b : UInt8) : Nat := b.toNat % 64

/-- What the bytes at some place hold. -/
inductive Reading
  /-- A character, and the bytes after it. -/
  | char (c : Char) (rest : Bytes)
  /-- The end cuts a sequence off. -/
  | incomplete
  /-- The first `length` bytes cannot start any text. -/
  | invalid (length : Nat)
  deriving Repr

/-- The bytes that may follow the first byte of a sequence of three or four: not all, so that
every character has one form and the surrogates have none. -/
def secondRange (first : UInt8) : UInt8 × UInt8 :=
  if first = 0xE0 then (0xA0, 0xBF)
  else if first = 0xED then (0x80, 0x9F)
  else if first = 0xF0 then (0x90, 0xBF)
  else if first = 0xF4 then (0x80, 0x8F)
  else (0x80, 0xBF)

/-- Whether `b` may be the second byte after `first`. -/
def isSecond (first b : UInt8) : Bool :=
  (secondRange first).1 ≤ b && b ≤ (secondRange first).2

/-- Reads a sequence of three bytes after its first. -/
def readThree (first : UInt8) : Bytes → Reading
  | [] => .incomplete
  | second :: rest =>
    if !isSecond first second then .invalid 1
    else match rest with
      | [] => .incomplete
      | third :: rest =>
        if !isContinuation third then .invalid 2
        else
          .char (Char.ofNat
            (first.toNat % 16 * 4096 + payloadBits second * 64 + payloadBits third)) rest

/-- Reads a sequence of four bytes after its first. -/
def readFour (first : UInt8) : Bytes → Reading
  | [] => .incomplete
  | second :: rest =>
    if !isSecond first second then .invalid 1
    else match rest with
      | [] => .incomplete
      | third :: rest =>
        if !isContinuation third then .invalid 2
        else match rest with
          | [] => .incomplete
          | fourth :: rest =>
            if !isContinuation fourth then .invalid 3
            else
              .char (Char.ofNat
                (first.toNat % 8 * 262144 + payloadBits second * 4096 + payloadBits third * 64 +
                  payloadBits fourth)) rest

/-- Reads the sequence that `first` starts. -/
def readChar (first : UInt8) (rest : Bytes) : Reading :=
  if first < 0x80 then .char (Char.ofNat first.toNat) rest
  else if 0xC2 ≤ first && first ≤ 0xDF then
    match rest with
    | [] => .incomplete
    | second :: rest =>
      if !isContinuation second then .invalid 1
      else .char (Char.ofNat (first.toNat % 32 * 64 + payloadBits second)) rest
  else if 0xE0 ≤ first && first ≤ 0xEF then readThree first rest
  else if 0xF0 ≤ first && first ≤ 0xF4 then readFour first rest
  else .invalid 1

theorem readThree_length {first : UInt8} {bytes rest : Bytes} {c : Char}
    (h : readThree first bytes = .char c rest) : rest.length ≤ bytes.length := by
  unfold readThree at h
  grind

theorem readFour_length {first : UInt8} {bytes rest : Bytes} {c : Char}
    (h : readFour first bytes = .char c rest) : rest.length ≤ bytes.length := by
  unfold readFour at h
  grind

/-- A character takes at least the byte it starts with. -/
theorem readChar_length {first : UInt8} {bytes rest : Bytes} {c : Char}
    (h : readChar first bytes = .char c rest) : rest.length ≤ bytes.length := by
  unfold readChar at h
  split at h
  · grind
  · split at h
    · grind
    · split at h
      · exact readThree_length h
      · split at h
        · exact readFour_length h
        · contradiction

/-! ### Reading a whole text -/

/-- Why bytes are no text: the place is the number of bytes before the fault. -/
inductive Utf8Fault
  /-- The sequence at `index` is cut off by the end. -/
  | incomplete (index : Nat)
  /-- The `length` bytes at `index` start no text. -/
  | invalid (length index : Nat)
  deriving DecidableEq, Repr

/-- The wording of a fault. -/
def Utf8Fault.message : Utf8Fault → String
  | .incomplete index => s!"incomplete utf-8 byte sequence from index {index}"
  | .invalid length index => s!"invalid utf-8 sequence of {length} bytes from index {index}"

/-- The characters of `bytes`, which stand `index` bytes into the whole. -/
def decodeFrom (index : Nat) (bytes : Bytes) : Except Utf8Fault (List Char) :=
  match bytes with
  | [] => .ok []
  | first :: tail =>
    match h : readChar first tail with
    | .char c rest =>
      have : rest.length < tail.length + 1 := Nat.lt_succ_of_le (readChar_length h)
      (decodeFrom (index + (tail.length + 1 - rest.length)) rest).map (c :: ·)
    | .incomplete => .error (.incomplete index)
    | .invalid length => .error (.invalid length index)
termination_by bytes.length

/-- **The text that bytes hold**, or the first fault in them. -/
def decode (bytes : Bytes) : Except Utf8Fault String := (decodeFrom 0 bytes).map String.ofList

/-! ### Bytes that are partly text -/

/-- A character, or a byte that belongs to none. -/
inductive Glyph
  | char (c : Char)
  | stray (b : UInt8)
  deriving DecidableEq, Repr

/-- The number of bytes that a glyph takes. -/
def Glyph.size : Glyph → Nat
  | .char c => c.utf8Size
  | .stray _ => 1

/-- The bytes as characters as far as they are text, and as stray bytes elsewhere. -/
def glyphs (bytes : Bytes) : List Glyph :=
  match bytes with
  | [] => []
  | first :: tail =>
    match h : readChar first tail with
    | .char c rest =>
      have : rest.length < tail.length + 1 := Nat.lt_succ_of_le (readChar_length h)
      .char c :: glyphs rest
    | .incomplete | .invalid _ => .stray first :: glyphs tail
termination_by bytes.length

end Text

end RecordStore
