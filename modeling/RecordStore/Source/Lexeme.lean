import RecordStore.Source.Number
import RecordStore.Source.Quotation
import RecordStore.Text.Blank
import RecordStore.Text.Quoted

/-!
# From characters to lexemes

A source text is scanned from the left: white space and comments are skipped, and what is left falls
into lexemes: tokens, opening and closing delimiters, and comments that document what follows them.
Such a comment stands for an attribute, so it becomes the lexemes of that attribute. Scanning ends
at the end of the text or at the first place where no lexeme starts.
-/

namespace RecordStore.Source

open Text (isBlank isIdentifierStart isIdentifierContinue)

/-! ### White space and comments -/

/-- Whether a character separates tokens. The marks for the direction of writing do. -/
def isSeparator (c : Char) : Bool := isBlank c || c == '\u200e' || c == '\u200f'

/-- The rest of a line, without the carriage return at its end, and what follows. -/
def takeLine : List Char → List Char × List Char
  | [] => ([], [])
  | '\n' :: rest => ([], '\n' :: rest)
  | '\r' :: '\n' :: rest => ([], '\r' :: '\n' :: rest)
  | c :: rest => let (line, after) := takeLine rest; (c :: line, after)

/-- A block comment from inside: its characters up to the end of the outermost comment. Comments
nest; `depth` counts those that are open. -/
def takeBlock (depth : Nat) : List Char → Option (List Char × List Char)
  | [] | [_] => none
  | '/' :: '*' :: rest =>
    (takeBlock (depth + 1) rest).map fun (text, after) => ('/' :: '*' :: text, after)
  | '*' :: '/' :: rest =>
    match depth with
    | 0 | 1 => some (['*', '/'], rest)
    | d + 1 => (takeBlock d rest).map fun (text, after) => ('*' :: '/' :: text, after)
  | c :: d :: rest => (takeBlock depth (d :: rest)).map fun (text, after) => (c :: text, after)

/-- A block comment at the start of a text. -/
def blockComment : List Char → Option (List Char × List Char)
  | '/' :: '*' :: rest => (takeBlock 1 rest).map fun (text, after) => ('/' :: '*' :: text, after)
  | _ => none

/-- A comment that documents: what it says, whether it is about what it stands in, and its whole
text. -/
structure DocComment where
  message : List Char
  inner : Bool
  text : List Char
  rest : List Char
  deriving DecidableEq, Repr

/-- The text between the first three and the last two characters of a block comment. -/
def blockBody (text : List Char) : List Char := (text.drop 3).dropLast.dropLast

/-- Whether every carriage return stands before a line feed. -/
def returnsPaired : List Char → Bool
  | [] => true
  | '\r' :: '\n' :: rest => returnsPaired rest
  | '\r' :: _ => false
  | _ :: rest => returnsPaired rest

/-- A comment that documents, at the start of a text. -/
def docComment? (cs : List Char) : Option DocComment := do
  let comment ←
    match cs with
    | '/' :: '/' :: '!' :: rest =>
      let (line, after) := takeLine rest
      some ⟨line, true, '/' :: '/' :: '!' :: line, after⟩
    | '/' :: '/' :: '/' :: '/' :: _ => none
    | '/' :: '/' :: '/' :: rest =>
      let (line, after) := takeLine rest
      some ⟨line, false, '/' :: '/' :: '/' :: line, after⟩
    | '/' :: '*' :: '!' :: _ =>
      (blockComment cs).map fun (text, after) => ⟨blockBody text, true, text, after⟩
    | '/' :: '*' :: '*' :: '*' :: _ => none
    | '/' :: '*' :: '*' :: _ =>
      (blockComment cs).map fun (text, after) => ⟨blockBody text, false, text, after⟩
    | _ => none
  if returnsPaired comment.message then some comment else none

/-- A comment that documents nothing, at the start of a text. -/
def plainComment? (cs : List Char) : Option (List Char × List Char) :=
  match cs with
  | '/' :: '/' :: rest =>
    let documents :=
      match rest with
      | '!' :: _ => true
      | '/' :: '/' :: _ => false
      | '/' :: _ => true
      | _ => false
    if documents then none
    else let (line, after) := takeLine rest; some ('/' :: '/' :: line, after)
  | '/' :: '*' :: '*' :: '/' :: rest => some (['/', '*', '*', '/'], rest)
  | '/' :: '*' :: rest =>
    let documents :=
      match rest with
      | '!' :: _ => true
      | '*' :: '*' :: _ => false
      | '*' :: _ => true
      | _ => false
    if documents then none else blockComment cs
  | _ => none

/-! ### Tokens -/

/-- The punctuation character at the start of a text; a comment starts with none. -/
def startingSign? : List Char → Option Sign
  | '/' :: '/' :: _ => none
  | '/' :: '*' :: _ => none
  | c :: _ => Sign.ofChar? c
  | [] => none

/-- Whether a text starts with punctuation. -/
def startsPunct (cs : List Char) : Bool := (startingSign? cs).isSome

/-- What was scanned: a token, its text, and what follows. -/
structure ScannedToken where
  token : Token
  text : List Char
  rest : List Char
  deriving DecidableEq, Repr

/-- A scanned literal. -/
def ScannedToken.literal? (kind : LiteralKind) (text rest : List Char) : Option ScannedToken :=
  (Literal.ofText? kind (String.ofList text)).map fun l => ⟨.literal l, text, rest⟩

theorem ScannedToken.exists_of_literal? {kind : LiteralKind} {text rest : List Char}
    {t : ScannedToken} (h : literal? kind text rest = some t) :
    ∃ l, t = ⟨.literal l, text, rest⟩ := by
  obtain ⟨l, -, rfl⟩ := Option.map_eq_some_iff.1 h
  exact ⟨l, rfl⟩

/-- A literal in quotes that starts with some characters, with the name that may follow it. -/
def quotedLiteral (mark : List Char) (kind : String → LiteralKind) (scanned : Option Quotation) :
    Option ScannedToken := do
  let q ← scanned
  let text := mark ++ q.text
  match scanName q.rest with
  | some (suffix, rest) =>
    ScannedToken.literal? (kind (String.ofList q.value)) (text ++ suffix) rest
  | none => ScannedToken.literal? (kind (String.ofList q.value)) text q.rest

/-- A literal in quotes at the start of a text. -/
def scanQuotedLiteral (cs : List Char) : Option ScannedToken :=
  match cs with
  | '"' :: rest => quotedLiteral ['"'] .string (scanQuoted .text .plain rest)
  | 'r' :: rest => quotedLiteral ['r'] .string (scanRaw .text rest)
  | 'b' :: '"' :: rest =>
    quotedLiteral ['b', '"'] (fun _ => .byteString) (scanQuoted .byte .plain rest)
  | 'b' :: 'r' :: rest => quotedLiteral ['b', 'r'] (fun _ => .byteString) (scanRaw .byte rest)
  | 'c' :: '"' :: rest =>
    quotedLiteral ['c', '"'] (fun _ => .cString) (scanQuoted .terminated .plain rest)
  | 'c' :: 'r' :: rest => quotedLiteral ['c', 'r'] (fun _ => .cString) (scanRaw .terminated rest)
  | 'b' :: '\'' :: rest =>
    quotedLiteral ['b', '\''] (fun _ => .byte) (scanSingle .byte rest)
  | '\'' :: rest => quotedLiteral ['\''] (fun _ => .character) (scanSingle .text rest)
  | _ => none

/-- A literal at the start of a text. -/
def scanLiteral (cs : List Char) : Option ScannedToken :=
  match scanQuotedLiteral cs with
  | some l => some l
  | none =>
    match scanFloat cs with
    | some (text, rest) => ScannedToken.literal? .float text rest
    | none => (scanInteger cs).bind fun (text, rest) => ScannedToken.literal? .integer text rest

/-- The beginnings that no word has, although letters stand first. -/
def quoteMarks : List (List Char) :=
  ["r\"", "r#\"", "r##", "b\"", "b'", "br\"", "br#", "c\"", "cr\"", "cr#"].map String.toList

/-- A word at the start of a text, raw or not: its text and what follows. -/
def scanWord (cs : List Char) : Option (List Char × List Char) :=
  match cs with
  | 'r' :: '#' :: rest =>
    match scanName rest with
    | some (name, after) =>
      if neverRaw.contains (String.ofList name) then none else some ('r' :: '#' :: name, after)
    | none => none
  | _ => scanName cs

/-- The token for a quote that starts no character: with the word after it a lifetime. -/
def scanLifetime (rest : List Char) : Option ScannedToken := do
  let (name, after) ← scanWord rest
  let broken :=
    match after with
    | '\'' :: _ => true
    | '#' :: _ => rest.take 2 ≠ ['r', '#']
    | _ => false
  if broken then none
  else if (scanLiteral rest).isSome || quoteMarks.any (·.isPrefixOf rest) then
    some ⟨.punct (.of '\'') true, ['\''], rest⟩
  else some ⟨.lifetime (String.ofList name), '\'' :: name, after⟩

/-- The mark of an error, which counts as a literal. -/
def faultMark : List Char := "(/*ERROR*/)".toList

/-- The literal that the mark of an error is. -/
def faultLiteral : Literal := ⟨.fault, String.ofList faultMark, by decide +kernel⟩

/-- **A token at the start of a text**, delimiters apart. -/
def scanToken (cs : List Char) : Option ScannedToken :=
  match scanLiteral cs with
  | some l => some l
  | none =>
    match cs with
    | '\'' :: rest => scanLifetime rest
    | c :: rest =>
      match startingSign? cs with
      | some s => some ⟨.punct s (startsPunct rest), [c], rest⟩
      | none =>
        let word := if quoteMarks.any (·.isPrefixOf cs) then none else scanWord cs
        match word with
        | some (text, after) =>
          (Word.ofText? (String.ofList text)).map fun w => ⟨.word w, text, after⟩
        | none =>
          if faultMark.isPrefixOf cs then
            some ⟨.literal faultLiteral, faultMark, cs.drop faultMark.length⟩
          else none
    | [] => none

/-! ### Lexemes -/

/-- A lexeme. -/
inductive Lexeme
  | token (t : Token)
  | opening (d : Delimiter)
  | closing (d : Delimiter)
  deriving DecidableEq, Repr

/-- The delimiter that a character opens. -/
def opening? : Char → Option Delimiter
  | '(' => some .parenthesis
  | '[' => some .bracket
  | '\x7b' => some .brace
  | _ => none

/-- The delimiter that a character closes. -/
def closing? : Char → Option Delimiter
  | ')' => some .parenthesis
  | ']' => some .bracket
  | '\x7d' => some .brace
  | _ => none

/-- The word for documentation. -/
def docWord : Word := .plain ⟨"doc", by decide +kernel, by decide⟩

/-- The string that a message is. -/
def quotedMessage (message : String) : Literal :=
  ⟨.string message, Text.quoted message, by simp [Text.quoted, marksLiteral]⟩

/-- The lexemes of the attribute that a comment stands for. -/
def DocComment.lexemes (comment : DocComment) : List Lexeme :=
  let message := String.ofList comment.message
  [.token (.punct (.of '#') false)] ++
    (if comment.inner then [.token (.punct (.of '!') false)] else []) ++
    [.opening .bracket, .token (.word docWord), .token (.punct (.of '=') false),
      .token (.literal (quotedMessage message)), .closing .bracket]

/-- What a scanner finds at the start of a text. -/
inductive Step
  /-- The end of the text. -/
  | finished
  /-- Characters that separate tokens. -/
  | skip (text rest : List Char)
  /-- Some lexemes that take the same characters. -/
  | lexemes (ls : List Lexeme) (text rest : List Char)
  /-- Nothing that could stand here. -/
  | fault
  deriving DecidableEq, Repr

/-- **What stands at the start of a text.** -/
def step (cs : List Char) : Step :=
  match cs with
  | [] => .finished
  | c :: rest =>
    if isSeparator c then .skip [c] rest
    else
      match plainComment? cs with
      | some (text, after) => .skip text after
      | none =>
        match docComment? cs with
        | some comment => .lexemes comment.lexemes comment.text comment.rest
        | none =>
          match opening? c, closing? c with
          | some d, _ =>
            if faultMark.isPrefixOf cs then
              .lexemes [.token (.literal faultLiteral)] faultMark (cs.drop faultMark.length)
            else .lexemes [.opening d] [c] rest
          | none, some d => .lexemes [.closing d] [c] rest
          | none, none =>
            match scanToken cs with
            | some t => .lexemes [.token t.token] t.text t.rest
            | none => .fault

/-- The lexemes of a text with their places, and the place where scanning had to stop, if it did
not reach the end. -/
structure Scan where
  lexemes : List (Lexeme × Span)
  fault : Option Position
  deriving DecidableEq, Repr

/-- Scans a text from a place on; `fuel` bounds the steps. -/
def scanFrom (p : Position) (cs : List Char) : Nat → Scan
  | 0 => ⟨[], some p⟩
  | fuel + 1 =>
    match step cs with
    | .finished => ⟨[], none⟩
    | .fault => ⟨[], some p⟩
    | .skip text rest => scanFrom (p.advance text) rest fuel
    | .lexemes ls text rest =>
      let stop := p.advance text
      let more := scanFrom stop rest fuel
      { more with lexemes := ls.map (·, ⟨p, stop⟩) ++ more.lexemes }

/-- **Scans a text.** Every step takes a character at least, so its length bounds the steps. -/
def scan (p : Position) (cs : List Char) : Scan := scanFrom p cs (cs.length + 1)

end RecordStore.Source
