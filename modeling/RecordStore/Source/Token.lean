import RecordStore.Text.Identifier

/-!
# Tokens of a source text

A source text is a sequence of token trees: words, punctuation, literals and lifetimes, and groups
of token trees between delimiters. Every tree remembers where it stands. Trees are printed with one
space between neighbours, unless a punctuation character is joined to what follows it.
-/

namespace RecordStore.Source

/-! ### Places -/

/-- A place in a text: the line, counted from 1, and the number of characters before it there. -/
structure Position where
  line : Nat
  column : Nat
  deriving DecidableEq, Repr

namespace Position

/-- The start of a text. -/
def start : Position := ⟨1, 0⟩

/-- The place after one more character. -/
def next (p : Position) (c : Char) : Position :=
  if c = '\n' then ⟨p.line + 1, 0⟩ else ⟨p.line, p.column + 1⟩

/-- The place after some text. -/
def advance (p : Position) (text : List Char) : Position := text.foldl next p

end Position

/-- The part of a text from one place up to another. -/
structure Span where
  start : Position
  stop : Position
  deriving DecidableEq, Repr

/-- The part that stands for a text as a whole: nothing at its start. -/
def Span.whole : Span := ⟨.start, .start⟩

/-! ### Words -/

/-- The words that cannot be names. -/
def reservedWords : List String :=
  ["_", "abstract", "as", "async", "await", "become", "box", "break", "const", "continue", "crate",
    "do", "dyn", "else", "enum", "extern", "false", "final", "fn", "for", "if", "impl", "in", "let",
    "loop", "macro", "match", "mod", "move", "mut", "override", "priv", "pub", "ref", "return",
    "Self", "self", "static", "struct", "super", "trait", "true", "try", "type", "typeof", "unsafe",
    "unsized", "use", "virtual", "where", "while", "yield"]

/-- The names that have a meaning of their own in some places. -/
def contextualWords : List String := ["auto", "builtin", "default", "raw", "safe", "union"]

/-- Whether the grammar asks for a word somewhere. -/
def isKnown (text : String) : Bool := reservedWords.contains text || contextualWords.contains text

/-- The words that have no raw form. -/
def neverRaw : List String := ["_", "super", "self", "Self", "crate"]

/-- Whether characters are those of a word; `r#` in front makes it a raw one. -/
def isWordText : List Char → Bool
  | 'r' :: '#' :: rest => Text.isIdentifier rest && !neverRaw.contains (String.ofList rest)
  | cs => Text.isIdentifier cs

/-- A word that the grammar asks for somewhere. -/
structure KnownWord where
  text : String
  known : isKnown text = true
  deriving DecidableEq, Repr

/-- A name that means nothing to the grammar. -/
structure PlainName where
  text : String
  wellFormed : isWordText text.toList = true
  unknown : isKnown text = false
  deriving DecidableEq, Repr

/-- **A word of a source text.** -/
inductive Word
  | known (w : KnownWord)
  | plain (n : PlainName)
  deriving DecidableEq, Repr

namespace Word

/-- The text of a word. -/
def text : Word → String
  | known w => w.text
  | plain n => n.text

/-- The word with a given text, if there is one. -/
def ofText? (text : String) : Option Word :=
  if known : isKnown text = true then some (.known ⟨text, known⟩)
  else if wellFormed : isWordText text.toList = true then
    some (.plain ⟨text, wellFormed, by simpa using known⟩)
  else none

/-- A word that the grammar asks for. -/
def of (text : String) (known : isKnown text = true := by exact Eq.refl true) : Word :=
  .known ⟨text, known⟩

/-- Whether a word is a certain one that the grammar asks for. -/
def is : Word → String → Bool
  | known w, text => w.text == text
  | plain _, _ => false

/-- Whether a word can be a name. -/
def isName : Word → Bool
  | known w => contextualWords.contains w.text
  | plain _ => true

@[simp] theorem ofText?_text (w : Word) : ofText? w.text = some w := by
  cases w with
  | known w => simp [ofText?, text, w.known]
  | plain n => simp [ofText?, text, n.unknown, n.wellFormed]

end Word

/-! ### Punctuation -/

/-- The punctuation characters. -/
def punctuation : List Char :=
  ['~', '!', '@', '#', '$', '%', '^', '&', '*', '-', '=', '+', '|', ';', ':', ',', '<', '.', '>',
    '/', '?', '\'']

/-- A punctuation character. -/
@[ext]
structure Sign where
  char : Char
  isPunctuation : punctuation.contains char = true
  deriving DecidableEq, Repr

namespace Sign

/-- The sign that a character is, if it is one. -/
def ofChar? (c : Char) : Option Sign :=
  if isPunctuation : punctuation.contains c = true then some ⟨c, isPunctuation⟩ else none

/-- A punctuation character that is known to be one. -/
def of (c : Char) (isPunctuation : punctuation.contains c = true := by exact Eq.refl true) : Sign :=
  ⟨c, isPunctuation⟩

@[simp] theorem ofChar?_char (s : Sign) : ofChar? s.char = some s := by
  rw [ofChar?, dif_pos s.isPunctuation]

end Sign

/-! ### Literals -/

/-- The kinds of literals. -/
inductive LiteralKind
  /-- A string, with the text that it stands for. -/
  | string (value : String)
  | byteString
  | cString
  | byte
  | character
  | integer
  | float
  /-- The mark of an error in a text that was generated. -/
  | fault
  deriving DecidableEq, Repr

/-- Whether a character tells a literal from a name: a quote, a digit, or the parenthesis that the
mark of an error starts with. -/
def marksLiteral (c : Char) : Bool := c == '"' || c == '\'' || c.isDigit || c == '('

/-- A literal with its text. -/
structure Literal where
  kind : LiteralKind
  text : String
  marked : text.toList.any marksLiteral = true
  deriving DecidableEq, Repr

namespace Literal

/-- The literal with a given text, if there is one. -/
def ofText? (kind : LiteralKind) (text : String) : Option Literal :=
  if marked : text.toList.any marksLiteral = true then some ⟨kind, text, marked⟩ else none

theorem marked_toString (n : Nat) : (toString n).toList.any marksLiteral = true := by
  obtain ⟨c, cs, hcs⟩ := List.exists_cons_of_ne_nil (Nat.toDigits_ne_nil (n := n) (b := 10))
  have hdigit : c.isDigit = true :=
    Nat.isDigit_of_mem_toDigits (n := n) (b := 10) (by decide) (by decide)
      (hcs ▸ List.mem_cons_self)
  change (String.ofList (Nat.toDigits 10 n)).toList.any marksLiteral = true
  simp [hcs, marksLiteral, hdigit]

/-- A number, written in decimal. -/
def ofNat (n : Nat) : Literal := ⟨.integer, toString n, marked_toString n⟩

end Literal

/-! ### Token trees -/

/-- The kinds of brackets. -/
inductive Delimiter
  | parenthesis
  | brace
  | bracket
  deriving DecidableEq, Repr

/-- The closing character. -/
def Delimiter.closing : Delimiter → Char
  | .parenthesis => ')'
  | .brace => '\x7d'
  | .bracket => ']'

/-- A token. -/
inductive Token
  | word (w : Word)
  /-- A punctuation character, and whether another one follows it directly. -/
  | punct (s : Sign) (joint : Bool)
  | literal (l : Literal)
  /-- A lifetime, by the word after its quote. -/
  | lifetime (name : String)
  deriving DecidableEq, Repr

/-- **A token tree**: a token, or a group between delimiters. -/
inductive TokenTree
  | token (t : Token) (span : Span)
  | group (d : Delimiter) (opening closing : Span) (content : List TokenTree)
  deriving Repr

/-- Token trees in order. -/
abbrev Tokens := List TokenTree

namespace TokenTree

/-- The part of the text that a tree takes. -/
def span : TokenTree → Span
  | .token _ s => s
  | .group _ opening closing _ => ⟨opening.start, closing.stop⟩

/-- Where an error about a tree is reported: at a group this is the opening delimiter, and at a
lifetime the quote. -/
def place : TokenTree → Span
  | .token (.lifetime _) s => ⟨s.start, s.start.next '\''⟩
  | .token _ s => s
  | .group _ opening _ _ => opening

end TokenTree

/-! ### Printing -/

/-- The text of a token. -/
def Token.print : Token → List Char
  | .word w => w.text.toList
  | .punct s _ => [s.char]
  | .literal l => l.text.toList
  | .lifetime name => '\'' :: name.toList

/-- Whether a token is joined to the one after it. -/
def Token.isJoint : Token → Bool
  | .punct _ joint => joint
  | _ => false

mutual

/-- The text of one tree. -/
def TokenTree.print : TokenTree → List Char
  | .token t _ => t.print
  | .group .parenthesis _ _ content => '(' :: printTrees content ++ [')']
  | .group .bracket _ _ content => '[' :: printTrees content ++ [']']
  | .group .brace _ _ [] => ['\x7b', ' ', '\x7d']
  | .group .brace _ _ (tree :: rest) =>
    '\x7b' :: ' ' :: printTrees (tree :: rest) ++ [' ', '\x7d']

/-- The text of trees in order. -/
def printTrees : List TokenTree → List Char
  | [] => []
  | [tree] => tree.print
  | .token t s :: rest =>
    let text := TokenTree.print (.token t s)
    if t.isJoint then text ++ printTrees rest else text ++ ' ' :: printTrees rest
  | tree :: rest => tree.print ++ ' ' :: printTrees rest

end

/-- **The text of trees**, with one space between neighbours that are not joined. -/
def Tokens.print (tokens : Tokens) : String := String.ofList (printTrees tokens)

/-! ### Trees that are written, not read -/

/-- A token without a place of its own. -/
def Token.bare (t : Token) : TokenTree := .token t .whole

/-- Punctuation as it is written on its own: its characters joined, the last one not. -/
def punctTokens (text : String) : Tokens :=
  go (text.toList.filterMap Sign.ofChar?)
where
  go : List Sign → Tokens
    | [] => []
    | [s] => [(Token.punct s false).bare]
    | s :: rest => (Token.punct s true).bare :: go rest

/-- A word that the grammar asks for, without a place of its own. -/
def wordToken (text : String) (known : isKnown text = true := by exact Eq.refl true) : TokenTree :=
  (Token.word (.of text known)).bare

/-- A group without a place of its own. -/
def groupOf (d : Delimiter) (content : Tokens) : TokenTree := .group d .whole .whole content

end RecordStore.Source
