import RecordStore.Text.Alphanumeric
import RecordStore.Text.Blank

/-!
# Spacing of token text

Token text has blanks between all tokens. Types and paths are usually written more tightly: a space
stands between two words, after a comma or semicolon, and around an arrow or one of a few operators.
The pieces between the blanks alone decide, so a text that is spaced already stays as it is.
-/

namespace RecordStore.Text

/-- Whether a character belongs to words, be it in a name or a lifetime. -/
def isWordChar (c : Char) : Bool := isAlphanumeric c || c == '_' || c == '\''

/-- The operators with a space on both sides. -/
def spacedOperators : List (List Char) := [['-', '>'], ['='], ['+'], ['=', '>']]

/-- Whether a space stands between two neighbouring pieces. -/
def spaceBetween (left right : List Char) : Bool :=
  (left.getLast?.any isWordChar && right.head?.any isWordChar) ||
    left.getLast?.any (fun c => c == ',' || c == ';') ||
    spacedOperators.contains left || spacedOperators.contains right

/-- Pieces in order, with the spaces that belong between them. -/
def joinPieces : List (List Char) → List Char
  | [] => []
  | [piece] => piece
  | left :: right :: rest =>
    if spaceBetween left right then left ++ ' ' :: joinPieces (right :: rest)
    else left ++ joinPieces (right :: rest)

/-- **Token text in canonical spacing.** -/
def respaceChars (cs : List Char) : List Char := joinPieces (words cs)

/-- Token text in canonical spacing. -/
def respace (text : String) : String := String.ofList (respaceChars text.toList)

end RecordStore.Text
