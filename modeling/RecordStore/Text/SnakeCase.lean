import RecordStore.Text.Alphanumeric
import RecordStore.Text.Casing

/-!
# Snake case

A name in snake case is its words in lower case, joined by low lines. Characters that are neither
letters nor numbers separate words; inside such a run a new word starts where the case goes up
(`userAccount` is `user`, `account`) and before the last capital of a run of capitals that goes on
in lower case (`HTTPServer` is `http`, `server`). Characters without case, digits say, belong to
the word they follow.
-/

namespace RecordStore.Text

/-- The case of the last cased character of the word under way. -/
inductive WordCase
  /-- The word has no cased character yet. -/
  | none
  | lower
  | upper
  deriving DecidableEq, Repr

/-- The case after reading `c` in a word whose last cased character had case `before`. -/
def WordCase.next (before : WordCase) (c : Char) : WordCase :=
  if isLowercase c then .lower else if isUppercase c then .upper else before

/-- Splits one run of letters and numbers into words. `current` holds the characters of the word
under way, last one first. -/
def splitCased (before : WordCase) (current : List Char) : List Char → List (List Char)
  | [] => if current.isEmpty then [] else [current.reverse]
  | [c] => [(c :: current).reverse]
  | c :: next :: rest =>
    if before.next c = .lower && isUppercase next then
      (c :: current).reverse :: splitCased .none [] (next :: rest)
    else if before = .upper && isUppercase c && isLowercase next then
      current.reverse :: splitCased .none [c] (next :: rest)
    else splitCased (before.next c) (c :: current) (next :: rest)

/-- The longest runs of letters and numbers; `current` holds the run under way, last character
first. -/
def alphanumericRuns (current : List Char) : List Char → List (List Char)
  | [] => [current.reverse]
  | c :: rest =>
    if isAlphanumeric c then alphanumericRuns (c :: current) rest
    else current.reverse :: alphanumericRuns [] rest

/-- A word in lower case: a capital sigma at its end takes the final form. -/
def lowercaseWord : List Char → List Char
  | [] => []
  | [c] => if c = 'Σ' then ['ς'] else toLowercase c
  | c :: rest => toLowercase c ++ lowercaseWord rest

/-- **The snake-case form of a name.** -/
def snakeCase (name : String) : String :=
  let words := (alphanumericRuns [] name.toList).flatMap (splitCased .none [])
  String.intercalate "_" (words.map fun w => String.ofList (lowercaseWord w))

end RecordStore.Text
