import RecordStore.Source.Token

/-!
# What can be wrong with source text

A text may be no sequence of token trees, or the trees may not form what was asked for. An error
tells what was expected and where. At the end of a group this is its closing delimiter, and at the
end of the whole text its start.
-/

namespace RecordStore.Source

/-- What follows a cast and must not. -/
inductive CastSuffix
  | await
  | methodCall
  | fieldAccess
  | questionMark
  | indexing
  | call
  deriving DecidableEq, Repr

/-- The wording for what follows a cast. -/
def CastSuffix.describe : CastSuffix → String
  | .await => "`.await`"
  | .methodCall => "a method call"
  | .fieldAccess => "a field access"
  | .questionMark => "`?`"
  | .indexing => "indexing"
  | .call => "a function call"

/-- What is wrong at a place. -/
inductive SyntaxFault
  /-- The text is no sequence of token trees. -/
  | notTokens
  /-- One of these was expected. -/
  | expected (what : List String)
  /-- Nothing in particular was expected. -/
  | unexpected
  /-- A name was expected, and a word stands there that cannot be one. -/
  | keyword (word : String)
  /-- A group, or the whole text, goes on where it should have ended. -/
  | leftover (closing : Option Delimiter)
  /-- A statement has to end here. -/
  | unfinishedStatement
  | objectWithoutTrait
  | anonymousWithoutTrait
  | captureNotAllowed
  | conditionalConstNotAllowed
  | constNotAllowed
  | chainedComparison
  | castSuffix (suffix : CastSuffix)
  | attributeInAttribute
  | attributeOnRange
  | missingUpperBound
  | openRangeInSlice
  | labelNeedsParentheses
  | secondReceiver
  | misplacedReceiver
  | negativeInherent
  | suffixedIndex
  | indexTooLarge
  | indexNoNumber
  /-- The grammar is nested deeper than the parser follows it. -/
  | tooDeep
  deriving DecidableEq, Repr

/-- Alternatives in words. -/
def alternatives : List String → String
  | [] => "nothing"
  | [a] => a
  | [a, b] => s!"{a} or {b}"
  | many => "one of: " ++ String.intercalate ", " many

/-- The wording of a fault. -/
def SyntaxFault.message : SyntaxFault → String
  | .notTokens => "cannot parse string into token stream"
  | .expected what => "expected " ++ alternatives what
  | .unexpected => "unexpected token"
  | .keyword word => s!"expected identifier, found keyword `{word}`"
  | .leftover none => "unexpected token"
  | .leftover (some d) => "unexpected token, expected `" ++ String.ofList [d.closing] ++ "`"
  | .unfinishedStatement => "unexpected token, expected `;`"
  | .objectWithoutTrait => "at least one trait is required for an object type"
  | .anonymousWithoutTrait => "at least one trait must be specified"
  | .captureNotAllowed => "`use<...>` precise capturing syntax is not allowed here"
  | .conditionalConstNotAllowed => "`[const]` is not allowed here"
  | .constNotAllowed => "`const` is not allowed here"
  | .chainedComparison => "comparison operators cannot be chained"
  | .castSuffix suffix => s!"casts cannot be followed by {suffix.describe}"
  | .attributeInAttribute => "unexpected attribute inside of attribute"
  | .attributeOnRange => "attributes are not allowed on range expressions starting with `..`"
  | .missingUpperBound => "expected range upper bound"
  | .openRangeInSlice => "range pattern is not allowed unparenthesized inside slice pattern"
  | .labelNeedsParentheses => "parentheses required"
  | .secondReceiver => "unexpected second method receiver"
  | .misplacedReceiver => "unexpected method receiver"
  | .negativeInherent => "inherent impls cannot be negative"
  | .suffixedIndex => "expected unsuffixed integer"
  | .indexTooLarge => "number too large to fit in target type"
  | .indexNoNumber => "invalid digit found in string"
  | .tooDeep => "nesting too deep"

/-- **A syntax error**: what is wrong, where, and whether the input ended there. -/
structure SyntaxError where
  fault : SyntaxFault
  span : Span
  atEnd : Bool := false
  deriving DecidableEq, Repr

/-- The wording of an error. -/
def SyntaxError.message (e : SyntaxError) : String :=
  if e.atEnd then
    match e.fault with
    | .unexpected => "unexpected end of input"
    | fault => "unexpected end of input, " ++ fault.message
  else e.fault.message

end RecordStore.Source
