import RecordStore.Source.Ast
import RecordStore.Source.Parser

/-!
# The recursion in the grammar

Types, expressions, patterns, statements and items contain each other. The parsers for them are
therefore written over a `Grammar`, which stands for the parsers of what lies one level deeper.
Levels are tied together at the end, as many of them as the tokens of a text can need.
-/

namespace RecordStore.Source

/-- How strongly the operators bind, from the weakest up. -/
inductive Precedence
  | jump
  | assign
  | range
  | disjunction
  | conjunction
  | letBinding
  | compare
  | bitOr
  | bitXor
  | bitAnd
  | shift
  | sum
  | product
  | cast
  deriving DecidableEq, Repr

/-- The position of a precedence in their order. -/
def Precedence.rank : Precedence → Nat
  | jump => 0
  | assign => 1
  | range => 2
  | disjunction => 3
  | conjunction => 4
  | letBinding => 5
  | compare => 6
  | bitOr => 7
  | bitXor => 8
  | bitAnd => 9
  | shift => 10
  | sum => 11
  | product => 12
  | cast => 13

/-- Which forms a bound may take. -/
structure BoundRules where
  /-- It may name captured parameters. -/
  capture : Bool := false
  /-- It may be marked as constant. -/
  constant : Bool := false

/-- **The parsers of one level.** -/
structure Grammar where
  /-- A type, with a sum of bounds or without. -/
  type : Bool → Parser TypeExpr
  /-- A bound. The answer tells whether it is a trait. -/
  bound : BoundRules → Parser Bool
  /-- A quantifier over lifetimes. -/
  quantifier : Parser Unit
  /-- An expression, with struct literals or without. -/
  expr : Bool → Parser Expression
  /-- An expression that ends as early as it can. -/
  early : Parser ExpressionForm
  /-- An expression without binary operators. -/
  unary : Bool → Parser ExpressionForm
  /-- The binary operators after an expression that bind at least so strongly. -/
  operators : Bool → Precedence → ExpressionForm → Parser ExpressionForm
  /-- A pattern without alternatives. -/
  pattern : Parser PatternForm
  /-- The statements of a block. -/
  statements : Parser Unit
  /-- Named fields in braces. -/
  fields : Parser (List Field)
  /-- An item, after its attributes. -/
  item : Parser Item
  /-- What an import names. -/
  useTree : Bool → Parser Unit

end RecordStore.Source
