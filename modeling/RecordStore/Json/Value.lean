import RecordStore.Decimal.Shortest
import RecordStore.SortedMap

/-!
# JSON values

Values as they are stored. A number is an integer as long as it fits into 64 bits, and a number in
double precision otherwise; the latter is kept by its bits, so that values can be compared. The
members of an object stand in ascending order of their names, each name once.
-/

namespace RecordStore

namespace Json

/-- A number: an integer that fits into 64 bits, signed or not, or a finite number in double
precision. -/
inductive Number
  | int (n : Int)
  | real (bits : UInt64)
  deriving DecidableEq, Repr

end Json

/-- **A JSON value.** -/
inductive Json
  | null
  | bool (b : Bool)
  | number (n : Json.Number)
  | string (s : String)
  | array (items : List Json)
  | object (members : List (String × Json))
  deriving Repr

namespace Json

/-- The sign bit of a number in double precision. -/
def isNegative (bits : UInt64) : Bool := bits >>> 63 = 1

/-- The exponents of the leading digit for which a number is written out without an exponent. -/
def positional (exponent : Int) : Bool := -5 ≤ exponent ∧ exponent ≤ 15

/-- Decimal digits with the point in place: written out while the leading digit stands for a power
of ten from −5 to 15, with at least one digit on each side of the point; otherwise one digit, the
others after a point, and a signed exponent. -/
def placePoint (digits : List Char) (exponent : Int) : List Char :=
  if positional exponent then
    if 0 ≤ exponent then
      let whole := exponent.toNat + 1
      if digits.length ≤ whole then
        digits ++ List.replicate (whole - digits.length) '0' ++ ['.', '0']
      else digits.take whole ++ '.' :: digits.drop whole
    else ['0', '.'] ++ List.replicate (-exponent - 1).toNat '0' ++ digits
  else
    let mantissa :=
      match digits with
      | [] => []
      | [d] => [d]
      | d :: rest => d :: '.' :: rest
    let sign := if exponent < 0 then '-' else '+'
    mantissa ++ 'e' :: sign :: (Nat.repr exponent.natAbs).toList

/-- The text of a finite number in double precision: its shortest decimal. -/
def renderReal (bits : UInt64) : List Char :=
  let sign := if isNegative bits then ['-'] else []
  let binary := Decimal.Binary.ofBits bits
  if binary.mantissa = 0 then sign ++ ['0', '.', '0']
  else
    let found := Decimal.shortest binary
    sign ++ placePoint (Nat.repr found.number).toList found.exponent

/-- The text of an integer. -/
def renderInt (n : Int) : List Char :=
  if n < 0 then '-' :: (Nat.repr n.natAbs).toList else (Nat.repr n.natAbs).toList

/-- The text of a number. -/
def Number.render : Number → List Char
  | .int n => renderInt n
  | .real bits => renderReal bits

end Json

end RecordStore
