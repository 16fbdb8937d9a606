/-!
# The shortest decimal for a binary number

A binary floating-point number stands for all the reals that round to it. Its shortest decimal is
the one with the fewest digits among the reals of that interval, and of two such decimals the
nearer to the number. Everything is computed with natural numbers: for 1, 2, … digits the two
neighbours of the number on the grid of decimals with that many digits are tested, and the first
grid with a hit decides. Seventeen digits always suffice.
-/

namespace RecordStore.Decimal

/-- A positive binary number `mantissa · 2 ^ exponent` of a format; `isPower` tells that the numbers
below it are spaced half as far as those above. -/
structure Binary where
  mantissa : Nat
  exponent : Int
  isPower : Bool
  deriving DecidableEq, Repr

/-- The finite positive number of the given bits in double precision, the sign ignored. -/
def Binary.ofBits (bits : UInt64) : Binary :=
  let biased : Nat := bits.toNat / Nat.pow 2 52 % Nat.pow 2 11
  let fraction : Nat := bits.toNat % Nat.pow 2 52
  if biased = 0 then ⟨fraction, -1074, false⟩
  else ⟨Nat.pow 2 52 + fraction, (biased : Int) - 1075, fraction = 0 ∧ 1 < biased⟩

/-- A decimal number `0.d₁d₂… · 10 ^ point`: its digits as one number, how many there are, and where
the point stands. -/
structure Digits where
  /-- The digits as a number. -/
  number : Nat
  /-- The power of ten of the leading digit. -/
  exponent : Int
  deriving DecidableEq, Repr

/-- The number of decimal digits of `n`, at least one. -/
def digitCount (n : Nat) : Nat := (Nat.toDigits 10 n).length

/-- The interval of a number over a common scale: `low`, the number itself and `high` are to be
divided by `scale`, and the ends belong to the interval if `closed`. -/
structure Interval where
  low : Nat
  middle : Nat
  high : Nat
  scale : Nat
  closed : Bool

/-- The reals that round to a number. -/
def Interval.ofBinary (b : Binary) : Interval :=
  let up := Nat.pow 2 (b.exponent - 2).toNat
  let down := Nat.pow 2 (2 - b.exponent).toNat
  let below := if b.isPower then 1 else 2
  { low := (4 * b.mantissa - below) * up
    middle := 4 * b.mantissa * up
    high := (4 * b.mantissa + 2) * up
    scale := down
    closed := b.mantissa % 2 = 0 }

/-- Whether `n / d` lies in the interval. -/
def Interval.contains (i : Interval) (n d : Nat) : Bool :=
  if i.closed then i.low * d ≤ n * i.scale ∧ n * i.scale ≤ i.high * d
  else i.low * d < n * i.scale ∧ n * i.scale < i.high * d

/-- The power of ten of the leading digit of `n / d`, found from an estimate at most `fuel` off. -/
def leadingExponent (n d : Nat) : Nat → Int → Int
  | 0, e => e
  | fuel + 1, e =>
    if n * Nat.pow 10 (-e).toNat < d * Nat.pow 10 e.toNat then leadingExponent n d fuel (e - 1)
    else if d * Nat.pow 10 (e + 1).toNat ≤ n * Nat.pow 10 (-(e + 1)).toNat then
      leadingExponent n d fuel (e + 1)
    else e

/-- The nearest decimal with `count` digits in the interval, the leading digit standing for
`10 ^ exponent`. Of two at the same distance it is the one with an even last digit. -/
def nearestOnGrid (i : Interval) (exponent : Int) (count : Nat) : Option Nat :=
  let unit := exponent - (count : Int) + 1
  let up := Nat.pow 10 unit.toNat
  let down := Nat.pow 10 (-unit).toNat
  let n := i.middle * down
  let d := i.scale * up
  let below := n / d
  let remainder := n % d
  let fits := fun k : Nat => i.contains (k * up) down
  let preferBelow := 2 * remainder < d ∨ (2 * remainder = d ∧ below % 2 = 0)
  match fits below, fits (below + 1) with
  | true, true => some (if preferBelow then below else below + 1)
  | true, false => some below
  | false, true => some (below + 1)
  | false, false => none

/-- The first grid from `count` digits on that has a decimal in the interval. -/
def searchGrids (i : Interval) (exponent : Int) : Nat → Nat → Digits
  | 0, count => ⟨(i.middle * Nat.pow 10 count) / i.scale, exponent⟩
  | fuel + 1, count =>
    match nearestOnGrid i exponent count with
    | some n =>
      if Nat.pow 10 count ≤ n then ⟨n / 10, exponent + 1⟩ else ⟨n, exponent⟩
    | none => searchGrids i exponent fuel (count + 1)

/-- The digits without zeros at the end; `fuel` bounds their number. -/
def dropZeros : Nat → Nat → Nat
  | 0, n => n
  | fuel + 1, n => if n % 10 = 0 ∧ n ≠ 0 then dropZeros fuel (n / 10) else n

/-- **The shortest decimal** of a positive number. -/
def shortest (b : Binary) : Digits :=
  let i := Interval.ofBinary b
  let bitExponent : Int := b.exponent + (Nat.log2 b.mantissa : Int)
  let exponent := leadingExponent i.middle i.scale 800 (bitExponent * 30103 / 100000)
  let found := searchGrids i exponent 17 1
  { found with number := dropZeros 20 found.number }

end RecordStore.Decimal
