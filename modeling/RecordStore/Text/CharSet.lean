/-!
# Sets of characters

A Unicode property holds on a few hundred ranges of code points. A `CharSet` lists the code points
at which membership changes, in ascending order, so that a character belongs to the set exactly
when the number of changes up to it is odd. Counting them is a binary search.
-/

namespace RecordStore.Text

/-- A set of characters, given by the ascending code points at which membership changes. -/
structure CharSet where
  /-- Membership starts at the bounds with an even index and ends at those with an odd one. -/
  bounds : Array Nat

namespace CharSet

/-- The number of `bounds` that are at most `x`, searched between the indices `low` and `high`;
`fuel` bounds the halvings. -/
def countFrom (bounds : Array Nat) (x : Nat) : Nat → Nat → Nat → Nat
  | 0, low, _ => low
  | fuel + 1, low, high =>
    if low < high then
      let middle := (low + high) / 2
      if bounds.getD middle 0 ≤ x then countFrom bounds x fuel (middle + 1) high
      else countFrom bounds x fuel low middle
    else low

/-- Whether a character belongs to the set. -/
def contains (s : CharSet) (c : Char) : Bool :=
  countFrom s.bounds c.toNat s.bounds.size 0 s.bounds.size % 2 == 1

end CharSet

end RecordStore.Text
