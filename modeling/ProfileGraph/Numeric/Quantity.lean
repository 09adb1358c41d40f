import ProfileGraph.Numeric.Binary64

/-! Quantities: the numbers that weigh edges and state coverages. The graph
algorithms use no other property of them, so they run on double precision
numbers and, for reasoning about what is conserved, on exact rationals. -/
namespace ProfileGraph

/-- Arithmetic on weights and coverages. -/
class Quantity (α : Type) extends Add α, Sub α, Mul α, Div α where
  /-- The value of a node or an edge nobody has given one. -/
  zero : α
  /-- The sum of nothing. -/
  emptySum : α
  /-- A count of samples as a quantity. -/
  ofCount : Nat → α
  /-- A number read from a record as a quantity. -/
  ofReading : Binary64 → α
  /-- Equality with zero, of either sign. -/
  isZero : α → Bool
  /-- Strictly below zero. -/
  isNegative : α → Bool
  /-- The order by which the member of a cycle with most coverage is chosen. -/
  le : α → α → Bool
  /-- Rounding to a number of decimal places, halves to the even neighbour. -/
  roundTo : Int → α → α
  /-- The whole part. -/
  truncate : α → α

namespace Quantity

/-- The sum of quantities from left to right. A sum of nothing is
`emptySum`, which changes no term it is added to. -/
def sum {α : Type} [Quantity α] (terms : List α) : α :=
  terms.foldl (· + ·) emptySum

/-- Doubles sum to the negative zero when there are no terms: it is the one
double that changes no other under addition. -/
instance : Quantity Binary64 where
  zero := Binary64.signedZero false
  emptySum := Binary64.signedZero true
  ofCount := Binary64.ofNat
  ofReading := id
  isZero x := x.eq (Binary64.signedZero false)
  isNegative x := x.lt (Binary64.signedZero false)
  le := Binary64.le
  roundTo := Binary64.roundTo
  truncate := Binary64.truncate

/-- The integer nearest to a rational, halves to the even neighbour. -/
def nearestInt (q : Rat) : Int :=
  let floor := q.floor
  let rest := q - floor
  if rest < 1 / 2 then floor
  else if 1 / 2 < rest then floor + 1
  else if floor % 2 = 0 then floor else floor + 1

/-- Ten to an integer power. -/
def tenTo (exponent : Int) : Rat :=
  if 0 ≤ exponent then (10 : Rat) ^ exponent.toNat else 1 / (10 : Rat) ^ (-exponent).toNat

/-- Exact rationals. A reading that is not a finite number has no rational
value; no record that is read successfully holds one. -/
instance : Quantity Rat where
  zero := 0
  emptySum := 0
  ofCount n := n
  ofReading x := x.toRat?.getD 0
  isZero x := x == 0
  isNegative x := x < 0
  le x y := x ≤ y
  roundTo decimals x := nearestInt (x * tenTo decimals) / tenTo decimals
  truncate x := if x < 0 then -((-x).floor : Rat) else (x.floor : Rat)

end Quantity
end ProfileGraph
