import ProfileGraph.Numeric.Binary64

/-! The shortest decimal of a double: of the decimals that read back as the
double, one with the fewest digits, and of those the nearest. The candidates
on one decimal grid are the two grid points around the double; the first grid
on which one of them reads back decides, coarse grids first. -/
namespace ProfileGraph

/-- A positive decimal, `digits` times ten to the power `exponent`. -/
structure Scientific where
  digits : Nat
  exponent : Int
deriving DecidableEq, Repr

/-- The number of decimal digits of a natural number; zero has one. -/
def digitCount (n : Nat) : Nat := (Nat.toDigits 10 n).length

/-- The power of ten of the leading digit of the positive `num / den`. -/
def leadingPower (num den : Nat) : Int :=
  if den ≤ num then (digitCount (num / den) : Int) - 1
  else -(digitCount ((den + num - 1) / num - 1) : Int)

/-- A power of ten as a numerator and a denominator. -/
def tenPower (exponent : Int) : Nat × Nat :=
  if 0 ≤ exponent then (Nat.pow 10 exponent.toNat, 1) else (1, Nat.pow 10 (-exponent).toNat)

namespace Binary64

/-- The numbers that round to one magnitude, in quarters of a unit. -/
structure RoundingInterval where
  low : Nat
  high : Nat
  /-- The ends belong to the interval: a half goes to the even neighbour. -/
  closed : Bool

/-- Reaches half a gap to both sides; below a power of two the gap is half as
wide, unless that power is the least normal magnitude. -/
def roundingInterval (units : Nat) : RoundingInterval :=
  let gap := Nat.pow 2 (gapExponent units)
  let below := if units = Nat.pow 2 units.log2 ∧ 1 < gap then gap else 2 * gap
  ⟨4 * units - below, 4 * units + 2 * gap, units / gap % 2 == 0⟩

/-- Whether `num / den` quarters of a unit lie in the interval. -/
def RoundingInterval.contains (interval : RoundingInterval) (num den : Nat) : Bool :=
  let low := interval.low * den
  let high := interval.high * den
  if interval.closed then low ≤ num && num ≤ high else low < num && num < high

/-- The grid point with the given power of ten that reads back as `units`
units, the nearer one if both neighbours on the grid do. -/
def gridPoint? (tie : Tie) (units : Nat) (exponent : Int) : Option Nat :=
  let interval := roundingInterval units
  let (numerator, denominator) := tenPower exponent
  let num := units * denominator
  let den := unitsPerOne * numerator
  let readsBack (point : Nat) : Bool := interval.contains (4 * (point * den)) denominator
  let floor := num / den
  match readsBack floor, readsBack (floor + 1) with
  | true, true => some (roundDiv tie num den)
  | true, false => some floor
  | false, true => some (floor + 1)
  | false, false => none

/-- Tries the grids from `count` digits on, at most `fuel` of them. -/
def shortestFrom (tie : Tie) (units : Nat) (leading : Int) : Nat → Nat → Scientific
  | 0, count => ⟨(gridPoint? tie units (leading - count)).getD 0, leading - count⟩
  | fuel + 1, count =>
    let exponent := leading - count
    match gridPoint? tie units exponent with
    | some point => if point % 10 = 0 then ⟨point / 10, exponent + 1⟩ else ⟨point, exponent⟩
    | none => shortestFrom tie units leading fuel (count + 1)

/-- The shortest decimal of a positive magnitude. Seventeen digits always
read back, so no finer grid is needed. -/
def shortest (tie : Tie) (units : Nat) : Scientific :=
  shortestFrom tie units (leadingPower units unitsPerOne) 16 0

end Binary64
end ProfileGraph
