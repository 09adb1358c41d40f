import ProfileGraph.Numeric.Rounding

/-! Double precision numbers. A finite double is a sign and a whole number of
units, one unit being the least positive double, 2 to the power -1074. Seen
this way a sum, a difference or a comparison of doubles is one of natural
numbers, and every operation is its exact result followed by one rounding to
the nearest double, ties to the even neighbour. -/
namespace ProfileGraph

/-- The exponent of the gap between neighbouring doubles around `units`: 53
significant bits are kept, and below the normal range the gap is one unit. -/
def gapExponent (units : Nat) : Nat := units.log2 - 52

/-- One unit is two to the power of minus this number. -/
def unitExponent : Nat := 1074

/-- The number of units that make the number one. -/
def unitsPerOne : Nat := Nat.pow 2 unitExponent

/-- Two to this power is the first one too large to be a double. -/
def overflowExponent : Nat := 1024

/-- The first power of two beyond the largest finite double, in units. -/
def overflowUnits : Nat := unitsPerOne * Nat.pow 2 overflowExponent

/-- The counts of units that are magnitudes of finite doubles: multiples of
their own gap, below the overflow bound. -/
def IsMagnitude (units : Nat) : Prop :=
  Nat.pow 2 (gapExponent units) ∣ units ∧ units < overflowUnits

instance : DecidablePred IsMagnitude := fun _ =>
  inferInstanceAs (Decidable (_ ∧ _))

/-- A double precision number. Zero has two signs; all values that are not a
number are one value. -/
inductive Binary64 where
  /-- The result of an operation without a meaningful result. -/
  | nan
  /-- An infinity; the flag says that it is the negative one. -/
  | infinity (negative : Bool)
  /-- The signed number of `units` least positive doubles. -/
  | finite (negative : Bool) (units : Nat) (magnitude : IsMagnitude units)
deriving DecidableEq

namespace Binary64

/-- The double of a given sign with `units` units. A count beyond the largest
double becomes an infinity; the count must otherwise be a multiple of its gap,
as a rounded count is. -/
def ofUnits (negative : Bool) (units : Nat) : Binary64 :=
  if magnitude : IsMagnitude units then .finite negative units magnitude
  else .infinity negative

/-- The multiple of the gap around `num / den` nearest to that quotient. -/
def roundUnits (num den : Nat) : Nat :=
  let gap := Nat.pow 2 (gapExponent (num / den))
  roundDiv .toEven num (den * gap) * gap

/-- The double nearest to `num / den` units, with the given sign. -/
def rounded (negative : Bool) (num den : Nat) : Binary64 :=
  ofUnits negative (roundUnits num den)

/-- The double nearest to the quotient `num / den` of natural numbers. -/
def ofRatio (negative : Bool) (num den : Nat) : Binary64 :=
  rounded negative (num * unitsPerOne) den

/-- The double nearest to a natural number. -/
def ofNat (n : Nat) : Binary64 := ofRatio false n 1

/-- The double nearest to an integer. -/
def ofInt (n : Int) : Binary64 := ofRatio (n < 0) n.natAbs 1

theorem twoPow_pos (n : Nat) : 0 < Nat.pow 2 n := Nat.two_pow_pos n

theorem unitsPerOne_pos : 0 < unitsPerOne := by
  unfold unitsPerOne
  exact twoPow_pos unitExponent

theorem overflowUnits_pos : 0 < overflowUnits := by
  unfold overflowUnits
  exact Nat.mul_pos unitsPerOne_pos (twoPow_pos overflowExponent)

theorem isMagnitude_zero : IsMagnitude 0 := ⟨Nat.dvd_zero _, overflowUnits_pos⟩

/-- The zero of a given sign. -/
def signedZero (negative : Bool) : Binary64 := .finite negative 0 isMagnitude_zero

instance : Inhabited Binary64 := ⟨signedZero false⟩

/-- The sign bit; a value that is not a number has none. -/
def isNegativeSigned : Binary64 → Bool
  | .nan => false
  | .infinity negative => negative
  | .finite negative _ _ => negative

/-- Whether a number is neither infinite nor undefined. -/
def isFinite : Binary64 → Bool
  | .finite .. => true
  | _ => false

/-- The number with the other sign. -/
protected def neg : Binary64 → Binary64
  | .nan => .nan
  | .infinity negative => .infinity (!negative)
  | .finite negative units magnitude => .finite (!negative) units magnitude

/-- The exact sum, rounded once. Opposite numbers add up to the positive zero. -/
protected def add : Binary64 → Binary64 → Binary64
  | .nan, _ => .nan
  | _, .nan => .nan
  | .infinity s, .infinity t => if s == t then .infinity s else .nan
  | .infinity s, .finite .. => .infinity s
  | .finite .., .infinity t => .infinity t
  | .finite s a _, .finite t b _ =>
    if s == t then rounded s (a + b) 1
    else if b < a then rounded s (a - b) 1
    else if a < b then rounded t (b - a) 1
    else signedZero false

/-- The rounded difference, which is the sum with the other sign. -/
protected def sub (x y : Binary64) : Binary64 := x.add y.neg

/-- The exact product, rounded once. -/
protected def mul : Binary64 → Binary64 → Binary64
  | .nan, _ => .nan
  | _, .nan => .nan
  | .infinity s, .infinity t => .infinity (s != t)
  | .infinity s, .finite t b _ => if b = 0 then .nan else .infinity (s != t)
  | .finite s a _, .infinity t => if a = 0 then .nan else .infinity (s != t)
  | .finite s a _, .finite t b _ => rounded (s != t) (a * b) unitsPerOne

/-- The exact quotient, rounded once. A nonzero number divided by a zero is an
infinity, and two zeros have no quotient. -/
protected def div : Binary64 → Binary64 → Binary64
  | .nan, _ => .nan
  | _, .nan => .nan
  | .infinity _, .infinity _ => .nan
  | .infinity s, .finite t _ _ => .infinity (s != t)
  | .finite s _ _, .infinity t => signedZero (s != t)
  | .finite s a _, .finite t b _ =>
    if b = 0 then (if a = 0 then .nan else .infinity (s != t))
    else rounded (s != t) (a * unitsPerOne) b

instance : Neg Binary64 := ⟨Binary64.neg⟩
instance : Add Binary64 := ⟨Binary64.add⟩
instance : Sub Binary64 := ⟨Binary64.sub⟩
instance : Mul Binary64 := ⟨Binary64.mul⟩
instance : Div Binary64 := ⟨Binary64.div⟩

/-- Signed units of a finite double; both zeros have none. -/
def signedUnits (negative : Bool) (units : Nat) : Int :=
  if negative then -(units : Int) else units

/-- The order of numbers. A value that is not a number is below nothing. -/
def lt : Binary64 → Binary64 → Bool
  | .nan, _ => false
  | _, .nan => false
  | .infinity s, .infinity t => s && !t
  | .infinity s, .finite .. => s
  | .finite .., .infinity t => !t
  | .finite s a _, .finite t b _ => signedUnits s a < signedUnits t b

/-- Equality of numbers: the two zeros are equal, and a value that is not a
number equals nothing. -/
def eq : Binary64 → Binary64 → Bool
  | .nan, _ => false
  | _, .nan => false
  | .infinity s, .infinity t => s == t
  | .infinity _, .finite .. => false
  | .finite .., .infinity _ => false
  | .finite s a _, .finite t b _ => signedUnits s a == signedUnits t b

/-- Whether a number is less or equal; never for undefined ones. -/
def le (x y : Binary64) : Bool := lt x y || eq x y

/-- The nearest whole number, halves to the even one; the sign is kept. -/
def roundTiesEven : Binary64 → Binary64
  | .finite s a _ => rounded s (roundDiv .toEven a unitsPerOne * unitsPerOne) 1
  | x => x

/-- The whole part; the sign is kept. -/
def truncate : Binary64 → Binary64
  | .finite s a _ => rounded s (a / unitsPerOne * unitsPerOne) 1
  | x => x

/-- Repeated squaring: `acc` times `base` to the power `n`, every product
rounded. The low bits of `n` are used first. -/
def powerAux (fuel : Nat) (acc base : Binary64) (n : Nat) : Binary64 :=
  match fuel with
  | 0 => acc
  | fuel + 1 =>
    let acc := if n % 2 = 1 then acc * base else acc
    if n / 2 = 0 then acc else powerAux fuel acc (base * base) (n / 2)

/-- An integer power by repeated squaring; a negative power is the reciprocal
of the positive one. -/
def power (base : Binary64) (n : Int) : Binary64 :=
  let magnitude := n.natAbs
  let positive := powerAux (magnitude.log2 + 1) (ofNat 1) base magnitude
  if n < 0 then ofNat 1 / positive else positive

/-- The value of a finite double as a rational number. -/
def toRat? : Binary64 → Option Rat
  | .finite s a _ => some (mkRat (signedUnits s a) unitsPerOne)
  | _ => none

/-- Rounds to `decimals` decimal places, halves to the even neighbour: shares
of 1/8 and 7/8 rounded up would credit 0.13 and 0.88 and create samples. -/
def roundTo (decimals : Int) (value : Binary64) : Binary64 :=
  let factor := power (ofNat 10) decimals
  (value * factor).roundTiesEven / factor

end Binary64
end ProfileGraph
