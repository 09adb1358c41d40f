import Mathlib.Tactic.Ring
import ProfileGraph.Proofs.ExactCounts
import ProfileGraph.Proofs.Journeys
import ProfileGraph.Proofs.Numerals

/-! Bounds on doubles. Rounding passes no magnitude: what is at most as large, or
at least as large, as a magnitude stays so when it is rounded. So arithmetic on
doubles keeps the bounds that exact arithmetic keeps, if they are magnitudes, and
a number with such a bound is finite. Numbers that are not negative do not cancel
each other out, so that sums of them are at least as large as each term. -/
namespace ProfileGraph
namespace Binary64

/-- A finite number of at most so many units, of either sign. -/
def AtMost (bound : Nat) : Binary64 → Prop
  | .finite _ units _ => units ≤ bound
  | _ => False

/-- A number, infinite or not, of at least so many units, of either sign. -/
def AtLeast (bound : Nat) : Binary64 → Prop
  | .finite _ units _ => bound ≤ units
  | .infinity _ => True
  | .nan => False

instance (bound : Nat) : (x : Binary64) → Decidable (x.AtMost bound)
  | .finite _ units _ => inferInstanceAs (Decidable (units ≤ bound))
  | .infinity _ | .nan => inferInstanceAs (Decidable False)

instance (least : Nat) : (x : Binary64) → Decidable (x.AtLeast least)
  | .finite _ units _ => inferInstanceAs (Decidable (least ≤ units))
  | .infinity _ => inferInstanceAs (Decidable True)
  | .nan => inferInstanceAs (Decidable False)

variable {x y : Binary64} {bound least other num den : Nat}

theorem AtMost.isFinite (few : x.AtMost bound) : x.isFinite := by
  cases x with
  | finite => rfl
  | infinity | nan => cases few

theorem AtMost.mono (few : x.AtMost bound) (larger : bound ≤ other) : x.AtMost other := by
  cases x with
  | finite => exact Nat.le_trans few larger
  | infinity | nan => cases few

theorem AtLeast.mono (many : x.AtLeast bound) (less : least ≤ bound) : x.AtLeast least := by
  cases x with
  | finite => exact Nat.le_trans less many
  | infinity => trivial
  | nan => cases many

theorem AtMost.atLeast_zero (few : x.AtMost bound) : x.AtLeast 0 := by
  cases x with
  | finite => exact Nat.zero_le _
  | infinity | nan => cases few

theorem AtLeast.le_of_atMost (many : x.AtLeast least) (few : x.AtMost bound) : least ≤ bound := by
  cases x with
  | finite => exact Nat.le_trans many few
  | infinity | nan => cases few

theorem atMost_signedZero (negative : Bool) : (signedZero negative).AtMost bound :=
  Nat.zero_le bound

theorem AtMost.exists_units (few : x.AtMost bound) :
    ∃ units, IsMagnitude units ∧ units ≤ bound ∧ x.AtMost units ∧ x.AtLeast units := by
  cases x with
  | finite _ units magnitude => exact ⟨units, magnitude, few, Nat.le_refl units, Nat.le_refl units⟩
  | infinity | nan => cases few

theorem AtMost.isZero {n : Nat} (few : x.AtMost n) (none : n = 0) : Quantity.isZero x := by
  cases x with
  | finite s m =>
    obtain rfl : m = 0 := Nat.le_zero.mp (none ▸ few)
    cases s <;> rfl
  | infinity | nan => cases few

theorem atMost_finite {negative : Bool} {units : Nat} {magnitude : IsMagnitude units} :
    (finite negative units magnitude).AtMost bound ↔ units ≤ bound :=
  Iff.rfl

theorem atLeast_finite {negative : Bool} {units : Nat} {magnitude : IsMagnitude units} :
    (finite negative units magnitude).AtLeast least ↔ least ≤ units :=
  Iff.rfl

theorem isMagnitude_one : IsMagnitude 1 := by
  have scaled : IsMagnitude (1 * Nat.pow 2 0) := isMagnitude_mul_twoPow (by decide) (by decide)
  exact scaled

/-! Rounding. -/

/-- What comes of rounding is a multiple of its own gap. -/
theorem gap_dvd_roundUnits (num den : Nat) :
    Nat.pow 2 (gapExponent (roundUnits num den)) ∣ roundUnits num den := by
  refine gap_dvd ?_ _
  have below : num / den < Nat.pow 2 (53 + gapExponent (num / den)) := by
    rcases Nat.eq_zero_or_pos (num / den) with none | some
    · exact none ▸ twoPow_pos _
    · exact (Nat.log2_lt some.ne').mp (by unfold gapExponent; omega)
  have gap := twoPow_pos (gapExponent (num / den))
  have powers := Nat.pow_add 2 53 (gapExponent (num / den))
  generalize gapExponent (num / den) = exponent at below gap powers ⊢
  have floor : num / (den * Nat.pow 2 exponent) < exactBound := by
    rw [← Nat.div_div_eq_div_mul]
    exact Nat.div_lt_of_lt_mul (Nat.lt_of_lt_of_eq below (powers.trans (Nat.mul_comm _ _)))
  rcases roundDiv_cases .toEven num (den * Nat.pow 2 exponent) with ⟨same, _⟩ | ⟨same, _⟩ <;>
    rw [same] <;> omega

section Rounding
variable (positive : 0 < den)
include positive

theorem roundUnits_le (magnitude : IsMagnitude bound) (below : num ≤ bound * den) :
    roundUnits num den ≤ bound := by
  have nearest := roundUnits_nearest num positive magnitude.1
  have scaled : roundUnits num den * den ≤ bound * den := by omega
  exact Nat.le_of_mul_le_mul_right scaled positive

theorem le_roundUnits (magnitude : IsMagnitude least) (above : least * den ≤ num) :
    least ≤ roundUnits num den := by
  have nearest := roundUnits_nearest num positive magnitude.1
  have scaled : least * den ≤ roundUnits num den * den := by omega
  exact Nat.le_of_mul_le_mul_right scaled positive

/-- Rounding keeps the order. -/
theorem roundUnits_mono {greater : Nat} (below : num ≤ greater) :
    roundUnits num den ≤ roundUnits greater den := by
  have near := roundUnits_nearest num positive (gap_dvd_roundUnits greater den)
  have near' := roundUnits_nearest greater positive (gap_dvd_roundUnits num den)
  rcases below.eq_or_lt with rfl | below
  · exact le_rfl
  · exact Nat.le_of_mul_le_mul_right (le_of_natAbs_sub_le below near near') positive

/-- Rounding doubles a quotient at most. -/
theorem roundUnits_mul_le (num : Nat) : roundUnits num den * den ≤ 2 * num := by
  have nearest := roundUnits_nearest num positive isMagnitude_zero.1
  rw [Nat.zero_mul] at nearest
  omega

theorem roundUnits_zero : roundUnits 0 den = 0 := by
  have doubled := roundUnits_mul_le positive 0
  rw [Nat.mul_zero] at doubled
  exact (Nat.mul_eq_zero.mp (Nat.le_zero.mp doubled)).resolve_right positive.ne'

theorem exists_rounded (negative : Bool) (magnitude : IsMagnitude bound)
    (below : num ≤ bound * den) : ∃ fits : IsMagnitude (roundUnits num den),
      rounded negative num den = .finite negative (roundUnits num den) fits := by
  have few := roundUnits_le positive magnitude below
  have fits : IsMagnitude (roundUnits num den) :=
    ⟨gap_dvd_roundUnits num den, few.trans_lt magnitude.2⟩
  exact ⟨fits, by rw [rounded, ofUnits, dif_pos fits]⟩

theorem atMost_rounded (negative : Bool) (magnitude : IsMagnitude bound)
    (below : num ≤ bound * den) : (rounded negative num den).AtMost bound := by
  obtain ⟨fits, same⟩ := exists_rounded positive negative magnitude below
  rw [same]
  exact roundUnits_le positive magnitude below

theorem atLeast_rounded (negative : Bool) (magnitude : IsMagnitude least)
    (above : least * den ≤ num) : (rounded negative num den).AtLeast least := by
  rw [rounded, ofUnits]
  split
  · exact le_roundUnits positive magnitude above
  · trivial

end Rounding

/-! The arithmetic of finite numbers. -/

section Finite
variable {s t : Bool} {m n : Nat} {left : IsMagnitude m} {right : IsMagnitude n}

theorem add_finite : finite s m left + finite t n right =
    if s == t then rounded s (m + n) 1 else if n < m then rounded s (m - n) 1
      else if m < n then rounded t (n - m) 1 else signedZero false := by
  show Binary64.add _ _ = _
  rw [Binary64.add]

theorem mul_finite :
    finite s m left * finite t n right = rounded (s != t) (m * n) unitsPerOne := by
  show Binary64.mul _ _ = _
  rw [Binary64.mul]

theorem div_finite : finite s m left / finite t n right =
    if n = 0 then (if m = 0 then nan else infinity (s != t))
      else rounded (s != t) (m * unitsPerOne) n := by
  show Binary64.div _ _ = _
  rw [Binary64.div]

end Finite

theorem ofNat_eq_rounded (n : Nat) : ofNat n = rounded false (n * unitsPerOne) 1 := by
  rw [ofNat, ofRatio]

/-! Bounds from above. -/

theorem AtMost.add (left : x.AtMost bound) (right : y.AtMost other)
    (magnitude : IsMagnitude (bound + other)) : (x + y).AtMost (bound + other) := by
  have round {negative : Bool} {units : Nat} (below : units ≤ bound + other) :
      (rounded negative units 1).AtMost (bound + other) :=
    atMost_rounded Nat.one_pos negative magnitude (by rwa [Nat.mul_one])
  cases x with
  | infinity | nan => cases left
  | finite s m =>
    cases y with
    | infinity | nan => cases right
    | finite t n =>
      have left : m ≤ bound := left
      have right : n ≤ other := right
      rw [add_finite]
      split
      · exact round (by omega)
      · split
        · exact round (by omega)
        · split
          · exact round (by omega)
          · exact atMost_signedZero false

theorem AtMost.sub (left : x.AtMost bound) (right : y.AtMost other)
    (magnitude : IsMagnitude (bound + other)) : (x - y).AtMost (bound + other) := by
  have opposite : (-y).AtMost other := by
    cases y with
    | finite => exact right
    | infinity | nan => cases right
  exact left.add opposite magnitude

theorem AtMost.mul (left : x.AtMost bound) (right : y.AtMost other) {product : Nat}
    (magnitude : IsMagnitude product) (below : bound * other ≤ product * unitsPerOne) :
    (x * y).AtMost product := by
  cases x with
  | infinity | nan => cases left
  | finite s m =>
    cases y with
    | infinity | nan => cases right
    | finite t n =>
      rw [mul_finite]
      exact atMost_rounded unitsPerOne_pos _ magnitude ((Nat.mul_le_mul left right).trans below)

theorem AtMost.div (left : x.AtMost bound) (right : y.AtLeast least) (positive : 0 < least)
    {quotient : Nat} (magnitude : IsMagnitude quotient)
    (below : bound * unitsPerOne ≤ quotient * least) : (x / y).AtMost quotient := by
  cases x with
  | infinity | nan => cases left
  | finite s m =>
    cases y with
    | nan => cases right
    | infinity t => exact atMost_signedZero _
    | finite t n =>
      have left : m ≤ bound := left
      have right : least ≤ n := right
      have nonzero : n ≠ 0 := by omega
      rw [div_finite, if_neg nonzero]
      refine atMost_rounded (Nat.pos_of_ne_zero nonzero) _ magnitude ?_
      exact (Nat.mul_le_mul_right _ left).trans (below.trans (Nat.mul_le_mul_left _ right))

theorem AtMost.truncate (few : x.AtMost bound) (magnitude : IsMagnitude bound) :
    x.truncate.AtMost bound := by
  cases x with
  | infinity | nan => cases few
  | finite s m =>
    refine atMost_rounded Nat.one_pos s magnitude ?_
    rw [Nat.mul_one]
    exact (Nat.div_mul_le_self m unitsPerOne).trans few

/-- Rounding to whole numbers passes no whole number. -/
theorem AtMost.roundTiesEven {n : Nat} (few : x.AtMost (n * unitsPerOne))
    (magnitude : IsMagnitude (n * unitsPerOne)) : x.roundTiesEven.AtMost (n * unitsPerOne) := by
  cases x with
  | infinity | nan => cases few
  | finite s m =>
    refine atMost_rounded Nat.one_pos s magnitude ?_
    rw [Nat.mul_one]
    refine Nat.mul_le_mul_right _ ?_
    have few : m ≤ n * unitsPerOne := few
    have floor : m / unitsPerOne ≤ n := Nat.div_le_of_le_mul (by rwa [Nat.mul_comm])
    rcases roundDiv_cases .toEven m unitsPerOne with ⟨same, _⟩ | ⟨same, half⟩
    · exact same ▸ floor
    · -- There is a rest, so the floor is not the greatest number itself.
      have split := Nat.div_add_mod' m unitsPerOne
      have positive := unitsPerOne_pos
      refine same ▸ Nat.lt_of_le_of_ne floor fun top => ?_
      rw [top] at split
      omega

/-! Counts. -/

theorem isMagnitude_unitsPerOne : IsMagnitude unitsPerOne := by
  have one := isMagnitude_mul_unitsPerOne (by decide : 1 ≤ exactBound)
  rwa [Nat.one_mul] at one

theorem atLeast_ofNat {n : Nat} (some : n ≠ 0) : (ofNat n).AtLeast unitsPerOne := by
  rw [ofNat_eq_rounded]
  refine atLeast_rounded Nat.one_pos false isMagnitude_unitsPerOne ?_
  rw [Nat.mul_one]
  exact Nat.le_mul_of_pos_left _ (Nat.pos_of_ne_zero some)

/-- Counts that are represented exactly have the units of their value. -/
theorem units_ofNat {n : Nat} (small : n ≤ exactBound) :
    (ofNat n).AtMost (n * unitsPerOne) ∧ (ofNat n).AtLeast (n * unitsPerOne) := by
  rw [ofNat_of_le small]
  exact ⟨Nat.le_refl _, Nat.le_refl _⟩

theorem AtMost.ofNat_mul {n : Nat} (small : n ≤ exactBound) (few : x.AtMost bound)
    (magnitude : IsMagnitude (n * bound)) : (ofNat n * x).AtMost (n * bound) :=
  (units_ofNat small).1.mul few magnitude (Nat.mul_right_comm ..).le

theorem AtMost.div_ofNat {n : Nat} (some : n ≠ 0) (few : x.AtMost bound)
    (magnitude : IsMagnitude bound) : (x / ofNat n).AtMost bound :=
  few.div (atLeast_ofNat some) unitsPerOne_pos magnitude (Nat.le_refl _)

/-! Powers of two. -/

/-- The units of a power of two. -/
def powerUnits (exponent : Nat) : Nat := Nat.pow 2 exponent * unitsPerOne

theorem powerUnits_pos (exponent : Nat) : 0 < powerUnits exponent :=
  Nat.mul_pos (twoPow_pos exponent) unitsPerOne_pos

theorem isMagnitude_mul_powerUnits {n exponent : Nat} (small : n ≤ exactBound)
    (inRange : 53 + exponent < overflowExponent) : IsMagnitude (n * powerUnits exponent) := by
  have whole : powerUnits exponent = Nat.pow 2 (exponent + unitExponent) := by
    unfold powerUnits unitsPerOne
    generalize unitExponent = fine
    exact (Nat.pow_add 2 exponent fine).symm
  rw [whole]
  refine isMagnitude_mul_twoPow small ?_
  rw [← Nat.add_assoc, Nat.add_comm unitExponent]
  exact Nat.add_lt_add_right inRange unitExponent

/-- As many times a power of two as a power of two is one at most. -/
theorem mul_powerUnits_le {n digits exponent room : Nat} (few : n ≤ 2 ^ digits)
    (large : digits + exponent ≤ room) : n * powerUnits exponent ≤ powerUnits room := by
  unfold powerUnits
  generalize unitsPerOne = one
  rw [← Nat.mul_assoc]
  refine Nat.mul_le_mul_right one ?_
  calc n * Nat.pow 2 exponent ≤ 2 ^ digits * 2 ^ exponent := Nat.mul_le_mul_right _ few
    _ = 2 ^ (digits + exponent) := (Nat.pow_add 2 digits exponent).symm
    _ ≤ 2 ^ room := Nat.pow_le_pow_right (by decide) large

theorem powerUnits_zero : powerUnits 0 = unitsPerOne := by
  unfold powerUnits
  generalize unitsPerOne = one
  exact Nat.one_mul one

section Powers
variable {factor n exponent : Nat} (small : factor ≤ exactBound)
  (few : x.AtMost (n * powerUnits exponent)) (inRange : factor * n ≤ exactBound)
  (inRange' : 53 + exponent < overflowExponent)
include small few inRange inRange'

theorem AtMost.mul_ofNat : (x * ofNat factor).AtMost (factor * n * powerUnits exponent) :=
  few.mul (units_ofNat small).1 (isMagnitude_mul_powerUnits inRange inRange') (by ring : _ = _).le

theorem AtMost.roundTiesEven_mul_ofNat :
    (x * ofNat factor).roundTiesEven.AtMost (factor * n * powerUnits exponent) := by
  have scaledFits := isMagnitude_mul_powerUnits inRange inRange'
  have scaled := few.mul_ofNat small inRange inRange'
  unfold powerUnits at *
  rw [← Nat.mul_assoc] at scaled scaledFits ⊢
  exact scaled.roundTiesEven scaledFits

/-- Rounding to decimal places passes no multiple of a power of two, if its
product with the power of ten is in range. -/
theorem AtMost.roundTo {decimals : Int} (scale : power (ofNat 10) decimals = ofNat factor)
    (positive : factor ≠ 0) : (roundTo decimals x).AtMost (n * powerUnits exponent) := by
  have positive := Nat.pos_of_ne_zero positive
  have whole : n ≤ exactBound := (Nat.le_mul_of_pos_left n positive).trans inRange
  have fits := isMagnitude_mul_powerUnits whole inRange'
  rw [Binary64.roundTo, scale]
  exact (few.roundTiesEven_mul_ofNat small inRange inRange').div (units_ofNat small).2
    (Nat.mul_pos positive unitsPerOne_pos) fits (by ring : _ = _).le

end Powers

theorem ofNat_mul_ofNat {m n : Nat} (left : m ≤ exactBound) (right : n ≤ exactBound)
    (product : m * n ≤ exactBound) : ofNat m * ofNat n = ofNat (m * n) := by
  have fits := isMagnitude_mul_unitsPerOne product
  have exact : m * unitsPerOne * (n * unitsPerOne) = m * n * unitsPerOne * unitsPerOne := by ring
  obtain ⟨_, rounds⟩ := exists_rounded unitsPerOne_pos false fits exact.le
  have same : roundUnits (m * unitsPerOne * (n * unitsPerOne)) unitsPerOne =
      m * n * unitsPerOne :=
    (roundUnits_le unitsPerOne_pos fits exact.le).antisymm
      (le_roundUnits unitsPerOne_pos fits exact.ge)
  rw [ofNat_of_le left, ofNat_of_le right, ofNat_of_le product, mul_finite]
  refine rounds.trans ?_
  simp only [same]

theorem power_one (base : Binary64) : power base 1 = ofNat 1 * base := by
  rw [power, if_neg (by decide)]
  generalize ofNat 1 = one
  rfl

theorem power_two (base : Binary64) : power base 2 = ofNat 1 * (base * base) := by
  rw [power, if_neg (by decide)]
  generalize ofNat 1 = one
  rfl

theorem power_ten_one : power (ofNat 10) 1 = ofNat 10 := by
  have small : 10 ≤ exactBound := by decide
  rw [power_one, ofNat_mul_ofNat (by decide) small (by decide), Nat.one_mul]

theorem power_ten_two : power (ofNat 10) 2 = ofNat 100 := by
  have small : 10 ≤ exactBound := by decide
  have small' : 10 * 10 ≤ exactBound := by decide
  rw [power_two, ofNat_mul_ofNat small small small',
    ofNat_mul_ofNat (by decide) small' (by decide), Nat.one_mul]

/-! Signs. -/

/-- Not below zero; this includes what is undefined. -/
def Unsigned (x : Binary64) : Prop := ¬ Quantity.isNegative x

theorem unsigned_nan : nan.Unsigned := Bool.false_ne_true

theorem unsigned_infinity : (infinity false).Unsigned := Bool.false_ne_true

theorem not_isNegative_finite {negative : Bool} {units : Nat} {magnitude : IsMagnitude units} :
    ¬ Quantity.isNegative (finite negative units magnitude) ↔ (negative = true → units = 0) := by
  show ¬ (decide (signedUnits negative units < signedUnits false 0) = true) ↔ _
  cases negative <;> simp [signedUnits]

theorem unsigned_finite {negative : Bool} {units : Nat} {magnitude : IsMagnitude units}
    (none : negative = true → units = 0) : (finite negative units magnitude).Unsigned := by
  rw [Unsigned, not_isNegative_finite]
  exact none

theorem Unsigned.eq_zero {negative : Bool} {units : Nat} {magnitude : IsMagnitude units}
    (unsigned : (finite negative units magnitude).Unsigned) (signed : negative = true) :
    units = 0 := by
  rw [Unsigned, not_isNegative_finite] at unsigned
  exact unsigned signed

theorem unsigned_of_zero_le (above : (ofNat 0).le x) : x.Unsigned := by
  rw [ofNat_zero] at above
  cases x with
  | nan => exact unsigned_nan
  | infinity negative =>
    cases negative with
    | false => exact unsigned_infinity
    | true => cases above
  | finite negative units =>
    refine unsigned_finite fun signed => ?_
    subst signed
    simp [le, lt, eq, signedZero, signedUnits] at above
    omega

/-- What is not negative and at most a count that is represented exactly has at most the
units of the count. -/
theorem Unsigned.atMost_of_le {n : Nat} (unsigned : x.Unsigned) (small : n ≤ exactBound)
    (below : x.le (ofNat n)) : x.AtMost (n * unitsPerOne) := by
  rw [ofNat_of_le small] at below
  cases x with
  | nan => cases below
  | infinity negative =>
    cases negative with
    | false => cases below
    | true => exact absurd rfl unsigned
  | finite negative units =>
    have none := unsigned.eq_zero
    show units ≤ n * unitsPerOne
    simp only [le, lt, eq, signedUnits, Bool.or_eq_true, beq_iff_eq] at below
    generalize n * unitsPerOne = top at below ⊢
    cases negative with
    | false => simpa [Nat.le_iff_lt_or_eq] using below
    | true => exact (none rfl).trans_le (Nat.zero_le top)

theorem unsigned_of_clear (clear : x.isNegativeSigned = false) : x.Unsigned := by
  cases x with
  | nan => exact unsigned_nan
  | infinity negative =>
    cases clear
    exact unsigned_infinity
  | finite negative units =>
    cases clear
    exact unsigned_finite fun signed => absurd signed Bool.false_ne_true

theorem clear_rounded (num den : Nat) : (rounded false num den).isNegativeSigned = false := by
  rw [rounded, ofUnits]
  split <;> rfl

theorem unsigned_rounded {negative : Bool} (positive : 0 < den)
    (signed : negative = true → num = 0) : (rounded negative num den).Unsigned := by
  cases negative with
  | false => exact unsigned_of_clear (clear_rounded num den)
  | true =>
    obtain ⟨_, same⟩ := exists_rounded positive true isMagnitude_zero
      (by rw [signed rfl, Nat.zero_mul] : num ≤ 0 * den)
    have none : roundUnits num den = 0 := by
      rw [signed rfl]
      exact roundUnits_zero positive
    rw [same]
    exact unsigned_finite fun _ => none

theorem Unsigned.eq_false {negative : Bool} (unsigned : (infinity negative).Unsigned) :
    negative = false := by
  cases negative with
  | false => rfl
  | true => exact absurd rfl unsigned

theorem unsigned_signedZero (negative : Bool) : (signedZero negative).Unsigned :=
  unsigned_finite fun _ => rfl

theorem Unsigned.add (left : x.Unsigned) (right : y.Unsigned) : (x + y).Unsigned := by
  cases x with
  | nan => exact unsigned_nan
  | infinity s =>
    obtain rfl := left.eq_false
    cases y with
    | nan => exact unsigned_nan
    | infinity t =>
      obtain rfl := right.eq_false
      exact left
    | finite => exact left
  | finite s m =>
    cases y with
    | nan => exact unsigned_nan
    | infinity t => exact right
    | finite t n =>
      have left := left.eq_zero
      have right := right.eq_zero
      rw [add_finite]
      split
      next same =>
        obtain rfl := beq_iff_eq.mp same
        exact unsigned_rounded Nat.one_pos fun signed => by rw [left signed, right signed]
      next =>
        split
        next => exact unsigned_rounded Nat.one_pos fun signed => by rw [left signed, Nat.zero_sub]
        next =>
          split
          next => exact unsigned_rounded Nat.one_pos fun signed => by rw [right signed, Nat.zero_sub]
          next => exact unsigned_signedZero false

theorem Unsigned.mul (left : x.Unsigned) (right : y.Unsigned) : (x * y).Unsigned := by
  cases x with
  | nan => exact unsigned_nan
  | infinity s =>
    obtain rfl := left.eq_false
    cases y with
    | nan => exact unsigned_nan
    | infinity t =>
      obtain rfl := right.eq_false
      exact left
    | finite t n =>
      show Unsigned (if n = 0 then nan else infinity (false != t))
      split
      next => exact unsigned_nan
      next some =>
        cases t with
        | false => exact left
        | true => exact absurd (right.eq_zero rfl) some
  | finite s m =>
    have left := left.eq_zero
    cases y with
    | nan => exact unsigned_nan
    | infinity t =>
      obtain rfl := right.eq_false
      show Unsigned (if m = 0 then nan else infinity (s != false))
      split
      next => exact unsigned_nan
      next some =>
        cases s with
        | false => exact right
        | true => exact absurd (left rfl) some
    | finite t n =>
      have right := right.eq_zero
      rw [mul_finite]
      refine unsigned_rounded unitsPerOne_pos fun signed => ?_
      cases s with
      | true => rw [left rfl, Nat.zero_mul]
      | false => rw [right (by simpa using signed), Nat.mul_zero]

/-- A divisor must not be the negative zero. -/
theorem Unsigned.div (left : x.Unsigned) (right : y.isNegativeSigned = false) :
    (x / y).Unsigned := by
  cases x with
  | nan => exact unsigned_nan
  | infinity s =>
    obtain rfl := left.eq_false
    cases y with
    | nan | infinity => exact unsigned_nan
    | finite t n =>
      cases right
      exact left
  | finite s m =>
    have left := left.eq_zero
    cases y with
    | nan => exact unsigned_nan
    | infinity t => exact unsigned_signedZero _
    | finite t n =>
      cases right
      rw [div_finite]
      split
      next =>
        split
        next => exact unsigned_nan
        next some =>
          cases s with
          | false => exact unsigned_infinity
          | true => exact absurd (left rfl) some
      next some =>
        refine unsigned_rounded (Nat.pos_of_ne_zero some) fun signed => ?_
        rw [left (by simpa using signed), Nat.zero_mul]

theorem Unsigned.roundTiesEven (unsigned : x.Unsigned) : x.roundTiesEven.Unsigned := by
  cases x with
  | nan | infinity => exact unsigned
  | finite s m =>
    refine unsigned_rounded Nat.one_pos fun signed => ?_
    have none := roundDiv_mul_right .toEven 0 unitsPerOne_pos
    rw [Nat.zero_mul] at none
    rw [unsigned.eq_zero signed, none, Nat.zero_mul]

theorem Unsigned.truncate (unsigned : x.Unsigned) : x.truncate.Unsigned := by
  cases x with
  | nan | infinity => exact unsigned
  | finite s m =>
    refine unsigned_rounded Nat.one_pos fun signed => ?_
    rw [unsigned.eq_zero signed, Nat.zero_div, Nat.zero_mul]

theorem clear_ofNat (n : Nat) : (ofNat n).isNegativeSigned = false := by
  rw [ofNat_eq_rounded]
  exact clear_rounded _ _

theorem clear_mul (left : x.isNegativeSigned = false) (right : y.isNegativeSigned = false) :
    (x * y).isNegativeSigned = false := by
  cases x with
  | nan => rfl
  | infinity s =>
    cases left
    cases y with
    | nan => rfl
    | infinity t =>
      cases right
      rfl
    | finite t n =>
      cases right
      show isNegativeSigned (if n = 0 then nan else infinity false) = false
      split <;> rfl
  | finite s m =>
    cases left
    cases y with
    | nan => rfl
    | infinity t =>
      cases right
      show isNegativeSigned (if m = 0 then nan else infinity false) = false
      split <;> rfl
    | finite t n =>
      cases right
      rw [mul_finite, bne_self_eq_false]
      exact clear_rounded _ _

theorem clear_powerAux (fuel : Nat) {acc base : Binary64} (n : Nat)
    (first : acc.isNegativeSigned = false) (factor : base.isNegativeSigned = false) :
    (powerAux fuel acc base n).isNegativeSigned = false := by
  induction fuel generalizing acc base n with
  | zero => exact first
  | succ fuel ih =>
    rw [powerAux]
    have next : (if n % 2 = 1 then acc * base else acc).isNegativeSigned = false := by
      split
      · exact clear_mul first factor
      · exact first
    split
    · exact next
    · exact ih _ next (clear_mul factor factor)

theorem clear_div (left : x.isNegativeSigned = false) (right : y.isNegativeSigned = false) :
    (x / y).isNegativeSigned = false := by
  cases x with
  | nan => rfl
  | infinity s =>
    cases left
    cases y with
    | nan | infinity => rfl
    | finite t n =>
      cases right
      rfl
  | finite s m =>
    cases left
    cases y with
    | nan => rfl
    | infinity t =>
      cases right
      rfl
    | finite t n =>
      cases right
      rw [div_finite, bne_self_eq_false]
      split
      next => split <;> rfl
      next => exact clear_rounded _ _

theorem clear_power (n : Nat) (exponent : Int) :
    (power (ofNat n) exponent).isNegativeSigned = false := by
  have whole := clear_powerAux (exponent.natAbs.log2 + 1) exponent.natAbs (clear_ofNat 1)
    (clear_ofNat n)
  rw [power]
  split
  · exact clear_div (clear_ofNat 1) whole
  · exact whole

theorem Unsigned.roundTo (unsigned : x.Unsigned) (decimals : Int) :
    (roundTo decimals x).Unsigned :=
  have factor := clear_power 10 decimals
  (unsigned.mul (unsigned_of_clear factor)).roundTiesEven.div factor

theorem Unsigned.clear (unsigned : x.Unsigned) (nonzero : ¬ Quantity.isZero x) :
    x.isNegativeSigned = false := by
  cases x with
  | nan => rfl
  | infinity s => exact unsigned.eq_false
  | finite s m =>
    cases s with
    | false => rfl
    | true =>
      obtain rfl := unsigned.eq_zero rfl
      exact absurd rfl nonzero

/-- No arithmetic of the passes leads below zero. -/
theorem keeps_unsigned : Quantity.Keeps Unsigned where
  zero := unsigned_signedZero false
  emptySum := unsigned_signedZero true
  ofCount n := unsigned_of_clear (clear_ofNat n)
  add := Unsigned.add
  mul := Unsigned.mul
  roundTo decimals unsigned := unsigned.roundTo decimals
  truncate := Unsigned.truncate
  div left right nonzero := left.div (right.clear nonzero)
  perSample left _ := left.div (clear_ofNat _)
  retained _ _ _ := id

/-! Bounds from below. -/

/-- The sum of two numbers that are not negative reaches all magnitudes up to the
sum of what they reach. -/
theorem AtLeast.add (left : x.AtLeast least) (right : y.AtLeast other) (unsigned : x.Unsigned)
    (unsigned' : y.Unsigned) (magnitude : IsMagnitude bound) (reached : bound ≤ least + other) :
    (x + y).AtLeast bound := by
  have round {negative : Bool} {units : Nat} (above : bound ≤ units) :
      (rounded negative units 1).AtLeast bound :=
    atLeast_rounded Nat.one_pos negative magnitude (by rwa [Nat.mul_one])
  cases x with
  | nan => cases left
  | infinity s =>
    obtain rfl := unsigned.eq_false
    cases y with
    | nan => cases right
    | infinity t =>
      obtain rfl := unsigned'.eq_false
      trivial
    | finite => trivial
  | finite s m =>
    cases y with
    | nan => cases right
    | infinity t => trivial
    | finite t n =>
      have left : least ≤ m := left
      have right : other ≤ n := right
      have first := unsigned.eq_zero
      have second := unsigned'.eq_zero
      rw [add_finite]
      split
      next => exact round (by omega)
      next different =>
        -- One of the two is the negative zero, and the other one is the sum.
        have none : m = 0 ∨ n = 0 := by
          cases s with
          | true => exact .inl (first rfl)
          | false =>
            cases t with
            | true => exact .inr (second rfl)
            | false => exact absurd rfl different
        split
        next => exact round (by omega)
        next =>
          split
          next => exact round (by omega)
          next => exact (by omega : bound ≤ 0)

theorem AtLeast.div (left : x.AtLeast least) (right : y.AtMost bound) (nonzero : y.AtLeast 1)
    {quotient : Nat} (magnitude : IsMagnitude quotient)
    (above : quotient * bound ≤ least * unitsPerOne) : (x / y).AtLeast quotient := by
  cases y with
  | infinity | nan => cases right
  | finite t n =>
    have right : n ≤ bound := right
    have nonzero : 0 < n := nonzero
    cases x with
    | nan => cases left
    | infinity => trivial
    | finite s m =>
      have left : least ≤ m := left
      rw [div_finite, if_neg nonzero.ne']
      refine atLeast_rounded nonzero _ magnitude ?_
      exact (Nat.mul_le_mul_left _ right).trans (above.trans (Nat.mul_le_mul_right _ left))

theorem AtLeast.mul (left : x.AtLeast least) (right : y.AtLeast other) (positive : 0 < least)
    (positive' : 0 < other) {product : Nat} (magnitude : IsMagnitude product)
    (above : product * unitsPerOne ≤ least * other) : (x * y).AtLeast product := by
  cases x with
  | nan => cases left
  | infinity s =>
    cases y with
    | nan => cases right
    | infinity => trivial
    | finite t n =>
      have right : other ≤ n := right
      show AtLeast product (if n = 0 then nan else infinity (s != t))
      rw [if_neg (positive'.trans_le right).ne']
      trivial
  | finite s m =>
    have left : least ≤ m := left
    cases y with
    | nan => cases right
    | infinity t =>
      show AtLeast product (if m = 0 then nan else infinity (s != t))
      rw [if_neg (positive.trans_le left).ne']
      trivial
    | finite t n =>
      rw [mul_finite]
      exact atLeast_rounded unitsPerOne_pos _ magnitude
        (above.trans (Nat.mul_le_mul left right))

/-- More than a half is rounded to one at least. -/
theorem AtLeast.roundTiesEven (large : x.AtLeast least) (half : unitsPerOne < 2 * least) :
    x.roundTiesEven.AtLeast unitsPerOne := by
  cases x with
  | nan => cases large
  | infinity => trivial
  | finite s m =>
    have large : least ≤ m := large
    refine atLeast_rounded Nat.one_pos s isMagnitude_unitsPerOne ?_
    rw [Nat.mul_one]
    refine Nat.le_mul_of_pos_left _ (Nat.pos_of_ne_zero fun none => ?_)
    have split := Nat.div_add_mod' m unitsPerOne
    rcases roundDiv_cases .toEven m unitsPerOne with ⟨same, rest⟩ | ⟨same, _⟩
    · rw [same] at none
      rw [none, Nat.zero_mul, Nat.zero_add] at split
      omega
    · exact Nat.succ_ne_zero _ (same.symm.trans none)

/-- A sum of numbers that are not negative is at least as large as each of
them. -/
theorem atLeast_sum {terms : List Binary64}
    (numbers : ∀ term ∈ terms, term.Unsigned ∧ term.AtLeast 0) {term : Binary64}
    (member : term ∈ terms) (magnitude : IsMagnitude bound) (large : term.AtLeast bound) :
    (Quantity.sum terms).AtLeast bound := by
  have counted : ∀ start : Binary64, start.Unsigned → start.AtLeast 0 →
      (start.AtLeast bound ∨ term ∈ terms) → (terms.foldl (· + ·) start).AtLeast bound := by
    clear member
    induction terms with
    | nil => exact fun _ _ _ reached => reached.resolve_right List.not_mem_nil
    | cons first later ih =>
      intro start unsigned number reached
      obtain ⟨⟨unsigned', number'⟩, numbers⟩ := List.forall_mem_cons.mp numbers
      refine ih numbers _ (unsigned.add unsigned') ?_ ?_
      · exact number.add number' unsigned unsigned' isMagnitude_zero (Nat.zero_le _)
      · rcases reached with reached | member
        · exact .inl (reached.add number' unsigned unsigned' magnitude le_rfl)
        · rcases List.mem_cons.mp member with rfl | member
          · exact .inl (number.add large unsigned unsigned' magnitude (Nat.zero_add bound).ge)
          · exact .inr member
  exact counted _ (unsigned_signedZero true) (Nat.le_refl 0) (.inr member)

/-- A sum passes no multiple of a bound for its terms, if the multiples are magnitudes. -/
theorem atMost_sum {terms : List Binary64} (each : ∀ term ∈ terms, term.AtMost bound)
    (fits : ∀ n ≤ terms.length, IsMagnitude (n * bound)) :
    (Quantity.sum terms).AtMost (terms.length * bound) := by
  have counted : ∀ (start : Binary64) (past : Nat), start.AtMost (past * bound) →
      (∀ n ≤ past + terms.length, IsMagnitude (n * bound)) →
      (terms.foldl (· + ·) start).AtMost ((past + terms.length) * bound) := by
    clear fits
    induction terms with
    | nil => exact fun _ _ few _ => few
    | cons first later ih =>
      intro start past few fits
      obtain ⟨here, each⟩ := List.forall_mem_cons.mp each
      rw [List.length_cons, Nat.add_comm later.length, ← Nat.add_assoc] at fits ⊢
      have next := fits (past + 1) (Nat.le_add_right ..)
      rw [Nat.succ_mul] at next
      exact ih each _ (past + 1) (Nat.succ_mul past bound ▸ few.add here next) fits
  have whole := counted (signedZero true) 0 (atMost_signedZero true)
  rw [Nat.zero_add] at whole
  exact whole fits

theorem isZero_finite {negative : Bool} {units : Nat} {magnitude : IsMagnitude units} :
    Quantity.isZero (finite negative units magnitude) ↔ units = 0 := by
  show (signedUnits negative units == signedUnits false 0) = true ↔ _
  cases negative <;> simp [signedUnits]

theorem AtLeast.not_isZero (large : x.AtLeast least) (positive : 0 < least) :
    ¬ Quantity.isZero x := by
  cases x with
  | nan => cases large
  | infinity => exact Bool.false_ne_true
  | finite s m => exact isZero_finite.not.mpr (positive.trans_le large).ne'

/-- Numbers that are not negative have no sum if they are zero, and only then. -/
theorem isZero_of_add (unsigned : x.Unsigned) (unsigned' : y.Unsigned)
    (none : Quantity.isZero (x + y)) : Quantity.isZero x ∧ Quantity.isZero y := by
  cases x with
  | nan => cases none
  | infinity s =>
    obtain rfl := unsigned.eq_false
    cases y with
    | nan | finite => cases none
    | infinity t =>
      obtain rfl := unsigned'.eq_false
      cases none
  | finite s m left =>
    cases y with
    | nan | infinity => cases none
    | finite t n right =>
      rw [isZero_finite, isZero_finite]
      by_contra some
      have large := AtLeast.add (x := finite s m left) (y := finite t n right) (Nat.le_refl m)
        (Nat.le_refl n) unsigned unsigned' isMagnitude_one (by omega)
      exact large.not_isZero Nat.one_pos none

theorem isZero_of_sum {terms : List Binary64} (unsigned : ∀ term ∈ terms, term.Unsigned)
    (none : Quantity.isZero (Quantity.sum terms)) : ∀ term ∈ terms, Quantity.isZero term := by
  have counted : ∀ start : Binary64, start.Unsigned →
      Quantity.isZero (terms.foldl (· + ·) start) →
        Quantity.isZero start ∧ ∀ term ∈ terms, Quantity.isZero term := by
    clear none
    induction terms with
    | nil => exact fun _ _ none => ⟨none, by simp⟩
    | cons first later ih =>
      intro start unsigned' none
      obtain ⟨here, unsigned⟩ := List.forall_mem_cons.mp unsigned
      obtain ⟨sum, rest⟩ := ih unsigned _ (unsigned'.add here) none
      obtain ⟨before, zero⟩ := isZero_of_add unsigned' here sum
      exact ⟨before, List.forall_mem_cons.mpr ⟨zero, rest⟩⟩
  exact (counted _ (unsigned_signedZero true) none).2

/-! Grains. -/

/-- The units of the greatest power of two below a hundredth are two to this
power. -/
def grainExponent : Nat := 1067

/-- The units of the greatest power of two below a hundredth. -/
def grain : Nat := Nat.pow 2 grainExponent

/-- Zero, or at least a grain. The numbers with two decimal places are such. -/
def Grained (x : Binary64) : Prop := x.AtMost 0 ∨ x.AtLeast grain

theorem grain_pos : 0 < grain := by
  unfold grain
  exact twoPow_pos grainExponent

theorem isMagnitude_grain : IsMagnitude grain := by
  have inRange : 53 + grainExponent < unitExponent + overflowExponent := by decide
  have fits := isMagnitude_mul_twoPow (by decide : 1 ≤ exactBound) inRange
  unfold grain
  rwa [Nat.one_mul] at fits

theorem unitsPerOne_eq_grain : unitsPerOne = 128 * grain := by
  have exponents : unitExponent = 7 + grainExponent := rfl
  unfold unitsPerOne grain
  rw [exponents]
  generalize grainExponent = fine
  exact Nat.pow_add 2 7 fine

theorem grain_le_unitsPerOne : grain ≤ unitsPerOne :=
  unitsPerOne_eq_grain ▸ Nat.le_mul_of_pos_left grain (by decide)

theorem grained_ofNat (n : Nat) : (ofNat n).Grained := by
  by_cases some : n = 0
  · subst some
    rw [ofNat_zero]
    exact .inl (atMost_signedZero false)
  · exact .inr ((atLeast_ofNat some).mono grain_le_unitsPerOne)

theorem Grained.atLeast_zero (grained : x.Grained) : x.AtLeast 0 :=
  grained.elim AtMost.atLeast_zero fun large => large.mono (Nat.zero_le _)

theorem Grained.add (left : x.Grained) (right : y.Grained) (unsigned : x.Unsigned)
    (unsigned' : y.Unsigned) : (x + y).Grained := by
  rcases left with none | large
  · rcases right with none' | large'
    · exact .inl (none.add none' isMagnitude_zero)
    · exact .inr (none.atLeast_zero.add large' unsigned unsigned' isMagnitude_grain
        (Nat.le_add_left grain 0))
  · exact .inr (large.add right.atLeast_zero unsigned unsigned' isMagnitude_grain
      (Nat.le_add_right grain 0))

/-- Rounded whole numbers are zero or at least one. -/
private theorem whole_rounded (negative : Bool) (n : Nat) :
    (rounded negative (n * unitsPerOne) 1).AtMost 0 ∨
      (rounded negative (n * unitsPerOne) 1).AtLeast unitsPerOne := by
  rcases Nat.eq_zero_or_pos n with none | positive
  · have below : n * unitsPerOne ≤ 0 * 1 := by simp only [none, Nat.zero_mul, Nat.le_refl]
    exact .inl (atMost_rounded Nat.one_pos negative isMagnitude_zero below)
  · refine .inr (atLeast_rounded Nat.one_pos negative isMagnitude_unitsPerOne ?_)
    rw [Nat.mul_one]
    exact Nat.le_mul_of_pos_left _ positive

theorem grained_truncate (number : x.AtLeast 0) : x.truncate.Grained := by
  cases x with
  | nan => cases number
  | infinity => exact .inr trivial
  | finite s m =>
    exact (whole_rounded s (m / unitsPerOne)).imp_right fun large =>
      large.mono grain_le_unitsPerOne

theorem roundTiesEven_whole (number : x.AtLeast 0) :
    x.roundTiesEven.AtMost 0 ∨ x.roundTiesEven.AtLeast unitsPerOne := by
  cases x with
  | nan => cases number
  | infinity => exact .inr trivial
  | finite s m => exact whole_rounded s _

/-- What is rounded to at most two decimal places is zero or at least a grain. -/
theorem grained_roundTo {decimals : Int} {factor : Nat}
    (scale : power (ofNat 10) decimals = ofNat factor) (positive : factor ≠ 0) (few : factor ≤ 128)
    (number : (x * ofNat factor).AtLeast 0) : (roundTo decimals x).Grained := by
  have small : factor ≤ exactBound := few.trans (by decide)
  obtain ⟨most, least⟩ := units_ofNat small
  have some := Nat.mul_pos (Nat.pos_of_ne_zero positive) unitsPerOne_pos
  rw [roundTo, scale]
  rcases roundTiesEven_whole number with none | large
  · exact .inl (none.div least some isMagnitude_zero (by rw [Nat.zero_mul]; exact Nat.zero_le _))
  · refine .inr (large.div most (least.mono some) isMagnitude_grain ?_)
    have scaled := Nat.mul_le_mul_right (grain * unitsPerOne) few
    calc grain * (factor * unitsPerOne)
        = factor * (grain * unitsPerOne) := Nat.mul_left_comm ..
      _ ≤ 128 * (grain * unitsPerOne) := scaled
      _ = unitsPerOne * unitsPerOne := by rw [← Nat.mul_assoc, ← unitsPerOne_eq_grain]

/-- Rounding to two decimal places keeps bounds and makes grained. -/
theorem AtMost.roundTo_two {n exponent : Nat} (few : x.AtMost (n * powerUnits exponent))
    (inRange : 100 * n ≤ exactBound) (inRange' : 53 + exponent < overflowExponent) :
    (Binary64.roundTo 2 x).AtMost (n * powerUnits exponent) ∧ (Binary64.roundTo 2 x).Grained := by
  have small : 100 ≤ exactBound := by decide
  have scaled := few.mul_ofNat small inRange inRange'
  exact ⟨few.roundTo small inRange inRange' power_ten_two (by decide),
    grained_roundTo power_ten_two (by decide) (by decide) scaled.atLeast_zero⟩

theorem grained_sum {terms : List Binary64}
    (each : ∀ term ∈ terms, term.Unsigned ∧ term.Grained) : (Quantity.sum terms).Grained := by
  have counted : ∀ start : Binary64, start.Unsigned → start.Grained →
      (terms.foldl (· + ·) start).Grained := by
    induction terms with
    | nil => exact fun _ _ grained => grained
    | cons first later ih =>
      intro start unsigned grained
      obtain ⟨⟨unsigned', grained'⟩, each⟩ := List.forall_mem_cons.mp each
      exact ih each _ (unsigned.add unsigned') (grained.add grained' unsigned unsigned')
  exact counted _ (unsigned_signedZero true) (.inl (atMost_signedZero true))

/-! Parts of a total. -/

section Parts
variable {part passedOn total : Binary64} {units : Nat} (few : part.AtMost units)
  (inside : total.AtLeast units) (some : total.AtLeast grain)
include few inside some

/-- A part makes up one at most. -/
theorem atMost_share : (part / total).AtMost unitsPerOne := by
  rcases Nat.eq_zero_or_pos units with none | positive
  · refine few.div some grain_pos isMagnitude_unitsPerOne ?_
    rw [none, Nat.zero_mul]
    exact Nat.zero_le _
  · exact few.div inside positive isMagnitude_unitsPerOne (Nat.mul_comm ..).le

/-- The part of a quantity that goes with a part of a total is at most twice the
quantity, however often it is rounded. -/
theorem atMost_split (quantity : passedOn.AtMost bound) (fits : IsMagnitude (128 * bound))
    (fits' : IsMagnitude (2 * bound)) : (part * (passedOn / total)).AtMost (2 * bound) := by
  cases total with
  | nan => cases some
  | infinity t =>
    have none : (passedOn / infinity t).AtMost 0 := by
      cases passedOn with
      | finite => exact atMost_signedZero _
      | infinity | nan => cases quantity
    exact few.mul none fits' (Nat.zero_le _)
  | finite t d =>
    have inside : units ≤ d := inside
    have some : grain ≤ d := some
    have positive : 0 < d := Nat.lt_of_lt_of_le grain_pos some
    cases passedOn with
    | infinity | nan => cases quantity
    | finite s p =>
      have quantity : p ≤ bound := quantity
      -- The quotient is finite because the total is at least a grain.
      have inRange : p * unitsPerOne ≤ 128 * bound * d :=
        calc p * unitsPerOne ≤ bound * unitsPerOne := Nat.mul_le_mul_right _ quantity
          _ = 128 * bound * grain := by rw [unitsPerOne_eq_grain]; ring
          _ ≤ 128 * bound * d := Nat.mul_le_mul_left _ some
      obtain ⟨magnitude, quotient⟩ := exists_rounded positive (s != t) fits inRange
      have doubled := roundUnits_mul_le positive (p * unitsPerOne)
      have divided : finite s p ‹_› / finite t d ‹_› =
          finite (s != t) (roundUnits (p * unitsPerOne) d) magnitude := by
        rw [← quotient, div_finite, if_neg positive.ne']
      rw [divided]
      refine few.mul (Nat.le_refl _) fits' ?_
      calc units * roundUnits (p * unitsPerOne) d
          ≤ d * roundUnits (p * unitsPerOne) d := Nat.mul_le_mul_right _ inside
        _ ≤ 2 * (p * unitsPerOne) := by rwa [Nat.mul_comm]
        _ ≤ 2 * bound * unitsPerOne := by
          rw [← Nat.mul_assoc]
          exact Nat.mul_le_mul_right _ (Nat.mul_le_mul_left 2 quantity)

end Parts

-- What is known of a bound is in the lemmas above. Unfolding it would compute the
-- number that is bounded.
attribute [irreducible] AtMost AtLeast

end Binary64
end ProfileGraph
