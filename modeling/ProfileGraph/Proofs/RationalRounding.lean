import Mathlib.Algebra.Order.Field.Power
import Mathlib.Algebra.Order.Floor.Ring
import Mathlib.Data.Rat.Floor
import Mathlib.Tactic.Linarith
import Mathlib.Tactic.LinearCombination
import Mathlib.Tactic.Positivity
import ProfileGraph.Numeric.Quantity

/-! Rounding of exact rationals. A rounded number is off by half a unit of its
last place at most, whichever neighbour a tie goes to. It is the multiple of that unit
nearest to the number, the even one of two, and no other number is. -/
namespace ProfileGraph.Quantity

theorem tenTo_pos (exponent : Int) : 0 < tenTo exponent := by
  rw [tenTo]
  split <;> positivity

theorem abs_nearestInt_sub_le (q : Rat) : |(nearestInt q : Rat) - q| ≤ 1 / 2 := by
  have low : (q.floor : Rat) ≤ q := Rat.floor_le q
  have high : q < (q.floor + 1 : Int) := Rat.lt_floor_add_one q
  push_cast at high
  rw [nearestInt, abs_le]
  split_ifs <;> push_cast <;> constructor <;> linarith

theorem abs_roundTo_sub_le (decimals : Int) (x : Rat) :
    |roundTo decimals x - x| ≤ 1 / (2 * tenTo decimals) := by
  have pos := tenTo_pos decimals
  have scaled := abs_nearestInt_sub_le (x * tenTo decimals)
  show |nearestInt (x * tenTo decimals) / tenTo decimals - x| ≤ _
  have factored : nearestInt (x * tenTo decimals) / tenTo decimals - x =
      (nearestInt (x * tenTo decimals) - x * tenTo decimals) / tenTo decimals := by
    field_simp
  rw [factored, abs_div, abs_of_pos pos, div_le_div_iff₀ pos (by positivity)]
  linarith [mul_le_mul_of_nonneg_right scaled pos.le]

/-! The nearest multiple. -/

theorem tenTo_eq_zpow (exponent : Int) : tenTo exponent = 10 ^ exponent := by
  rw [tenTo]
  split_ifs with nonneg
  · rw [← zpow_natCast, Int.toNat_of_nonneg nonneg]
  · rw [one_div, ← zpow_natCast, ← zpow_neg, Int.toNat_of_nonneg (by omega), neg_neg]

/-- No number of steps comes nearer to `x` than `steps` do, and if another one comes as
near, `steps` is the even one. -/
structure IsNearestMultiple (step x : Rat) (steps : Int) : Prop where
  nearest : ∀ other : Int, |steps * step - x| ≤ |other * step - x|
  even : ∀ other : Int, other ≠ steps → |other * step - x| = |steps * step - x| → Even steps

/-- Different whole numbers are at least one apart. So if one of them is at most half away
from a number, the other one is at least half away. -/
theorem half_le_abs_sub {q : Rat} {near far : Int} (half : |near - q| ≤ 1 / 2)
    (different : far ≠ near) : 1 / 2 ≤ |far - q| := by
  have apart : (1 : Rat) ≤ |(far : Rat) - near| := by
    exact_mod_cast Int.one_le_abs (sub_ne_zero.mpr different)
  have between := abs_sub_le (far : Rat) q near
  rw [abs_sub_comm q] at between
  linarith

theorem even_nearestInt {q : Rat} (tie : |nearestInt q - q| = 1 / 2) : Even (nearestInt q) := by
  have low : (q.floor : Rat) ≤ q := Rat.floor_le q
  have high : q < (q.floor + 1 : Int) := Rat.lt_floor_add_one q
  push_cast at high
  rw [nearestInt] at tie ⊢
  split_ifs at tie ⊢ with down up even
  · rw [abs_of_nonpos (by linarith)] at tie
    linarith
  · rw [Int.cast_add, Int.cast_one, abs_of_nonneg (by linarith)] at tie
    linarith
  · exact Int.even_iff.mpr even
  · exact Int.even_add_one.mpr (Int.even_iff.not.mpr even)

/-- What is nearest to the greater of two numbers is no less than what is nearest to the
other one. -/
theorem le_of_abs_sub_le {x y first second : Rat} (below : x < y)
    (near : |first - x| ≤ |second - x|) (near' : |second - y| ≤ |first - y|) :
    first ≤ second := by
  refine not_lt.mp fun turned => ?_
  have above : first + second ≤ 2 * x := by
    rcases abs_cases (first - x) with ⟨_, _⟩ | ⟨_, _⟩ <;>
      rcases abs_cases (second - x) with ⟨_, _⟩ | ⟨_, _⟩ <;> linarith
  have under : 2 * y ≤ first + second := by
    rcases abs_cases (first - y) with ⟨_, _⟩ | ⟨_, _⟩ <;>
      rcases abs_cases (second - y) with ⟨_, _⟩ | ⟨_, _⟩ <;> linarith
  linarith

section NearestMultiple
variable {step x y : Rat} {steps other : Int} (positive : 0 < step)
include positive

theorem isNearestMultiple_nearestInt (x : Rat) :
    IsNearestMultiple step x (nearestInt (x / step)) := by
  have half := abs_nearestInt_sub_le (x / step)
  have distance (count : Int) : |count * step - x| = |count - x / step| * step := by
    rw [← abs_of_pos positive, ← abs_mul, sub_mul, abs_of_pos positive,
      div_mul_cancel₀ x positive.ne']
  refine ⟨fun other => ?_, fun other different tie => ?_⟩
  · rw [distance, distance]
    refine mul_le_mul_of_nonneg_right ?_ positive.le
    by_cases different : other = nearestInt (x / step)
    · rw [different]
    · exact half.trans (half_le_abs_sub half different)
  · rw [distance, distance] at tie
    have tie := mul_right_cancel₀ positive.ne' tie
    exact even_nearestInt (half.antisymm (tie ▸ half_le_abs_sub half different))

/-- If two different numbers of steps were nearest, both would be even, and the one halfway
between them would be nearer. -/
theorem IsNearestMultiple.unique (first : IsNearestMultiple step x steps)
    (second : IsNearestMultiple step x other) : steps = other := by
  by_contra different
  have apart : (steps : Rat) * step ≠ other * step := fun same =>
    different (by exact_mod_cast mul_right_cancel₀ positive.ne' same)
  have level := (first.nearest other).antisymm (second.nearest steps)
  rcases abs_eq_abs.mp level with same | opposite
  · exact apart (sub_left_injective same)
  · have evenSteps := first.even other (Ne.symm different) level.symm
    have evenOther := second.even steps different level
    obtain ⟨middle, sum⟩ := evenSteps.add evenOther
    have sum : (steps : Rat) + other = middle + middle := by exact_mod_cast sum
    have between : middle * step - x = 0 := by linear_combination opposite / 2 - step / 2 * sum
    have nearest := first.nearest middle
    have nearest' := second.nearest middle
    rw [between, abs_zero, abs_nonpos_iff, sub_eq_zero] at nearest nearest'
    exact apart (nearest.trans nearest'.symm)

theorem IsNearestMultiple.mono (first : IsNearestMultiple step x steps)
    (second : IsNearestMultiple step y other) (below : x ≤ y) : steps ≤ other := by
  rcases below.eq_or_lt with rfl | below
  · exact (first.unique positive second).le
  · have order := le_of_abs_sub_le below (first.nearest other) (second.nearest steps)
    exact_mod_cast le_of_mul_le_mul_right order positive

omit positive in
theorem IsNearestMultiple.neg (nearest : IsNearestMultiple step x steps) :
    IsNearestMultiple step (-x) (-steps) := by
  have mirrored (count : Int) : |count * step - -x| = |(-count : Int) * step - x| := by
    rw [← abs_neg]
    push_cast
    ring_nf
  refine ⟨fun other => ?_, fun other different tie => ?_⟩
  · rw [mirrored, mirrored, neg_neg]
    exact nearest.nearest (-other)
  · rw [mirrored, mirrored, neg_neg] at tie
    exact (nearest.even (-other) (by omega) tie).neg

theorem isNearestMultiple_self (steps : Int) : IsNearestMultiple step (steps * step) steps := by
  refine ⟨fun other => ?_, fun other different tie => ?_⟩
  · rw [sub_self, abs_zero]
    exact abs_nonneg _
  · rw [sub_self, abs_zero, abs_eq_zero, sub_eq_zero] at tie
    exact absurd (by exact_mod_cast mul_right_cancel₀ positive.ne' tie) different

end NearestMultiple

section DecimalPlaces
variable (decimals : Int)

theorem place_pos : (0 : Rat) < 10 ^ (-decimals) := by positivity

theorem roundTo_eq_nearestInt (x : Rat) : roundTo decimals x =
    nearestInt (x / 10 ^ (-decimals)) * 10 ^ (-decimals) := by
  show nearestInt (x * tenTo decimals) / tenTo decimals = _
  rw [tenTo_eq_zpow, zpow_neg, div_inv_eq_mul, div_eq_mul_inv]

/-- What a number is rounded to is the nearest multiple of the last place, and nothing else
is. -/
theorem roundTo_eq_iff {x result : Rat} : roundTo decimals x = result ↔
    ∃ steps : Int, result = steps * 10 ^ (-decimals) ∧
      IsNearestMultiple (10 ^ (-decimals)) x steps := by
  have nearest := isNearestMultiple_nearestInt (place_pos decimals) x
  rw [roundTo_eq_nearestInt]
  constructor
  · rintro rfl
    exact ⟨_, rfl, nearest⟩
  · rintro ⟨steps, rfl, other⟩
    rw [nearest.unique (place_pos decimals) other]

theorem roundTo_mono {x y : Rat} (below : x ≤ y) : roundTo decimals x ≤ roundTo decimals y := by
  have positive := place_pos decimals
  have order := (isNearestMultiple_nearestInt positive x).mono positive
    (isNearestMultiple_nearestInt positive y) below
  rw [roundTo_eq_nearestInt, roundTo_eq_nearestInt]
  exact mul_le_mul_of_nonneg_right (by exact_mod_cast order) positive.le

theorem roundTo_neg (x : Rat) : roundTo decimals (-x) = -roundTo decimals x := by
  obtain ⟨steps, same, nearest⟩ := (roundTo_eq_iff decimals).mp (rfl : roundTo decimals x = _)
  refine (roundTo_eq_iff decimals).mpr ⟨-steps, ?_, nearest.neg⟩
  rw [same]
  push_cast
  ring

theorem roundTo_roundTo (x : Rat) :
    roundTo decimals (roundTo decimals x) = roundTo decimals x := by
  obtain ⟨steps, same, _⟩ := (roundTo_eq_iff decimals).mp (rfl : roundTo decimals x = _)
  refine (roundTo_eq_iff decimals).mpr ⟨steps, same, ?_⟩
  rw [same]
  exact isNearestMultiple_self (place_pos decimals) steps

theorem abs_roundTo_sub_le_half_place (x : Rat) :
    |roundTo decimals x - x| ≤ 10 ^ (-decimals) / 2 := by
  have bound := abs_roundTo_sub_le decimals x
  rwa [tenTo_eq_zpow, one_div, mul_inv, ← zpow_neg, mul_comm, ← div_eq_mul_inv] at bound

end DecimalPlaces

/-! Signs. -/

theorem nearestInt_nonneg {q : Rat} (nonneg : 0 ≤ q) : 0 ≤ nearestInt q := by
  have floor : 0 ≤ q.floor := Rat.le_floor_iff.mpr (by simpa using nonneg)
  rw [nearestInt]
  split_ifs <;> omega

theorem roundTo_nonneg (decimals : Int) {x : Rat} (nonneg : 0 ≤ x) : 0 ≤ roundTo decimals x := by
  have scaled := nearestInt_nonneg (mul_nonneg nonneg (tenTo_pos decimals).le)
  exact div_nonneg (by exact_mod_cast scaled) (tenTo_pos decimals).le

theorem truncate_nonneg {x : Rat} (nonneg : 0 ≤ x) : 0 ≤ truncate x := by
  have floor : 0 ≤ x.floor := Rat.le_floor_iff.mpr (by simpa using nonneg)
  show 0 ≤ if x < 0 then -((-x).floor : Rat) else (x.floor : Rat)
  rw [if_neg nonneg.not_gt]
  exact_mod_cast floor

/-! Two decimal places. -/

theorem tenTo_two : tenTo 2 = 100 := by decide +kernel

/-- Numbers with at most two decimal places. -/
def IsHundredths (x : Rat) : Prop := ∃ k : Int, x = k / 100

theorem isHundredths_natCast (n : Nat) : IsHundredths n := by
  refine ⟨n * 100, ?_⟩
  push_cast
  ring

theorem IsHundredths.add {x y : Rat} (left : IsHundredths x) (right : IsHundredths y) :
    IsHundredths (x + y) := by
  obtain ⟨m, rfl⟩ := left
  obtain ⟨n, rfl⟩ := right
  refine ⟨m + n, ?_⟩
  push_cast
  ring

theorem isHundredths_sum {terms : List Rat} (each : ∀ term ∈ terms, IsHundredths term) :
    IsHundredths terms.sum := by
  induction terms with
  | nil => exact ⟨0, by simp⟩
  | cons term later ih =>
    obtain ⟨first, each⟩ := List.forall_mem_cons.mp each
    rw [List.sum_cons]
    exact first.add (ih each)

/-- Numbers with two decimal places that differ by half a hundredth at most are
equal. -/
theorem IsHundredths.eq_of_abs_sub_le {x y : Rat} (left : IsHundredths x) (right : IsHundredths y)
    (close : |x - y| ≤ 1 / 200) : x = y := by
  obtain ⟨m, rfl⟩ := left
  obtain ⟨n, rfl⟩ := right
  rw [abs_le] at close
  have low : (-1 : Rat) < m - n := by linarith
  have high : (m : Rat) - n < 1 := by linarith
  have same : m = n := by
    have low : -1 < m - n := by exact_mod_cast low
    have high : m - n < 1 := by exact_mod_cast high
    omega
  rw [same]

theorem isHundredths_roundTo_two (x : Rat) : IsHundredths (roundTo 2 x) :=
  ⟨nearestInt (x * tenTo 2), congrArg (_ / ·) tenTo_two⟩

theorem abs_roundTo_two_sub_le (x : Rat) : |roundTo 2 x - x| ≤ 1 / 200 := by
  have bound := abs_roundTo_sub_le 2 x
  rw [tenTo_two] at bound
  linarith

/-- Rounding to two places changes no number that has no more. -/
theorem IsHundredths.roundTo_two {x : Rat} (exact : IsHundredths x) : roundTo 2 x = x :=
  (isHundredths_roundTo_two x).eq_of_abs_sub_le exact (abs_roundTo_two_sub_le x)

theorem sum_eq (terms : List Rat) : sum terms = terms.sum := List.sum_eq_foldl.symm

end ProfileGraph.Quantity
