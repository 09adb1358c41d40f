import Mathlib.Algebra.BigOperators.Ring.List
import Mathlib.Data.Nat.Cast.Order.Field
import ProfileGraph.Proofs.Magnitudes

/-! Errors of doubles that are not negative. An operation whose result is finite is off
from the exact one by a small part of it and of one. The exact result is a quotient of
units, which is rounded once: to a whole unit near zero, and to 53 bits elsewhere. -/
namespace ProfileGraph
namespace Binary64

/-- The number that a double stands for; infinities and what is undefined count as zero. -/
def value (x : Binary64) : Rat := x.toRat?.getD 0

/-- Half the distance from one to the next double. -/
def roundoff : Rat := 1 / 2 ^ 53

theorem roundoff_pos : 0 < roundoff := by norm_num [roundoff]

variable {x y : Binary64} {bound least num den : Nat}

/-! Values. -/

theorem unitsPerOne_cast_pos : (0 : Rat) < unitsPerOne := by exact_mod_cast unitsPerOne_pos

theorem two_pow_le_unitsPerOne : (2 ^ 52 : Rat) ≤ unitsPerOne := by
  have powers (exponent : Nat) (above : 52 ≤ exponent) :
      (2 ^ 52 : Rat) ≤ (Nat.pow 2 exponent : Nat) :=
    (pow_le_pow_right₀ (by norm_num) above).trans_eq (Nat.cast_pow 2 exponent).symm
  unfold unitsPerOne
  exact powers unitExponent (by decide)

theorem value_finite {negative : Bool} {units : Nat} {magnitude : IsMagnitude units} :
    (finite negative units magnitude).value = signedUnits negative units / unitsPerOne := by
  rw [value, toRat?, Option.getD_some, Rat.mkRat_eq_div]

/-- A number that is not negative has the value of its units. -/
theorem Unsigned.value_finite {negative : Bool} {units : Nat} {magnitude : IsMagnitude units}
    (unsigned : (finite negative units magnitude).Unsigned) :
    (finite negative units magnitude).value = units / unitsPerOne := by
  rw [Binary64.value_finite]
  cases negative with
  | false => rfl
  | true =>
    obtain rfl := unsigned.eq_zero rfl
    rfl

theorem Unsigned.value_nonneg (unsigned : x.Unsigned) : 0 ≤ x.value := by
  cases x with
  | nan | infinity => exact le_rfl
  | finite =>
    rw [unsigned.value_finite]
    exact div_nonneg (Nat.cast_nonneg _) unitsPerOne_cast_pos.le

theorem value_signedZero (negative : Bool) : (signedZero negative).value = 0 := by
  rw [signedZero, (unsigned_signedZero negative).value_finite, Nat.cast_zero, zero_div]

theorem value_ofNat {n : Nat} (small : n ≤ exactBound) : (ofNat n).value = n := by
  rw [value, toRat_ofNat small, Option.getD_some]

theorem AtMost.value_le (few : x.AtMost bound) (unsigned : x.Unsigned) :
    x.value ≤ bound / unitsPerOne := by
  cases x with
  | nan | infinity => cases few.isFinite
  | finite =>
    rw [unsigned.value_finite]
    exact div_le_div_of_nonneg_right (Nat.cast_le.mpr (atMost_finite.mp few))
      unitsPerOne_cast_pos.le

theorem AtMost.value_le_mul_pow {n exponent : Nat} (few : x.AtMost (n * powerUnits exponent))
    (unsigned : x.Unsigned) : x.value ≤ n * 2 ^ exponent := by
  refine (few.value_le unsigned).trans_eq ?_
  rw [div_eq_iff unitsPerOne_cast_pos.ne']
  unfold powerUnits
  rw [Nat.cast_mul, Nat.cast_mul, ← mul_assoc]
  exact congrArg (n * · * (unitsPerOne : Rat)) (Nat.cast_pow 2 exponent)

theorem AtLeast.le_value (large : x.AtLeast least) (finite : x.isFinite) (unsigned : x.Unsigned) :
    (least : Rat) / unitsPerOne ≤ x.value := by
  cases x with
  | nan | infinity => cases finite
  | finite =>
    rw [unsigned.value_finite]
    exact div_le_div_of_nonneg_right (Nat.cast_le.mpr (large.le_of_atMost (atMost_finite.mpr le_rfl)))
      unitsPerOne_cast_pos.le

theorem AtLeast.le_value_of_grain (large : x.AtLeast grain) (finite : x.isFinite)
    (unsigned : x.Unsigned) : 1 / 128 ≤ x.value := by
  refine le_trans ?_ (large.le_value finite unsigned)
  rw [le_div_iff₀ unitsPerOne_cast_pos, unitsPerOne_eq_grain, Nat.cast_mul]
  linarith

/-! One rounding. -/

theorem abs_roundDiv_sub_le (num : Nat) (positive : 0 < den) :
    |(roundDiv .toEven num den : Rat) - num / den| ≤ 1 / 2 := by
  have half := Nat.cast_le (α := Rat).mpr (two_mul_natAbs_roundDiv_sub_le .toEven num positive)
  rw [Nat.cast_mul, Nat.cast_natAbs] at half
  push_cast at half
  have positive : (0 : Rat) < den := Nat.cast_pos.mpr positive
  have factored : (roundDiv .toEven num den : Rat) - num / den =
      (roundDiv .toEven num den * den - num) / den := by
    rw [sub_div, mul_div_cancel_right₀ _ positive.ne']
  rw [factored, abs_div, abs_of_pos positive, div_le_iff₀ positive]
  linarith

/-- Neighbouring doubles are as far apart as a 52nd power of two goes into them, or one
unit. -/
theorem gap_mul_le (units : Nat) : Nat.pow 2 (gapExponent units) * 2 ^ 52 ≤ units + 2 ^ 52 := by
  rcases Nat.lt_or_ge units.log2 52 with fine | coarse
  · have none : gapExponent units = 0 := by
      unfold gapExponent
      omega
    rw [none]
    exact Nat.le_add_left _ _
  · have some : units ≠ 0 := by
      rintro rfl
      exact absurd coarse (by decide)
    have top : Nat.pow 2 (gapExponent units) * 2 ^ 52 = 2 ^ units.log2 := by
      rw [gapExponent]
      exact (Nat.pow_add 2 _ 52).symm.trans (congrArg _ (Nat.sub_add_cancel coarse))
    rw [top]
    exact (Nat.log2_self_le some).trans (Nat.le_add_right _ _)

/-- A rounded quotient is off by half a unit and by half of its last bit at most. -/
theorem abs_roundUnits_sub_le (num : Nat) (positive : 0 < den) :
    |(roundUnits num den : Rat) - num / den| ≤ (num / den + 2 ^ 52) * roundoff := by
  have apart := twoPow_pos (gapExponent (num / den))
  have coarse : (Nat.pow 2 (gapExponent (num / den)) : Rat) * 2 ^ 52 ≤ num / den + 2 ^ 52 := by
    have whole := Nat.cast_le (α := Rat).mpr (gap_mul_le (num / den))
    push_cast at whole
    exact whole.trans (add_le_add_left Nat.cast_div_le _)
  rw [roundUnits]
  generalize Nat.pow 2 (gapExponent (num / den)) = gap at apart coarse ⊢
  have near := abs_roundDiv_sub_le num (Nat.mul_pos positive apart)
  have apart : (0 : Rat) < gap := Nat.cast_pos.mpr apart
  have factored : ((roundDiv .toEven num (den * gap) * gap : Nat) : Rat) - num / den =
      (roundDiv .toEven num (den * gap) - num / (den * gap : Nat)) * gap := by
    rw [Nat.cast_mul, Nat.cast_mul, sub_mul, ← div_div, div_mul_cancel₀ _ apart.ne']
  rw [factored, abs_mul, abs_of_pos apart]
  refine (mul_le_mul_of_nonneg_right near apart.le).trans ?_
  norm_num [roundoff] at coarse ⊢
  linarith

/-- What is rounded is off by a small part of the exact quotient and of one. -/
theorem abs_value_rounded_sub_le {negative : Bool} (positive : 0 < den)
    (signed : negative = true → num = 0) (finite : (rounded negative num den).isFinite) :
    |(rounded negative num den).value - num / (den * unitsPerOne)| ≤
      (num / (den * unitsPerOne) + 1) * roundoff := by
  have close := abs_roundUnits_sub_le num positive
  have fine : (2 ^ 52 : Rat) ≤ unitsPerOne := two_pow_le_unitsPerOne
  have units : (rounded negative num den).value = roundUnits num den / unitsPerOne := by
    have unsigned := unsigned_rounded positive signed
    rw [rounded, ofUnits] at finite unsigned ⊢
    split at finite
    next fits =>
      rw [dif_pos fits] at unsigned ⊢
      exact unsigned.value_finite
    next => cases finite
  have one := unitsPerOne_cast_pos
  generalize (unitsPerOne : Rat) = unit at *
  have factored : (roundUnits num den : Rat) / unit - num / (den * unit) =
      (roundUnits num den - num / den) / unit := by
    rw [sub_div, div_div]
  rw [units, factored, abs_div, abs_of_pos one, div_le_iff₀ one]
  refine close.trans ?_
  have split : (num / (den * unit) + 1) * roundoff * unit = (num / den + unit) * roundoff := by
    rw [← div_div]
    field_simp
  rw [split]
  exact mul_le_mul_of_nonneg_right (by linarith) roundoff_pos.le

/-! The operations. -/

theorem isFinite_of_add (finite : (x + y).isFinite) : x.isFinite ∧ y.isFinite := by
  cases x with
  | nan => cases finite
  | infinity s =>
    cases y with
    | nan | finite => cases finite
    | infinity t =>
      change isFinite (if s == t then infinity s else nan) at finite
      split at finite <;> cases finite
  | finite =>
    cases y with
    | nan | infinity => cases finite
    | finite => exact ⟨rfl, rfl⟩

section Finite
variable {s t : Bool} {m n : Nat} {left : IsMagnitude m} {right : IsMagnitude n}
  (unsigned : (finite s m left).Unsigned) (unsigned' : (finite t n right).Unsigned)
include unsigned unsigned'

/-- A sum of numbers that are not negative is the rounded sum of their units. -/
theorem add_of_unsigned : ∃ negative, (negative = true → m + n = 0) ∧
    finite s m left + finite t n right = rounded negative (m + n) 1 := by
  have first := unsigned.eq_zero
  have second := unsigned'.eq_zero
  rw [add_finite]
  split
  next same =>
    refine ⟨s, fun signed => ?_, rfl⟩
    rw [first signed, second ((eq_of_beq same).symm.trans signed)]
  next different =>
    split
    next less =>
      have clear : s ≠ true := fun signed => absurd (first signed) (by omega)
      obtain rfl : n = 0 := second (by cases s <;> cases t <;> simp_all)
      exact ⟨s, fun signed => absurd signed clear, rfl⟩
    next =>
      split
      next less =>
        have clear : t ≠ true := fun signed => absurd (second signed) (by omega)
        obtain rfl : m = 0 := first (by cases s <;> cases t <;> simp_all)
        exact ⟨t, fun signed => absurd signed clear, by rw [Nat.zero_add, Nat.sub_zero]⟩
      next =>
        have none : m = 0 ∧ n = 0 := by cases s <;> cases t <;> simp_all
        obtain ⟨rfl, rfl⟩ := none
        exact ⟨false, fun _ => rfl, (rounded_of_isMagnitude false isMagnitude_zero).symm⟩

end Finite

section Operations
variable (unsigned : x.Unsigned) (unsigned' : y.Unsigned)
include unsigned unsigned'

theorem abs_value_add_sub_le (finite : (x + y).isFinite) :
    |(x + y).value - (x.value + y.value)| ≤ (x.value + y.value + 1) * roundoff := by
  obtain ⟨first, second⟩ := isFinite_of_add finite
  cases x with
  | nan | infinity => cases first
  | finite =>
    cases y with
    | nan | infinity => cases second
    | finite =>
      obtain ⟨negative, signed, same⟩ := add_of_unsigned unsigned unsigned'
      rw [same] at finite ⊢
      have close := abs_value_rounded_sub_le Nat.one_pos signed finite
      rwa [Nat.cast_one, one_mul, Nat.cast_add, add_div, ← unsigned.value_finite,
        ← unsigned'.value_finite] at close

theorem abs_value_mul_sub_le (finite : (x * y).isFinite) (first : x.isFinite)
    (second : y.isFinite) :
    |(x * y).value - x.value * y.value| ≤ (x.value * y.value + 1) * roundoff := by
  cases x with
  | nan | infinity => cases first
  | finite s m =>
    cases y with
    | nan | infinity => cases second
    | finite t n =>
      have none : (s != t) = true → m * n = 0 := by
        have first := unsigned.eq_zero
        have second := unsigned'.eq_zero
        cases s <;> cases t <;> simp_all
      rw [mul_finite] at finite ⊢
      have close := abs_value_rounded_sub_le unitsPerOne_pos none finite
      rwa [Nat.cast_mul, mul_div_mul_comm, ← unsigned.value_finite, ← unsigned'.value_finite]
        at close

theorem abs_value_div_sub_le (finite : (x / y).isFinite) (first : x.isFinite)
    (second : y.isFinite) :
    |(x / y).value - x.value / y.value| ≤ (x.value / y.value + 1) * roundoff := by
  cases x with
  | nan | infinity => cases first
  | finite s m =>
    cases y with
    | nan | infinity => cases second
    | finite t n =>
      rw [div_finite] at finite ⊢
      split at finite
      next => split at finite <;> cases finite
      next some =>
        have none : (s != t) = true → m * unitsPerOne = 0 := by
          have first := unsigned.eq_zero
          have second := unsigned'.eq_zero
          cases s <;> cases t <;> simp_all
        have close := abs_value_rounded_sub_le (Nat.pos_of_ne_zero some) none finite
        rw [if_neg some]
        have one := unitsPerOne_cast_pos
        rw [Nat.cast_mul, mul_div_mul_right _ _ one.ne', ← div_div_div_cancel_right₀ one.ne',
          ← unsigned.value_finite, ← unsigned'.value_finite] at close
        exact close

end Operations

/-- Rounding to a whole number is off by a half, and as far as the whole number is no
double. -/
theorem Unsigned.abs_value_roundTiesEven_sub_le (unsigned : x.Unsigned)
    (finite : x.roundTiesEven.isFinite) :
    |x.roundTiesEven.value - x.value| ≤ 1 / 2 + (x.value + 2) * roundoff := by
  cases x with
  | nan | infinity => cases finite
  | finite s m =>
    have none : s = true → roundDiv .toEven m unitsPerOne * unitsPerOne = 0 := by
      intro signed
      have whole := roundDiv_mul_right .toEven 0 unitsPerOne_pos
      rw [Nat.zero_mul] at whole
      rw [unsigned.eq_zero signed, whole, Nat.zero_mul]
    rw [Binary64.roundTiesEven] at finite ⊢
    have close := abs_value_rounded_sub_le Nat.one_pos none finite
    have near := abs_roundDiv_sub_le m unitsPerOne_pos
    have one := unitsPerOne_cast_pos
    rw [Nat.cast_one, one_mul, Nat.cast_mul, mul_div_cancel_right₀ _ one.ne'] at close
    rw [unsigned.value_finite]
    generalize (roundDiv .toEven m unitsPerOne : Rat) = whole at *
    generalize (m : Rat) / unitsPerOne = exact at *
    have below : whole ≤ exact + 1 / 2 := by linarith [(abs_le.mp near).2]
    have least : (whole + 1) * roundoff ≤ (exact + 2) * roundoff :=
      mul_le_mul_of_nonneg_right (by linarith) roundoff_pos.le
    calc |_ - exact| ≤ |_ - whole| + |whole - exact| := abs_sub_le _ _ _
      _ ≤ 1 / 2 + (exact + 2) * roundoff := by linarith

/-- Rounding to hundredths is off by half a hundredth, and by a small part of the number
and of one. -/
theorem Unsigned.abs_value_roundTo_two_sub_le (unsigned : x.Unsigned) {n exponent : Nat}
    (few : x.AtMost (n * powerUnits exponent)) (inRange : 100 * n ≤ exactBound)
    (inRange' : 53 + exponent < overflowExponent) :
    |(Binary64.roundTo 2 x).value - x.value| ≤ 1 / 200 + 4 * (x.value + 1) * roundoff := by
  have small : 100 ≤ exactBound := by decide
  have hundred := value_ofNat small
  have plain := unsigned_of_clear (clear_ofNat 100)
  have exact : (ofNat 100).isFinite := (units_ofNat small).1.isFinite
  have scaled := (few.mul_ofNat small inRange inRange').isFinite
  have whole := (few.roundTiesEven_mul_ofNat small inRange inRange').isFinite
  have result := (few.roundTo_two inRange inRange').1.isFinite
  rw [Binary64.roundTo, power_ten_two] at result ⊢
  have first := abs_value_mul_sub_le unsigned plain scaled few.isFinite exact
  have second := (unsigned.mul plain).abs_value_roundTiesEven_sub_le whole
  have third := abs_value_div_sub_le (unsigned.mul plain).roundTiesEven plain result whole exact
  have least := unsigned.value_nonneg
  rw [hundred] at first third
  push_cast at first third
  generalize (x * ofNat 100).roundTiesEven = nearest at *
  generalize x * ofNat 100 = multiple at *
  rw [abs_le] at first second third ⊢
  norm_num [roundoff] at first second third ⊢
  constructor <;> linarith

/-! Shares. -/

section Share
variable {part total share own shared : Binary64} {units : Nat}

/-- A share in hundredths is off by half a hundredth and little more. -/
theorem abs_value_share_sub_le (few : part.AtMost units) (inside : total.AtLeast units)
    (some : total.AtLeast grain) (unsigned : part.Unsigned) (unsigned' : total.Unsigned)
    (finite : total.isFinite) :
    |(Binary64.roundTo 2 (part / total)).value - part.value / total.value| ≤
      1 / 200 + 10 * roundoff := by
  have below := (few.value_le unsigned).trans (inside.le_value finite unsigned')
  have bounded := atMost_share few inside some
  have plain := unsigned.div (unsigned'.clear (some.not_isZero grain_pos))
  have quotient := abs_value_div_sub_le unsigned unsigned' bounded.isFinite few.isFinite finite
  have most := bounded.value_le plain
  rw [div_self unitsPerOne_cast_pos.ne'] at most
  have most' : part.value / total.value ≤ 1 := div_le_one_of_le₀ below unsigned'.value_nonneg
  rw [← powerUnits_zero, ← Nat.one_mul (powerUnits 0)] at bounded
  have nearest := plain.abs_value_roundTo_two_sub_le bounded (by decide) (by decide)
  rw [abs_le] at quotient nearest ⊢
  norm_num [roundoff] at quotient nearest ⊢
  constructor <;> linarith

/-- A credit is off by half a hundredth and little more, as long as what is credited is in
the range of percentages and the credits are not too many. -/
theorem abs_value_credit_sub_le {n : Nat} (few : (shared * share).AtMost (powerUnits 7))
    (whole : (own + shared * share).AtMost (n * powerUnits 7)) (counted : n ≤ 2 ^ 32 + 1)
    (unsigned : own.Unsigned) (unsigned' : shared.Unsigned) (unsigned'' : share.Unsigned)
    (finite : shared.isFinite) (finite' : share.isFinite) :
    |(Binary64.roundTo 2 (own + shared * share)).value - own.value - shared.value * share.value| ≤
      11 / 2000 := by
  have plain := unsigned'.mul unsigned''
  have product := abs_value_mul_sub_le unsigned' unsigned'' few.isFinite finite finite'
  have sum := abs_value_add_sub_le unsigned plain whole.isFinite
  have limit : 100 * (2 ^ 32 + 1) ≤ exactBound := by decide
  have nearest := (unsigned.add plain).abs_value_roundTo_two_sub_le whole
    ((Nat.mul_le_mul_left 100 counted).trans limit) (by decide)
  rw [← Nat.one_mul (powerUnits 7)] at few
  have small := few.value_le_mul_pow plain
  have large := whole.value_le_mul_pow (unsigned.add plain)
  have counted : (n : Rat) ≤ 2 ^ 32 + 1 := by exact_mod_cast counted
  rw [abs_le] at product sum nearest ⊢
  norm_num [roundoff] at product sum nearest small ⊢
  constructor <;> linarith

end Share

/-! Sums. -/

/-- Adding what is not negative makes no number smaller. -/
theorem Unsigned.value_le_add (unsigned : x.Unsigned) (unsigned' : y.Unsigned)
    (finite : (x + y).isFinite) : x.value ≤ (x + y).value := by
  obtain ⟨first, second⟩ := isFinite_of_add finite
  cases x with
  | nan | infinity => cases first
  | finite s m magnitude =>
    have number : y.AtLeast 0 := by
      cases y with
      | nan | infinity => cases second
      | finite => exact (atMost_finite.mpr le_rfl).atLeast_zero
    have large : (Binary64.finite s m magnitude + y).AtLeast m :=
      AtLeast.add (atLeast_finite.mpr le_rfl) number unsigned unsigned' magnitude le_rfl
    rw [unsigned.value_finite]
    exact large.le_value finite (unsigned.add unsigned')

/-- Adding more and more never lowers a sum, and takes it off by a small part of what it
comes to and of one for each term. -/
theorem abs_value_foldl_sub_le {terms : List Binary64} {start : Binary64}
    (unsigned : ∀ term ∈ terms, term.Unsigned) (unsigned' : start.Unsigned)
    (finite : (terms.foldl (· + ·) start).isFinite) :
    start.isFinite ∧ start.value ≤ (terms.foldl (· + ·) start).value ∧
      |(terms.foldl (· + ·) start).value - (start.value + (terms.map value).sum)| ≤
        2 * terms.length * ((terms.foldl (· + ·) start).value + 1) * roundoff := by
  induction terms generalizing start with
  | nil => exact ⟨finite, le_rfl, by simp⟩
  | cons first later ih =>
    obtain ⟨here, unsigned⟩ := List.forall_mem_cons.mp unsigned
    rw [List.foldl_cons] at finite ⊢
    obtain ⟨sumFinite, below, close⟩ := ih unsigned (unsigned'.add here) finite
    have step := abs_value_add_sub_le unsigned' here sumFinite
    have grows := unsigned'.value_le_add here sumFinite
    refine ⟨(isFinite_of_add sumFinite).1, grows.trans below, ?_⟩
    generalize (later.foldl (· + ·) (start + first)).value = total at *
    generalize (start + first).value = sum at *
    have least := unsigned'.value_nonneg
    have least' := here.value_nonneg
    -- What is added exactly is at most twice what the sum comes to.
    have off : (start.value + first.value + 1) * roundoff ≤ 2 * (total + 1) * roundoff := by
      refine mul_le_mul_of_nonneg_right ?_ roundoff_pos.le
      rw [abs_le] at step
      norm_num [roundoff] at step
      linarith
    rw [List.map_cons, List.sum_cons, List.length_cons]
    calc |total - (start.value + (first.value + (later.map value).sum))|
        = |(total - (sum + (later.map value).sum)) +
            (sum - (start.value + first.value))| := by ring_nf
      _ ≤ 2 * later.length * (total + 1) * roundoff + 2 * (total + 1) * roundoff :=
        (abs_add_le _ _).trans (add_le_add close (step.trans off))
      _ = 2 * (later.length + 1 : Nat) * (total + 1) * roundoff := by
        push_cast
        ring

/-- A sum is off by a small part of itself and of one for each term. -/
theorem abs_value_sum_sub_le {terms : List Binary64} (unsigned : ∀ term ∈ terms, term.Unsigned)
    (finite : (Quantity.sum terms).isFinite) :
    |(Quantity.sum terms).value - (terms.map value).sum| ≤
      2 * terms.length * ((Quantity.sum terms).value + 1) * roundoff := by
  obtain ⟨_, _, close⟩ := abs_value_foldl_sub_le unsigned (unsigned_signedZero true) finite
  rw [value_signedZero, zero_add] at close
  exact close

/-- The parts of a sum that is a grain at least make up one, and a small part of one for
each term. -/
theorem abs_sum_parts_sub_one_le {terms : List Binary64}
    (unsigned : ∀ term ∈ terms, term.Unsigned) (finite : (Quantity.sum terms).isFinite)
    (large : 1 / 128 ≤ (Quantity.sum terms).value) :
    |(terms.map fun term => term.value / (Quantity.sum terms).value).sum - 1| ≤
      258 * terms.length * roundoff := by
  have close := abs_value_sum_sub_le unsigned finite
  simp only [div_eq_mul_inv]
  rw [List.sum_map_mul_right, ← div_eq_mul_inv]
  generalize (Quantity.sum terms).value = total at close large ⊢
  have positive : 0 < total := lt_of_lt_of_le (by norm_num) large
  rw [div_sub_one positive.ne', abs_div, abs_of_pos positive, div_le_iff₀ positive, abs_sub_comm]
  refine close.trans ?_
  have least : 2 * (total + 1) ≤ 258 * total := by linarith
  have scale : 0 ≤ terms.length * roundoff :=
    mul_nonneg (Nat.cast_nonneg _) roundoff_pos.le
  calc 2 * terms.length * (total + 1) * roundoff
      = 2 * (total + 1) * (terms.length * roundoff) := by ring
    _ ≤ 258 * total * (terms.length * roundoff) := mul_le_mul_of_nonneg_right least scale
    _ = 258 * terms.length * roundoff * total := by ring

end Binary64
end ProfileGraph
