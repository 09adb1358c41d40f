import ProfileGraph.Proofs.MostCovered
import ProfileGraph.Proofs.RationalRounding
import ProfileGraph.Proofs.SteadyOperations

/-! Rounding to decimal places keeps the order of numbers and treats both signs alike.
On doubles it takes three steady operations: a scaling, a rounding to whole numbers and a
scaling back. On exact rationals it leads to the nearest multiple of the last place. -/
namespace ProfileGraph
namespace Binary64

variable {x y : Binary64}

/-! The order of numbers. -/

theorem position_eq_signedUnits (x : Binary64) :
    x.position = signedUnits x.isNegativeSigned x.size := by
  cases x <;> rfl

theorem ne_nan_of_le (order : x.le y) : x ≠ nan ∧ y ≠ nan := by
  refine ⟨?_, ?_⟩ <;> rintro rfl
  · cases order
  · cases x <;> cases order

/-- Signed sizes keep their order when the sizes keep theirs and zeros stay zeros. -/
theorem signedUnits_le {negative negative' : Bool} {before before' after after' : Nat}
    (order : signedUnits negative before ≤ signedUnits negative' before')
    (upward : before ≤ before' → after ≤ after') (downward : before' ≤ before → after' ≤ after)
    (none : before = 0 → after = 0) (none' : before' = 0 → after' = 0) :
    signedUnits negative after ≤ signedUnits negative' after' := by
  cases negative <;> cases negative' <;>
    simp only [signedUnits, Bool.false_eq_true, if_true, if_false] at order ⊢
  case false.false =>
    have less := upward (by omega)
    omega
  case false.true =>
    -- A number that is not negative is no greater than one that is not positive.
    have first := none (by omega)
    have second := none' (by omega)
    omega
  case true.false => omega
  case true.true =>
    have less := downward (by omega)
    omega

theorem Steady.le {operate : Binary64 → Binary64} (steady : Steady operate) (order : x.le y) :
    (operate x).le (operate y) := by
  obtain ⟨number, number'⟩ := ne_nan_of_le order
  have defined := (steady.nan_iff x).not.mpr number
  have defined' := (steady.nan_iff y).not.mpr number'
  have none {z : Binary64} (zero : z.size = 0) : (operate z).size = 0 := by
    have noMore := steady.mono z nan zero.le
    rw [(steady.nan_iff nan).mpr rfl] at noMore
    exact Nat.le_zero.mp noMore
  rw [le_iff_position number number', position_eq_signedUnits, position_eq_signedUnits] at order
  rw [le_iff_position defined defined', position_eq_signedUnits, position_eq_signedUnits,
    steady.sign, steady.sign]
  exact signedUnits_le order (steady.mono x y) (steady.mono y x) none none

/-! Decimal places. -/

theorem IsWeight.of_clear (finite : x.isFinite) (nonzero : ¬ Quantity.isZero x)
    (clear : x.isNegativeSigned = false) : x.IsWeight := by
  cases x with
  | nan | infinity => cases finite
  | finite s m inRange =>
    obtain rfl : s = false := clear
    exact ⟨m, inRange, Nat.pos_of_ne_zero (isZero_finite.not.mp nonzero), rfl⟩

theorem steady_roundTo {decimals : Int} (finite : (power (ofNat 10) decimals).isFinite)
    (nonzero : ¬ Quantity.isZero (power (ofNat 10) decimals)) : Steady (roundTo decimals) :=
  have weight := IsWeight.of_clear finite nonzero (clear_power 10 decimals)
  (steady_div weight).comp (steady_roundTiesEven.comp (steady_mul weight))

/-- Rounding to decimal places keeps the order of doubles, infinities included, and leads
opposite doubles to opposite ones, if the power of ten is a double to scale by. On exact
rationals it does so for every number of places. There a number is rounded to the nearest
multiple of the last place, the even one of two, which is half a place away at most, and
rounding once more changes nothing. -/
theorem roundTo_orderly (decimals : Int) :
    ((power (ofNat 10) decimals).isFinite → ¬ Quantity.isZero (power (ofNat 10) decimals) →
      (∀ x y : Binary64, x.le y → (roundTo decimals x).le (roundTo decimals y)) ∧
      ∀ x : Binary64, roundTo decimals (-x) = -roundTo decimals x) ∧
    (∀ x y : Rat, x ≤ y → Quantity.roundTo decimals x ≤ Quantity.roundTo decimals y) ∧
    (∀ x : Rat, Quantity.roundTo decimals (-x) = -Quantity.roundTo decimals x) ∧
    (∀ x result : Rat, Quantity.roundTo decimals x = result ↔
      ∃ steps : Int, result = steps * 10 ^ (-decimals) ∧
        Quantity.IsNearestMultiple (10 ^ (-decimals)) x steps) ∧
    (∀ x : Rat, |Quantity.roundTo decimals x - x| ≤ 10 ^ (-decimals) / 2) ∧
    ∀ x : Rat, Quantity.roundTo decimals (Quantity.roundTo decimals x) =
      Quantity.roundTo decimals x := by
  refine ⟨fun finite nonzero => ?_, fun _ _ => Quantity.roundTo_mono decimals,
    Quantity.roundTo_neg decimals, fun _ _ => Quantity.roundTo_eq_iff decimals,
    Quantity.abs_roundTo_sub_le_half_place decimals, Quantity.roundTo_roundTo decimals⟩
  have steady := steady_roundTo finite nonzero
  exact ⟨fun _ _ => steady.le, steady.neg⟩

/-- Two thousand five hundred and three thousand five hundred in thousands: both are halfway
between two of them, and a thousandth to scale by is no double itself. -/
theorem thousands_roundTo_orderly :
    (power (ofNat 10) (-3)).isFinite ∧ ¬ Quantity.isZero (power (ofNat 10) (-3)) ∧
      (ofNat 2500).le (ofNat 3500) ∧
      (roundTo (-3) (ofNat 2500)).le (roundTo (-3) (ofNat 3500)) ∧
      roundTo (-3) (-ofNat 2500) = -ofNat 2000 ∧
      Quantity.roundTo (-3) (2500 : Rat) ≤ Quantity.roundTo (-3) (3500 : Rat) ∧
      Quantity.roundTo (-3) (-3500 : Rat) = -4000 := by
  have finite : (power (ofNat 10) (-3)).isFinite := by decide +kernel
  have nonzero : ¬ Quantity.isZero (power (ofNat 10) (-3)) := by decide +kernel
  have below : (ofNat 2500).le (ofNat 3500) := by decide +kernel
  have even : roundTo (-3) (ofNat 2500) = ofNat 2000 := by decide +kernel
  have even' : Quantity.roundTo (-3) (3500 : Rat) = 4000 := by decide +kernel
  obtain ⟨doubles, order, opposite, _⟩ := roundTo_orderly (-3)
  obtain ⟨keeps, mirrors⟩ := doubles finite nonzero
  exact ⟨finite, nonzero, below, keeps _ _ below, (mirrors _).trans (congrArg _ even),
    order 2500 3500 (by norm_num), (opposite 3500).trans (congrArg _ even')⟩

end Binary64
end ProfileGraph
