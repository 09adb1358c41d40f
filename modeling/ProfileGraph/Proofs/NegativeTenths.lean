import ProfileGraph.Proofs.ShortestDecimals
import ProfileGraph.Proofs.SteadyOperations

/-! Numbers of tenths that are rounded to whole ones. Rounding, scaling by counts
and dividing by them keep the sign bit, also where nothing but a zero is left. So
what is slightly below zero is rounded to the negative zero, and what is rounded to
a number below zero was less than minus one half. -/
namespace ProfileGraph
namespace Binary64

variable {x y : Binary64}

/-! Sign bits. -/

theorem isNegativeSigned_roundTiesEven (x : Binary64) :
    x.roundTiesEven.isNegativeSigned = x.isNegativeSigned :=
  steady_roundTiesEven.sign x

/-- Below zero is what has the sign bit and is no zero. -/
theorem isNegative_iff : Quantity.isNegative x ↔
    x.isNegativeSigned ∧ ¬ Quantity.isZero x := by
  cases x with
  | nan => exact iff_of_false Bool.false_ne_true fun signed => Bool.false_ne_true signed.1
  | infinity s => cases s <;> decide
  | finite s m =>
    rw [isZero_finite, ← not_iff_not, not_isNegative_finite]
    simp [isNegativeSigned]

/-- A difference has the sign bit exactly if less is there than is taken away. -/
theorem isNegativeSigned_sub (nonzero : ¬ Quantity.isZero x) (y : Binary64) :
    (x - y).isNegativeSigned = x.lt y := by
  cases x with
  | nan => rfl
  | infinity s =>
    cases y with
    | nan => rfl
    | infinity t => cases s <;> cases t <;> rfl
    | finite => rfl
  | finite s m left =>
    rw [isZero_finite] at nonzero
    cases y with
    | nan => rfl
    | infinity t => rfl
    | finite t n right =>
      show (finite s m left + finite (!t) n right).isNegativeSigned =
        decide (signedUnits s m < signedUnits t n)
      have zero : (signedZero false).isNegativeSigned = false := rfl
      rw [add_finite]
      cases s <;> cases t <;> split_ifs <;> simp_all [signedUnits] <;> omega

theorem isWeight_ofNat {n : Nat} (some : n ≠ 0) (inRange : n < countBound) :
    (ofNat n).IsWeight := by
  have magnitude : IsMagnitude (1 * powerUnits 64) :=
    isMagnitude_mul_powerUnits (by decide) (by decide)
  have below : n * unitsPerOne ≤ 1 * powerUnits 64 * 1 := by
    rw [Nat.one_mul, Nat.mul_one]
    exact Nat.mul_le_mul_right _ inRange.le
  obtain ⟨fits, same⟩ := exists_rounded Nat.one_pos false magnitude below
  rw [← ofNat_eq_rounded] at same
  have least := (atLeast_ofNat some).le_of_atMost (same ▸ atMost_finite.mpr le_rfl)
  exact ⟨_, fits, unitsPerOne_pos.trans_le least, same⟩

section Scaling
variable (weight : y.IsWeight) (x : Binary64)
include weight

theorem isNegativeSigned_mul : (x * y).isNegativeSigned = x.isNegativeSigned :=
  (steady_mul weight).sign x

theorem isNegativeSigned_mul_left : (y * x).isNegativeSigned = x.isNegativeSigned := by
  obtain ⟨n, magnitude, positive, rfl⟩ := weight
  cases x with
  | nan => rfl
  | infinity s =>
    show isNegativeSigned (if n = 0 then nan else infinity (false != s)) = s
    rw [if_neg positive.ne', Bool.false_bne]
    rfl
  | finite s m =>
    rw [mul_finite, isNegativeSigned_rounded, Bool.false_bne]
    rfl

theorem isNegativeSigned_div : (x / y).isNegativeSigned = x.isNegativeSigned :=
  (steady_div weight).sign x

end Scaling

/-! What is rounded to a number below zero. -/

/-- The units of one half. -/
def half : Nat := 64 * grain

theorem unitsPerOne_eq_half : unitsPerOne = 2 * half := by
  rw [half, unitsPerOne_eq_grain, ← Nat.mul_assoc]

theorem isMagnitude_half : IsMagnitude half := by
  have inRange : 53 + grainExponent < unitExponent + overflowExponent := by decide
  have fits := isMagnitude_mul_twoPow (by decide : 64 ≤ exactBound) inRange
  unfold half grain
  exact fits

theorem ofRatio_half : ofRatio true 1 2 = finite true half isMagnitude_half := by
  have same : roundUnits (1 * unitsPerOne) 2 = half := by
    have units : 1 * unitsPerOne = half * 2 := by
      rw [Nat.one_mul, Nat.mul_comm]
      exact unitsPerOne_eq_half
    rw [units]
    exact Nat.le_antisymm (roundUnits_le Nat.two_pos isMagnitude_half le_rfl)
      (le_roundUnits Nat.two_pos isMagnitude_half le_rfl)
  rw [ofRatio, rounded, same, ofUnits, dif_pos isMagnitude_half]

theorem lt_minusHalf_iff : x.lt (ofRatio true 1 2) ↔ x.isNegativeSigned ∧ ¬ x.AtMost half := by
  rw [ofRatio_half]
  cases x with
  | nan => exact iff_of_false Bool.false_ne_true fun signed => Bool.false_ne_true signed.1
  | infinity s =>
    have large : ¬ (infinity s).AtMost half := fun few => Bool.false_ne_true few.isFinite
    exact (and_iff_left large).symm
  | finite s m =>
    show decide (signedUnits s m < signedUnits true half) = true ↔ s = true ∧ _
    rw [atMost_finite, decide_eq_true_iff]
    generalize half = bound
    cases s <;> simp [signedUnits]

/-- What is not at most so large is larger, if it is a number. -/
theorem AtLeast.of_not_atMost {bound : Nat} (number : x.AtLeast 0) (large : ¬ x.AtMost bound) :
    x.AtLeast (bound + 1) := by
  unfold AtLeast at number ⊢
  cases x with
  | nan => exact number
  | infinity => trivial
  | finite s m => exact Nat.lt_of_not_le fun few => large (atMost_finite.mpr few)

/-- At most a half is rounded to zero. -/
theorem AtMost.roundTiesEven_half (small : x.AtMost half) : x.roundTiesEven.AtMost 0 := by
  cases x with
  | nan | infinity => exact absurd small.isFinite Bool.false_ne_true
  | finite s m =>
    have few : m ≤ half := atMost_finite.mp small
    have none : roundDiv .toEven m unitsPerOne = 0 := by
      have one := unitsPerOne_eq_half
      refine roundDiv_eq_of_near unitsPerOne_pos (by omega) ?_ (.inl rfl)
      rw [one]
      omega
    show (rounded s (roundDiv .toEven m unitsPerOne * unitsPerOne) 1).AtMost 0
    rw [none, Nat.zero_mul]
    exact atMost_rounded Nat.one_pos s isMagnitude_zero (Nat.zero_le _)

/-- Tenths are rounded to zero exactly if there is at most a half of one. -/
theorem isZero_tenth_iff (number : x.AtLeast 0) :
    Quantity.isZero (x.roundTiesEven / ofNat 10) ↔ x.AtMost half := by
  constructor
  · refine fun zero => by_contra fun large => ?_
    have units : 1 * (10 * unitsPerOne) ≤ unitsPerOne * unitsPerOne := by
      have positive := grain_pos
      rw [Nat.one_mul]
      refine Nat.mul_le_mul_right _ ?_
      rw [unitsPerOne_eq_grain]
      omega
    have one := (number.of_not_atMost large).roundTiesEven (by rw [unitsPerOne_eq_half]; omega)
    have ten := units_ofNat (by decide : 10 ≤ exactBound)
    have tenth := one.div ten.1 ((atLeast_ofNat (by decide)).mono unitsPerOne_pos)
      isMagnitude_one units
    exact tenth.not_isZero Nat.one_pos zero
  · intro small
    have none := small.roundTiesEven_half.div_ofNat (by decide : 10 ≠ 0) isMagnitude_zero
    exact none.isZero rfl

/-- Tenths are rounded to a number below zero exactly if they are below minus one
half. -/
theorem isNegative_tenth_iff :
    Quantity.isNegative (x.roundTiesEven / ofNat 10) ↔ x.lt (ofRatio true 1 2) := by
  have ten : (ofNat 10).IsWeight := isWeight_ofNat (by decide) (by decide)
  rw [isNegative_iff, isNegativeSigned_div ten, isNegativeSigned_roundTiesEven, lt_minusHalf_iff]
  refine and_congr_right fun signed => not_congr (isZero_tenth_iff ?_)
  cases x with
  | nan => cases signed
  | infinity | finite =>
    unfold AtLeast
    simp

/-! Differences of counts. -/

/-- Whole numbers up to this one are told apart by what they are in percent. -/
def wholeBound : Nat := 10 ^ 12

theorem wholeBound_le : 2000 * wholeBound ≤ exactBound := by decide

/-- The last digits of the double nearest to a twentieth count units to this power of
two. -/
def fineExponent : Nat := 1017

/-- The units of the power of two of which the numbers near a twentieth are multiples. -/
def fineGrain : Nat := Nat.pow 2 fineExponent

theorem fineGrain_pos : 0 < fineGrain := by
  unfold fineGrain
  exact twoPow_pos fineExponent

theorem isMagnitude_mul_fineGrain {n : Nat} (bounded : n ≤ exactBound) :
    IsMagnitude (n * fineGrain) := by
  have inRange : 53 + fineExponent < unitExponent + overflowExponent := by decide
  unfold fineGrain
  exact isMagnitude_mul_twoPow bounded inRange

theorem grain_eq_fineGrain : grain = 2 ^ 50 * fineGrain := by
  have exponents : grainExponent = 50 + fineExponent := rfl
  unfold grain fineGrain
  rw [exponents]
  generalize fineExponent = fine
  exact Nat.pow_add 2 50 fine

/-- The units of the double nearest to a twentieth. -/
def twentieth : Nat := 7205759403792794 * fineGrain

/-- The units of a double not far above a twentieth. -/
def aboveTwentieth : Nat := 7205759403792796 * fineGrain

/-- The units of the least double above one half. -/
def aboveHalf : Nat := 4503599627370497 * (16 * fineGrain)

theorem isMagnitude_twentieth : IsMagnitude twentieth :=
  isMagnitude_mul_fineGrain (by decide)

theorem isMagnitude_aboveTwentieth : IsMagnitude aboveTwentieth :=
  isMagnitude_mul_fineGrain (by decide)

theorem isMagnitude_aboveHalf : IsMagnitude aboveHalf := by
  have inRange : 53 + (4 + fineExponent) < unitExponent + overflowExponent := by decide
  have power : 16 * fineGrain = Nat.pow 2 (4 + fineExponent) := by
    unfold fineGrain
    generalize fineExponent = fine
    exact (Nat.pow_add 2 4 fine).symm
  rw [aboveHalf, power]
  exact isMagnitude_mul_twoPow (by decide) inRange

/-- Ten twentieths are one half, since the error is rounded away. -/
theorem roundUnits_twentieth :
    roundUnits (twentieth * (10 * unitsPerOne)) unitsPerOne = half := by
  decide +kernel

theorem unitsPerOne_le_twentieth : unitsPerOne ≤ 20 * twentieth := by
  rw [unitsPerOne_eq_grain, grain_eq_fineGrain, twentieth]
  omega

theorem ten_twentieth_le : twentieth * 10 ≤ unitsPerOne := by
  rw [unitsPerOne_eq_grain, grain_eq_fineGrain, twentieth]
  omega

theorem half_lt_aboveHalf : half < aboveHalf := by
  have positive := fineGrain_pos
  rw [half, grain_eq_fineGrain, aboveHalf]
  omega

theorem aboveHalf_le : aboveHalf ≤ aboveTwentieth * 10 := by
  rw [aboveHalf, aboveTwentieth]
  omega

/-- So near that whole numbers up to the bound do not come between. -/
theorem aboveTwentieth_near :
    2000 * aboveTwentieth ≤ 100 * unitsPerOne + aboveTwentieth / wholeBound := by
  have positive := fineGrain_pos
  rw [unitsPerOne_eq_grain, grain_eq_fineGrain, aboveTwentieth, wholeBound]
  omega

theorem aboveTwentieth_pos : 0 < aboveTwentieth :=
  Nat.mul_pos (by decide) fineGrain_pos

theorem exact_of_le_wholeBound {n : Nat} (few : n ≤ wholeBound) : n ≤ exactBound := by
  have most := wholeBound_le
  omega

theorem IsCount.exists_finite (whole : x.IsCount) (bounded : x.count ≤ wholeBound) :
    ∃ negative units magnitude, x = finite negative units magnitude ∧
      units = x.count * unitsPerOne ∧ (negative = true → x.count = 0) := by
  have exact := exact_of_le_wholeBound bounded
  rcases whole.eq_ofNat_or with same | ⟨none, same⟩
  · have fits := isMagnitude_mul_unitsPerOne exact
    exact ⟨false, _, fits, same.trans (ofNat_of_le exact), rfl, fun signed => nomatch signed⟩
  · exact ⟨true, 0, isMagnitude_zero, same, by rw [none, Nat.zero_mul], fun _ => none⟩

section Counts
variable (whole : x.IsCount) (whole' : y.IsCount) (bounded : x.count ≤ wholeBound)
  (bounded' : y.count ≤ wholeBound)
include whole whole' bounded bounded'

/-- Counts are compared as natural numbers. -/
theorem lt_iff_count_lt : x.lt y ↔ x.count < y.count := by
  obtain ⟨s, a, _, first, units, none⟩ := whole.exists_finite bounded
  obtain ⟨t, b, _, second, units', none'⟩ := whole'.exists_finite bounded'
  have scale : a < b ↔ x.count < y.count := by
    rw [units, units']
    exact Nat.mul_lt_mul_right unitsPerOne_pos
  have zero : s = true → a = 0 := fun signed => by rw [units, none signed, Nat.zero_mul]
  have zero' : t = true → b = 0 := fun signed => by rw [units', none' signed, Nat.zero_mul]
  rw [← scale, first, second]
  show decide (signedUnits s a < signedUnits t b) = true ↔ _
  rw [decide_eq_true_iff]
  clear first second units units' none none' scale
  cases s <;> cases t <;> simp_all [signedUnits]

/-- The difference of counts has as many units as the exact one. -/
theorem sub_of_counts (less : x.count < y.count) :
    (x - y).AtMost ((y.count - x.count) * unitsPerOne) ∧
      (x - y).AtLeast ((y.count - x.count) * unitsPerOne) := by
  have fits := isMagnitude_mul_unitsPerOne
    (exact_of_le_wholeBound ((Nat.sub_le y.count x.count).trans bounded'))
  obtain ⟨s, a, left, first, units, none⟩ := whole.exists_finite bounded
  obtain ⟨t, b, right, second, units', none'⟩ := whole'.exists_finite bounded'
  obtain rfl : t = false := Bool.eq_false_iff.mpr fun signed => by
    have zero := none' signed
    omega
  have apart : (y.count - x.count) * unitsPerOne = b - a := by
    rw [units, units', Nat.sub_mul]
  have larger : a < b := by
    rw [units, units']
    exact (Nat.mul_lt_mul_right unitsPerOne_pos).mpr less
  have zero : s = true → a = 0 := fun signed => by rw [units, none signed, Nat.zero_mul]
  have difference : x - y = rounded true (b - a) 1 := by
    rw [first, second]
    show finite s a left + finite true b right = _
    rw [add_finite]
    cases s with
    | false => rw [if_neg (by decide), if_neg (Nat.lt_asymm larger), if_pos larger]
    | true => rw [if_pos (by decide), zero rfl, Nat.zero_add, Nat.sub_zero]
  rw [apart] at fits ⊢
  rw [difference]
  exact ⟨atMost_rounded Nat.one_pos true fits (Nat.mul_one _).ge,
    atLeast_rounded Nat.one_pos true fits (Nat.mul_one _).le⟩

end Counts

theorem AtMost.mul_ten (few : x.AtMost twentieth) : (x * ofNat 10).AtMost half := by
  cases x with
  | nan | infinity => exact absurd few.isFinite Bool.false_ne_true
  | finite s m =>
    have below : m * (10 * unitsPerOne) ≤ twentieth * (10 * unitsPerOne) :=
      Nat.mul_le_mul_right _ (atMost_finite.mp few)
    have inRange : m * (10 * unitsPerOne) ≤ unitsPerOne * unitsPerOne := by
      refine below.trans ?_
      rw [← Nat.mul_assoc]
      exact Nat.mul_le_mul_right _ ten_twentieth_le
    obtain ⟨fits, same⟩ :=
      exists_rounded unitsPerOne_pos (s != false) isMagnitude_unitsPerOne inRange
    rw [ofNat_of_le (by decide : 10 ≤ exactBound), mul_finite, same, atMost_finite]
    calc roundUnits (m * (10 * unitsPerOne)) unitsPerOne
        ≤ roundUnits (twentieth * (10 * unitsPerOne)) unitsPerOne :=
          roundUnits_mono unitsPerOne_pos below
      _ = half := roundUnits_twentieth

section Tenths
variable {k samples : Nat} (few : k ≤ wholeBound)
include few

/-- At most one part in two thousand is at most half a tenth of a percent. -/
theorem AtMost.tenths (units : x.AtMost (k * unitsPerOne)) (some : k ≠ 0)
    (small : 2000 * k ≤ samples) :
    (ofNat 100 * x / ofNat samples * ofNat 10).AtMost half := by
  have most := wholeBound_le
  have hundred : IsMagnitude (100 * (k * unitsPerOne)) := by
    rw [← Nat.mul_assoc]
    exact isMagnitude_mul_unitsPerOne (by omega)
  have all : (ofNat samples).AtLeast (2000 * k * unitsPerOne) := by
    rw [ofNat_eq_rounded]
    refine atLeast_rounded Nat.one_pos false (isMagnitude_mul_unitsPerOne (by omega)) ?_
    rw [Nat.mul_one]
    exact Nat.mul_le_mul_right _ small
  have positive : 0 < 2000 * k * unitsPerOne := Nat.mul_pos (by omega) unitsPerOne_pos
  refine AtMost.mul_ten ?_
  refine (units.ofNat_mul (by decide) hundred).div all positive isMagnitude_twentieth ?_
  calc 100 * (k * unitsPerOne) * unitsPerOne
      ≤ 100 * (k * unitsPerOne) * (20 * twentieth) :=
        Nat.mul_le_mul_left _ unitsPerOne_le_twentieth
    _ = twentieth * (2000 * k * unitsPerOne) := by ring

/-- More than one part in two thousand is more than half a tenth of a percent. -/
theorem AtLeast.tenths (units : x.AtLeast (k * unitsPerOne)) (some : samples ≠ 0)
    (large : samples < 2000 * k) :
    (ofNat 100 * x / ofNat samples * ofNat 10).AtLeast aboveHalf := by
  have most := wholeBound_le
  have positive := unitsPerOne_pos
  have share : (ofNat 100 * x).AtLeast (100 * k * unitsPerOne) :=
    (units_ofNat (by decide)).2.mul units (Nat.mul_pos (by decide) positive)
      (Nat.mul_pos (by omega) positive) (isMagnitude_mul_unitsPerOne (by omega))
      (by ring : _ = _).le
  have scaled : aboveTwentieth * samples ≤ 100 * k * unitsPerOne := by
    have parts : k * (aboveTwentieth / wholeBound) ≤ aboveTwentieth :=
      (Nat.mul_le_mul_right _ few).trans (Nat.mul_div_le _ _)
    have near := Nat.mul_le_mul_left k aboveTwentieth_near
    have next := Nat.mul_le_mul_left aboveTwentieth (Nat.succ_le_of_lt large)
    generalize aboveTwentieth = above at parts near next ⊢
    generalize above / wholeBound = part at parts near
    generalize unitsPerOne = one at near ⊢
    nlinarith
  have part : (ofNat 100 * x / ofNat samples).AtLeast aboveTwentieth := by
    refine share.div (units_ofNat (by omega)).1 ((atLeast_ofNat some).mono unitsPerOne_pos)
      isMagnitude_aboveTwentieth ?_
    rw [← Nat.mul_assoc]
    exact Nat.mul_le_mul_right _ scaled
  refine part.mul (units_ofNat (by decide)).2 aboveTwentieth_pos
    (Nat.mul_pos (by decide) positive) isMagnitude_aboveHalf ?_
  rw [← Nat.mul_assoc]
  exact Nat.mul_le_mul_right _ aboveHalf_le

end Tenths

/-- How much more one number is than another, in tenths of a percent of a number of
samples. -/
def tenths (x y : Binary64) (samples : Nat) : Binary64 :=
  ofNat 100 * (x - y) / ofNat samples * ofNat 10

theorem isNegativeSigned_tenths {samples : Nat} (nonzero : ¬ Quantity.isZero x)
    (some : samples ≠ 0) (inRange : samples < countBound) :
    (tenths x y samples).isNegativeSigned = x.lt y := by
  have hundred : (ofNat 100).IsWeight := isWeight_ofNat (by decide) (by decide)
  have ten : (ofNat 10).IsWeight := isWeight_ofNat (by decide) (by decide)
  rw [tenths, isNegativeSigned_mul ten, isNegativeSigned_div (isWeight_ofNat some inRange),
    isNegativeSigned_mul_left hundred, isNegativeSigned_sub nonzero]

/-- Of counts, whether a difference is rounded to a number below zero is settled by
the exact quotient. -/
theorem tenths_lt_minusHalf_iff {samples : Nat} (whole : x.IsCount) (whole' : y.IsCount)
    (bounded : x.count ≤ wholeBound) (bounded' : y.count ≤ wholeBound)
    (nonzero : ¬ Quantity.isZero x) (some : samples ≠ 0) (inRange : samples < countBound) :
    (tenths x y samples).lt (ofRatio true 1 2) ↔ samples < 2000 * (y.count - x.count) := by
  rw [lt_minusHalf_iff, isNegativeSigned_tenths nonzero some inRange,
    lt_iff_count_lt whole whole' bounded bounded']
  rcases Nat.lt_or_ge x.count y.count with less | more
  · have few : y.count - x.count ≤ wholeBound := (Nat.sub_le ..).trans bounded'
    obtain ⟨most, least⟩ := sub_of_counts whole whole' bounded bounded' less
    rw [and_iff_right less, ← not_le]
    refine not_congr ⟨fun small => Nat.le_of_not_lt fun large => ?_, fun small => ?_⟩
    · have above := (least.tenths few some large).le_of_atMost small
      exact absurd half_lt_aboveHalf above.not_gt
    · exact most.tenths few (Nat.sub_ne_zero_of_lt less) small
  · rw [Nat.sub_eq_zero_of_le more, Nat.mul_zero]
    exact iff_of_false (fun less => more.not_gt less.1) (Nat.not_lt_zero _)

end Binary64
end ProfileGraph
