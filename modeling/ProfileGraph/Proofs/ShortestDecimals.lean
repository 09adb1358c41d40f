import ProfileGraph.Proofs.Numerals

/-! The shortest decimal of a double is read back as that double. What rounds to
a magnitude is exactly what lies in its rounding interval, and a grid of
seventeen digits is fine enough to have a point there. -/
namespace ProfileGraph

theorem roundDiv_eq_of_near {num den point : Nat} (positive : 0 < den)
    (low : 2 * (point * den) ≤ 2 * num + den) (high : 2 * num ≤ 2 * (point * den) + den)
    (decided : point % 2 = 0 ∨ 2 * (point * den) < 2 * num + den ∧ 2 * num < 2 * (point * den) + den) :
    roundDiv .toEven num den = point := by
  have whole := Nat.div_add_mod' num den
  rw [roundDiv]
  rcases Nat.lt_or_ge num (point * den) with below | above
  · obtain ⟨before, rfl⟩ : ∃ before, point = before + 1 :=
      Nat.exists_eq_succ_of_ne_zero fun zero => by simp [zero] at below
    have step := Nat.add_one_mul before den
    have floor : num / den = before := Nat.div_eq_of_lt_le (by omega) below
    rw [floor] at whole ⊢
    split
    next less => omega
    next =>
      split
      next => rfl
      next tie =>
        have odd : before % 2 = 1 := by omega
        rw [if_pos (by simp [Tie.goesUp, odd])]
  · have floor : num / den = point :=
      Nat.div_eq_of_lt_le above (by rw [Nat.succ_mul]; omega)
    rw [floor] at whole ⊢
    split
    next => rfl
    next =>
      split
      next more => omega
      next tie =>
        have even : point % 2 = 0 := by omega
        rw [if_neg (by simp [Tie.goesUp, even])]

namespace Binary64

theorem gapExponent_of_bounds {units exponent : Nat} (low : 2 ^ exponent ≤ units)
    (high : units < 2 ^ (exponent + 1)) : gapExponent units = exponent - 52 := by
  have positive : units ≠ 0 := (Nat.lt_of_lt_of_le (Nat.two_pow_pos exponent) low).ne'
  rw [gapExponent, (Nat.log2_eq_iff positive).mpr ⟨low, high⟩]

/-- A quotient is between two powers of two if its numerator is. -/
theorem gapExponent_div {num den exponent : Nat} (positive : 0 < den)
    (low : 2 ^ exponent * den ≤ num) (high : num < 2 ^ (exponent + 1) * den) :
    gapExponent (num / den) = exponent - 52 :=
  gapExponent_of_bounds ((Nat.le_div_iff_mul_le positive).mpr low)
    ((Nat.div_lt_iff_lt_mul positive).mpr high)

theorem RoundingInterval.contains_iff (interval : RoundingInterval) (num den : Nat) :
    interval.contains num den ↔ interval.low * den ≤ num ∧ num ≤ interval.high * den ∧
      (interval.closed ∨ interval.low * den < num ∧ num < interval.high * den) := by
  rw [contains]
  cases interval.closed
  · simp
    omega
  · simp

/-- A quotient is rounded to the place on its grid to which it is nearest. -/
theorem roundUnits_eq_of_near {num den exponent place : Nat} (positive : 0 < den)
    (gap : gapExponent (num / den) = exponent)
    (low : 2 * (place * (den * 2 ^ exponent)) ≤ 2 * num + den * 2 ^ exponent)
    (high : 2 * num ≤ 2 * (place * (den * 2 ^ exponent)) + den * 2 ^ exponent)
    (decided : place % 2 = 0 ∨ 2 * (place * (den * 2 ^ exponent)) < 2 * num + den * 2 ^ exponent ∧
      2 * num < 2 * (place * (den * 2 ^ exponent)) + den * 2 ^ exponent) :
    roundUnits num den = place * 2 ^ exponent := by
  rw [roundUnits, gap]
  exact congrArg (· * 2 ^ exponent) (roundDiv_eq_of_near
    (Nat.mul_pos positive (Nat.two_pow_pos exponent)) low high decided)

/-- Two different multiples of a number are at least that number apart. -/
theorem add_le_of_multiples {gap a b : Nat} (first : gap ∣ a) (second : gap ∣ b) (less : a < b) :
    a + gap ≤ b := by
  obtain ⟨m, rfl⟩ := first
  obtain ⟨n, rfl⟩ := second
  have apart : m + 1 ≤ n := Nat.lt_of_mul_lt_mul_left less
  exact Nat.mul_le_mul_left gap apart

section Interval
variable {units num den : Nat}

theorem dvd_twoPow_log2_succ (units : Nat) :
    2 ^ gapExponent units ∣ 2 ^ (units.log2 + 1) :=
  Nat.pow_dvd_pow 2 (by unfold gapExponent; omega)

/-- At most half a gap above a magnitude no power of two is reached. -/
theorem lt_twoPow_of_near (positive : 0 < den) (some : units ≠ 0)
    (magnitude : 2 ^ gapExponent units ∣ units)
    (high : 4 * num ≤ 4 * (units * den) + 2 * (den * 2 ^ gapExponent units)) :
    num < 2 ^ (units.log2 + 1) * den := by
  have next := add_le_of_multiples magnitude (dvd_twoPow_log2_succ units)
    ((Nat.log2_lt some).mp (Nat.lt_succ_self _))
  have scaled := Nat.mul_le_mul_right den next
  have gap : 0 < 2 ^ gapExponent units * den := Nat.mul_pos (Nat.two_pow_pos _) positive
  rw [Nat.add_mul] at scaled
  rw [Nat.mul_comm den] at high
  omega

/-- At most half a gap below a magnitude the grid is the same, unless the
magnitude is a power of two. -/
theorem gapExponent_of_near (positive : 0 < den) (some : units ≠ 0)
    (magnitude : 2 ^ gapExponent units ∣ units)
    (inner : ¬ (units = 2 ^ units.log2 ∧ 1 < 2 ^ gapExponent units))
    (low : 4 * (units * den) ≤ 4 * num + 2 * (den * 2 ^ gapExponent units))
    (high : 4 * num ≤ 4 * (units * den) + 2 * (den * 2 ^ gapExponent units)) :
    gapExponent (num / den) = gapExponent units := by
  have top := lt_twoPow_of_near positive some magnitude high
  rcases Nat.lt_or_ge 52 units.log2 with wide | narrow
  · have gap : 1 < 2 ^ gapExponent units :=
      Nat.one_lt_two_pow (by unfold gapExponent; omega)
    have above : 2 ^ units.log2 < units := by
      refine Nat.lt_of_le_of_ne (Nat.log2_self_le some) fun same => inner ⟨same.symm, gap⟩
    have next := Nat.mul_le_mul_right den (add_le_of_multiples
      (Nat.pow_dvd_pow 2 (Nat.sub_le units.log2 52)) magnitude above)
    rw [Nat.add_mul, Nat.mul_comm (2 ^ (units.log2 - 52))] at next
    refine gapExponent_div positive ?_ top
    change _ + den * 2 ^ gapExponent units ≤ _ at next
    omega
  · have small : num / den < 2 ^ 53 := by
      refine (Nat.div_lt_iff_lt_mul positive).mpr (Nat.lt_of_lt_of_le top ?_)
      exact Nat.mul_le_mul_right den (Nat.pow_le_pow_right Nat.two_pos (by omega))
    have fine : (num / den).log2 < 53 := by
      rcases Nat.eq_zero_or_pos (num / den) with zero | more
      · rw [zero]
        decide
      · exact (Nat.log2_lt more.ne').mpr small
    unfold gapExponent
    omega

/-- Below a power of two by at most a quarter of its gap the grid is twice as
fine, and the power of two has an even place on it. -/
theorem roundUnits_below_power (positive : 0 < den) {exponent : Nat}
    (low : 4 * (2 ^ (exponent + 53) * den) ≤ 4 * num + den * 2 ^ (exponent + 1))
    (below : num < 2 ^ (exponent + 53) * den) :
    roundUnits num den = 2 ^ (exponent + 53) := by
  have place : 2 ^ (exponent + 53) = 2 ^ 53 * 2 ^ exponent := by rw [Nat.add_comm, Nat.pow_add]
  have fine : 2 ^ 53 * (den * 2 ^ exponent) = 2 ^ (exponent + 53) * den := by
    rw [place]
    ring
  have half : 2 ^ (exponent + 53) * den = 2 * (2 ^ (exponent + 52) * den) := by ring
  have coarse : den * 2 ^ (exponent + 1) = 2 * (den * 2 ^ exponent) := by ring
  have small : den * 2 ^ exponent ≤ 2 ^ (exponent + 52) * den := by
    rw [Nat.mul_comm]
    exact Nat.mul_le_mul_right den (Nat.pow_le_pow_right Nat.two_pos (by omega))
  have gap : gapExponent (num / den) = exponent :=
    gapExponent_div positive (by omega : 2 ^ (exponent + 52) * den ≤ num) below
  rw [place]
  refine roundUnits_eq_of_near positive gap ?_ ?_ (.inl rfl)
  · rw [fine]
    omega
  · rw [fine]
    omega

/-- A power of two with a finer grid below it. -/
def IsEdge (units : Nat) : Prop := units = 2 ^ units.log2 ∧ 1 < 2 ^ gapExponent units

instance : DecidablePred IsEdge := fun _ => inferInstanceAs (Decidable (_ ∧ _))

theorem IsEdge.wide {units : Nat} (edge : IsEdge units) : 52 < units.log2 := by
  refine Nat.lt_of_not_le fun narrow => ?_
  have none : gapExponent units = 0 := Nat.sub_eq_zero_of_le narrow
  exact absurd edge.2 (by rw [none]; decide)

theorem IsEdge.even_place {units : Nat} (edge : IsEdge units) :
    units / 2 ^ gapExponent units % 2 = 0 := by
  have wide := edge.wide
  have place : units / 2 ^ gapExponent units = 2 ^ 52 := by
    nth_rewrite 1 [edge.1]
    rw [Nat.pow_div (by unfold gapExponent; omega) Nat.two_pos]
    congr 1
    unfold gapExponent
    omega
  rw [place]
  rfl

/-- How far the rounding interval reaches down, in quarters of a unit. -/
def reachDown (units : Nat) : Nat :=
  if IsEdge units then 2 ^ gapExponent units else 2 * 2 ^ gapExponent units

theorem roundingInterval_eq (units : Nat) : roundingInterval units =
    ⟨4 * units - reachDown units, 4 * units + 2 * 2 ^ gapExponent units,
      units / 2 ^ gapExponent units % 2 == 0⟩ := rfl

theorem near_of_contains (inside : (roundingInterval units).contains (4 * num) den) :
    4 * (units * den) ≤ 4 * num + reachDown units * den ∧
      4 * num ≤ 4 * (units * den) + 2 * (den * 2 ^ gapExponent units) ∧
      (units / 2 ^ gapExponent units % 2 = 0 ∨
        4 * (units * den) < 4 * num + reachDown units * den ∧
          4 * num < 4 * (units * den) + 2 * (den * 2 ^ gapExponent units)) := by
  have lowEnd : (4 * units - reachDown units) * den =
      4 * (units * den) - reachDown units * den := by rw [Nat.sub_mul, Nat.mul_assoc]
  have highEnd : (4 * units + 2 * 2 ^ gapExponent units) * den =
      4 * (units * den) + 2 * (den * 2 ^ gapExponent units) := by ring
  have bounds := (RoundingInterval.contains_iff _ _ _).mp inside
  rw [roundingInterval_eq] at bounds
  dsimp only at bounds
  rw [lowEnd, highEnd, beq_iff_eq] at bounds
  omega

/-- What lies in the rounding interval of a magnitude is rounded to it. Its own
grid decides, except below an edge. -/
theorem roundUnits_of_contains (positive : 0 < den) (some : units ≠ 0)
    (magnitude : 2 ^ gapExponent units ∣ units)
    (inside : (roundingInterval units).contains (4 * num) den) :
    roundUnits num den = units := by
  obtain ⟨low, high, decided⟩ := near_of_contains inside
  have place : units / 2 ^ gapExponent units * 2 ^ gapExponent units = units :=
    Nat.div_mul_cancel magnitude
  have scaled : units / 2 ^ gapExponent units * (den * 2 ^ gapExponent units) = units * den := by
    rw [Nat.mul_left_comm, place, Nat.mul_comm]
  by_cases edge : IsEdge units
  · rw [reachDown, if_pos edge, Nat.mul_comm (2 ^ _) den] at low decided
    rcases Nat.lt_or_ge num (units * den) with below | above
    · obtain ⟨exponent, power⟩ := Nat.exists_eq_add_of_lt edge.wide
      have shape : units = 2 ^ (exponent + 53) := by
        rw [edge.1, power, show 52 + exponent + 1 = exponent + 53 by omega]
      have gap : gapExponent units = exponent + 1 := by unfold gapExponent; omega
      rw [gap] at low
      rw [shape] at low below ⊢
      exact roundUnits_below_power positive low below
    · have bottom : 2 ^ units.log2 * den ≤ num := by rwa [← edge.1]
      have gap := gapExponent_div positive bottom
        (lt_twoPow_of_near positive some magnitude high)
      rw [← place]
      exact roundUnits_eq_of_near positive gap (by omega) (by omega) (.inl edge.even_place)
  · rw [reachDown, if_neg edge, Nat.mul_assoc 2, Nat.mul_comm (2 ^ _) den] at low decided
    have gap := gapExponent_of_near positive some magnitude edge low high
    rw [← place]
    exact roundUnits_eq_of_near positive gap (by omega) (by omega) (by omega)

/-! Decimals as numbers of units. -/

/-- Whether a number of units lies in a rounding interval. -/
def RoundingInterval.Holds (interval : RoundingInterval) (x : Rat) : Prop :=
  interval.low ≤ 4 * x ∧ 4 * x ≤ interval.high ∧
    (interval.closed ∨ interval.low < 4 * x ∧ 4 * x < interval.high)

theorem RoundingInterval.holds_div (interval : RoundingInterval) (positive : 0 < den) :
    interval.Holds (num / den) ↔ interval.contains (4 * num) den := by
  have positive : (0 : Rat) < den := by exact_mod_cast positive
  rw [Holds, contains_iff, mul_div_assoc', le_div_iff₀ positive, div_le_iff₀ positive,
    lt_div_iff₀ positive, div_lt_iff₀ positive]
  exact_mod_cast Iff.rfl

/-- The number of units that digits times a power of ten make. -/
def decimalUnits (digits : Nat) (exponent : Int) : Rat := digits * 10 ^ exponent * unitsPerOne

theorem decimalUnits_zero (exponent : Int) : decimalUnits 0 exponent = 0 := by
  rw [decimalUnits, Nat.cast_zero, zero_mul, zero_mul]

theorem tenPower_div (exponent : Int) :
    ((tenPower exponent).1 : Rat) / (tenPower exponent).2 = 10 ^ exponent := by
  rw [tenPower]
  split
  next nonneg =>
    obtain ⟨power, rfl⟩ := Int.eq_ofNat_of_zero_le nonneg
    change ((10 ^ power : Nat) : Rat) / ((1 : Nat) : Rat) = _
    simp
  next negative =>
    obtain ⟨power, rfl⟩ := Int.exists_eq_neg_ofNat (by omega : exponent ≤ 0)
    rw [Int.neg_neg, Int.toNat_natCast]
    change ((1 : Nat) : Rat) / ((10 ^ power : Nat) : Rat) = _
    simp

theorem decimalUnits_eq_div (digits : Nat) (exponent : Int) : decimalUnits digits exponent =
    (digits * (tenPower exponent).1 * unitsPerOne : Nat) / (tenPower exponent).2 := by
  rw [decimalUnits, ← tenPower_div]
  push_cast
  ring

/-- Zeros at the end are powers of ten. -/
theorem decimalUnits_mul_pow (digits count : Nat) (exponent : Int) :
    decimalUnits (digits * 10 ^ count) exponent = decimalUnits digits (exponent + count) := by
  rw [decimalUnits, decimalUnits, zpow_add₀ (by norm_num), zpow_natCast]
  push_cast
  ring

/-- A decimal in the rounding interval of a magnitude is read as that
magnitude. -/
theorem toBinary64_of_holds (some : units ≠ 0) (magnitude : IsMagnitude units) {numeral : Decimal}
    (inside : (roundingInterval units).Holds (decimalUnits numeral.digits numeral.exponent)) :
    numeral.toBinary64 = .finite numeral.negative units magnitude := by
  have positive := tenPower_den_pos numeral.exponent
  rw [decimalUnits_eq_div, RoundingInterval.holds_div _ positive] at inside
  rw [Decimal.toBinary64_eq_ofRatio, ofRatio, rounded,
    roundUnits_of_contains positive some magnitude.1 inside, ofUnits, dif_pos magnitude]

theorem gap_le (some : units ≠ 0) (magnitude : 2 ^ gapExponent units ∣ units) :
    2 ^ gapExponent units ≤ units :=
  Nat.le_of_dvd (Nat.pos_of_ne_zero some) magnitude

theorem reachDown_le (units : Nat) : reachDown units ≤ 2 * 2 ^ gapExponent units := by
  rw [reachDown]
  split <;> omega

theorem not_holds_zero (some : units ≠ 0) (magnitude : 2 ^ gapExponent units ∣ units)
    (exponent : Int) : ¬ (roundingInterval units).Holds (decimalUnits 0 exponent) := by
  have gap := gap_le some magnitude
  have reach := reachDown_le units
  rintro ⟨low, _⟩
  rw [decimalUnits_zero, mul_zero, roundingInterval_eq] at low
  have none : 4 * units - reachDown units ≤ 0 := by
    have low : ((4 * units - reachDown units : Nat) : Rat) ≤ 0 := low
    exact_mod_cast low
  omega

/-- The test of a point of a grid. -/
theorem contains_gridPoint (point : Nat) (exponent : Int) :
    (roundingInterval units).contains (4 * (point * (unitsPerOne * (tenPower exponent).1)))
      (tenPower exponent).2 ↔ (roundingInterval units).Holds (decimalUnits point exponent) := by
  rw [decimalUnits_eq_div, RoundingInterval.holds_div _ (tenPower_den_pos exponent), Nat.mul_assoc,
    Nat.mul_comm unitsPerOne]

/-- A point that is found on a grid lies in the interval. -/
theorem holds_of_gridPoint {tie : Tie} {exponent : Int} {point : Nat}
    (found : gridPoint? tie units exponent = some point) :
    (roundingInterval units).Holds (decimalUnits point exponent) := by
  rw [← contains_gridPoint]
  simp only [gridPoint?] at found
  split at found
  next below above =>
    rcases roundDiv_cases tie (units * (tenPower exponent).2)
      (unitsPerOne * (tenPower exponent).1) with ⟨down, _⟩ | ⟨up, _⟩
    · rw [down] at found
      exact Option.some_inj.mp found ▸ below
    · rw [up] at found
      exact Option.some_inj.mp found ▸ above
  next below _ => exact Option.some_inj.mp found ▸ below
  next _ above => exact Option.some_inj.mp found ▸ above
  next => cases found

theorem tenPower_num_pos (exponent : Int) : 0 < (tenPower exponent).1 := by
  rw [tenPower]
  split
  · exact Nat.pow_pos (by omega)
  · exact Nat.one_pos

/-- Where no point of a grid is found, the points on both sides are outside the
interval. -/
theorem gridPoint_around (units : Nat) (exponent : Int) :
    ∃ floor, decimalUnits floor exponent ≤ units ∧ units < decimalUnits (floor + 1) exponent ∧
      ∀ tie, gridPoint? tie units exponent = none →
        ¬ (roundingInterval units).Holds (decimalUnits floor exponent) ∧
          ¬ (roundingInterval units).Holds (decimalUnits (floor + 1) exponent) := by
  have positive : (0 : Rat) < (tenPower exponent).2 := by exact_mod_cast tenPower_den_pos exponent
  have spacing : 0 < unitsPerOne * (tenPower exponent).1 :=
    Nat.mul_pos unitsPerOne_pos (tenPower_num_pos exponent)
  refine ⟨units * (tenPower exponent).2 / (unitsPerOne * (tenPower exponent).1), ?_, ?_, ?_⟩
  · rw [decimalUnits_eq_div, div_le_iff₀ positive, Nat.mul_assoc, Nat.mul_comm _ unitsPerOne]
    exact_mod_cast Nat.div_mul_le_self ..
  · rw [decimalUnits_eq_div, lt_div_iff₀ positive, Nat.mul_assoc, Nat.mul_comm _ unitsPerOne,
      Nat.mul_comm (_ + 1)]
    exact_mod_cast Nat.lt_mul_div_succ _ spacing
  · intro tie absent
    simp only [← contains_gridPoint]
    simp only [gridPoint?] at absent
    split at absent <;> simp_all

theorem lt_mul_gap (some : units ≠ 0) : units < 2 ^ 53 * 2 ^ gapExponent units := by
  rw [← Nat.pow_add]
  refine Nat.lt_of_lt_of_le ((Nat.log2_lt some).mp (Nat.lt_succ_self _)) ?_
  exact Nat.pow_le_pow_right Nat.two_pos (by unfold gapExponent; omega)

theorem IsEdge.eq_mul_gap (edge : IsEdge units) : units = 2 ^ 52 * 2 ^ gapExponent units := by
  have wide := edge.wide
  rw [← Nat.pow_add]
  nth_rewrite 1 [edge.1]
  congr 1
  unfold gapExponent
  omega

/-- On a grid of seventeen digits two neighbours are nearer to each other than
the ends of the interval. -/
theorem spacing_lt_width (some : units ≠ 0) {spacing : Rat} (fine : 10 ^ 16 * spacing ≤ units) :
    4 * spacing < (reachDown units + 2 * 2 ^ gapExponent units : Nat) := by
  have gap : (0 : Rat) < 2 ^ gapExponent units := by positivity
  rw [reachDown]
  split
  next edge =>
    have shape : (units : Rat) = 2 ^ 52 * 2 ^ gapExponent units := by
      exact_mod_cast edge.eq_mul_gap
    rw [shape] at fine
    push_cast
    linarith
  next =>
    have shape : (units : Rat) < 2 ^ 53 * 2 ^ gapExponent units := by
      exact_mod_cast lt_mul_gap some
    push_cast
    linarith

/-- A grid of seventeen digits has a point in the interval. -/
theorem exists_gridPoint (tie : Tie) (some : units ≠ 0)
    (magnitude : 2 ^ gapExponent units ∣ units) {exponent : Int}
    (fine : 10 ^ 16 * decimalUnits 1 exponent ≤ units) :
    ∃ point, gridPoint? tie units exponent = .some point := by
  obtain ⟨floor, below, above, absent⟩ := gridPoint_around units exponent
  refine Option.ne_none_iff_exists'.mp fun none => ?_
  obtain ⟨outsideBelow, outsideAbove⟩ := absent tie none
  have width := spacing_lt_width some fine
  have step : decimalUnits (floor + 1) exponent =
      decimalUnits floor exponent + decimalUnits 1 exponent := by
    rw [decimalUnits, decimalUnits, decimalUnits]
    push_cast
    ring
  have gap : (0 : Rat) < 2 ^ gapExponent units := by positivity
  have reach := reachDown_le units
  have small := gap_le some magnitude
  have low : ((4 * units - reachDown units : Nat) : Rat) = 4 * units - reachDown units := by
    rw [Nat.cast_sub (by omega)]
    push_cast
    ring
  rw [RoundingInterval.Holds, roundingInterval_eq] at outsideBelow outsideAbove
  simp only [low] at outsideBelow outsideAbove
  push_cast at outsideBelow outsideAbove width
  have lowEnd : 4 * decimalUnits floor exponent ≤ 4 * units - reachDown units := by
    refine le_of_not_gt fun inner => outsideBelow ⟨inner.le, ?_, .inr ⟨inner, ?_⟩⟩ <;> linarith
  have highEnd : 4 * (units : Rat) + 2 * 2 ^ gapExponent units ≤
      4 * decimalUnits (floor + 1) exponent := by
    have nonneg : (0 : Rat) ≤ reachDown units := Nat.cast_nonneg _
    refine le_of_not_gt fun inner => outsideAbove ⟨?_, inner.le, .inr ⟨?_, inner⟩⟩ <;> linarith
  linarith

/-! The search for the shortest decimal. -/

/-- The power of ten of the leading digit is not above the number. -/
theorem leadingPower_le (some : units ≠ 0) :
    decimalUnits 1 (leadingPower units unitsPerOne) ≤ units := by
  have one := unitsPerOne_pos
  rw [decimalUnits, leadingPower]
  generalize unitsPerOne = unit at one
  split
  next large =>
    have quotient : units / unit ≠ 0 := (Nat.div_pos large one).ne'
    have least := (digitCount_bounds quotient).1
    have count : 0 < digitCount (units / unit) := Nat.length_toDigits_pos
    have whole : 10 ^ (digitCount (units / unit) - 1) * unit ≤ units :=
      (Nat.le_div_iff_mul_le one).mp least
    rw [Nat.cast_one, one_mul, ← Nat.cast_pred count, zpow_natCast]
    exact_mod_cast whole
  next small =>
    -- The quotient the other way round, rounded up.
    set ceiling := (unit + units - 1) / units
    have two : 2 ≤ ceiling := (Nat.le_div_iff_mul_le (Nat.pos_of_ne_zero some)).mpr (by omega)
    have most := (digitCount_bounds (n := ceiling - 1) (by omega)).2
    have whole : unit ≤ ceiling * units := by
      have parts := Nat.div_add_mod' (unit + units - 1) units
      have rest := Nat.mod_lt (unit + units - 1) (Nat.pos_of_ne_zero some)
      change ceiling * units + _ = _ at parts
      omega
    have scaled : unit ≤ units * 10 ^ digitCount (ceiling - 1) := by
      refine whole.trans ?_
      rw [Nat.mul_comm]
      exact Nat.mul_le_mul_left _ (by omega)
    rw [Nat.cast_one, one_mul, zpow_neg, zpow_natCast, inv_mul_le_iff₀ (by positivity), mul_comm]
    exact_mod_cast scaled

/-- The first grid on which a point is found gives a decimal in the interval. -/
theorem shortestFrom_holds (tie : Tie) (some : units ≠ 0)
    (magnitude : 2 ^ gapExponent units ∣ units) (fuel count : Nat) (enough : count + fuel = 16) :
    (shortestFrom tie units (leadingPower units unitsPerOne) fuel count).digits ≠ 0 ∧
      (roundingInterval units).Holds (decimalUnits
        (shortestFrom tie units (leadingPower units unitsPerOne) fuel count).digits
        (shortestFrom tie units (leadingPower units unitsPerOne) fuel count).exponent) := by
  have nonzero {point : Nat} {exponent : Int}
      (inside : (roundingInterval units).Holds (decimalUnits point exponent)) : point ≠ 0 := by
    rintro rfl
    exact not_holds_zero some magnitude exponent inside
  induction fuel generalizing count with
  | zero =>
    obtain rfl : count = 16 := enough
    have fine : 10 ^ 16 * decimalUnits 1 (leadingPower units unitsPerOne - (16 : Nat)) ≤ units := by
      refine le_of_eq_of_le ?_ (leadingPower_le some)
      rw [decimalUnits, decimalUnits, zpow_sub₀ (by norm_num), zpow_natCast]
      generalize (unitsPerOne : Rat) = one
      field_simp
    obtain ⟨point, found⟩ := exists_gridPoint tie some magnitude fine
    have inside := holds_of_gridPoint found
    rw [shortestFrom, found, Option.getD_some]
    exact ⟨nonzero inside, inside⟩
  | succ fuel ih =>
    rw [shortestFrom]
    split
    next point found =>
      have inside := holds_of_gridPoint found
      split
      next ending =>
        have shape : point = point / 10 * 10 ^ 1 := by omega
        rw [shape, decimalUnits_mul_pow] at inside
        exact ⟨nonzero inside, inside⟩
      next => exact ⟨nonzero inside, inside⟩
    next => exact ih (count + 1) (by omega)

theorem shortest_holds (tie : Tie) (some : units ≠ 0)
    (magnitude : 2 ^ gapExponent units ∣ units) :
    (shortest tie units).digits ≠ 0 ∧ (roundingInterval units).Holds
      (decimalUnits (shortest tie units).digits (shortest tie units).exponent) :=
  shortestFrom_holds tie some magnitude 16 0 rfl

end Interval

end Binary64
end ProfileGraph
