import ProfileGraph.Proofs.Magnitudes

/-! The largest of few shares. Of fewer than two hundred parts of a total, the largest
one makes up more than half a hundredth of it, and so it does not vanish when it is
rounded to two decimal places. That holds of doubles as well, although the sum of the
parts, the quotient and the product are rounded too: the part is bounded by a number of
few digits, whose multiples are magnitudes that no sum of the parts passes, and what
these roundings can take away is less than 1/199 exceeds half a hundredth by. -/
namespace ProfileGraph.Binary64

variable {x received passedOn : Binary64} {terms : List Binary64} {bound m : Nat}

/-! Sums of few terms. -/

/-- Of several finite numbers one is the greatest. -/
theorem exists_greatest (some : terms ≠ []) (each : ∀ term ∈ terms, term.AtMost bound) :
    ∃ term ∈ terms, ∃ units ≤ bound, term.AtLeast units ∧
      ∀ other ∈ terms, other.AtMost units := by
  induction terms with
  | nil => exact absurd rfl some
  | cons first later ih =>
    obtain ⟨here, each⟩ := List.forall_mem_cons.mp each
    obtain ⟨m, _, inside, most, least⟩ := here.exists_units
    by_cases last : later = []
    · subst last
      exact ⟨first, List.mem_cons_self, m, inside, least, by simpa using most⟩
    · obtain ⟨greatest, member, n, inside', reached, all⟩ := ih last each
      rcases Nat.le_total m n with less | more
      · exact ⟨greatest, List.mem_cons_of_mem first member, n, inside', reached,
          List.forall_mem_cons.mpr ⟨most.mono less, all⟩⟩
      · exact ⟨first, List.mem_cons_self, m, inside, least,
          List.forall_mem_cons.mpr ⟨most, fun other listed => (all other listed).mono more⟩⟩

/-! A bound of few digits. -/

/-- Every number from a grain up to a power of two in range has a bound of at most 22
digits that exceeds it by less than a millionth. The bound is scaled by a power of two,
and `f` is the scale of what two units of one leave behind it. -/
theorem exists_coarse {top : Nat} (large : grain ≤ m) (inRange : m < Nat.pow 2 top)
    (small : top ≤ 2040) :
    ∃ q e f, e + f = 2098 ∧ e ≤ 2019 ∧ f ≤ 1051 ∧ 0 < q ∧ q ≤ 2 ^ 21 ∧
      m ≤ q * Nat.pow 2 e ∧ 2 ^ 20 * (q * Nat.pow 2 e) ≤ (2 ^ 20 + 1) * m := by
  have some : m ≠ 0 := (grain_pos.trans_le large).ne'
  have reached : ∀ fine, Nat.pow 2 fine ≤ m → fine ≤ m.log2 := fun fine low =>
    (Nat.le_log2 some).mpr low
  have least := reached grainExponent (by unfold grain at large; exact large)
  have grained : grainExponent = 1067 := rfl
  have most : m.log2 < top := (Nat.log2_lt some).mpr inRange
  obtain ⟨low, high⟩ := (Nat.log2_eq_iff some).mp rfl
  have digits : m.log2 = 20 + (m.log2 - 20) := by omega
  generalize m.log2 - 20 = e at digits
  rw [digits] at low high
  have scale : 0 < Nat.pow 2 e := Nat.two_pow_pos e
  have lower : 2 ^ 20 * Nat.pow 2 e ≤ m := (Nat.pow_add 2 20 e).ge.trans low
  have upper : m < 2 ^ 21 * Nat.pow 2 e :=
    high.trans_eq ((congrArg (2 ^ ·) (by omega)).trans (Nat.pow_add 2 21 e))
  have split := Nat.div_add_mod' m (Nat.pow 2 e)
  have rest := Nat.mod_lt m scale
  have few : m / Nat.pow 2 e < 2 ^ 21 := Nat.div_lt_of_lt_mul (by rwa [Nat.mul_comm])
  refine ⟨m / Nat.pow 2 e + 1, e, 2098 - e, by omega, by omega, by omega, Nat.succ_pos _, few,
    ?_, ?_⟩
  · rw [Nat.succ_mul]
    omega
  · rw [Nat.succ_mul]
    omega

/-- Few multiples of a power of two stay below a power of two. -/
theorem mul_powerUnits_lt {n exponent : Nat} (few : n ≤ exactBound) :
    n * powerUnits exponent < Nat.pow 2 (54 + (exponent + unitExponent)) := by
  unfold powerUnits unitsPerOne
  generalize unitExponent = fine
  calc n * (Nat.pow 2 exponent * Nat.pow 2 fine)
      ≤ 2 ^ 53 * (2 ^ exponent * 2 ^ fine) := Nat.mul_le_mul_right _ few
    _ = 2 ^ (53 + (exponent + fine)) := by rw [Nat.pow_add, Nat.pow_add]
    _ < 2 ^ (54 + (exponent + fine)) := Nat.pow_lt_pow_right Nat.one_lt_two (by omega)

/-! The share. -/

/-- The exponent of the last digit of the least part. -/
def partExponent : Nat := 1058

/-- A magnitude between half a hundredth and one part in 199. -/
def leastPart : Nat := 329 * Nat.pow 2 partExponent

theorem leastPart_pos : 0 < leastPart := by
  unfold leastPart
  exact Nat.mul_pos (by decide) (twoPow_pos partExponent)

theorem isMagnitude_mul_leastPart {n : Nat} (few : n * 329 ≤ exactBound) :
    IsMagnitude (n * leastPart) := by
  unfold leastPart
  rw [← Nat.mul_assoc]
  exact isMagnitude_mul_twoPow few (by decide)

theorem unitsPerOne_eq_part : unitsPerOne = 65536 * Nat.pow 2 partExponent := by
  have exponents : unitExponent = 16 + partExponent := rfl
  unfold unitsPerOne
  rw [exponents]
  generalize partExponent = fine
  exact Nat.pow_add 2 16 fine

/-- What is above half a hundredth is rounded to a hundredth or more. -/
theorem AtLeast.roundTo_two (large : x.AtLeast leastPart) :
    (Binary64.roundTo 2 x).AtLeast grain := by
  have small : 100 ≤ exactBound := by decide
  obtain ⟨most, least⟩ := units_ofNat small
  have hundred : 0 < 100 * unitsPerOne := Nat.mul_pos (by decide) unitsPerOne_pos
  have scaled : (x * ofNat 100).AtLeast (100 * leastPart) :=
    large.mul least leastPart_pos hundred (isMagnitude_mul_leastPart (by decide))
      (by ring : _ = _).le
  have half : unitsPerOne < 2 * (100 * leastPart) := by
    have scale := twoPow_pos partExponent
    rw [unitsPerOne_eq_part, leastPart]
    generalize Nat.pow 2 partExponent = scale at *
    omega
  rw [Binary64.roundTo, power_ten_two]
  refine (scaled.roundTiesEven half).div most (least.mono hundred) isMagnitude_grain ?_
  calc grain * (100 * unitsPerOne) ≤ 128 * grain * unitsPerOne := by
        rw [← Nat.mul_assoc, Nat.mul_comm grain]
        exact Nat.mul_le_mul_right _ (Nat.mul_le_mul_right _ (by decide))
    _ = unitsPerOne * unitsPerOne := by rw [← unitsPerOne_eq_grain]

section Scales
variable {e f q : Nat}

/-- The scale of what one unit of one is divided by, and of the quotient. -/
theorem scales_eq (scales : e + f = 2098) :
    unitsPerOne * unitsPerOne = 2 ^ 50 * (Nat.pow 2 e * Nat.pow 2 f) ∧
      leastPart * unitsPerOne = 329 * 2 ^ 34 * (Nat.pow 2 e * Nat.pow 2 f) := by
  have square : unitExponent + unitExponent = 50 + (e + f) := by rw [scales]; rfl
  have part : partExponent + unitExponent = 34 + (e + f) := by rw [scales]; rfl
  unfold leastPart unitsPerOne
  generalize unitExponent = one at square part ⊢
  generalize partExponent = least at part ⊢
  constructor
  · calc Nat.pow 2 one * Nat.pow 2 one = 2 ^ (one + one) := (Nat.pow_add 2 one one).symm
      _ = 2 ^ 50 * (2 ^ e * 2 ^ f) := by rw [square, Nat.pow_add, Nat.pow_add]
  · calc 329 * Nat.pow 2 least * Nat.pow 2 one = 329 * 2 ^ (least + one) := by
          rw [Nat.mul_assoc, Nat.pow_add]
          rfl
      _ = 329 * 2 ^ 34 * (2 ^ e * 2 ^ f) := by
          rw [part, Nat.pow_add, Nat.pow_add, Nat.mul_assoc]

/-- Truncating the quotient to whole units costs less than a millionth of it. -/
theorem quotient_digits (positive : 0 < q) (few : q ≤ 2 ^ 21) :
    329 * 2 ^ 14 * (2 ^ 20 + 1) ≤ q * (2 ^ 50 / (199 * q)) := by
  have split := Nat.div_add_mod (2 ^ 50) (199 * q)
  have rest := Nat.mod_lt (2 ^ 50) (by omega : 0 < 199 * q)
  rw [Nat.mul_assoc] at split
  generalize q * (2 ^ 50 / (199 * q)) = whole at split ⊢
  omega

/-- Fewer than two hundred terms with a bound of few digits add up to 199 times it at most. -/
theorem atMost_sum_of_few (each : ∀ term ∈ terms, term.AtMost (q * Nat.pow 2 e))
    (few : terms.length < 200) (digits : q ≤ 2 ^ 21) (small : e ≤ 2019) :
    (Quantity.sum terms).AtMost (199 * (q * Nat.pow 2 e)) := by
  have limit : unitExponent + overflowExponent = 2098 := rfl
  have fits : ∀ n ≤ terms.length, IsMagnitude (n * (q * Nat.pow 2 e)) := by
    intro n less
    rw [← Nat.mul_assoc]
    refine isMagnitude_mul_twoPow ?_ (by omega)
    calc n * q ≤ 199 * 2 ^ 21 := Nat.mul_le_mul (by omega) digits
      _ ≤ exactBound := by decide
  exact (atMost_sum each fits).mono (Nat.mul_le_mul_right _ (by omega))

/-- What one or more makes when it is divided by at most 199 times a bound of few digits. -/
theorem atLeast_quotient (scales : e + f = 2098) (small : f ≤ 1051)
    (passed : passedOn.AtLeast unitsPerOne) (total : x.AtMost (199 * (q * Nat.pow 2 e)))
    (some : x.AtLeast 1) : (passedOn / x).AtLeast (2 ^ 50 / (199 * q) * Nat.pow 2 f) := by
  have limit : unitExponent + overflowExponent = 2098 := rfl
  have bounded : 2 ^ 50 / (199 * q) ≤ exactBound :=
    (Nat.div_le_self ..).trans (by decide)
  refine passed.div total some (isMagnitude_mul_twoPow bounded (by omega)) ?_
  rw [(scales_eq scales).1]
  have least : 2 ^ 50 / (199 * q) * (199 * q) ≤ 2 ^ 50 := Nat.div_mul_le_self ..
  generalize Nat.pow 2 e = scaleOfBound
  generalize Nat.pow 2 f = scaleOfQuotient
  generalize 2 ^ 50 / (199 * q) = quotient at least ⊢
  calc quotient * scaleOfQuotient * (199 * (q * scaleOfBound))
      = quotient * (199 * q) * (scaleOfBound * scaleOfQuotient) := by ring
    _ ≤ 2 ^ 50 * (scaleOfBound * scaleOfQuotient) := Nat.mul_le_mul_right _ least

end Scales

/-- If fewer than two hundred parts make up a total, and one unit or more is split in
proportion to them, then the greatest part gets more than half a hundredth. -/
theorem atLeast_largestShare {top : Nat} (each : ∀ term ∈ terms, term.AtMost m)
    (few : terms.length < 200) (large : grain ≤ m) (inRange : m < Nat.pow 2 top)
    (small : top ≤ 2040) (greatest : received.AtLeast m)
    (some : (Quantity.sum terms).AtLeast 1) (passed : passedOn.AtLeast unitsPerOne) :
    (received * (passedOn / Quantity.sum terms)).AtLeast leastPart := by
  obtain ⟨q, e, f, scales, eSmall, fSmall, positive, digits, above, close⟩ :=
    exists_coarse large inRange small
  have total : (Quantity.sum terms).AtMost (199 * (q * Nat.pow 2 e)) :=
    atMost_sum_of_few (fun term member => (each term member).mono above) few digits eSmall
  have share := atLeast_quotient scales fSmall passed total some
  have whole := quotient_digits positive digits
  have part := (scales_eq scales).2
  have scale := twoPow_pos f
  generalize 2 ^ 50 / (199 * q) = quotient at share whole
  generalize Nat.pow 2 e = scaleOfBound at close part
  have nonzero : 0 < quotient := by
    refine Nat.pos_of_ne_zero fun none => ?_
    rw [none, Nat.mul_zero] at whole
    omega
  have one : IsMagnitude (1 * leastPart) := isMagnitude_mul_leastPart (by decide)
  rw [Nat.one_mul] at one
  refine greatest.mul share (grain_pos.trans_le large) (Nat.mul_pos nonzero scale) one ?_
  -- Both sides are compared after multiplication by what the bound exceeds the part by.
  refine Nat.le_of_mul_le_mul_left ?_ (by decide : 0 < 2 ^ 20 + 1)
  rw [part]
  calc (2 ^ 20 + 1) * (329 * 2 ^ 34 * (scaleOfBound * Nat.pow 2 f))
      = 329 * 2 ^ 14 * (2 ^ 20 + 1) * (2 ^ 20 * (scaleOfBound * Nat.pow 2 f)) := by ring
    _ ≤ q * quotient * (2 ^ 20 * (scaleOfBound * Nat.pow 2 f)) := Nat.mul_le_mul_right _ whole
    _ = 2 ^ 20 * (q * scaleOfBound) * (quotient * Nat.pow 2 f) := by ring
    _ ≤ (2 ^ 20 + 1) * m * (quotient * Nat.pow 2 f) := Nat.mul_le_mul_right _ close
    _ = (2 ^ 20 + 1) * (m * (quotient * Nat.pow 2 f)) := Nat.mul_assoc ..

end ProfileGraph.Binary64
