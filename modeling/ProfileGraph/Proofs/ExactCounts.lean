import Mathlib.Algebra.Order.Ring.Nat
import ProfileGraph.Numeric.Quantity

/-! Doubles as counts. A number that is a magnitude already is left alone by
rounding, and all natural numbers up to two to the power of 53 are magnitudes.
Up to that bound doubles therefore count as natural numbers do. -/
namespace ProfileGraph
namespace Binary64

/-- Counts up to this one are exact. -/
def exactBound : Nat := Nat.pow 2 53

theorem roundUnits_of_isMagnitude {units : Nat} (magnitude : IsMagnitude units) :
    roundUnits units 1 = units := by
  obtain ⟨multiple, whole⟩ := magnitude.1
  rw [roundUnits, Nat.div_one, Nat.one_mul]
  have pos := twoPow_pos (gapExponent units)
  generalize Nat.pow 2 (gapExponent units) = gap at whole pos
  rw [whole, Nat.mul_comm gap, roundDiv_mul_right _ _ pos]

/-- Rounding changes no representable number. -/
theorem rounded_of_isMagnitude (negative : Bool) {units : Nat} (magnitude : IsMagnitude units) :
    rounded negative units 1 = .finite negative units magnitude := by
  rw [rounded, roundUnits_of_isMagnitude magnitude, ofUnits, dif_pos magnitude]

private theorem log2_mul_two_pow {n : Nat} (pos : n ≠ 0) (exponent : Nat) :
    (n * Nat.pow 2 exponent).log2 = n.log2 + exponent := by
  obtain ⟨low, high⟩ := (Nat.log2_eq_iff pos).mp rfl
  have power := twoPow_pos exponent
  refine (Nat.log2_eq_iff (Nat.mul_ne_zero pos power.ne')).mpr ?_
  rw [Nat.add_right_comm, Nat.pow_add, Nat.pow_add]
  exact ⟨Nat.mul_le_mul_right _ low, Nat.mul_lt_mul_of_pos_right high power⟩

/-- A number of at most 53 digits is a multiple of its gap on every scale, and
so is the first number with one digit more. -/
theorem gap_dvd {n : Nat} (bounded : n ≤ exactBound) (exponent : Nat) :
    Nat.pow 2 (gapExponent (n * Nat.pow 2 exponent)) ∣ n * Nat.pow 2 exponent := by
  rcases Nat.eq_zero_or_pos n with rfl | pos
  · rw [Nat.zero_mul]
    exact Nat.dvd_zero _
  rw [gapExponent, log2_mul_two_pow pos.ne']
  rcases Nat.lt_or_ge n (Nat.pow 2 53) with less | least
  · have digits : n.log2 < 53 := (Nat.log2_lt pos.ne').mpr less
    have gap : n.log2 + exponent - 52 ≤ exponent := by omega
    exact Nat.dvd_mul_left_of_dvd (Nat.pow_dvd_pow 2 gap) n
  · have top : n = 2 ^ 53 := Nat.le_antisymm bounded least
    have gap : 53 + exponent - 52 ≤ 53 + exponent := by omega
    rw [top, Nat.log2_two_pow]
    exact Nat.pow_add 2 53 exponent ▸ Nat.pow_dvd_pow 2 gap

/-- Numbers of at most 53 digits are magnitudes on every scale in range. -/
theorem isMagnitude_mul_twoPow {n exponent : Nat} (bounded : n ≤ exactBound)
    (inRange : 53 + exponent < unitExponent + overflowExponent) :
    IsMagnitude (n * Nat.pow 2 exponent) := by
  refine ⟨gap_dvd bounded exponent, ?_⟩
  have powers : overflowUnits = Nat.pow 2 (unitExponent + overflowExponent) := by
    unfold overflowUnits unitsPerOne
    generalize unitExponent = fine
    generalize overflowExponent = coarse
    exact (Nat.pow_add 2 fine coarse).symm
  rw [powers]
  generalize unitExponent + overflowExponent = top at inRange
  have least : n * Nat.pow 2 exponent ≤ Nat.pow 2 (53 + exponent) :=
    (Nat.mul_le_mul_right _ bounded).trans (Nat.pow_add 2 53 exponent).ge
  exact least.trans_lt (Nat.pow_lt_pow_right Nat.one_lt_two inRange)

theorem isMagnitude_mul_unitsPerOne {n : Nat} (bounded : n ≤ exactBound) :
    IsMagnitude (n * unitsPerOne) := by
  unfold unitsPerOne
  exact isMagnitude_mul_twoPow bounded (by decide)

theorem ofNat_of_le {n : Nat} (bounded : n ≤ exactBound) :
    ofNat n = .finite false (n * unitsPerOne) (isMagnitude_mul_unitsPerOne bounded) := by
  rw [ofNat, ofRatio, rounded_of_isMagnitude]

theorem ofNat_zero : ofNat 0 = signedZero false := by
  have none : IsMagnitude (0 * unitsPerOne) := (Nat.zero_mul unitsPerOne).symm ▸ isMagnitude_zero
  rw [ofNat, ofRatio, rounded_of_isMagnitude false none]
  simp only [Nat.zero_mul, signedZero]

/-- The sum of two numbers of one sign has that sign. -/
theorem finite_add_finite (negative : Bool) {m n : Nat} (left : IsMagnitude m)
    (right : IsMagnitude n) :
    finite negative m left + finite negative n right = rounded negative (m + n) 1 := by
  show (if negative == negative then rounded negative (m + n) 1 else _) = _
  rw [beq_self_eq_true, if_pos rfl]

/-- The sum of a negative number and a positive one has the sign of the larger
one. -/
theorem finite_add_opposite {m n : Nat} (left : IsMagnitude m) (right : IsMagnitude n) :
    finite true m left + finite false n right =
      if n < m then rounded true (m - n) 1 else if m < n then rounded false (n - m) 1
      else signedZero false := rfl

/-- The negative zero changes no number. -/
theorem finite_add_negative_zero {units : Nat} (magnitude : IsMagnitude units) :
    finite false units magnitude + signedZero true = finite false units magnitude := by
  show (if 0 < units then rounded false (units - 0) 1 else if units < 0 then _ else
    signedZero false) = _
  split
  next => rw [Nat.sub_zero, rounded_of_isMagnitude]
  next none =>
    obtain rfl : units = 0 := Nat.eq_zero_of_not_pos none
    rw [if_neg (Nat.lt_irrefl 0), signedZero]

/-- Up to the bound, doubles add as natural numbers do. -/
theorem ofNat_add_ofNat {m n : Nat} (bounded : m + n ≤ exactBound) :
    ofNat m + ofNat n = ofNat (m + n) := by
  have left := isMagnitude_mul_unitsPerOne (Nat.le_trans (Nat.le_add_right m n) bounded)
  have right := isMagnitude_mul_unitsPerOne (Nat.le_trans (Nat.le_add_left n m) bounded)
  simp only [ofNat, ofRatio, Nat.add_mul]
  rw [rounded_of_isMagnitude false left, rounded_of_isMagnitude false right, finite_add_finite]

/-- Counting on from a total is exact as long as the bound is not exceeded. -/
theorem foldl_ofNat {total : Nat} (counts : List Nat)
    (bounded : total + counts.sum ≤ exactBound) :
    counts.foldl (fun sum count => sum + ofNat count) (ofNat total) =
      ofNat (total + counts.sum) := by
  induction counts generalizing total with
  | nil => rw [List.foldl_nil, List.sum_nil, Nat.add_zero]
  | cons count later ih =>
    rw [List.sum_cons, ← Nat.add_assoc] at bounded ⊢
    have first := Nat.le_trans (Nat.le_add_right (total + count) later.sum) bounded
    rw [List.foldl_cons, ofNat_add_ofNat first, ih bounded]

theorem signedZero_add_finite (negative : Bool) {units : Nat} (magnitude : IsMagnitude units) :
    signedZero negative + finite false units magnitude = finite false units magnitude := by
  rw [signedZero]
  cases negative with
  | false => rw [finite_add_finite, Nat.zero_add, rounded_of_isMagnitude]
  | true =>
    rw [finite_add_opposite, if_neg (Nat.not_lt_zero units), Nat.sub_zero]
    split
    next => rw [rounded_of_isMagnitude false magnitude]
    next none =>
      obtain rfl : units = 0 := Nat.eq_zero_of_not_pos none
      rw [signedZero]

theorem signedZero_add_ofUnits (negative : Bool) (units : Nat) :
    signedZero negative + ofUnits false units = ofUnits false units := by
  rw [ofUnits]
  split
  next magnitude => exact signedZero_add_finite negative magnitude
  next => rfl

/-- Counting on from a zero of either sign starts with the first count, whether
or not that is exact. -/
theorem signedZero_add_ofNat (negative : Bool) (n : Nat) :
    signedZero negative + ofNat n = ofNat n :=
  signedZero_add_ofUnits negative (roundUnits (n * unitsPerOne) 1)

/-- The sum of counts that are summed up from zero. -/
theorem foldl_eq_sum {counts : List Nat} (some : counts ≠ []) :
    counts.foldl (fun sum count => sum + ofNat count) (signedZero false) =
      Quantity.sum (counts.map ofNat) := by
  cases counts with
  | nil => exact absurd rfl some
  | cons first later =>
    rw [Quantity.sum, List.foldl_map, List.foldl_cons, List.foldl_cons]
    exact congrArg (later.foldl _) ((signedZero_add_ofNat false first).trans
      (signedZero_add_ofNat true first).symm)

/-- The sum of counts from left to right is exact if it does not exceed the
bound. -/
theorem sum_map_ofNat {counts : List Nat} (some : counts ≠ [])
    (bounded : counts.sum ≤ exactBound) :
    Quantity.sum (counts.map ofNat) = ofNat counts.sum := by
  rw [← foldl_eq_sum some, ← ofNat_zero, foldl_ofNat counts, Nat.zero_add]
  rwa [Nat.zero_add]

/-- A count up to the bound stands for itself. -/
theorem toRat_ofNat {n : Nat} (bounded : n ≤ exactBound) : (ofNat n).toRat? = some (n : Rat) := by
  rw [ofNat_of_le bounded, toRat?, signedUnits, if_neg Bool.false_ne_true]
  have pos := unitsPerOne_pos
  generalize unitsPerOne = one at pos
  have whole : mkRat ((n * one : Nat) : Int) one = mkRat n 1 := by
    have reduced := Rat.mkRat_mul_right (n := (n : Int)) (d := 1) pos.ne'
    rwa [Nat.one_mul, ← Int.natCast_mul] at reduced
  rw [whole, Rat.mkRat_one]
  rfl

/-! Numbers that are counts. A count is a double with the value of a natural
number; zero counts with either sign. -/

/-- The natural number that a double stands for, if it stands for one. -/
def count (x : Binary64) : Nat := (x.toRat?.getD 0).num.toNat

/-- A double stands for a natural number. -/
def IsCount (x : Binary64) : Prop := ∃ n : Nat, x.toRat? = some (n : Rat)

theorem count_of_toRat {x : Binary64} {n : Nat} (whole : x.toRat? = some (n : Rat)) :
    x.count = n := by
  rw [count, whole, Option.getD_some, Rat.num_natCast, Int.toNat_natCast]

theorem IsCount.toRat {x : Binary64} (whole : x.IsCount) : x.toRat? = some (x.count : Rat) := by
  obtain ⟨n, held⟩ := whole
  rw [count_of_toRat held, held]

theorem count_ofNat {n : Nat} (bounded : n ≤ exactBound) : (ofNat n).count = n :=
  count_of_toRat (toRat_ofNat bounded)

theorem isCount_ofNat {n : Nat} (bounded : n ≤ exactBound) : (ofNat n).IsCount :=
  ⟨n, toRat_ofNat bounded⟩

/-- Only zero has two doubles that stand for it. -/
theorem IsCount.eq_ofNat_or {x : Binary64} (whole : x.IsCount) :
    x = ofNat x.count ∨ x.count = 0 ∧ x = signedZero true := by
  have held := whole.toRat
  generalize x.count = n at held
  match x, held with
  | .finite negative units magnitude, held =>
    have pos := unitsPerOne_pos
    have value : signedUnits negative units = ((n * unitsPerOne : Nat) : Int) := by
      have whole : (n : Rat) = mkRat n 1 := (Rat.mkRat_one n).symm
      rw [toRat?, Option.some_inj, whole, Rat.mkRat_eq_iff pos.ne' Nat.one_ne_zero] at held
      rw [Int.natCast_mul, ← held, Int.natCast_one, Int.mul_one]
    cases negative with
    | false =>
      rw [signedUnits, if_neg Bool.false_ne_true, Int.ofNat_inj] at value
      rw [ofNat, ofRatio, ← value, rounded_of_isMagnitude false magnitude]
      exact .inl rfl
    | true =>
      rw [signedUnits, if_pos rfl] at value
      generalize unitsPerOne = one at value pos
      obtain rfl : units = 0 := by omega
      have none : n * one = 0 := by omega
      exact .inr ⟨(Nat.mul_eq_zero.mp none).resolve_right pos.ne', rfl⟩

/-- Up to the bound, adding a count is exact. -/
theorem ofNat_add_of_isCount {n : Nat} {x : Binary64} (whole : x.IsCount)
    (bounded : n + x.count ≤ exactBound) : ofNat n + x = ofNat (n + x.count) := by
  rcases whole.eq_ofNat_or with same | ⟨none, same⟩
  · have total := ofNat_add_ofNat bounded
    rwa [← same] at total
  · have fits := isMagnitude_mul_unitsPerOne (Nat.le_trans (Nat.le_add_right n x.count) bounded)
    rw [none, same, Nat.add_zero, ofNat, ofRatio, rounded_of_isMagnitude false fits,
      finite_add_negative_zero]

/-- Counting on from a total is exact as long as the bound is not exceeded. -/
theorem foldl_isCount {n : Nat} {counts : List Binary64} (whole : ∀ x ∈ counts, x.IsCount)
    (bounded : n + (counts.map count).sum ≤ exactBound) :
    counts.foldl (· + ·) (ofNat n) = ofNat (n + (counts.map count).sum) := by
  induction counts generalizing n with
  | nil => rw [List.foldl_nil, List.map_nil, List.sum_nil, Nat.add_zero]
  | cons x later ih =>
    rw [List.map_cons, List.sum_cons, ← Nat.add_assoc] at bounded ⊢
    have first := Nat.le_trans (Nat.le_add_right (n + x.count) _) bounded
    obtain ⟨head, tail⟩ := List.forall_mem_cons.mp whole
    rw [List.foldl_cons, ofNat_add_of_isCount head first, ih tail bounded]

/-- Counts are whole already. -/
theorem truncate_ofNat {n : Nat} (bounded : n ≤ exactBound) : truncate (ofNat n) = ofNat n := by
  have fits := isMagnitude_mul_unitsPerOne bounded
  rw [ofNat, ofRatio, rounded_of_isMagnitude false fits]
  show rounded false (n * unitsPerOne / unitsPerOne * unitsPerOne) 1 = _
  rw [Nat.mul_div_cancel n unitsPerOne_pos, rounded_of_isMagnitude false fits]

end Binary64
end ProfileGraph
