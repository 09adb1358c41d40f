import ProfileGraph.Proofs.Magnitudes

/-! Operations on doubles that keep the sign bit and lead a greater size to one that is no
less, infinities included. Scaling by a finite number above zero, either way, and rounding
to whole numbers are such, although each of them rounds what it computes. One after the
other they are such an operation again, and opposite numbers stay opposite. -/
namespace ProfileGraph
namespace Binary64

variable {x y : Binary64}

/-! Signs and sizes. -/

@[simp] theorem isNegativeSigned_rounded (negative : Bool) (num den : Nat) :
    (rounded negative num den).isNegativeSigned = negative := by
  rw [rounded, ofUnits]
  split <;> rfl

/-- The units of a number without its sign. Infinities have as many as the numbers that
are too large would. -/
def size : Binary64 → Nat
  | .nan => 0
  | .infinity _ => overflowUnits
  | .finite _ units _ => units

theorem size_le (x : Binary64) : x.size ≤ overflowUnits := by
  cases x with
  | nan => exact Nat.zero_le _
  | infinity => exact Nat.le_refl _
  | finite _ _ inRange => exact inRange.2.le

/-- A number is known by its sign and its size. -/
theorem eq_of_size (number : x ≠ nan) (number' : y ≠ nan)
    (sign : x.isNegativeSigned = y.isNegativeSigned) (size : x.size = y.size) : x = y := by
  cases x with
  | nan => exact absurd rfl number
  | infinity s =>
    cases y with
    | nan => exact absurd rfl number'
    | infinity t => exact congrArg infinity sign
    | finite t n inRange => exact absurd size inRange.2.ne'
  | finite s m inRange =>
    cases y with
    | nan => exact absurd rfl number'
    | infinity t => exact absurd size inRange.2.ne
    | finite t n inRange' =>
      obtain rfl : s = t := sign
      obtain rfl : m = n := size
      rfl

theorem neg_ne_nan (number : x ≠ nan) : -x ≠ nan := by
  cases x with
  | nan => exact absurd rfl number
  | infinity | finite =>
    intro same
    cases same

theorem size_neg (x : Binary64) : (-x).size = x.size := by
  cases x <;> rfl

theorem isNegativeSigned_neg (number : x ≠ nan) :
    (-x).isNegativeSigned = !x.isNegativeSigned := by
  cases x with
  | nan => exact absurd rfl number
  | infinity | finite => rfl

/-- What is rounded has the size it would have without a bound, up to that of the
infinities. -/
theorem size_rounded (negative : Bool) (num den : Nat) :
    (rounded negative num den).size = min (roundUnits num den) overflowUnits := by
  rw [rounded, ofUnits]
  split
  next inRange => exact (Nat.min_eq_left inRange.2.le).symm
  next beyond =>
    refine (Nat.min_eq_right (Nat.le_of_not_lt fun below => ?_)).symm
    exact beyond ⟨gap_dvd_roundUnits num den, below⟩

theorem rounded_ne_nan (negative : Bool) (num den : Nat) : rounded negative num den ≠ nan := by
  intro same
  rw [rounded, ofUnits] at same
  split at same <;> cases same

/-! Steady operations. -/

/-- Operations that lead numbers to numbers of the same sign, and a greater size to one
that is no less. -/
structure Steady (operate : Binary64 → Binary64) : Prop where
  nan_iff : ∀ x, operate x = nan ↔ x = nan
  sign : ∀ x, (operate x).isNegativeSigned = x.isNegativeSigned
  mono : ∀ x y, x.size ≤ y.size → (operate x).size ≤ (operate y).size

namespace Steady
variable {operate other : Binary64 → Binary64}

theorem comp (outer : Steady other) (inner : Steady operate) :
    Steady fun x => other (operate x) where
  nan_iff x := (outer.nan_iff _).trans (inner.nan_iff x)
  sign x := (outer.sign _).trans (inner.sign x)
  mono x y less := outer.mono _ _ (inner.mono x y less)

theorem neg (steady : Steady operate) (x : Binary64) : operate (-x) = -operate x := by
  by_cases number : x = nan
  · subst number
    rw [(steady.nan_iff nan).mpr rfl]
    exact (steady.nan_iff _).mpr rfl
  · have defined := (steady.nan_iff x).not.mpr number
    refine eq_of_size ((steady.nan_iff _).not.mpr (neg_ne_nan number)) (neg_ne_nan defined) ?_ ?_
    · rw [steady.sign, isNegativeSigned_neg number, isNegativeSigned_neg defined, steady.sign]
    · rw [size_neg]
      exact (steady.mono _ _ (size_neg x).le).antisymm (steady.mono _ _ (size_neg x).ge)

/-- What works on the units of finite numbers and keeps the infinities is steady if it does
not turn the order of the units round. -/
theorem of_rounded (grow : Nat → Nat) {den : Nat} (positive : 0 < den)
    (monotone : Monotone grow) (zero : grow 0 = 0) (onNan : operate nan = nan)
    (onInfinity : ∀ negative, operate (infinity negative) = infinity negative)
    (onFinite : ∀ negative units magnitude,
      operate (finite negative units magnitude) = rounded negative (grow units) den) :
    Steady operate where
  nan_iff x := by
    cases x with
    | nan => exact iff_of_true onNan rfl
    | infinity s =>
      rw [onInfinity]
    | finite s m inRange =>
      rw [onFinite]
      exact iff_of_false (rounded_ne_nan s (grow m) den) Binary64.noConfusion
  sign x := by
    cases x with
    | nan => rw [onNan]
    | infinity s => rw [onInfinity]
    | finite s m inRange =>
      rw [onFinite, isNegativeSigned_rounded]
      rfl
  mono x y less := by
    cases y with
    | infinity t =>
      rw [onInfinity]
      exact size_le _
    | nan =>
      have none : x.size = 0 := Nat.le_zero.mp less
      cases x with
      | nan => exact Nat.le_refl _
      | infinity s => exact absurd none overflowUnits_pos.ne'
      | finite s m inRange =>
        obtain rfl : m = 0 := none
        rw [onFinite, onNan, size_rounded, zero, roundUnits_zero positive]
        exact Nat.min_le_left _ _
    | finite t n inRange' =>
      cases x with
      | nan =>
        rw [onNan]
        exact Nat.zero_le _
      | infinity s => exact absurd less inRange'.2.not_ge
      | finite s m inRange =>
        rw [onFinite, onFinite, size_rounded, size_rounded]
        exact min_le_min_right _ (roundUnits_mono positive (monotone less))

end Steady

/-- A count of a finite number of units, which are more than none. -/
def IsWeight (x : Binary64) : Prop :=
  ∃ units magnitude, 0 < units ∧ x = finite false units magnitude

theorem steady_roundTiesEven : Steady roundTiesEven := by
  refine .of_rounded (fun m => roundDiv .toEven m unitsPerOne * unitsPerOne) Nat.one_pos
    (fun m n less => ?_) ?_ rfl (fun _ => rfl) fun _ _ _ => rfl
  · exact Nat.mul_le_mul_right _ (roundDiv_mono .toEven unitsPerOne_pos less)
  · have none := roundDiv_mul_right .toEven 0 unitsPerOne_pos
    rw [Nat.zero_mul] at none
    rw [none, Nat.zero_mul]

section Scaling
variable {factor : Binary64} (weight : factor.IsWeight)
include weight

theorem steady_mul : Steady (· * factor) := by
  obtain ⟨n, inRange, positive, rfl⟩ := weight
  refine .of_rounded (· * n) unitsPerOne_pos
    (fun _ _ less => Nat.mul_le_mul_right n less) (Nat.zero_mul n) rfl (fun s => ?_) fun s m _ => ?_
  · show (if n = 0 then nan else infinity (s != false)) = infinity s
    rw [if_neg positive.ne', Bool.bne_false]
  · rw [mul_finite, Bool.bne_false]

theorem steady_div : Steady (· / factor) := by
  obtain ⟨n, inRange, positive, rfl⟩ := weight
  refine .of_rounded (· * unitsPerOne) positive
    (fun _ _ less => Nat.mul_le_mul_right unitsPerOne less) (Nat.zero_mul unitsPerOne) rfl
    (fun s => ?_) fun s m _ => ?_
  · show infinity (s != false) = infinity s
    rw [Bool.bne_false]
  · rw [div_finite, if_neg positive.ne', Bool.bne_false]

end Scaling

end Binary64
end ProfileGraph
