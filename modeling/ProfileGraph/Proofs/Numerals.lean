import Mathlib.Algebra.Order.Field.Basic
import Mathlib.Algebra.Order.Field.Rat
import Mathlib.Data.List.Induction
import Mathlib.Data.List.TakeDrop
import Mathlib.Data.Nat.Digits.Defs
import Mathlib.Tactic.FieldSimp
import Mathlib.Tactic.Linarith
import ProfileGraph.Record.Basic

/-! Numerals of a line. A count is a row of digits and an amount may have a fraction
behind it; neither has a sign, an exponent or a blank. Such a text is read as the
number that its digits denote: as a count if that is below the bound, and as the
nearest double if there is one. -/
namespace ProfileGraph

/-- A row of decimal digits, which may be empty. -/
def IsDigits (text : List Char) : Prop := ∀ c ∈ text, c.isDigit

instance : DecidablePred IsDigits := fun text =>
  decidable_of_iff (text.all Char.isDigit) List.all_eq_true

/-- The number that decimal digits denote, the last one in the place of ones. -/
def decimalValue (digits : List Char) : Nat :=
  Nat.ofDigits 10 (digits.reverse.map fun c => c.toNat - '0'.toNat)

/-- Digits, with a fraction behind them or without one. -/
structure Numeral where
  whole : List Char
  fraction : Option (List Char)
  whole_ne_nil : whole ≠ []
  whole_digits : IsDigits whole
  fraction_digits : ∀ digits ∈ fraction, IsDigits digits

namespace Numeral

def text (numeral : Numeral) : List Char :=
  numeral.whole ++ match numeral.fraction with
    | none => []
    | some digits => '.' :: digits

/-- The digits on both sides of the point. -/
def digits (numeral : Numeral) : List Char := numeral.whole ++ numeral.fraction.getD []

/-- The number of digits behind the point. -/
def places (numeral : Numeral) : Nat := (numeral.fraction.getD []).length

/-- The double nearest to the number. -/
def double (numeral : Numeral) : Binary64 :=
  Binary64.ofRatio false (decimalValue numeral.digits) (10 ^ numeral.places)

end Numeral

/-! Digits. -/

theorem IsDigits.not_mem {text : List Char} (inside : IsDigits text) {c : Char}
    (other : c.isDigit = false) : c ∉ text := by
  intro member
  cases other.symm.trans (inside c member)

theorem natOfDigits_eq_decimalValue (digits : List Char) :
    Decimal.natOfDigits digits = decimalValue digits := by
  induction digits using List.reverseRecOn with
  | nil => rfl
  | append_singleton digits c ih =>
    rw [Decimal.natOfDigits, List.foldl_append, ← Decimal.natOfDigits, ih, decimalValue,
      decimalValue, List.reverse_append]
    exact (Nat.add_comm ..).trans (Nat.ofDigits_cons ..).symm

theorem isBlank_of_isDigit {c : Char} (digit : c.isDigit) : Text.isBlank c = false := by
  simp only [Char.isDigit, Bool.and_eq_true, decide_eq_true_eq] at digit
  have low : 48 ≤ c.toNat := digit.1
  have high : c.toNat ≤ 57 := digit.2
  simp only [Text.isBlank, Bool.or_eq_false_iff, Bool.and_eq_false_iff, decide_eq_false_iff_not,
    beq_eq_false_iff_ne]
  omega

theorem toLower_of_isDigit {c : Char} (digit : c.isDigit) : c.toLower = c := by
  simp only [Char.isDigit, Bool.and_eq_true, decide_eq_true_eq] at digit
  have high : c.toNat ≤ 57 := digit.2
  refine dif_neg fun upper => ?_
  have low : 65 ≤ c.toNat := upper.1
  omega

theorem Text.trim_of_no_blanks {text : List Char} (solid : ∀ c ∈ text, Text.isBlank c = false) :
    Text.trim text = text := by
  have keeps : ∀ part : List Char, (∀ c ∈ part, Text.isBlank c = false) →
      part.dropWhile Text.isBlank = part := by
    intro part solid
    cases part with
    | nil => rfl
    | cons c part => rw [List.dropWhile_cons_of_neg (by simp [solid c])]
  rw [Text.trim, keeps text solid, keeps text.reverse (by simpa using solid), List.reverse_reverse]

theorem spanDigits_append {digits rest : List Char} (inside : IsDigits digits)
    (outside : ∀ c ∈ rest.head?, ¬ c.isDigit) :
    Decimal.spanDigits (digits ++ rest) = (digits, rest) := by
  rw [Decimal.spanDigits, List.span_eq_takeWhile_dropWhile, List.takeWhile_append_of_pos inside,
    List.dropWhile_append_of_pos inside]
  cases rest with
  | nil => simp
  | cons c rest =>
    have outside : ¬ c.isDigit := outside c rfl
    rw [List.takeWhile_cons_of_neg outside, List.dropWhile_cons_of_neg outside, List.append_nil]

theorem spanDigits_of_isDigits {digits : List Char} (inside : IsDigits digits) :
    Decimal.spanDigits digits = (digits, []) := by
  have whole : ∀ c ∈ ([] : List Char).head?, ¬ c.isDigit := by simp
  simpa using spanDigits_append inside whole

/-- Digits are read as a count exactly if their number is below the bound. -/
theorem readCount_digits {digits : List Char} (some : digits ≠ []) (inside : IsDigits digits) :
    readCount? digits =
      if decimalValue digits < countBound then .some (decimalValue digits) else none := by
  rw [readCount?, Text.trim_of_no_blanks fun c member => isBlank_of_isDigit (inside c member)]
  obtain ⟨c, rest, rfl⟩ := List.exists_cons_of_ne_nil some
  have unsigned : c ≠ '+' := by
    rintro rfl
    exact absurd (inside '+' List.mem_cons_self) (by decide)
  have all : (c :: rest).all Char.isDigit := List.all_eq_true.mpr inside
  simp [unsigned, all, natOfDigits_eq_decimalValue]

/-! The nearest double. -/

/-- The rounded quotient is half the divisor off at most. -/
theorem two_mul_natAbs_roundDiv_sub_le (tie : Tie) (num : Nat) {den : Nat} (positive : 0 < den) :
    2 * ((roundDiv tie num den * den : Nat) - num : Int).natAbs ≤ den := by
  have whole := Nat.div_add_mod' num den
  have rest := Nat.mod_lt num positive
  rcases roundDiv_cases tie num den with ⟨down, below⟩ | ⟨up, above⟩
  · rw [down]
    omega
  · rw [up, Nat.succ_mul (num / den)]
    omega

/-- No multiple of the divisor is nearer than the rounded quotient. -/
theorem roundDiv_nearest (tie : Tie) (num : Nat) {den : Nat} (positive : 0 < den) (point : Nat) :
    ((roundDiv tie num den * den : Nat) - num : Int).natAbs ≤
      ((point * den : Nat) - num : Int).natAbs := by
  have half := two_mul_natAbs_roundDiv_sub_le tie num positive
  generalize roundDiv tie num den = nearest at half
  rcases Nat.lt_trichotomy point nearest with less | same | more
  · have apart : (point + 1) * den ≤ nearest * den := Nat.mul_le_mul_right _ less
    rw [Nat.succ_mul] at apart
    omega
  · rw [same]
  · have apart : (nearest + 1) * den ≤ point * den := Nat.mul_le_mul_right _ more
    rw [Nat.succ_mul] at apart
    omega

/-- What is nearest to the greater of two numbers is no less than what is nearest to the
other one. -/
theorem le_of_natAbs_sub_le {num greater first second : Nat} (below : num < greater)
    (near : (first - num : Int).natAbs ≤ (second - num : Int).natAbs)
    (near' : (second - greater : Int).natAbs ≤ (first - greater : Int).natAbs) :
    first ≤ second := by
  omega

/-- Rounding to whole numbers keeps the order. -/
theorem roundDiv_mono (tie : Tie) {num greater den : Nat} (positive : 0 < den)
    (below : num ≤ greater) : roundDiv tie num den ≤ roundDiv tie greater den := by
  have near := roundDiv_nearest tie num positive (roundDiv tie greater den)
  have near' := roundDiv_nearest tie greater positive (roundDiv tie num den)
  rcases below.eq_or_lt with rfl | below
  · exact le_rfl
  · exact Nat.le_of_mul_le_mul_right (le_of_natAbs_sub_le below near near') positive

theorem digitCount_bounds {n : Nat} (positive : n ≠ 0) :
    10 ^ (digitCount n - 1) ≤ n ∧ n < 10 ^ digitCount n := by
  have some : 0 < digitCount n := Nat.length_toDigits_pos
  have fits (k : Nat) (positive : 0 < k) : digitCount n ≤ k ↔ n < 10 ^ k :=
    Nat.length_toDigits_le_iff (by omega) positive
  refine ⟨?_, (fits _ some).mp (Nat.le_refl _)⟩
  rcases Nat.eq_zero_or_pos (digitCount n - 1) with one | more
  · rw [one]
    exact Nat.pos_of_ne_zero positive
  · refine Nat.not_lt.mp fun small => ?_
    have fewer := (fits _ more).mpr small
    omega

namespace Binary64

theorem overflowUnits_eq : overflowUnits = 2 ^ (unitExponent + overflowExponent) := by
  unfold overflowUnits unitsPerOne
  generalize unitExponent = fine
  generalize overflowExponent = coarse
  exact (Nat.pow_add 2 fine coarse).symm

/-- Rounding does not fall below the power of two at the top of a quotient, which
is a multiple of the gap. -/
theorem twoPow_log2_le_roundUnits {num den : Nat} (some : num / den ≠ 0) :
    2 ^ (num / den).log2 ≤ roundUnits num den := by
  rw [roundUnits]
  set gap := Nat.pow 2 (gapExponent (num / den))
  have multiple : gap ∣ 2 ^ (num / den).log2 := Nat.pow_dvd_pow 2 (Nat.sub_le ..)
  have floor : num / (den * gap) ≤ roundDiv .toEven num (den * gap) := by
    rcases roundDiv_cases .toEven num (den * gap) with ⟨down, _⟩ | ⟨up, _⟩
    · exact down.ge
    · exact up ▸ Nat.le_succ _
  calc 2 ^ (num / den).log2
      = 2 ^ (num / den).log2 / gap * gap := (Nat.div_mul_cancel multiple).symm
    _ ≤ num / den / gap * gap :=
      Nat.mul_le_mul_right _ (Nat.div_le_div_right (Nat.log2_self_le some))
    _ = num / (den * gap) * gap := by rw [Nat.div_div_eq_div_mul]
    _ ≤ _ := Nat.mul_le_mul_right _ floor

theorem ofRatio_of_large (negative : Bool) {num den : Nat} (positive : 0 < den)
    (large : Nat.pow 2 overflowExponent * den ≤ num) :
    ofRatio negative num den = .infinity negative := by
  have quotient : overflowUnits ≤ num * unitsPerOne / den := by
    rw [Nat.le_div_iff_mul_le positive, overflowUnits, Nat.mul_assoc, Nat.mul_comm]
    exact Nat.mul_le_mul_right _ large
  have nonzero := (overflowUnits_pos.trans_le quotient).ne'
  have beyond : ¬ IsMagnitude (roundUnits (num * unitsPerOne) den) := by
    refine fun magnitude => magnitude.2.not_ge ?_
    refine Nat.le_trans ?_ (twoPow_log2_le_roundUnits nonzero)
    rw [overflowUnits_eq] at quotient ⊢
    exact Nat.pow_le_pow_right Nat.two_pos ((Nat.le_log2 nonzero).mpr quotient)
  rw [ofRatio, rounded, ofUnits, dif_neg beyond]

/-- A quotient below half a unit rounds to zero. -/
theorem ofRatio_of_small (negative : Bool) {num den : Nat}
    (small : 2 * (num * unitsPerOne) < den) : ofRatio negative num den = signedZero negative := by
  have floor : num * unitsPerOne / den = 0 := Nat.div_eq_of_lt (by omega)
  have units : roundUnits (num * unitsPerOne) den = 0 := by
    rw [roundUnits, floor, show Nat.pow 2 (gapExponent 0) = 1 from rfl, Nat.mul_one, Nat.mul_one,
      roundDiv, Nat.mod_eq_of_lt (by omega), if_pos small, floor]
  rw [ofRatio, rounded, units, ofUnits, dif_pos isMagnitude_zero, signedZero]

/-- No multiple of its own gap is nearer to a quotient than the units it is rounded to,
in the range of doubles or beyond it. -/
theorem roundUnits_nearest (num : Nat) {den : Nat} (positive : 0 < den) {units : Nat}
    (multiple : Nat.pow 2 (gapExponent units) ∣ units) :
    ((roundUnits num den * den : Nat) - num : Int).natAbs ≤
      ((units * den : Nat) - num : Int).natAbs := by
  have multiples (point : Nat) := roundDiv_nearest .toEven num
    (Nat.mul_pos positive (twoPow_pos (gapExponent (num / den)))) point
  simp only [Nat.mul_left_comm _ den] at multiples
  rw [roundUnits, Nat.mul_comm _ den]
  rcases Nat.lt_or_ge (gapExponent units) (gapExponent (num / den)) with finer | coarser
  · have smaller : units.log2 < (num / den).log2 := by
      unfold gapExponent at finer
      omega
    have some : num / den ≠ 0 := by
      intro none
      rw [none] at smaller
      exact absurd smaller (by simp)
    -- The power of two at the top of the quotient is a multiple between both.
    obtain ⟨point, top⟩ : Nat.pow 2 (gapExponent (num / den)) ∣ Nat.pow 2 (num / den).log2 :=
      Nat.pow_dvd_pow 2 (Nat.sub_le ..)
    have nearest := multiples point
    rw [Nat.mul_comm point, ← top] at nearest
    have above : units ≤ Nat.pow 2 (num / den).log2 := by
      rcases Nat.eq_zero_or_pos units with rfl | positive
      · exact Nat.zero_le _
      · exact ((Nat.log2_lt positive.ne').mp smaller).le
    have order : den * units ≤ den * Nat.pow 2 (num / den).log2 := Nat.mul_le_mul_left _ above
    have below : den * Nat.pow 2 (num / den).log2 ≤ num :=
      (Nat.mul_le_mul_left _ (Nat.log2_self_le some)).trans (Nat.mul_div_le num den)
    rw [Nat.mul_comm units]
    omega
  · obtain ⟨point, rfl⟩ := (Nat.pow_dvd_pow 2 coarser).trans multiple
    have nearest := multiples point
    rw [Nat.mul_comm _ den, Nat.mul_comm (2 ^ _) point]
    exact nearest

end Binary64

/-! The number of digits settles what is out of range. -/

section Size
variable (size : Nat) {n : Nat} {exponent : Int}

theorem tenPower_le_of_size (positive : n ≠ 0) (large : size < digitCount n + exponent) :
    10 ^ size * (tenPower exponent).2 ≤ n * (tenPower exponent).1 := by
  have least := (digitCount_bounds positive).1
  rw [tenPower]
  split
  next nonneg =>
    calc 10 ^ size * 1 ≤ 10 ^ (digitCount n - 1) * 10 ^ exponent.toNat := by
          rw [Nat.mul_one, ← Nat.pow_add]
          exact Nat.pow_le_pow_right (by omega) (by omega)
      _ ≤ n * 10 ^ exponent.toNat := Nat.mul_le_mul_right _ least
  next negative =>
    calc 10 ^ size * 10 ^ (-exponent).toNat = 10 ^ (size + (-exponent).toNat) :=
          (Nat.pow_add ..).symm
      _ ≤ 10 ^ (digitCount n - 1) := Nat.pow_le_pow_right (by omega) (by omega)
      _ ≤ n * 1 := by rwa [Nat.mul_one]

theorem lt_tenPower_of_size (positive : n ≠ 0) (small : digitCount n + exponent < -size) :
    n * (tenPower exponent).1 * 10 ^ size < (tenPower exponent).2 := by
  have most := (digitCount_bounds positive).2
  rw [tenPower, if_neg (by omega)]
  calc n * 1 * 10 ^ size < 10 ^ digitCount n * 10 ^ size := by
        rw [Nat.mul_one]
        exact Nat.mul_lt_mul_of_pos_right most (Nat.pow_pos (by omega))
    _ = 10 ^ (digitCount n + size) := (Nat.pow_add ..).symm
    _ ≤ 10 ^ (-exponent).toNat := Nat.pow_le_pow_right (by omega) (by omega)

theorem tenPower_den_pos (exponent : Int) : 0 < (tenPower exponent).2 := by
  rw [tenPower]
  split
  · exact Nat.one_pos
  · exact Nat.pow_pos (by omega)

end Size

/-- What is settled by the number of digits is what rounding makes of it. -/
theorem Decimal.toBinary64_eq_ofRatio (numeral : Decimal) :
    numeral.toBinary64 = Binary64.ofRatio numeral.negative
      (numeral.digits * (tenPower numeral.exponent).1) (tenPower numeral.exponent).2 := by
  have denominator := tenPower_den_pos numeral.exponent
  rw [toBinary64]
  split
  next zero =>
    rw [Binary64.ofRatio_of_small _ (by simpa [zero] using denominator)]
  next positive =>
    split
    next large =>
      have power : Nat.pow 2 overflowExponent ≤ 10 ^ 310 := by decide +kernel
      have above := tenPower_le_of_size 310 positive large
      refine (Binary64.ofRatio_of_large _ denominator ?_).symm
      exact Nat.le_trans (Nat.mul_le_mul_right _ power) above
    next =>
      split
      next small =>
        have power : 2 * unitsPerOne ≤ 10 ^ 330 := by decide +kernel
        have below := lt_tenPower_of_size 330 positive small
        refine (Binary64.ofRatio_of_small _ ?_).symm
        rw [Nat.mul_left_comm]
        exact Nat.lt_of_le_of_lt (Nat.mul_le_mul_left _ power) below
      next => rfl

/-! Amounts. -/

theorem Binary64.zero_le_ofRatio {num den : Nat} (finite : (ofRatio false num den).isFinite) :
    (signedZero false).le (ofRatio false num den) := by
  rw [ofRatio, rounded, ofUnits] at finite ⊢
  split at finite
  next magnitude =>
    rw [dif_pos magnitude]
    simp only [le, lt, eq, signedZero, signedUnits, Bool.or_eq_true, decide_eq_true_eq, beq_iff_eq,
      Bool.false_eq_true, if_false]
    omega
  next => cases finite

namespace Numeral
variable (numeral : Numeral)

theorem exists_text_eq_cons : ∃ c rest, c.isDigit ∧ numeral.text = c :: rest := by
  obtain ⟨c, rest, whole⟩ := List.exists_cons_of_ne_nil numeral.whole_ne_nil
  have digit := numeral.whole_digits c (by simp [whole])
  exact ⟨c, _, digit, by rw [text, whole, List.cons_append]⟩

variable {numeral} in
theorem isDigit_or_point {c : Char} (member : c ∈ numeral.text) : c.isDigit ∨ c = '.' := by
  rw [text] at member
  rcases List.mem_append.mp member with whole | behind
  · exact .inl (numeral.whole_digits c whole)
  · split at behind
    next => cases behind
    next fraction some =>
      rcases List.mem_cons.mp behind with rfl | digit
      · exact .inr rfl
      · exact .inl (numeral.fraction_digits fraction some c digit)

theorem not_mem_text {c : Char} (other : c.isDigit = false) (noPoint : c ≠ '.') :
    c ∉ numeral.text := by
  intro member
  rcases isDigit_or_point member with digit | point
  · cases other.symm.trans digit
  · exact noPoint point

theorem trim_text : Text.trim numeral.text = numeral.text := by
  refine Text.trim_of_no_blanks fun c member => ?_
  rcases isDigit_or_point member with digit | rfl
  · exact isBlank_of_isDigit digit
  · rfl

theorem unsigned_text : Decimal.unsigned? false numeral.text =
    some ⟨false, decimalValue numeral.digits, -numeral.places⟩ := by
  rw [Decimal.unsigned?, text, digits, places]
  cases split : numeral.fraction with
  | none =>
    have whole := spanDigits_of_isDigits numeral.whole_digits
    simp [whole, numeral.whole_ne_nil, Decimal.exponent?, natOfDigits_eq_decimalValue]
  | some fraction =>
    have point : ∀ c ∈ ('.' :: fraction).head?, ¬ c.isDigit := by
      rintro c ⟨⟩
      decide
    have whole := spanDigits_append numeral.whole_digits point
    have behind := spanDigits_of_isDigits (numeral.fraction_digits fraction split)
    simp [whole, behind, numeral.whole_ne_nil, Decimal.exponent?, natOfDigits_eq_decimalValue]

theorem toBinary64_eq_double :
    Decimal.toBinary64 ⟨false, decimalValue numeral.digits, -numeral.places⟩ = numeral.double := by
  rw [Decimal.toBinary64_eq_ofRatio, double]
  rcases Nat.eq_zero_or_pos numeral.places with none | some
  · simp [none, tenPower]
  · simp [tenPower, some.ne']

/-- A text that starts with a digit has no sign and is no word. -/
theorem ofText_text : Binary64.ofText? numeral.text = some numeral.double := by
  obtain ⟨c, rest, digit, cons⟩ := numeral.exists_text_eq_cons
  have ne (d : Char) (other : d.isDigit = false) : c ≠ d := by
    rintro rfl
    cases digit.symm.trans other
  have unsigned : Decimal.splitSign numeral.text = (false, numeral.text) := by
    rw [cons]
    simp [Decimal.splitSign, ne '-' rfl, ne '+' rfl]
  have lower : c.toLower = c := toLower_of_isDigit digit
  have wordless (d : Char) (word : List Char) (other : d.isDigit = false) :
      asciiLower numeral.text ≠ d :: word := by
    rw [cons, asciiLower, List.map_cons, lower]
    exact fun same => ne d other (List.cons.inj same).1
  rw [Binary64.ofText?, unsigned]
  simp only
  rw [if_neg (by simp [wordless]), if_neg (by simp [wordless]), unsigned_text, Option.map_some,
    toBinary64_eq_double]

/-- A numeral is read as the double nearest to it, if that is finite. -/
theorem readAmount_text (finite : numeral.double.isFinite) :
    readAmount? numeral.text = some numeral.double := by
  have nonneg : (Binary64.signedZero false).le numeral.double := Binary64.zero_le_ofRatio finite
  rw [readAmount?, trim_text, ofText_text]
  simp only
  rw [if_pos (Bool.and_eq_true_iff.mpr ⟨finite, nonneg⟩)]

/-- Digits without a fraction. -/
def ofDigits (digits : List Char) (some : digits ≠ []) (inside : IsDigits digits) : Numeral :=
  ⟨digits, none, some, inside, by simp⟩

end Numeral

/-- The amount that a row of digits states: none, if there is no digit. -/
def digitsAmount (digits : List Char) : Option Binary64 :=
  if digits = [] then none else some (Binary64.ofNat (decimalValue digits))

theorem readAmount_digits {digits : List Char} (inside : IsDigits digits)
    (finite : (Binary64.ofNat (decimalValue digits)).isFinite) :
    readAmount? digits = digitsAmount digits := by
  rw [digitsAmount]
  split
  next none => rw [none]; rfl
  next some =>
    have text : (Numeral.ofDigits digits some inside).text = digits := List.append_nil digits
    have double : (Numeral.ofDigits digits some inside).double =
        Binary64.ofNat (decimalValue digits) := by
      rw [Numeral.double, Numeral.digits]
      exact congrArg (fun whole => Binary64.ofRatio false (decimalValue whole) 1)
        (List.append_nil digits)
    have read := (Numeral.ofDigits digits some inside).readAmount_text (double ▸ finite)
    rwa [text, double] at read

end ProfileGraph
