import ProfileGraph.Json.Reader
import ProfileGraph.Json.Basic
import ProfileGraph.Proofs.ShortestDecimals

/-! The numbers of a JSON text are read back as they were written. The written
form of a number is cut into its digits before the point, its digits behind the
point and its power of ten; the reader finds these parts again, and what they
make together is the shortest decimal of the number. -/
namespace ProfileGraph

/-! Digits of natural numbers. -/

theorem isDigits_toDigits (n : Nat) : IsDigits (Nat.toDigits 10 n) := fun _ member =>
  Nat.isDigit_of_mem_toDigits (by omega) (by omega) member

theorem isDigits_zeros (count : Nat) : IsDigits (List.replicate count '0') := by
  intro c member
  rw [List.eq_of_mem_replicate member]
  rfl

theorem IsDigits.append {digits more : List Char} (first : IsDigits digits)
    (second : IsDigits more) : IsDigits (digits ++ more) := fun c member =>
  (List.mem_append.mp member).elim (first c) (second c)

theorem exists_toDigits_eq_cons (n : Nat) :
    ∃ c later, c.isDigit ∧ Nat.toDigits 10 n = c :: later := by
  obtain ⟨c, later, shape⟩ := List.exists_cons_of_ne_nil (Nat.toDigits_ne_nil (b := 10) (n := n))
  exact ⟨c, later, isDigits_toDigits n c (by simp [shape]), shape⟩

theorem natOfDigits_toDigits (n : Nat) : Decimal.natOfDigits (Nat.toDigits 10 n) = n :=
  Nat.ofDigitChars_ten_toDigits

theorem natOfDigits_append (digits more : List Char) : Decimal.natOfDigits (digits ++ more) =
    more.foldl (fun n c => 10 * n + (c.toNat - '0'.toNat)) (Decimal.natOfDigits digits) :=
  List.foldl_append

theorem foldl_zeros (n count : Nat) : (List.replicate count '0').foldl
    (fun n c => 10 * n + (c.toNat - '0'.toNat)) n = n * 10 ^ count := by
  induction count generalizing n with
  | zero => simp
  | succ count ih =>
    rw [List.replicate_succ, List.foldl_cons, ih, Nat.pow_succ]
    simp only [Nat.sub_self, Nat.add_zero]
    ring

theorem natOfDigits_append_zeros (digits : List Char) (count : Nat) :
    Decimal.natOfDigits (digits ++ List.replicate count '0') =
      Decimal.natOfDigits digits * 10 ^ count := by
  rw [natOfDigits_append, foldl_zeros]

theorem natOfDigits_zeros_append (digits : List Char) (count : Nat) :
    Decimal.natOfDigits (List.replicate count '0' ++ digits) = Decimal.natOfDigits digits := by
  rw [Decimal.natOfDigits, List.foldl_append, foldl_zeros, Nat.zero_mul]
  rfl

/-- A positive number has no zero in front. -/
theorem head_toDigits {n : Nat} (positive : n ≠ 0) : (Nat.toDigits 10 n).head? ≠ some '0' := by
  induction n using Nat.strongRecOn with
  | _ n ih =>
    rcases Nat.lt_or_ge n 10 with small | large
    · have nonzero : ∀ digit < 10, digit ≠ 0 → [Nat.digitChar digit].head? ≠ some '0' := by decide
      rw [Nat.toDigits_of_lt_base small]
      exact nonzero n small positive
    · rw [Nat.toDigits_of_base_le (by omega) large, List.head?_append_of_ne_nil _ Nat.toDigits_ne_nil]
      exact ih (n / 10) (by omega) (by omega)

/-! The reader of numerals in three parts. -/

/-- The fraction at the front of a text, what follows, and whether there is a
point. -/
def fractionPart : List Char → List Char × List Char × Bool
  | '.' :: rest => ((Decimal.spanDigits rest).1, (Decimal.spanDigits rest).2, true)
  | rest => ([], rest, false)

/-- The power of ten at the front of a text. -/
def powerPart : List Char → List Char
  | c :: sign :: more =>
    if (c == 'e' || c == 'E') && (sign == '+' || sign == '-') then
      c :: sign :: (Decimal.spanDigits more).1
    else if c == 'e' || c == 'E' then c :: (Decimal.spanDigits (sign :: more)).1
    else []
  | [c] => if c == 'e' || c == 'E' then [c] else []
  | [] => []

/-- The number that the parts make, unless one of them is missing. -/
def assembled (negative : Bool) (whole fraction : List Char) (pointed : Bool)
    (powerText rest : List Char) : Option (Json × List Char) :=
  match Decimal.exponent? powerText with
  | none => none
  | some exponent =>
    let digits := Decimal.natOfDigits (whole ++ fraction)
    if !pointed && powerText.isEmpty && !(negative && digits == 0) then
      some (.integer (if negative then -(digits : Int) else digits), rest)
    else
      let x := Decimal.toBinary64 ⟨negative, digits, exponent - fraction.length⟩
      if x.isFinite then some (.real x, rest) else none

theorem numeral_eq (negative : Bool) (text : List Char) : Json.numeral negative text =
    let (whole, rest) := Decimal.spanDigits text
    if whole.isEmpty ∨ (whole.head? = some '0' ∧ whole.length ≠ 1) then none
    else
      let (fraction, rest, pointed) := fractionPart rest
      if pointed && fraction.isEmpty then none
      else assembled negative whole fraction pointed (powerPart rest)
        (rest.drop (powerPart rest).length) := rfl

/-- A number with at most one zero in front, a fraction that may be empty, and a
power of ten if there is one. -/
structure NumberParts where
  whole : List Char
  fraction : List Char
  power : Option Int
  whole_ne_nil : whole ≠ []
  whole_digits : IsDigits whole
  fraction_digits : IsDigits fraction
  no_zeros : whole.head? = some '0' → whole.length = 1

namespace NumberParts

/-- The power of ten with its sign. -/
def powerText : Option Int → List Char
  | none => []
  | some power => 'e' :: (if power < 0 then '-' else '+') :: Nat.toDigits 10 power.natAbs

def fractionText (digits : List Char) : List Char :=
  if digits.isEmpty then [] else '.' :: digits

def text (parts : NumberParts) : List Char :=
  parts.whole ++ (fractionText parts.fraction ++ powerText parts.power)

def digits (parts : NumberParts) : Nat := Decimal.natOfDigits (parts.whole ++ parts.fraction)

def exponent (parts : NumberParts) : Int := parts.power.getD 0 - parts.fraction.length

/-- Whether the number has neither a fraction nor a power of ten. -/
def isInteger (parts : NumberParts) : Bool := parts.fraction.isEmpty && parts.power.isNone

end NumberParts

/-- What may follow a number: neither a digit nor a point nor a power of ten. -/
def EndsNumber (rest : List Char) : Prop :=
  ∀ c ∈ rest.head?, ¬ c.isDigit ∧ c ≠ '.' ∧ c ≠ 'e' ∧ c ≠ 'E'

namespace NumberParts
variable (parts : NumberParts) {rest : List Char}

theorem head_powerText (power : Option Int) (ends : EndsNumber rest) :
    ∀ c ∈ (powerText power ++ rest).head?, ¬ c.isDigit ∧ c ≠ '.' := by
  cases power with
  | none => exact fun c member => ⟨(ends c member).1, (ends c member).2.1⟩
  | some power =>
    rintro c ⟨⟩
    decide

theorem head_fractionText (fraction : List Char) (power : Option Int) (ends : EndsNumber rest) :
    ∀ c ∈ (fractionText fraction ++ (powerText power ++ rest)).head?, ¬ c.isDigit := by
  rw [fractionText]
  split
  next => exact fun c member => (head_powerText power ends c member).1
  next =>
    rintro c ⟨⟩
    decide

theorem spanDigits_whole (ends : EndsNumber rest) :
    Decimal.spanDigits (parts.text ++ rest) =
      (parts.whole, fractionText parts.fraction ++ (powerText parts.power ++ rest)) := by
  rw [text, List.append_assoc, List.append_assoc]
  exact spanDigits_append parts.whole_digits (head_fractionText parts.fraction parts.power ends)

theorem fractionPart_text {fraction : List Char} (inside : IsDigits fraction) (power : Option Int)
    (ends : EndsNumber rest) : fractionPart (fractionText fraction ++ (powerText power ++ rest)) =
      (fraction, powerText power ++ rest, !fraction.isEmpty) := by
  have outside := head_powerText power ends
  rw [fractionText]
  split
  next empty =>
    rw [List.isEmpty_iff.mp empty, List.nil_append]
    cases behind : powerText power ++ rest with
    | nil => rfl
    | cons c later =>
      rw [behind] at outside
      have noPoint : c ≠ '.' := (outside c rfl).2
      simp [fractionPart, noPoint]
  next some =>
    have found := spanDigits_append inside fun c member => (outside c member).1
    simp [fractionPart, found, some]

theorem powerPart_text (power : Option Int) (ends : EndsNumber rest) :
    powerPart (powerText power ++ rest) = powerText power := by
  cases power with
  | none =>
    match rest, ends with
    | [], _ => rfl
    | [c], ends =>
      obtain ⟨_, _, lower, upper⟩ := ends c rfl
      simp [powerPart, powerText, lower, upper]
    | c :: next :: later, ends =>
      obtain ⟨_, _, lower, upper⟩ := ends c rfl
      simp [powerPart, powerText, lower, upper]
  | some power =>
    have found := spanDigits_append (isDigits_toDigits power.natAbs) fun c member =>
      (ends c member).1
    simp [powerPart, powerText, found]

theorem exponent_powerText (power : Option Int) :
    Decimal.exponent? (powerText power) = some (power.getD 0) := by
  cases power with
  | none => rfl
  | some power =>
    have digits : ¬ ((Nat.toDigits 10 power.natAbs).isEmpty ||
        !(Nat.toDigits 10 power.natAbs).all Char.isDigit) := by
      simpa [IsDigits] using isDigits_toDigits power.natAbs
    have signed : Decimal.splitSign ((if power < 0 then '-' else '+') ::
        Nat.toDigits 10 power.natAbs) = (decide (power < 0), Nat.toDigits 10 power.natAbs) := by
      split
      next negative => simp [Decimal.splitSign, negative]
      next nonneg => simp [Decimal.splitSign, nonneg]
    rw [powerText, Decimal.exponent?, if_pos (.inl rfl), signed]
    dsimp only
    rw [if_neg digits, natOfDigits_toDigits, Option.getD_some]
    split
    next negative =>
      have negative : power < 0 := of_decide_eq_true negative
      rw [Int.ofNat_natAbs_of_nonpos negative.le, Int.neg_neg]
    next nonneg =>
      have nonneg : 0 ≤ power := Int.not_lt.mp fun negative => nonneg (decide_eq_true negative)
      rw [Int.natAbs_of_nonneg nonneg]

theorem powerText_isEmpty (power : Option Int) : (powerText power).isEmpty = power.isNone := by
  cases power <;> rfl

/-- The reader finds the parts of a number again. -/
theorem numeral_text (negative : Bool) (ends : EndsNumber rest) :
    Json.numeral negative (parts.text ++ rest) =
      if parts.isInteger && !(negative && parts.digits == 0) then
        some (.integer (if negative then -(parts.digits : Int) else parts.digits), rest)
      else
        let x := Decimal.toBinary64 ⟨negative, parts.digits, parts.exponent⟩
        if x.isFinite then some (.real x, rest) else none := by
  have whole : ¬ (parts.whole.isEmpty ∨ parts.whole.head? = some '0' ∧ parts.whole.length ≠ 1) := by
    rintro (empty | ⟨zero, more⟩)
    · exact parts.whole_ne_nil (List.isEmpty_iff.mp empty)
    · exact more (parts.no_zeros zero)
  have behind : (powerText parts.power ++ rest).drop (powerText parts.power).length = rest :=
    List.drop_left
  rw [numeral_eq, parts.spanDigits_whole ends]
  dsimp only
  rw [if_neg whole, fractionPart_text parts.fraction_digits parts.power ends]
  dsimp only
  rw [powerPart_text parts.power ends, behind, if_neg (by simp), assembled,
    exponent_powerText parts.power, powerText_isEmpty, Bool.not_not]
  rfl

/-! The written form of a double. -/

/-- Parts with a fraction or a power of ten that make the same number as a
decimal. -/
structure Writes (decimal : Scientific) (text : List Char) : Prop where
  text_eq : parts.text = text
  notInteger : parts.isInteger = false
  units_eq : Binary64.decimalUnits parts.digits parts.exponent =
    Binary64.decimalUnits decimal.digits decimal.exponent

/-- A whole number gets the fraction zero. -/
theorem exists_writes_whole {decimal : Scientific} (positive : decimal.digits ≠ 0)
    (whole : 0 ≤ decimal.exponent) :
    ∃ parts : NumberParts, parts.Writes decimal (Binary64.positional decimal ".0".toList) := by
  refine ⟨{
    whole := Nat.toDigits 10 decimal.digits ++ List.replicate decimal.exponent.toNat '0'
    fraction := ['0']
    power := none
    whole_ne_nil := by simp
    whole_digits := (isDigits_toDigits _).append (isDigits_zeros _)
    fraction_digits := isDigits_zeros 1
    no_zeros := fun zero => absurd zero (by
      rw [List.head?_append_of_ne_nil _ Nat.toDigits_ne_nil]
      exact head_toDigits positive) }, ?_, rfl, ?_⟩
  · rw [Binary64.positional, if_pos whole]
    rfl
  · have zero : ['0'] = List.replicate 1 '0' := rfl
    simp only [digits, exponent]
    rw [zero, natOfDigits_append_zeros, natOfDigits_append_zeros, natOfDigits_toDigits,
      Binary64.decimalUnits_mul_pow, Binary64.decimalUnits_mul_pow, List.length_replicate,
      Option.getD_none]
    congr 1
    omega

theorem exists_writes_split {decimal : Scientific} (positive : decimal.digits ≠ 0)
    (negative : decimal.exponent < 0)
    (short : (-decimal.exponent).toNat < (Nat.toDigits 10 decimal.digits).length) :
    ∃ parts : NumberParts, parts.Writes decimal (Binary64.positional decimal ".0".toList) := by
  have positional := Binary64.positional.eq_1 decimal ".0".toList
  dsimp only at positional
  rw [if_neg (by omega), if_pos short] at positional
  have inside := isDigits_toDigits decimal.digits
  have value := natOfDigits_toDigits decimal.digits
  have head := head_toDigits positive
  obtain ⟨places, exponentEq, some⟩ : ∃ places : Nat, decimal.exponent = -places ∧ 0 < places :=
    ⟨(-decimal.exponent).toNat, by omega, by omega⟩
  rw [exponentEq, Int.neg_neg, Int.toNat_natCast] at positional short
  generalize Nat.toDigits 10 decimal.digits = digits at positional short inside value head
  have behind : (digits.drop (digits.length - places)).length = places := by
    rw [List.length_drop]
    omega
  have fraction : (digits.drop (digits.length - places)).isEmpty = false := by
    rw [Bool.eq_false_iff, ne_eq, List.isEmpty_iff_length_eq_zero]
    omega
  have before : (digits.take (digits.length - places)).length ≠ 0 := by
    rw [List.length_take]
    omega
  have noZero : (digits.take (digits.length - places)).head? ≠ .some '0' := by
    rwa [List.head?_take, if_neg (by omega)]
  refine ⟨{
    whole := digits.take (digits.length - places)
    fraction := digits.drop (digits.length - places)
    power := none
    whole_ne_nil := fun none => before (List.length_eq_zero_iff.mpr none)
    whole_digits := fun c member => inside c (List.mem_of_mem_take member)
    fraction_digits := fun c member => inside c (List.mem_of_mem_drop member)
    no_zeros := fun zero => absurd zero noZero }, ?_, ?_, ?_⟩
  · rw [positional]
    simp [text, fractionText, fraction, powerText]
  · rw [isInteger, fraction, Bool.false_and]
  · rw [NumberParts.digits, exponent]
    simp only [List.take_append_drop, value, behind, exponentEq, Option.getD_none, Int.zero_sub]

theorem exists_writes_small {decimal : Scientific} (negative : decimal.exponent < 0)
    (long : (Nat.toDigits 10 decimal.digits).length ≤ (-decimal.exponent).toNat) :
    ∃ parts : NumberParts, parts.Writes decimal (Binary64.positional decimal ".0".toList) := by
  have positional := Binary64.positional.eq_1 decimal ".0".toList
  dsimp only at positional
  rw [if_neg (by omega), if_neg (by omega)] at positional
  have some : Nat.toDigits 10 decimal.digits ≠ [] := Nat.toDigits_ne_nil
  refine ⟨{
    whole := ['0']
    fraction := List.replicate ((-decimal.exponent).toNat - (Nat.toDigits 10 decimal.digits).length)
      '0' ++ Nat.toDigits 10 decimal.digits
    power := none
    whole_ne_nil := by simp
    whole_digits := isDigits_zeros 1
    fraction_digits := (isDigits_zeros _).append (isDigits_toDigits _)
    no_zeros := fun _ => rfl }, ?_, ?_, ?_⟩
  · rw [positional, text, fractionText, if_neg (by simp [some])]
    simp [powerText]
  · simp [isInteger, some]
  · have zero : ['0'] = List.replicate 1 '0' := rfl
    simp only [digits, exponent]
    rw [zero, natOfDigits_zeros_append, natOfDigits_zeros_append, natOfDigits_toDigits,
      List.length_append, List.length_replicate, Option.getD_none]
    congr 1
    omega

theorem exists_writes_power (decimal : Scientific) :
    ∃ parts : NumberParts, parts.Writes decimal (Binary64.withExponent decimal) := by
  have inside := isDigits_toDigits decimal.digits
  have value := natOfDigits_toDigits decimal.digits
  have some : Nat.toDigits 10 decimal.digits ≠ [] := Nat.toDigits_ne_nil
  have written := Binary64.withExponent.eq_1 decimal
  generalize Nat.toDigits 10 decimal.digits = digits at inside value some written
  obtain ⟨first, later, rfl⟩ := List.exists_cons_of_ne_nil some
  refine ⟨{
    whole := [first]
    fraction := later
    power := .some (decimal.exponent + later.length)
    whole_ne_nil := by simp
    whole_digits := fun c member => inside c (List.mem_singleton.mp member ▸ List.mem_cons_self)
    fraction_digits := fun c member => inside c (List.mem_cons_of_mem first member)
    no_zeros := fun _ => rfl }, ?_, ?_, ?_⟩
  · rw [written, text, fractionText, powerText]
    simp
  · simp [isInteger]
  · rw [NumberParts.digits, exponent]
    dsimp only
    rw [List.singleton_append, value, Option.getD_some, Int.add_sub_cancel]

/-- The written form of a positive decimal consists of parts that make the same
number. -/
theorem exists_writes {decimal : Scientific} (positive : decimal.digits ≠ 0) (plain : Prop)
    [Decidable plain] : ∃ parts : NumberParts, parts.Writes decimal
      (if plain then Binary64.positional decimal ".0".toList
        else Binary64.withExponent decimal) := by
  split
  next =>
    rcases Int.lt_or_le decimal.exponent 0 with negative | whole
    · rcases Nat.lt_or_ge (-decimal.exponent).toNat (Nat.toDigits 10 decimal.digits).length with
        short | long
      · exact exists_writes_split positive negative short
      · exact exists_writes_small negative long
    · exact exists_writes_whole positive whole
  next => exact exists_writes_power decimal

/-- The number zero. -/
def zero : NumberParts where
  whole := ['0']
  fraction := ['0']
  power := none
  whole_ne_nil := by simp
  whole_digits := isDigits_zeros 1
  fraction_digits := isDigits_zeros 1
  no_zeros := fun _ => rfl

/-- A natural number. -/
def ofNat (n : Nat) : NumberParts where
  whole := Nat.toDigits 10 n
  fraction := []
  power := none
  whole_ne_nil := Nat.toDigits_ne_nil
  whole_digits := isDigits_toDigits n
  fraction_digits := by simp [IsDigits]
  no_zeros := by
    intro front
    rcases Nat.eq_zero_or_pos n with rfl | positive
    · rfl
    · exact absurd front (head_toDigits positive.ne')

end NumberParts

open NumberParts

variable {rest : List Char}

theorem numeral_toDigits (negative : Bool) {n : Nat} (signed : negative → n ≠ 0)
    (ends : EndsNumber rest) : Json.numeral negative (Nat.toDigits 10 n ++ rest) =
      some (.integer (if negative then -(n : Int) else n), rest) := by
  have text : (ofNat n).text = Nat.toDigits 10 n := List.append_nil _
  have digits : (ofNat n).digits = n := by
    rw [NumberParts.digits, ofNat, List.append_nil, natOfDigits_toDigits]
  have read := (ofNat n).numeral_text negative ends
  rw [text, digits, if_pos] at read
  · exact read
  · cases negative with
    | false => rfl
    | true => simpa [isInteger, ofNat] using signed rfl

theorem NumberParts.exists_text_eq_cons (parts : NumberParts) :
    ∃ c later, c.isDigit ∧ parts.text = c :: later := by
  obtain ⟨c, later, whole⟩ := List.exists_cons_of_ne_nil parts.whole_ne_nil
  exact ⟨c, _, parts.whole_digits c (by simp [whole]), by rw [text, whole, List.cons_append]⟩

/-- A number with a fraction or a power of ten is read as a double if that is
finite. -/
theorem NumberParts.numeral_real (parts : NumberParts) (notInteger : parts.isInteger = false)
    {negative : Bool} {units : Nat} {magnitude : IsMagnitude units}
    (makes : Decimal.toBinary64 ⟨negative, parts.digits, parts.exponent⟩ =
      .finite negative units magnitude) (ends : EndsNumber rest) :
    Json.numeral negative (parts.text ++ rest) =
      some (.real (.finite negative units magnitude), rest) := by
  rw [parts.numeral_text negative ends, notInteger, Bool.false_and, if_neg Bool.false_ne_true,
    makes]
  exact if_pos rfl

/-- The written form of a finite double is a sign and a number that is read as
that double. -/
theorem exists_dataText {negative : Bool} {units : Nat} (magnitude : IsMagnitude units) :
    ∃ parts : NumberParts, (Binary64.finite negative units magnitude).dataText =
        some (Binary64.signText negative ++ parts.text) ∧
      ∀ rest, EndsNumber rest → Json.numeral negative (parts.text ++ rest) =
        some (.real (.finite negative units magnitude), rest) := by
  rw [Binary64.dataText]
  split
  next none =>
    subst none
    exact ⟨.zero, rfl, fun rest => NumberParts.zero.numeral_real rfl rfl⟩
  next some =>
    obtain ⟨positive, inside⟩ := Binary64.shortest_holds .toEven some magnitude.1
    obtain ⟨parts, writes⟩ := exists_writes positive (-5 ≤ (Binary64.shortest .toEven units).exponent
      + (digitCount (Binary64.shortest .toEven units).digits - 1 : Nat) ∧
        (Binary64.shortest .toEven units).exponent
          + (digitCount (Binary64.shortest .toEven units).digits - 1 : Nat) < 16)
    refine ⟨parts, ?_, fun rest => parts.numeral_real writes.notInteger ?_⟩
    · rw [writes.text_eq]
    · refine Binary64.toBinary64_of_holds some magnitude ?_
      rw [writes.units_eq]
      exact inside

end ProfileGraph
