import ProfileGraph.Numeric.Shortest

/-! Decimal numerals: the reader that turns number text into the nearest
double, and the three ways in which doubles are written. Snapshot files use
the shortest decimal with an exponent for very small and very large values,
edge labels the shortest decimal without any exponent, and percentages a fixed
number of places of the exact value. -/
namespace ProfileGraph

/-- The first number that is too large for a count, two to the power of
64. -/
def countBound : Nat := 18446744073709551616

/-- A signed decimal numeral, `digits` times ten to the power `exponent`. -/
structure Decimal where
  negative : Bool
  digits : Nat
  exponent : Int
deriving DecidableEq, Repr

namespace Decimal

/-- The nearest double. Numerals far outside the range of doubles are settled
by their number of digits, before their power of ten is computed. -/
def toBinary64 (numeral : Decimal) : Binary64 :=
  let size := (digitCount numeral.digits : Int) + numeral.exponent
  if numeral.digits = 0 then Binary64.signedZero numeral.negative
  else if 310 < size then .infinity numeral.negative
  else if size < -330 then Binary64.signedZero numeral.negative
  else
    let (numerator, denominator) := tenPower numeral.exponent
    Binary64.ofRatio numeral.negative (numeral.digits * numerator) denominator

/-- The number that a row of decimal digits denotes. -/
def natOfDigits (digits : List Char) : Nat :=
  digits.foldl (fun n c => 10 * n + (c.toNat - '0'.toNat)) 0

/-- Splits off the digits in front. -/
def spanDigits (text : List Char) : List Char × List Char :=
  text.span Char.isDigit

/-- Splits off a sign; no sign means a positive number. -/
def splitSign : List Char → Bool × List Char
  | '-' :: rest => (true, rest)
  | '+' :: rest => (false, rest)
  | text => (false, text)

/-- Reads the part of a numeral behind its mantissa: nothing, or the letter
`e` in either case, a sign if there is one, and at least one digit. -/
def exponent? : List Char → Option Int
  | [] => some 0
  | c :: rest =>
    if c = 'e' ∨ c = 'E' then
      let (negative, digits) := splitSign rest
      if digits.isEmpty || !digits.all Char.isDigit then none
      else if negative then some (-(natOfDigits digits : Int))
      else some (natOfDigits digits)
    else none

/-- Reads an unsigned numeral: digits with at most one point among, before or
behind them, at least one digit in all, and an exponent if there is one. -/
def unsigned? (negative : Bool) (text : List Char) : Option Decimal :=
  let (whole, rest) := spanDigits text
  let (fraction, rest) := match rest with
    | '.' :: rest => spanDigits rest
    | rest => ([], rest)
  if whole.isEmpty && fraction.isEmpty then none
  else (exponent? rest).map fun exponent =>
    ⟨negative, natOfDigits (whole ++ fraction), exponent - fraction.length⟩

end Decimal

/-- The upper-case ASCII letters made lower-case, all else unchanged. -/
def asciiLower (text : List Char) : List Char := text.map Char.toLower

/-- Reads number text as a double: a sign if there is one, then a numeral or,
in any case of letters, one of the words for infinity and for no number. -/
def Binary64.ofText? (text : List Char) : Option Binary64 :=
  let (negative, body) := Decimal.splitSign text
  let word := asciiLower body
  if word = "inf".toList ∨ word = "infinity".toList then some (.infinity negative)
  else if word = "nan".toList then some .nan
  else (Decimal.unsigned? negative body).map Decimal.toBinary64

namespace Binary64

/-- The places of a decimal without an exponent. A whole number is followed by
`wholeMark`. -/
def positional (decimal : Scientific) (wholeMark : List Char) : List Char :=
  let digits := Nat.toDigits 10 decimal.digits
  if 0 ≤ decimal.exponent then
    digits ++ List.replicate decimal.exponent.toNat '0' ++ wholeMark
  else
    let places := (-decimal.exponent).toNat
    if places < digits.length then
      digits.take (digits.length - places) ++ '.' :: digits.drop (digits.length - places)
    else '0' :: '.' :: List.replicate (places - digits.length) '0' ++ digits

/-- One digit before the point, and the power of ten with its sign. -/
def withExponent (decimal : Scientific) : List Char :=
  let digits := Nat.toDigits 10 decimal.digits
  let power := decimal.exponent + (digits.length - 1 : Nat)
  let fraction := digits.drop 1
  digits.take 1 ++ (if fraction.isEmpty then [] else '.' :: fraction)
    ++ 'e' :: (if power < 0 then '-' else '+') :: Nat.toDigits 10 power.natAbs

/-- The sign of a negative number or zero. -/
def signText (negative : Bool) : List Char := if negative then ['-'] else []

/-- The text of a finite double in a data file: positional from 1e-5 to below
1e16, always with a fraction, and with an exponent outside that range. A half
between two shortest decimals goes to the even one. -/
def dataText : Binary64 → Option (List Char)
  | .finite negative units _ =>
    if units = 0 then some (signText negative ++ "0.0".toList)
    else
      let decimal := shortest .toEven units
      let power := decimal.exponent + (digitCount decimal.digits - 1 : Nat)
      some (signText negative ++
        if -5 ≤ power ∧ power < 16 then positional decimal ".0".toList
        else withExponent decimal)
  | _ => none

/-- The words for the values that have no digits. -/
def wordText : Binary64 → List Char
  | .nan => "NaN".toList
  | .infinity negative => signText negative ++ "inf".toList
  | .finite .. => []

/-- The shortest decimal without an exponent and without a fraction of whole
numbers. A half between two shortest decimals goes up. -/
def plainText : Binary64 → List Char
  | .finite negative units _ =>
    signText negative ++
      if units = 0 then ['0'] else positional (shortest .up units) []
  | x => wordText x

/-- The exact value rounded to a positive number of places. -/
def fixedText (places : Nat) : Binary64 → List Char
  | .finite negative units _ =>
    let scaled := roundDiv .toEven (units * Nat.pow 10 places) unitsPerOne
    let digits := Nat.toDigits 10 scaled
    let padded := List.replicate (places + 1 - digits.length) '0' ++ digits
    signText negative ++ padded.take (padded.length - places) ++
      '.' :: padded.drop (padded.length - places)
  | x => wordText x

end Binary64
end ProfileGraph
