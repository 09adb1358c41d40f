import ProfileGraph.StandIn.Utility.Scan.Syntax

/-! The functions of numbers that scanning programs know. Sums, products and quotients
are rounded exactly; powers and the functions of analysis are those of the machine. -/
namespace ProfileGraph.Utility.Scan

/-- The bits of a sign. -/
def signBits (negative : Bool) : Nat := if negative then Nat.pow 2 63 else 0

/-- The bits of a number as machines hold it: sign, exponent and mantissa. -/
def machineBits : Binary64 → Nat
  | .nan => 0x7ff8000000000000
  | .infinity negative => signBits negative + 0x7ff0000000000000
  | .finite negative units _ =>
    let gap := gapExponent units
    let magnitude :=
      if units < Nat.pow 2 52 then units
      else (gap + 1) * Nat.pow 2 52 + (units / Nat.pow 2 gap - Nat.pow 2 52)
    signBits negative + magnitude

/-- The number with some bits. -/
def ofMachineBits (bits : Nat) : Binary64 :=
  let negative := Nat.pow 2 63 ≤ bits
  let magnitude := bits % Nat.pow 2 63
  let exponent := magnitude / Nat.pow 2 52
  let fraction := magnitude % Nat.pow 2 52
  if exponent = 2047 then (if fraction = 0 then .infinity negative else .nan)
  else if exponent = 0 then Binary64.ofUnits negative fraction
  else Binary64.ofUnits negative ((Nat.pow 2 52 + fraction) * Nat.pow 2 (exponent - 1))

/-- A number as the machine holds it. -/
def toMachine (x : Binary64) : Float := Float.ofBits (UInt64.ofNat (machineBits x))

/-- The number that the machine holds. -/
def ofMachine (x : Float) : Binary64 := ofMachineBits x.toBits.toNat

/-- What is left of a number when another one is taken away as often as possible; it has
the sign of the first one. -/
def remainder : Binary64 → Binary64 → Binary64
  | .nan, _ => .nan
  | _, .nan => .nan
  | .infinity _, _ => .nan
  | x, .infinity _ => x
  | .finite negative a _, .finite _ b _ =>
    if b = 0 then .nan else Binary64.ofUnits negative (a % b)

/-- A power of a number. -/
def powerOf (base exponent : Binary64) : Binary64 :=
  ofMachine (Float.pow (toMachine base) (toMachine exponent))

/-- Does what a sign between two numbers says. -/
def Operation.apply (operation : Operation) (a b : Binary64) : Binary64 :=
  match operation with
  | .plus => a + b
  | .minus => a - b
  | .times => a * b
  | .over => a / b
  | .modulo => remainder a b
  | .power => powerOf a b

/-- The value of a function of one number. -/
def functionValue (function : Builtin) (x : Binary64) : Binary64 :=
  match function with
  | .truncate => x.truncate
  | .root => ofMachine (Float.sqrt (toMachine x))
  | .exponential => ofMachine (Float.exp (toMachine x))
  | .logarithm => ofMachine (Float.log (toMachine x))
  | .sine => ofMachine (Float.sin (toMachine x))
  | .cosine => ofMachine (Float.cos (toMachine x))
  | _ => x

/-- The angle of a point, given its height and its distance to the side. -/
def angleOf (height side : Binary64) : Binary64 :=
  ofMachine (Float.atan2 (toMachine height) (toMachine side))

end ProfileGraph.Utility.Scan

/-! Formats of scanning programs: every directive takes a value, and the letter at its end
says how the value is written. -/
namespace ProfileGraph.Utility.Scan

/-- Why a format cannot be used. -/
inductive FormatFault where
  | tooFewValues
  /-- The directive with this number has an unknown letter. -/
  | badDirective (number : Nat)
deriving DecidableEq, Repr

/-- What is said about a format that a statement or a function cannot use. -/
def FormatFault.message (user format : String) : FormatFault → String
  | .tooFewValues => "not enough arguments passed to " ++ user ++ "(\"" ++ format ++ "\")"
  | .badDirective number =>
    "improper conversion(number " ++ toString number ++ ") in " ++ user ++ "(\"" ++ format ++ "\")"

/-- What a format wrote, up to its end or to a fault. -/
structure Laid where
  text : List Char := []
  fault : Option FormatFault := none

/-- Puts text in front of what is written later. -/
def Laid.after (front : List Char) (later : Laid) : Laid :=
  { later with text := front ++ later.text }

/-- The number whose lower bits are asked for. -/
def lowBits (n : Int) : Nat :=
  if n < 0 then (n % (Nat.pow 2 64 : Int)).toNat else min n.toNat (Nat.pow 2 64 - 1)

/-- A number in a directive: digits, or a value in the place of a star. -/
def directiveCount (text : List Char) (values : List Value) :
    Option Int × List Char × List Value :=
  match text with
  | '*' :: rest =>
    (some ((wholePart? (values.headD .absent).toNumber).getD 0), rest, values.tail)
  | text =>
    let (digits, rest) := Decimal.spanDigits text
    (if digits.isEmpty then none else some (Decimal.natOfDigits digits), rest, values)

/-- Reads a directive behind its mark. -/
def readDirective (text : List Char) (values : List Value) :
    Shell.Directive × List Char × List Value :=
  let flags := text.takeWhile "#-+ 0".toList.contains
  let (width, rest, values) := directiveCount (text.drop flags.length) values
  let (precision, rest, values) : Option Int × List Char × List Value := match rest with
    | '.' :: rest =>
      let (found, rest, values) := directiveCount rest values
      (some (found.getD 0), rest, values)
    | rest => (none, rest, values)
  let width := width.getD 0
  ({ left := flags.contains '-' || width < 0
     plus := flags.contains '+'
     space := flags.contains ' '
     alternate := flags.contains '#'
     zero := flags.contains '0'
     width := width.natAbs
     precision := precision.bind fun n => if n < 0 then none else some n.toNat }, rest, values)

/-- Lays out a number that may be no number at all. -/
def floatText (directive : Shell.Directive) (letter : Char) (x : Binary64) : List Char :=
  match x with
  | .nan =>
    let word := if letter.isUpper then "-NAN" else "-nan"
    directive.pad word.toList
  | x => directive.float letter x

/-- The character that a value stands for: the one with its number, or its first
one. -/
def charOf (value : Value) (text : String) : Char :=
  match value with
  | .absent | .text _ => text.toList.headD '\x00'
  | value => match value.number? with
    | some x => Char.ofNat (lowBits ((wholePart? x).getD 0) % 256)
    | none => text.toList.headD '\x00'

/-- Lays out a value by the letter of a directive, unless the letter is not known. -/
def layOut? (directive : Shell.Directive) (letter : Char) (value : Value) (text : String) :
    Option (List Char) :=
  let x := value.toNumber
  match letter with
  | 's' => some (directive.text text.toList)
  | 'c' => some (directive.pad [charOf value text])
  | 'd' | 'i' =>
    match wholePart? x with
    | some n => some (directive.signed n)
    | none => some (floatText directive 'f' x)
  | 'o' | 'u' | 'x' | 'X' =>
    some (directive.unsigned letter (lowBits ((wholePart? x).getD 0)))
  | 'e' | 'E' | 'f' | 'F' | 'g' | 'G' => some (floatText directive letter x)
  | _ => none

/-- Writes values in a format. `toText` gives the texts of values, `number` is the
number of the next directive, and the fuel bounds the number of characters. -/
def layOutAll (toText : Value → String) : Nat → Nat → List Char → List Value → Laid
  | 0, _, _, _ => {}
  | _, _, [], _ => {}
  | fuel + 1, number, '%' :: '%' :: rest, values =>
    (layOutAll toText fuel number rest values).after ['%']
  | fuel + 1, number, '%' :: text, values =>
    let (directive, rest, values) := readDirective text values
    match values, rest.dropWhile fun c => c == 'h' || c == 'l' || c == 'L' with
    | value :: values, letter :: rest =>
      match layOut? directive letter value (toText value) with
      | some found => (layOutAll toText fuel (number + 1) rest values).after found
      | none => { fault := some (.badDirective number) }
    | [], _ => { fault := some .tooFewValues }
    | _, [] => { fault := some (.badDirective number) }
  | fuel + 1, number, c :: rest, values =>
    (layOutAll toText fuel number rest values).after [c]

/-- The text of a number in a format; a whole number has all its digits. -/
def numberText (format : String) (x : Binary64) : String :=
  match plainWhole? x with
  | some n => toString n
  | none =>
    if format == "%.6g" then String.ofList (floatText {} 'g' x)
    else
      String.ofList
        (layOutAll (fun _ => "") (format.length + 1) 1 format.toList [.number x]).text

/-- The text of a value, given the format of numbers. -/
def Value.toText (format : String) : Value → String
  | .absent => ""
  | .number x => numberText format x
  | .text found | .input found => found

end ProfileGraph.Utility.Scan
