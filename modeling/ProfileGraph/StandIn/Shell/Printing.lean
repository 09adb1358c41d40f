import ProfileGraph.Numeric.Decimal
import ProfileGraph.StandIn.Shell.Arithmetic

/-! The directives of a format: how a number or a text is laid out in a field of
a given width. -/
namespace ProfileGraph.Shell

/-- A directive of a format, up to its letter. -/
structure Directive where
  left : Bool := false
  plus : Bool := false
  space : Bool := false
  /-- Writes the mark of the base, or a point always. -/
  alternate : Bool := false
  zero : Bool := false
  width : Nat := 0
  precision : Option Nat := none
deriving DecidableEq, Repr

namespace Directive

/-- Fills a field up with blanks. -/
def pad (directive : Directive) (text : List Char) : List Char :=
  let blanks := List.replicate (directive.width - text.length) ' '
  if directive.left then text ++ blanks else blanks ++ text

/-- Fills a field of a number up, with zeros behind the sign if that is asked
for. -/
def padNumber (directive : Directive) (zeros : Bool) (sign digits : List Char) : List Char :=
  if zeros && directive.zero && !directive.left then
    sign ++ List.replicate (directive.width - sign.length - digits.length) '0' ++ digits
  else directive.pad (sign ++ digits)

/-- The sign of a number. -/
def sign (directive : Directive) (negative : Bool) : List Char :=
  if negative then ['-']
  else if directive.plus then ['+']
  else if directive.space then [' ']
  else []

/-- Lays out a text. -/
def text (directive : Directive) (text : List Char) : List Char :=
  directive.pad (match directive.precision with
    | some n => text.take n
    | none => text)

/-- The digits of a whole number, at least as many as the precision asks
for. -/
def digits (directive : Directive) (base n : Nat) : List Char :=
  let found := if n = 0 && directive.precision == some 0 then [] else Nat.toDigits base n
  List.replicate (directive.precision.getD 1 - found.length) '0' ++ found

/-- Lays out a signed whole number. -/
def signed (directive : Directive) (n : Int) : List Char :=
  directive.padNumber directive.precision.isNone (directive.sign (n < 0))
    (directive.digits 10 n.natAbs)

/-- Lays out an unsigned whole number by the letter of its base. -/
def unsigned (directive : Directive) (letter : Char) (n : Nat) : List Char :=
  let base := match letter with
    | 'o' => 8
    | 'x' | 'X' => 16
    | _ => 10
  let digits := directive.digits base n
  let digits := if letter == 'X' then digits.map Char.toUpper else digits
  let digits :=
    if letter == 'o' && directive.alternate && digits.head? != some '0' then '0' :: digits
    else digits
  let mark :=
    if directive.alternate && base = 16 && n != 0 then ['0', letter] else []
  directive.padNumber directive.precision.isNone mark digits

/-- A magnitude, `num / den`, rounded to a number of places. -/
def fixedDigits (places num den : Nat) : List Char :=
  let scaled := roundDiv .toEven (num * Nat.pow 10 places) den
  let digits := Nat.toDigits 10 scaled
  let padded := List.replicate (places + 1 - digits.length) '0' ++ digits
  let fraction := padded.drop (padded.length - places)
  padded.take (padded.length - places) ++ if fraction.isEmpty then [] else '.' :: fraction

/-- The digits of a positive magnitude rounded to one digit and a number of
places behind it, and the power of ten of the first one. -/
def scientificDigits (places num den : Nat) : List Char × Int :=
  if num = 0 then (List.replicate (places + 1) '0', 0)
  else
    let power := leadingPower num den
    let (numerator, denominator) := tenPower (places - power)
    let digits := Nat.toDigits 10 (roundDiv .toEven (num * numerator) (den * denominator))
    if places + 1 < digits.length then (digits.take (places + 1), power + 1)
    else (digits, power)

/-- The text of a power of ten, with at least two digits. -/
def powerText (power : Int) : List Char :=
  let digits := Nat.toDigits 10 power.natAbs
  'e' :: (if power < 0 then '-' else '+') :: List.replicate (2 - digits.length) '0' ++ digits

/-- A magnitude with one digit in front of the point and a power of ten. -/
def scientificText (places num den : Nat) : List Char :=
  let (digits, power) := scientificDigits places num den
  let fraction := digits.drop 1
  digits.take 1 ++ (if fraction.isEmpty then [] else '.' :: fraction) ++ powerText power

/-- Drops zeros at the end of a fraction, and a point without a fraction. -/
def dropFractionZeros (text : List Char) : List Char :=
  if text.contains '.' then
    let kept := (text.reverse.dropWhile (· == '0')).reverse
    if kept.getLast? == some '.' then kept.dropLast else kept
  else text

/-- A magnitude with a number of digits in all, in the shorter of the two ways. -/
def generalText (alternate : Bool) (count num den : Nat) : List Char :=
  let count := max count 1
  let power := (scientificDigits (count - 1) num den).2
  let trim (text : List Char) := if alternate then text else dropFractionZeros text
  if -4 ≤ power && power < count then
    trim (fixedDigits (count - 1 - power).toNat num den)
  else
    let text := scientificText (count - 1) num den
    trim (text.takeWhile (· != 'e')) ++ powerText power

/-- Lays out a double by the letter of the directive. -/
def float (directive : Directive) (letter : Char) (value : Binary64) : List Char :=
  let places := directive.precision.getD 6
  let upper (text : List Char) := if letter.isUpper then text.map Char.toUpper else text
  match value with
  | .nan => directive.padNumber false (directive.sign false) (upper "nan".toList)
  | .infinity negative => directive.padNumber false (directive.sign negative) (upper "inf".toList)
  | .finite negative units _ =>
    let text := match letter.toLower with
      | 'f' => fixedDigits places units unitsPerOne
      | 'e' => scientificText places units unitsPerOne
      | _ => generalText directive.alternate places units unitsPerOne
    directive.padNumber true (directive.sign negative) (upper text)

end Directive
end ProfileGraph.Shell

/-! The texts that the printing commands of a shell write: arguments with
escapes, and formats that are used again until all arguments are written. -/
namespace ProfileGraph.Shell

/-- The character of an escape of one letter. -/
def escapedChar? : Char → Option Char
  | 'a' => some '\x07'
  | 'b' => some '\x08'
  | 'e' => some '\x1b'
  | 't' => some '\t'
  | 'n' => some '\n'
  | 'v' => some '\x0b'
  | 'f' => some '\x0c'
  | 'r' => some '\r'
  | '\\' => some '\\'
  | '"' => some '"'
  | _ => none

/-- Whether a character is a digit to the base eight. -/
def isOctalDigit (c : Char) : Bool := '0' ≤ c && c ≤ '7'

/-- The character of the octet that octal digits denote. -/
def octalChar (digits : List Char) : Char :=
  Char.ofNat (digits.foldl (fun n c => 8 * n + (c.toNat - '0'.toNat)) 0 % 256)

/-- Takes up to a number of octal digits from the front of a text. -/
def spanOctal (limit : Nat) (text : List Char) : List Char × List Char :=
  let digits := (text.take limit).takeWhile isOctalDigit
  (digits, text.drop digits.length)

/-- What an escape stands for, behind its backslash. One that is not known
stands for itself. -/
def escape (text : List Char) : List Char × List Char :=
  match text with
  | [] => (['\\'], [])
  | c :: rest =>
    if isOctalDigit c then
      let (digits, rest) := spanOctal 3 text
      ([octalChar digits], rest)
    else match escapedChar? c with
      | some found => ([found], rest)
      | none => (['\\', c], rest)

/-- Text that has been written, and whether writing goes on behind it. -/
structure Written where
  text : List Char := []
  stopped : Bool := false
deriving DecidableEq, Repr

/-- Puts text in front of what is written later. -/
def Written.after (text : List Char) (later : Written) : Written :=
  { later with text := text ++ later.text }

/-- The text of an argument whose escapes count. The escape `\c` stops all
output, and a zero may stand in front of three octal digits. The fuel bounds the
number of characters. -/
def escapedText : Nat → List Char → Written
  | 0, _ => {}
  | _, [] => {}
  | _, '\\' :: 'c' :: _ => { stopped := true }
  | fuel + 1, '\\' :: '0' :: c :: rest =>
    if isOctalDigit c then
      let (digits, rest) := spanOctal 3 (c :: rest)
      (escapedText fuel rest).after [octalChar digits]
    else (escapedText fuel (c :: rest)).after ['\x00']
  | fuel + 1, '\\' :: rest =>
    let (found, rest) := escape rest
    (escapedText fuel rest).after found
  | fuel + 1, c :: rest => (escapedText fuel rest).after [c]

/-- Arguments in a row with blanks between them and a line end behind them,
which the option `-n` leaves out. -/
def echoText (arguments : List String) : String :=
  let (quiet, arguments) := match arguments with
    | "-n" :: rest => (true, rest)
    | rest => (false, rest)
  let text := (" ".intercalate arguments).toList
  let written := escapedText (text.length + 1) text
  String.ofList (if quiet || written.stopped then written.text else written.text ++ ['\n'])

/-- Why an argument is no number of the kind that is wanted. -/
inductive NumberFault where
  | notNumeric
  /-- Something stands behind the number. -/
  | incomplete
  | outOfRange
deriving DecidableEq, Repr

/-- The text for a word that is not quite a number. -/
def NumberFault.message : NumberFault → String
  | .notNumeric => "expected numeric value"
  | .incomplete => "not completely converted"
  | .outOfRange => "Numerical result out of range"

/-- Drops the blanks in front of a number. -/
def dropSpaces (text : List Char) : List Char :=
  text.dropWhile fun c => c == ' ' || ('\t' ≤ c && c ≤ '\r')

/-- The whole number at the front of an argument, and what is wrong with it. A
quote stands for the number of the character behind it. -/
def integerArgument (isSigned : Bool) (argument : String) : Int × Option NumberFault :=
  match argument.toList with
  | [] => (0, none)
  | '\'' :: rest | '"' :: rest => ((rest.headD '\x00').toNat, none)
  | text =>
    let (negative, digits) := Decimal.splitSign (dropSpaces text)
    let (base, found, rest) := Arithmetic.splitNumber digits
    let n := Arithmetic.natOfDigits base found
    let limit := if !isSigned then Nat.pow 2 64 - 1 else if negative then Nat.pow 2 63
      else Nat.pow 2 63 - 1
    let value : Int := if negative then -(min n limit : Int) else min n limit
    if found.isEmpty then (0, some .notNumeric)
    else if !rest.isEmpty then (value, some .incomplete)
    else if limit < n then (if isSigned then value else limit, some .outOfRange)
    else (value, none)

/-- The longest numeral at the front of a text, and what stands behind it. -/
def splitNumeral (text : List Char) : List Char × List Char :=
  let (whole, rest) := Decimal.spanDigits text
  let (fraction, rest) := match rest with
    | '.' :: rest =>
      let (digits, rest) := Decimal.spanDigits rest
      ('.' :: digits, rest)
    | rest => ([], rest)
  if whole.isEmpty && fraction.length < 2 then ([], text)
  else match rest with
    | e :: more =>
      if e == 'e' || e == 'E' then
        let (sign, digits) := match more with
          | '+' :: digits => (['+'], digits)
          | '-' :: digits => (['-'], digits)
          | digits => ([], digits)
        let (digits, behind) := Decimal.spanDigits digits
        if digits.isEmpty then (whole ++ fraction, rest)
        else (whole ++ fraction ++ e :: sign ++ digits, behind)
      else (whole ++ fraction, rest)
    | [] => (whole ++ fraction, [])

/-- The double at the front of an argument, and what is wrong with it. -/
def floatArgument (argument : String) : Binary64 × Option NumberFault :=
  match argument.toList with
  | [] => (.ofNat 0, none)
  | '\'' :: rest | '"' :: rest => (.ofNat (rest.headD '\x00').toNat, none)
  | text =>
    match Binary64.ofText? (dropSpaces text) with
    | some value => (value, none)
    | none =>
      let (negative, body) := Decimal.splitSign (dropSpaces text)
      let (numeral, _) := splitNumeral body
      if numeral.isEmpty then (.ofNat 0, some .notNumeric)
      else
        (((Decimal.unsigned? negative numeral).map Decimal.toBinary64).getD (.ofNat 0),
          some .incomplete)

/-- Why a format cannot be used. -/
inductive FormatFault where
  | missingLetter (text : String)
  | invalidDirective (text : String)
deriving DecidableEq, Repr

/-- The text for a format that is refused. -/
def FormatFault.message : FormatFault → String
  | .missingLetter _ => "missing format character"
  | .invalidDirective text => text ++ ": invalid directive"

/-- What the use of a format wrote: the text, the arguments that are left, the
arguments that are no numbers, and what ended it. -/
structure Formatted where
  text : List Char := []
  left : List String := []
  complaints : List (String × NumberFault) := []
  stopped : Bool := false
  fault : Option FormatFault := none
deriving DecidableEq, Repr

/-- Puts text and complaints in front of those that come later. -/
def Formatted.after (text : List Char) (complaints : List (String × NumberFault))
    (later : Formatted) : Formatted :=
  { later with text := text ++ later.text, complaints := complaints ++ later.complaints }

/-- A number in a directive, or one that an argument gives. -/
def directiveNumber (text : List Char) (arguments : List String) :
    Option Int × List Char × List String :=
  match text with
  | '*' :: rest => (some (integerArgument true (arguments.headD "")).1, rest, arguments.tail)
  | text =>
    let (digits, rest) := Decimal.spanDigits text
    (if digits.isEmpty then none else some (Decimal.natOfDigits digits), rest, arguments)

/-- Reads a directive behind its percent sign: the directive, what stands
behind it, and the arguments that are left. -/
def readDirective (text : List Char) (arguments : List String) :
    Directive × List Char × List String :=
  let flags := text.takeWhile "#-+ 0".toList.contains
  let (width, rest, arguments) := directiveNumber (text.drop flags.length) arguments
  let (precision, rest, arguments) : Option Int × List Char × List String := match rest with
    | '.' :: rest =>
      let (found, rest, arguments) := directiveNumber rest arguments
      (some (found.getD 0), rest, arguments)
    | rest => (none, rest, arguments)
  let width := width.getD 0
  ({ left := flags.contains '-' || width < 0
     plus := flags.contains '+'
     space := flags.contains ' '
     alternate := flags.contains '#'
     zero := flags.contains '0'
     width := width.natAbs
     precision := precision.bind fun n => if n < 0 then none else some n.toNat }, rest, arguments)

/-- An argument that was laid out: its text, what is wrong with it, and whether all
output stops behind it. -/
abbrev LaidOut := List Char × List (String × NumberFault) × Bool

/-- Lays out an argument by the letter of a directive, unless the letter is not
known. -/
def layOut? (directive : Directive) (letter : Char) (argument : Option String) :
    Option LaidOut :=
  let text := argument.getD ""
  let complaint (fault : Option NumberFault) : List (String × NumberFault) :=
    fault.toList.map fun fault => (text, fault)
  match letter with
  | 's' => some (directive.text text.toList, [], false)
  | 'c' => some (directive.pad [text.toList.headD '\x00'], [], false)
  | 'b' =>
    let written := escapedText (text.length + 1) text.toList
    some (directive.text written.text, [], written.stopped)
  | 'd' | 'i' =>
    let (n, fault) := integerArgument true text
    some (directive.signed n, complaint fault, false)
  | 'o' | 'u' | 'x' | 'X' =>
    let (n, fault) := integerArgument false text
    some (directive.unsigned letter (n % Nat.pow 2 64).toNat, complaint fault, false)
  | 'e' | 'E' | 'f' | 'F' | 'g' | 'G' =>
    let (value, fault) := floatArgument text
    some (directive.float letter value, complaint fault, false)
  | _ => none

/-- What may stand in a format. -/
structure FormatRules where
  /-- What an escape stands for, behind its backslash. The result is missing if all
  output stops there. -/
  escape? : List Char → Option (List Char × List Char)
  /-- The letters that say nothing in front of the letter of a directive. -/
  lengthLetters : List Char
  layOut? : Directive → Char → Option String → Option LaidOut

/-- Uses a format once. The fuel bounds the number of its characters. -/
def FormatRules.useOnce (rules : FormatRules) : Nat → List Char → List String → Formatted
  | 0, _, arguments => { left := arguments }
  | _, [], arguments => { left := arguments }
  | fuel + 1, '\\' :: rest, arguments =>
    match rules.escape? rest with
    | none => { left := arguments, stopped := true }
    | some (found, rest) => (rules.useOnce fuel rest arguments).after found []
  | fuel + 1, '%' :: '%' :: rest, arguments => (rules.useOnce fuel rest arguments).after ['%'] []
  | fuel + 1, '%' :: text, arguments =>
    let (directive, rest, left) := readDirective text arguments
    match rest.dropWhile rules.lengthLetters.contains with
    | [] => { left, fault := some (.missingLetter (String.ofList ('%' :: text))) }
    | letter :: later =>
      match rules.layOut? directive letter left.head? with
      | none =>
        let written := '%' :: text.take (text.length - later.length)
        { left, fault := some (.invalidDirective (String.ofList written)) }
      | some (found, complaints, true) => { text := found, complaints, stopped := true }
      | some (found, complaints, false) =>
        (rules.useOnce fuel later left.tail).after found complaints
  | fuel + 1, c :: rest, arguments => (rules.useOnce fuel rest arguments).after [c] []

/-- Uses a format until no arguments are left. The fuel bounds the number of
uses. -/
def FormatRules.useAll (rules : FormatRules) (format : List Char) : Nat → List String → Formatted
  | 0, _ => {}
  | fuel + 1, arguments =>
    let once := rules.useOnce (format.length + 1) format arguments
    if once.stopped || once.fault.isSome || once.left.isEmpty
        || once.left.length == arguments.length then once
    else (rules.useAll format fuel once.left).after once.text once.complaints

/-- Writes arguments in a format. -/
def FormatRules.text (rules : FormatRules) (format : String) (arguments : List String) :
    Formatted :=
  rules.useAll format.toList (arguments.length + 1) arguments

/-- What may stand in the formats of a shell. -/
def shellFormats : FormatRules :=
  { escape? := fun text => some (escape text), lengthLetters := [], layOut? }

end ProfileGraph.Shell
