import ProfileGraph.StandIn.Shell.Condition
import ProfileGraph.StandIn.Shell.Printing
import ProfileGraph.StandIn.Utility.Input
import ProfileGraph.StandIn.Utility.Options

/-! The utilities that print their arguments, and those that check a condition. -/
namespace ProfileGraph.Utility
open Host

/-- The value of hexadecimal digits. -/
def hexValue (digits : List Char) : Nat :=
  digits.foldl (fun n c =>
    let digit := if c.isDigit then c.toNat - '0'.toNat else c.toLower.toNat - 'a'.toNat + 10
    16 * n + digit) 0

/-- Whether a character is a hexadecimal digit. -/
def isHexDigit (c : Char) : Bool := c.isDigit || ('a' ≤ c.toLower && c.toLower ≤ 'f')

/-- What an escape stands for, behind its backslash. Octal digits may stand behind a
zero; output stops at the letter `c`. -/
def escapeValue? (zeroAllows : Nat) (text : List Char) : Option (List Char × List Char) :=
  match text with
  | 'c' :: _ => none
  | 'x' :: rest =>
    let digits := (rest.take 2).takeWhile isHexDigit
    if digits.isEmpty then some (['\\', 'x'], rest)
    else some ([Char.ofNat (hexValue digits)], rest.drop digits.length)
  | '0' :: rest =>
    let (digits, rest) := Shell.spanOctal zeroAllows rest
    some ([Shell.octalChar digits], rest)
  | '"' :: rest => some (['\\', '"'], rest)
  | text => some (Shell.escape text)

/-- The text of an argument with its escapes, and whether output stops in it. The fuel
bounds the length. -/
def unescaped : Nat → List Char → List Char × Bool
  | 0, text => (text, false)
  | _, [] => ([], false)
  | fuel + 1, '\\' :: rest =>
    match escapeValue? 3 rest with
    | none => ([], true)
    | some (found, rest) =>
      let (later, stopped) := unescaped fuel rest
      (found ++ later, stopped)
  | fuel + 1, c :: rest =>
    let (later, stopped) := unescaped fuel rest
    (c :: later, stopped)

/-- Takes the options off arguments that are printed: whether escapes count, and
whether the line has no end. -/
def printingOptions : Bool × Bool → List String → (Bool × Bool) × List String
  | found, [] => (found, [])
  | (escapes, isOpen), argument :: later =>
    match argument.toList with
    | '-' :: letter :: letters =>
      if (letter :: letters).all "neE".toList.contains then
        let last := (letter :: letters).reverse.find? (· != 'n')
        printingOptions
          (if last.isSome then last == some 'e' else escapes,
            isOpen || (letter :: letters).contains 'n') later
      else ((escapes, isOpen), argument :: later)
    | _ => ((escapes, isOpen), argument :: later)

/-- Prints its arguments. -/
def echo : Job Nat := do
  let arguments := (← read).arguments
  if arguments == ["--help"] || arguments == ["--version"] then return 0
  let ((escapes, isOpen), words) := printingOptions (false, false) arguments
  let text := " ".intercalate words
  let (text, stopped) :=
    if escapes then
      let (found, stopped) := unescaped (text.length + 1) text.toList
      (String.ofList found, stopped)
    else (text, false)
  Job.print (if isOpen || stopped then text else text ++ "\n")
  return 0

/-- What may stand in a format. -/
def formatRules : Shell.FormatRules :=
  { escape? := fun text =>
      match text with
      | '"' :: rest => some (['"'], rest)
      | text => escapeValue? 2 text
    lengthLetters := "hlLjtz".toList
    layOut? := fun directive letter argument =>
      if letter == 'q' then
        some (directive.text (quotedIfNeeded (argument.getD "")).toList, [], false)
      else Shell.layOut? directive letter argument }

/-- What is wrong with an argument that is to be a number. -/
def numberComplaint (text : String) : Shell.NumberFault → String
  | .notNumeric => quoted text ++ ": expected a numeric value"
  | .incomplete => quoted text ++ ": value not completely converted"
  | .outOfRange => quoted text ++ ": Numerical result out of range"

/-- Prints its arguments in a format. -/
def printFormatted : Job Nat := do
  let arguments := (← read).arguments
  let arguments := if arguments.head? == some "--" then arguments.tail else arguments
  match arguments with
  | [] => misuse "missing operand"
  | format :: arguments =>
    let formatted := formatRules.text format arguments
    Job.print (String.ofList formatted.text)
    for (text, fault) in formatted.complaints do Job.complainAs (numberComplaint text fault)
    match formatted.fault with
    | some (.missingLetter text) | some (.invalidDirective text) =>
      Job.complainAs (text ++ ": invalid conversion specification")
      return 1
    | none =>
      if let first :: _ := formatted.left then
        unless formatted.stopped do
          Job.complainAs ("warning: ignoring excess arguments, starting with " ++ quoted first)
      return if formatted.complaints.isEmpty then 0 else 1

/-- Why a condition cannot be checked. -/
def conditionComplaint : Shell.Condition.Fault → String
  | .noNumber word => "invalid integer " ++ quoted word
  | .unexpected word => "extra argument " ++ quoted word
  | .noArgument sign => "missing argument after " ++ quoted sign
  | .notClosed => "')' expected"

/-- Checks a condition. -/
def checkCondition (words : List String) : Job Nat := do
  let complaint : Option String := match words with
    | [first, second] =>
      if first == "!" || Shell.Condition.unarySigns.contains first then none
      else some ("missing argument after " ++ quoted second)
    | [first, second, third] =>
      if first == "!" || (first == "(" && third == ")") || second == "-a" || second == "-o"
          || Shell.Condition.binarySigns.contains second then none
      else some (quoted second ++ ": binary operator expected")
    | _ => none
  match complaint with
  | some text =>
    Job.complainAs text
    return 2
  | none =>
    match Shell.Condition.check (← Job.tree) words with
    | .ok holds => return if holds then 0 else 1
    | .error fault =>
      Job.complainAs (conditionComplaint fault)
      return 2

/-- Checks the condition that its arguments state. -/
def test : Job Nat := do checkCondition (← read).arguments

/-- Checks the condition in front of a bracket. -/
def testInBrackets : Job Nat := do
  let arguments := (← read).arguments
  if arguments.getLast? == some "]" then checkCondition arguments.dropLast
  else
    Job.complainAs "missing ']'"
    return 2

end ProfileGraph.Utility

/-! The utility that prints a sequence of numbers, which are decimal fractions. -/
namespace ProfileGraph.Utility
open Host

/-- A decimal fraction: units of a power of ten, given by the number of places. -/
structure Fraction where
  units : Int
  places : Nat
deriving DecidableEq, Repr

namespace Fraction

/-- The units of a fraction with more places. -/
def scaled (places : Nat) (fraction : Fraction) : Int :=
  fraction.units * Nat.pow 10 (places - fraction.places)

/-- Reads a fraction. -/
def read? (text : String) : Option Fraction :=
  let (negative, digits) := match text.toList.dropWhile (· == ' ') with
    | '-' :: rest => (true, rest)
    | '+' :: rest => (false, rest)
    | rest => (false, rest)
  let (whole, rest) := digits.span Char.isDigit
  let fraction? : Option (List Char) := match rest with
    | [] => some []
    | '.' :: rest => if rest.all Char.isDigit then some rest else none
    | _ => none
  match fraction? with
  | none => none
  | some fraction =>
    if whole.isEmpty && fraction.isEmpty then none
    else
      let n : Int := (whole ++ fraction).foldl (fun n c => 10 * n + (c.toNat - '0'.toNat)) 0
      some ⟨if negative then -n else n, fraction.length⟩

/-- The digits of a number with a number of places. -/
def digits (places : Nat) (n : Nat) : String :=
  let found := Nat.toDigits 10 n
  let padded := List.replicate (places + 1 - found.length) '0' ++ found
  let whole := padded.take (padded.length - places)
  let fraction := padded.drop (padded.length - places)
  String.ofList (whole ++ if fraction.isEmpty then [] else '.' :: fraction)

/-- The text of units with a number of places, filled up with zeros. -/
def text (places width : Nat) (units : Int) : String :=
  let sign := if units < 0 then "-" else ""
  let found := digits places units.natAbs
  sign ++ String.ofList (List.replicate (width - sign.length - found.length) '0') ++ found

end Fraction

/-- The numbers of a sequence. The fuel bounds their number. -/
def progression (step last : Int) : Nat → Int → List Int
  | 0, _ => []
  | fuel + 1, n =>
    if (0 < step && last < n) || (step < 0 && n < last) then []
    else n :: progression step last fuel (n + step)

/-- The arguments with a mark behind the options, as an operand may be a negative
number. -/
def markOperands : List String → List String
  | [] => []
  | "-s" :: value :: rest => "-s" :: value :: markOperands rest
  | "-f" :: value :: rest => "-f" :: value :: markOperands rest
  | argument :: rest =>
    match argument.toList with
    | ['-', '-'] => argument :: rest
    | '-' :: c :: _ =>
      if c.isDigit || c == '.' then "--" :: argument :: rest else argument :: markOperands rest
    | _ => "--" :: argument :: rest

/-- Prints a sequence of numbers. -/
def printSequence : Job Nat := do
  Job.within { ← read with arguments := markOperands (← read).arguments } <|
    withOptions [.flag 'w' "equal-width", .value 's' "separator", .value 'f' "format"] (fun given => do
      let run (first step last : String) : Job Nat := do
        match [first, step, last].find? fun text => (Fraction.read? text).isNone with
        | some text => misuse ("invalid floating point argument: " ++ quotedWord text)
        | none =>
          let number (text : String) : Fraction := (Fraction.read? text).getD ⟨0, 0⟩
          let first := number first
          let last := number last
          let increment := number step
          if increment.units = 0 then misuse ("invalid Zero increment value: " ++ quotedWord step)
          else
            let places := max first.places increment.places
            let deep := max places last.places
            let factor : Int := Nat.pow 10 (deep - places)
            let start := first.scaled places
            let bound := last.scaled deep
            let stop := if 0 < increment.units then bound.fdiv factor else -((-bound).fdiv factor)
            let numbers := progression (increment.scaled places) stop endlessCount start
            let width :=
              if given.has "w" then
                max (Fraction.text places 0 start).length
                  ((Fraction.text places 0 (last.scaled (max places last.places) / factor)).length)
              else 0
            let texts := numbers.map (Fraction.text places width)
            let texts := match given.value? "f" with
              | some format => texts.map fun text =>
                String.ofList (Shell.shellFormats.text format [text]).text
              | none => texts
            unless texts.isEmpty do
              Job.print (((given.value? "s").getD "\n").intercalate texts ++ "\n")
            return 0
      match given.operands with
      | [] => misuse "missing operand"
      | [last] => run "1" "1" last
      | [first, last] => run first "1" last
      | [first, step, last] => run first step last
      | _ :: _ :: _ :: extra :: _ => misuse ("extra operand " ++ quotedWord extra)) 1 true
where
  /-- The most numbers that are printed. -/
  endlessCount : Nat := 1000000

end ProfileGraph.Utility
