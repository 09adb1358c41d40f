import ProfileGraph.StandIn.Utility.Input
import ProfileGraph.StandIn.Utility.Moment

/-! The utility that prints dates. Clocks show the time of the zero meridian. -/
namespace ProfileGraph.Utility
open Host

namespace Moment

/-- The names of the days of a week. -/
def dayNames : List String :=
  ["Sunday", "Monday", "Tuesday", "Wednesday", "Thursday", "Friday", "Saturday"]

/-- The names of the months. -/
def monthNames : List String := ["January", "February", "March", "April", "May", "June", "July",
  "August", "September", "October", "November", "December"]

/-- A moment in the parts that dates show. -/
structure Parts where
  seconds : Nat
  year : Int
  month : Int
  day : Int
  hour : Nat
  minute : Nat
  second : Nat
  /-- The day of the week, from Sunday on. -/
  weekday : Nat
  /-- The number of days of the year in front of the day. -/
  dayOfYear : Nat

/-- The parts of a moment. -/
def Parts.of (seconds : Nat) : Parts :=
  let days := seconds / 86400
  let (year, month, day) := dateOf days
  let ofDay := seconds % 86400
  { seconds, year, month, day
    hour := ofDay / 3600, minute := ofDay / 60 % 60, second := ofDay % 60
    weekday := (days + 4) % 7
    dayOfYear := (days - dayNumber year.toNat 1 1).toNat }

/-- A number filled up to a width. -/
def filled (fill : Option Char) (width : Nat) (n : Int) : String :=
  let digits := toString n
  match fill with
  | some c => String.ofList (List.replicate (width - digits.length) c) ++ digits
  | none => digits

namespace Parts

/-- The first letters of the name of the day. -/
def shortDay (parts : Parts) : String :=
  (((dayNames[parts.weekday]?).getD "").take 3).toString

/-- The name of the month. -/
def monthName (parts : Parts) : String := (monthNames[(parts.month - 1).toNat]?).getD ""

/-- The first letters of the name of the month. -/
def shortMonth (parts : Parts) : String := ((parts.monthName).take 3).toString

/-- The hour of a clock with twelve hours. -/
def halfHour (parts : Parts) : Nat := if parts.hour % 12 = 0 then 12 else parts.hour % 12

/-- The time of day with seconds. -/
def clock (parts : Parts) : String :=
  twoDigits parts.hour ++ ":" ++ twoDigits parts.minute ++ ":" ++ twoDigits parts.second

/-- The year to which the week of a moment counts, and the number of the week. -/
def week (parts : Parts) : Int × Nat :=
  let fromMonday := (parts.weekday + 6) % 7
  let isLong (year : Int) : Bool := year % 4 == 0 && (year % 100 != 0 || year % 400 == 0)
  let n : Int := ((parts.dayOfYear : Int) - fromMonday + 10) / 7
  let weeks (year : Int) : Int :=
    let first := (dayNumber year.toNat 1 1 + 4) % 7
    if first == 4 || (first == 3 && isLong year) then 53 else 52
  if n < 1 then (parts.year - 1, (weeks (parts.year - 1)).toNat)
  else if weeks parts.year < n then (parts.year + 1, 1)
  else (parts.year, n.toNat)

/-- The text that a letter of a format stands for. `fill` changes what numbers are filled up
with, and how wide they are at least. -/
def text? (parts : Parts) (fill : Option (Option Char)) (width : Option Nat) (letter : Char) :
    Option String :=
  let number (c : Char) (places : Nat) (n : Int) : Option String :=
    some (filled (fill.getD (some c)) (max places (width.getD 0)) n)
  match letter with
  | 'Y' => number '0' 4 parts.year
  | 'C' => number '0' 2 (parts.year / 100)
  | 'y' => number '0' 2 (parts.year % 100)
  | 'm' => number '0' 2 parts.month
  | 'd' => number '0' 2 parts.day
  | 'e' => number ' ' 2 parts.day
  | 'H' => number '0' 2 parts.hour
  | 'k' => number ' ' 2 parts.hour
  | 'I' => number '0' 2 parts.halfHour
  | 'l' => number ' ' 2 parts.halfHour
  | 'M' => number '0' 2 parts.minute
  | 'S' => number '0' 2 parts.second
  | 'N' => some (((("000000000").take (width.getD 9))).toString)
  | 's' => number '0' 1 parts.seconds
  | 'j' => number '0' 3 (parts.dayOfYear + 1)
  | 'u' => number '0' 1 (if parts.weekday = 0 then 7 else parts.weekday)
  | 'w' => number '0' 1 parts.weekday
  | 'U' => number '0' 2 ((parts.dayOfYear + 7 - parts.weekday) / 7)
  | 'W' => number '0' 2 ((parts.dayOfYear + 7 - (parts.weekday + 6) % 7) / 7)
  | 'V' => number '0' 2 parts.week.2
  | 'G' => number '0' 4 parts.week.1
  | 'g' => number '0' 2 (parts.week.1 % 100)
  | 'q' => number '0' 1 ((parts.month + 2) / 3)
  | 'a' => some parts.shortDay
  | 'A' => some ((dayNames[parts.weekday]?).getD "")
  | 'b' | 'h' => some parts.shortMonth
  | 'B' => some parts.monthName
  | 'p' => some (if parts.hour < 12 then "AM" else "PM")
  | 'P' => some (if parts.hour < 12 then "am" else "pm")
  | 'n' => some "\n"
  | 't' => some "\t"
  | '%' => some "%"
  | 'z' => some "+0000"
  | 'Z' => some "UTC"
  | 'F' =>
    some (filled (some '0') 4 parts.year ++ "-" ++ twoDigits parts.month ++ "-" ++ twoDigits parts.day)
  | 'D' | 'x' =>
    some (twoDigits parts.month ++ "/" ++ twoDigits parts.day ++ "/" ++ twoDigits (parts.year % 100))
  | 'T' | 'X' => some parts.clock
  | 'R' => some (twoDigits parts.hour ++ ":" ++ twoDigits parts.minute)
  | 'r' =>
    some (twoDigits parts.halfHour ++ ":" ++ twoDigits parts.minute ++ ":" ++ twoDigits parts.second
      ++ (if parts.hour < 12 then " AM" else " PM"))
  | 'c' =>
    some (parts.shortDay ++ " " ++ parts.shortMonth ++ " " ++ filled (some ' ') 2 parts.day ++ " "
      ++ parts.clock ++ " " ++ filled (some '0') 4 parts.year)
  | _ => none

/-- What a format shows of a moment. The fuel bounds the length of the format. -/
def shown (parts : Parts) : Nat → List Char → List Char
  | 0, text => text
  | _, [] => []
  | fuel + 1, '%' :: ':' :: 'z' :: rest => "+00:00".toList ++ shown parts fuel rest
  | fuel + 1, '%' :: ':' :: ':' :: 'z' :: rest => "+00:00:00".toList ++ shown parts fuel rest
  | fuel + 1, '%' :: text =>
    let flags := text.takeWhile "_-0^#".toList.contains
    let rest := text.drop flags.length
    let digits := rest.takeWhile Char.isDigit
    let fill : Option (Option Char) := match flags.filter fun c => c != '^' && c != '#' with
      | '_' :: _ => some (some ' ')
      | '-' :: _ => some none
      | '0' :: _ => some (some '0')
      | _ => none
    match rest.drop digits.length with
    | [] => '%' :: text
    | letter :: later =>
      match parts.text? fill ((String.ofList digits).toNat?) letter with
      | some found =>
        let isUpper := flags.contains '^' || flags.contains '#'
        (if isUpper then found.toList.map Char.toUpper else found.toList) ++ shown parts fuel later
      | none => '%' :: text.take (text.length - later.length) ++ shown parts fuel later
  | fuel + 1, c :: rest => c :: shown parts fuel rest

end Parts
end Moment

/-- The formats of dates that options ask for. -/
def dateFormat (given : Given) : String :=
  if given.has "R" then "%a, %d %b %Y %H:%M:%S %z"
  else if given.has "I" then
    match (given.value? "I").getD "date" with
    | "hours" => "%Y-%m-%dT%H%:z"
    | "minutes" => "%Y-%m-%dT%H:%M%:z"
    | "seconds" => "%Y-%m-%dT%H:%M:%S%:z"
    | "ns" => "%Y-%m-%dT%H:%M:%S,%N%:z"
    | _ => "%Y-%m-%d"
  else if given.has "rfc-3339" then
    match (given.value? "rfc-3339").getD "date" with
    | "seconds" => "%Y-%m-%d %H:%M:%S%:z"
    | "ns" => "%Y-%m-%d %H:%M:%S.%N%:z"
    | _ => "%Y-%m-%d"
  else "%a %b %e %H:%M:%S %Z %Y"

/-- Prints a date. -/
def printDate : Job Nat :=
  withOptions [.flag 'u' "utc", .named "universal", .value 'd' "date", .value 'r' "reference",
      .flag 'R' "rfc-email", ⟨some 'I', some "iso-8601", .optional⟩, .named "rfc-3339" .required,
      .value 's' "set", .value 'f' "file"] fun given => do
    let now := (← Job.tree).clock
    let (formats, others) := given.operands.partition (·.startsWith "+")
    match formats, others with
    | _ :: extra :: _, _ => misuse ("extra operand " ++ quoted extra)
    | _, other :: _ =>
      Job.complainAs ("invalid date " ++ quoted other)
      return 1
    | formats, [] =>
      let moment : Except String Nat ← match given.value? "d", given.value? "r" with
        | some text, _ =>
          match Moment.ofText? now text with
          | some moment => pure (.ok moment)
          | none => pure (.error ("invalid date " ++ quoted text))
        | none, some path =>
          match (← Job.node path) with
          | .ok node => pure (.ok node.modified)
          | .error reason => pure (.error (quotedIfNeeded path ++ ": " ++ reason.description))
        | none, none => pure (.ok now)
      match moment with
      | .error text =>
        Job.complainAs text
        return 1
      | .ok moment =>
        let format := match formats with
          | format :: _ => (format.drop 1).toString
          | [] => dateFormat given
        let shown := (Moment.Parts.of moment).shown (format.length + 1) format.toList
        Job.print (String.ofList shown ++ "\n")
        return 0

end ProfileGraph.Utility
