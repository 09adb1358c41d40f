/-! Moments, in seconds since the beginning of 1970, as dates write them. -/
namespace ProfileGraph.Utility.Moment

/-- The number of days from the beginning of 1970 to a date. -/
def dayNumber (year month day : Nat) : Int :=
  let y : Int := if month ≤ 2 then (year : Int) - 1 else year
  let era := y / 400
  let yearOfEra := y - era * 400
  let shifted : Int := (month : Int) + (if 2 < month then -3 else 9)
  let dayOfYear := (153 * shifted + 2) / 5 + (day : Int) - 1
  let dayOfEra := yearOfEra * 365 + yearOfEra / 4 - yearOfEra / 100 + dayOfYear
  era * 146097 + dayOfEra - 719468

/-- The moment of a date and a time of day. -/
def ofParts? (year month day hour minute second : Nat) : Option Nat :=
  if month < 1 || 12 < month || day < 1 || 31 < day || 23 < hour || 59 < minute || 60 < second then
    none
  else
    some (dayNumber year month day * 86400 + hour * 3600 + minute * 60 + second).toNat

/-- The numbers in a text between characters of a kind. -/
def numbers? (separates : Char → Bool) (text : List Char) : Option (List Nat) :=
  (text.splitOnP separates).mapM fun part => (String.ofList part).toNat?

/-- The moment that digits denote: perhaps the year, then two digits each for
month, day, hour and minute, and perhaps seconds behind a period. -/
def ofDigits? (text : String) : Option Nat := do
  let (digits, rest) := text.toList.span (· != '.')
  let second ← match rest with
    | [] => some 0
    | _ :: seconds => (String.ofList seconds).toNat?
  let number (start count : Nat) : Option Nat :=
    (String.ofList ((digits.drop start).take count)).toNat?
  let start := digits.length - 8
  let year ← match start with
    | 0 => some 2025
    | 2 => (number 0 2).map fun n => if n < 69 then 2000 + n else 1900 + n
    | 4 => number 0 4
    | _ => none
  let month ← number start 2
  let day ← number (start + 2) 2
  let hour ← number (start + 4) 2
  let minute ← number (start + 6) 2
  if digits.length < 8 then none else ofParts? year month day hour minute second

/-- The year, the month and the day that lie a number of days behind the beginning of
1970. -/
def dateOf (days : Int) : Int × Int × Int :=
  let z := days + 719468
  let era := z / 146097
  let dayOfEra := z - era * 146097
  let yearOfEra :=
    (dayOfEra - dayOfEra / 1460 + dayOfEra / 36524 - dayOfEra / 146096) / 365
  let dayOfYear := dayOfEra - (365 * yearOfEra + yearOfEra / 4 - yearOfEra / 100)
  let shifted := (5 * dayOfYear + 2) / 153
  let day := dayOfYear - (153 * shifted + 2) / 5 + 1
  let month := if shifted < 10 then shifted + 3 else shifted - 9
  (yearOfEra + era * 400 + (if month ≤ 2 then 1 else 0), month, day)

/-- A number with at least two digits. -/
def twoDigits (n : Int) : String :=
  if n < 10 then "0" ++ toString n else toString n

/-- A moment as a date with a time of day. -/
def dateText (seconds : Nat) : String :=
  let (year, month, day) := dateOf (seconds / 86400 : Nat)
  let ofDay := seconds % 86400
  toString year ++ "-" ++ twoDigits month ++ "-" ++ twoDigits day ++ " "
    ++ twoDigits (ofDay / 3600 : Nat) ++ ":" ++ twoDigits (ofDay / 60 % 60 : Nat) ++ ":"
    ++ twoDigits (ofDay % 60 : Nat)

/-- The seconds of a unit of time. -/
def unitSeconds? (unit : String) : Option Nat :=
  let single := if unit.endsWith "s" then (unit.dropEnd 1).toString else unit
  match single with
  | "second" | "sec" => some 1
  | "minute" | "min" => some 60
  | "hour" => some 3600
  | "day" => some 86400
  | "week" => some 604800
  | "month" => some 2592000
  | "year" => some 31536000
  | _ => none

/-- The moment that a text denotes, given the present one. -/
def ofText? (now : Nat) (text : String) : Option Nat :=
  let words := ((text.toList.splitOnP fun c => c == ' ' || c == 'T').filter (!·.isEmpty))
  match words.map String.ofList with
  | [] | ["now"] | ["today"] => some now
  | ["yesterday"] => some (now - 86400)
  | ["tomorrow"] => some (now + 86400)
  | [count, unit, "ago"] => do
    some (now - (← count.toNat?) * (← unitSeconds? unit))
  | [unit, "ago"] => (unitSeconds? unit).map (now - ·)
  | [count, unit] =>
    match (if count.startsWith "-" then none else unitSeconds? unit) with
    | some seconds => (count.toNat?.map fun n => now + n * seconds)
    | none => dated [count.toList, unit.toList]
  | [word] =>
    match word.toList with
    | '@' :: digits => (String.ofList digits).toNat?
    | date => dated [date]
  | parts => dated (parts.map String.toList)
where
  /-- The moment of a date, perhaps with a time of day behind it. -/
  dated (words : List (List Char)) : Option Nat :=
    match words with
    | date :: later =>
      let time := match later with
        | time :: _ => numbers? (· == ':') (time.takeWhile fun c => c.isDigit || c == ':')
        | [] => some []
      match numbers? (fun c => c == '-' || c == '/') date, time with
      | some [year, month, day], some time =>
        ofParts? year month day (time[0]?.getD 0) (time[1]?.getD 0) (time[2]?.getD 0)
      | _, _ => none
    | [] => none

end ProfileGraph.Utility.Moment
