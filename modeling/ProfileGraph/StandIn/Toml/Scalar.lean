import ProfileGraph.Json.Reader
import ProfileGraph.Config.Toml

/-! TOML values without parts: numbers, truth values, dates and times, and the
four forms of strings. Numbers and times are read from a text that is already
separated from what stands around it, strings from the text behind their
opening quotes. -/
namespace ProfileGraph.Toml

/-- Digits in groups with single underscores between them, without the
underscores. -/
def groupedDigits? (isDigit : Char → Bool) (text : List Char) : Option (List Char) :=
  let groups := text.splitOnP (· == '_')
  if groups.all fun group => !group.isEmpty && group.all isDigit then some groups.flatten
  else none

/-- The digits of a decimal number without superfluous zeros in front. -/
def wholeDigits? (text : List Char) : Option (List Char) :=
  match groupedDigits? Char.isDigit text with
  | some ('0' :: _ :: _) => none
  | digits => digits

/-- An integer if it lies in the range of 64 bits with a sign. -/
def inRange? (n : Int) : Option Toml :=
  if -9223372036854775808 ≤ n ∧ n < 9223372036854775808 then some (.integer n) else none

/-- The integer that digits of a base denote. -/
def basedInteger? (base : Nat) (text : List Char) : Option Toml := do
  let isDigit (c : Char) : Bool := (Json.hexValue? c).any (· < base)
  let digits ← groupedDigits? isDigit text
  inRange? (digits.foldl (fun n c => base * n + (Json.hexValue? c).getD 0) 0 : Nat)

/-- The integer that a text is. -/
def integer? (text : List Char) : Option Toml :=
  match text with
  | '0' :: 'x' :: digits => basedInteger? 16 digits
  | '0' :: 'o' :: digits => basedInteger? 8 digits
  | '0' :: 'b' :: digits => basedInteger? 2 digits
  | text => do
    let (negative, body) := Decimal.splitSign text
    let n := Decimal.natOfDigits (← wholeDigits? body)
    inRange? (if negative then -(n : Int) else n)

/-- The exponent behind the letter `e`. -/
def exponent? (text : List Char) : Option Int := do
  let (negative, body) := Decimal.splitSign text
  let n := Decimal.natOfDigits (← groupedDigits? Char.isDigit body)
  return if negative then -(n : Int) else n

/-- A number with a fraction, an exponent or both. A positive one must not
exceed the largest double. -/
def real? (text : List Char) : Option Toml := do
  let (negative, body) := Decimal.splitSign text
  if body = "inf".toList then return .real (.infinity negative)
  if body = "nan".toList then return .real .nan
  let (mantissa, power) := body.span fun c => c != 'e' && c != 'E'
  let (whole, point) := mantissa.span (· != '.')
  let exponent ← match power with
    | [] => some 0
    | _ :: rest => exponent? rest
  let fraction ← match point with
    | [] => if power.isEmpty then none else some []
    | _ :: rest => groupedDigits? Char.isDigit rest
  let digits := Decimal.natOfDigits ((← wholeDigits? whole) ++ fraction)
  let value := Decimal.toBinary64 ⟨negative, digits, exponent - fraction.length⟩
  if value = .infinity false then none else return .real value

/-- The number that two digits denote, if it lies in a range. -/
def twoDigits? (low high : Nat) (a b : Char) : Option Nat :=
  let n := Decimal.natOfDigits [a, b]
  if a.isDigit && b.isDigit && low ≤ n && n ≤ high then some n else none

/-- Whether a year has a day more. -/
def isLeapYear (year : Nat) : Bool :=
  year % 4 == 0 && (year % 100 != 0 || year % 400 == 0)

/-- The number of days in a month. -/
def daysInMonth (year month : Nat) : Nat :=
  if month = 2 then (if isLeapYear year then 29 else 28)
  else if month ∈ [4, 6, 9, 11] then 30
  else 31

/-- Reads a date at the front of a text; the result is the rest. -/
def date? : List Char → Option (List Char)
  | a :: b :: c :: d :: '-' :: e :: f :: '-' :: g :: h :: rest => do
    let century ← twoDigits? 0 99 a b
    let year := 100 * century + (← twoDigits? 0 99 c d)
    let month ← twoDigits? 1 12 e f
    let _ ← twoDigits? 1 (daysInMonth year month) g h
    return rest
  | _ => none

/-- Reads a time of day at the front of a text; the result is the rest. The
last minute of a day may have a leap second. -/
def time? : List Char → Option (List Char)
  | a :: b :: ':' :: c :: d :: ':' :: e :: f :: rest => do
    let _ ← twoDigits? 0 23 a b
    let _ ← twoDigits? 0 59 c d
    let _ ← twoDigits? 0 60 e f
    match rest with
    | '.' :: rest =>
      let (digits, rest) := Decimal.spanDigits rest
      if digits.isEmpty then none else return rest
    | rest => return rest
  | _ => none

/-- Whether a text is a difference from universal time. -/
def isOffset : List Char → Bool
  | ['Z'] | ['z'] => true
  | [sign, a, b, ':', c, d] =>
    (sign == '+' || sign == '-') && (twoDigits? 0 23 a b).isSome && (twoDigits? 0 59 c d).isSome
  | _ => false

/-- Whether a text is a time of day with or without an offset. -/
def isOffsetTime (text : List Char) : Bool :=
  (time? text).any fun rest => rest.isEmpty || isOffset rest

/-- Whether a text is a date, a time or both. -/
def isMoment (text : List Char) : Bool :=
  time? text == some [] || match date? text with
    | some [] => true
    | some (separator :: rest) =>
      (separator == 'T' || separator == 't' || separator == ' ') && isOffsetTime rest
    | none => false

/-- The value of a text without quotes, brackets and braces. -/
def bare? (text : List Char) : Option Toml :=
  if text = "true".toList then some (.bool true)
  else if text = "false".toList then some (.bool false)
  else if isMoment text then some (.moment (String.ofList text))
  else (integer? text).or (real? text)

/-- The characters that may stand in a comment and, quotes and backslashes
apart, in a string of one line. -/
def isPrintable (c : Char) : Bool := c == '\t' || (0x20 ≤ c.toNat && c != '\x7f')

/-- The character of an escape of one letter. -/
def escapeLetter? : Char → Option Char
  | 'b' => some '\x08'
  | 't' => some '\t'
  | 'n' => some '\n'
  | 'f' => some '\x0c'
  | 'r' => some '\r'
  | '"' => some '"'
  | '\\' => some '\\'
  | _ => none

/-- The character whose number is written in hexadecimal digits. -/
def scalar? (digits : List Char) : Option Char := do
  let n ← digits.foldlM (fun n c => (Json.hexValue? c).map (16 * n + ·)) 0
  if n.isValidChar then some (Char.ofNat n) else none

/-- Reads the character of an escape behind its backslash. -/
def escape? : List Char → Option (Char × List Char)
  | 'u' :: rest => (scalar? (rest.take 4)).bind fun c =>
    if 4 ≤ rest.length then some (c, rest.drop 4) else none
  | 'U' :: rest => (scalar? (rest.take 8)).bind fun c =>
    if 8 ≤ rest.length then some (c, rest.drop 8) else none
  | letter :: rest => (escapeLetter? letter).map fun c => (c, rest)
  | [] => none

/-- Drops blanks and line ends. A carriage return is dropped only as part of a line
end. -/
def skipLines : List Char → List Char
  | '\r' :: '\n' :: rest => skipLines rest
  | c :: rest => if c == ' ' || c == '\t' || c == '\n' then skipLines rest else c :: rest
  | [] => []

/-- Whether only blanks stand before the end of the line. -/
def endsLine (text : List Char) : Bool :=
  match text.dropWhile fun c => c == ' ' || c == '\t' with
  | '\n' :: _ | '\r' :: '\n' :: _ => true
  | _ => false

/-- Reads a string of one line up to its closing quote. Escapes count only
between double quotes. The fuel bounds the number of characters. -/
def lineString (quote : Char) : Nat → List Char → Option (List Char × List Char)
  | 0, _ => none
  | _, [] => none
  | fuel + 1, c :: rest =>
    if c = quote then some ([], rest)
    else if c = '\\' ∧ quote = '"' then
      (escape? rest).bind fun (c, rest) => Json.consRead c (lineString quote fuel rest)
    else if isPrintable c then Json.consRead c (lineString quote fuel rest)
    else none

/-- Reads a string of several lines up to its three closing quotes, which may
have one or two further quotes of the string in front. A line end counts as a
line feed, and a backslash at the end of a line drops all blanks and line ends
up to the next character. The fuel bounds the number of characters. -/
def blockString (quote : Char) : Nat → List Char → Option (List Char × List Char)
  | 0, _ => none
  | _, [] => none
  | fuel + 1, c :: rest =>
    if c = quote then
      match (c :: rest).takeWhile (· == quote) with
      | [_, _, _] => some ([], (c :: rest).drop 3)
      | [_, _, _, _] => some ([quote], (c :: rest).drop 4)
      | _ :: _ :: _ :: _ :: _ :: _ => some ([quote, quote], (c :: rest).drop 5)
      | _ => Json.consRead c (blockString quote fuel rest)
    else if c = '\\' ∧ quote = '"' then
      if endsLine rest then blockString quote fuel (skipLines rest)
      else (escape? rest).bind fun (c, rest) => Json.consRead c (blockString quote fuel rest)
    else if c = '\n' then Json.consRead '\n' (blockString quote fuel rest)
    else if c = '\r' then
      match rest with
      | '\n' :: rest => Json.consRead '\n' (blockString quote fuel rest)
      | _ => none
    else if isPrintable c then Json.consRead c (blockString quote fuel rest)
    else none

/-- Reads a string behind its first quote. A line end right behind three
opening quotes is not part of the string. -/
def quotedString (quote : Char) (text : List Char) : Option (List Char × List Char) :=
  let fuel := text.length + 1
  match text with
  | a :: b :: rest =>
    if a = quote ∧ b = quote then
      match rest with
      | '\n' :: rest | '\r' :: '\n' :: rest => blockString quote fuel rest
      | rest => blockString quote fuel rest
    else lineString quote fuel text
  | text => lineString quote fuel text

end ProfileGraph.Toml
