import ProfileGraph.Json.Basic

/-! The reader of JSON text. It accepts one value with blanks around it,
numerals without superfluous zeros in front, and strings in which quotes,
backslashes and control characters are escaped. -/
namespace ProfileGraph.Json

/-- The characters that may stand between the elements of a text. -/
def isSpace (c : Char) : Bool := c == ' ' || c == '\t' || c == '\n' || c == '\r'

/-- What follows behind white space. -/
def skipSpace (text : List Char) : List Char := text.dropWhile isSpace

/-- The value of a hexadecimal digit. -/
def hexValue? (c : Char) : Option Nat :=
  if '0' ≤ c ∧ c ≤ '9' then some (c.toNat - '0'.toNat)
  else if 'a' ≤ c ∧ c ≤ 'f' then some (c.toNat - 'a'.toNat + 10)
  else if 'A' ≤ c ∧ c ≤ 'F' then some (c.toNat - 'A'.toNat + 10)
  else none

/-- The value of four hexadecimal digits. -/
def hexUnit? (a b c d : Char) : Option Nat := do
  return (((← hexValue? a) * 16 + (← hexValue? b)) * 16 + (← hexValue? c)) * 16 + (← hexValue? d)

/-- The character of an escape of one letter. -/
def escapeLetter? : Char → Option Char
  | '"' => some '"'
  | '\\' => some '\\'
  | '/' => some '/'
  | 'b' => some '\x08'
  | 'f' => some '\x0c'
  | 'n' => some '\n'
  | 'r' => some '\r'
  | 't' => some '\t'
  | _ => none

/-- Adds a character in front of a string that has been read. -/
def consRead (c : Char) : Option (List Char × List Char) → Option (List Char × List Char) :=
  Option.map fun (text, rest) => (c :: text, rest)

/-- The character of a pair of surrogate units. -/
def surrogatePair? (high low : Nat) : Option Char :=
  if 0xDC00 ≤ low ∧ low < 0xE000 then
    some (Char.ofNat (0x10000 + (high - 0xD800) * 0x400 + (low - 0xDC00)))
  else none

/-- Reads a string up to its closing quote. Two units that form a pair of
surrogates make one character; single ones are refused. -/
def stringBody : List Char → Option (List Char × List Char)
  | [] => none
  | '"' :: rest => some ([], rest)
  | '\\' :: 'u' :: a :: b :: c :: d :: rest =>
    match hexUnit? a b c d with
    | none => none
    | some unit =>
      if unit < 0xD800 ∨ 0xE000 ≤ unit then consRead (Char.ofNat unit) (stringBody rest)
      else if 0xDC00 ≤ unit then none
      else match rest with
        | '\\' :: 'u' :: e :: f :: g :: h :: rest =>
          match (hexUnit? e f g h).bind (surrogatePair? unit) with
          | none => none
          | some c => consRead c (stringBody rest)
        | _ => none
  | '\\' :: letter :: rest =>
    match escapeLetter? letter with
    | some c => consRead c (stringBody rest)
    | none => none
  | c :: rest => if c.toNat < 0x20 ∨ c = '\\' then none else consRead c (stringBody rest)
termination_by structural text => text

/-- Reads a numeral behind its sign. -/
def numeral (negative : Bool) (text : List Char) : Option (Json × List Char) :=
  let (whole, rest) := Decimal.spanDigits text
  if whole.isEmpty ∨ (whole.head? = some '0' ∧ whole.length ≠ 1) then none
  else
    let (fraction, rest, pointed) := match rest with
      | '.' :: rest => let (fraction, rest) := Decimal.spanDigits rest; (fraction, rest, true)
      | rest => ([], rest, false)
    if pointed && fraction.isEmpty then none
    else
      let exponentText := match rest with
        | c :: sign :: more =>
          if (c == 'e' || c == 'E') && (sign == '+' || sign == '-') then
            c :: sign :: (Decimal.spanDigits more).1
          else if c == 'e' || c == 'E' then c :: (Decimal.spanDigits (sign :: more)).1
          else []
        | [c] => if c == 'e' || c == 'E' then [c] else []
        | [] => []
      let rest := rest.drop exponentText.length
      match Decimal.exponent? exponentText with
      | none => none
      | some exponent =>
        let digits := Decimal.natOfDigits (whole ++ fraction)
        if !pointed && exponentText.isEmpty && !(negative && digits == 0) then
          some (.integer (if negative then -(digits : Int) else digits), rest)
        else
          let x := Decimal.toBinary64 ⟨negative, digits, exponent - fraction.length⟩
          if x.isFinite then some (.real x, rest) else none

mutual

/-- Reads a value at the front of a text. The fuel bounds the number of
values, items and fields read; each of them takes a character. -/
def value (fuel : Nat) (text : List Char) : Option (Json × List Char) :=
  match fuel with
  | 0 => none
  | fuel + 1 =>
    match skipSpace text with
    | 'n' :: 'u' :: 'l' :: 'l' :: rest => some (.null, rest)
    | 't' :: 'r' :: 'u' :: 'e' :: rest => some (.bool true, rest)
    | 'f' :: 'a' :: 'l' :: 's' :: 'e' :: rest => some (.bool false, rest)
    | '"' :: rest => (stringBody rest).map fun (text, rest) => (.string (String.ofList text), rest)
    | '[' :: rest =>
      match skipSpace rest with
      | ']' :: rest => some (.array [], rest)
      | rest => (items fuel rest).map fun (items, rest) => (.array items, rest)
    | '\x7b' :: rest =>
      match skipSpace rest with
      | '\x7d' :: rest => some (.object [], rest)
      | rest => (members fuel rest).map fun (fields, rest) => (.object fields, rest)
    | '-' :: rest => numeral true rest
    | rest => numeral false rest

/-- Reads items up to the closing bracket. -/
def items (fuel : Nat) (text : List Char) : Option (List Json × List Char) :=
  match fuel with
  | 0 => none
  | fuel + 1 =>
    match value fuel text with
    | none => none
    | some (item, rest) =>
      match skipSpace rest with
      | ']' :: rest => some ([item], rest)
      | ',' :: rest => (items fuel rest).map fun (later, rest) => (item :: later, rest)
      | _ => none

/-- Reads fields up to the closing brace. -/
def members (fuel : Nat) (text : List Char) : Option (List (String × Json) × List Char) :=
  match fuel with
  | 0 => none
  | fuel + 1 =>
    match skipSpace text with
    | '"' :: rest =>
      match stringBody rest with
      | none => none
      | some (name, rest) =>
        match skipSpace rest with
        | ':' :: rest =>
          match value fuel rest with
          | none => none
          | some (item, rest) =>
            let field := (String.ofList name, item)
            match skipSpace rest with
            | '\x7d' :: rest => some ([field], rest)
            | ',' :: rest => (members fuel rest).map fun (later, rest) => (field :: later, rest)
            | _ => none
        | _ => none
    | _ => none

end

/-- Reads a whole text as one value. -/
def parse? (text : String) : Option Json :=
  match value (2 * text.length + 2) text.toList with
  | some (result, rest) => if (skipSpace rest).isEmpty then some result else none
  | none => none

end ProfileGraph.Json
