import ProfileGraph.Numeric.Decimal

/-! JSON values and the reading of their parts. A record of named fields may
be written as an object or as an array of the field values in order; fields
without a name in the record are passed over. -/
namespace ProfileGraph

/-- A JSON value. Numerals without a fraction and an exponent are integers. -/
inductive Json where
  | null
  | bool (value : Bool)
  | integer (value : Int)
  | real (value : Binary64)
  | string (value : String)
  | array (items : List Json)
  | object (fields : List (String × Json))

namespace Json

/-- A count as a value. -/
def count (n : Nat) : Json := .integer n

/-- A text or nothing. -/
def optionalText : Option String → Json
  | some text => .string text
  | none => .null

/-- An array of texts. -/
def texts (items : List String) : Json := .array (items.map .string)

/-- The value of a named field, if there is one. The result is missing if the
name stands in front of several values. -/
def field? (name : String) (fields : List (String × Json)) : Option (Option Json) :=
  match fields.filter (·.1 == name) with
  | [] => some none
  | [(_, value)] => some (some value)
  | _ => none

/-- The values of the named fields of a record, each if it is present. An
object must not have one of them twice. -/
def recordFields? (names : List String) : Json → Option (List (Option Json))
  | .object fields => names.mapM (field? · fields)
  | .array items =>
    if items.length ≤ names.length then
      some (items.map some ++ List.replicate (names.length - items.length) none)
    else none
  | _ => none

/-- The truth value that a value is. -/
def bool? : Json → Option Bool
  | .bool value => some value
  | _ => none

/-- The text that a value is. -/
def string? : Json → Option String
  | .string value => some value
  | _ => none

/-- The items of a value that is an array. -/
def array? : Json → Option (List Json)
  | .array items => some items
  | _ => none

/-- A number as the nearest double. -/
def real? : Json → Option Binary64
  | .integer n => some (.ofInt n)
  | .real x => some x
  | _ => none

/-- An integer that is a count. -/
def count? : Json → Option Nat
  | .integer (.ofNat n) => if n < countBound then some n else none
  | _ => none

/-- A text that may be null. -/
def nullableString? : Json → Option (Option String)
  | .null => some none
  | .string value => some (some value)
  | _ => none

/-- A text that may be null or missing. -/
def optionalString? : Option Json → Option (Option String)
  | none => some none
  | some value => nullableString? value

/-- Counts in an array. -/
def counts? (value : Json) : Option (List Nat) := do
  (← value.array?).mapM count?

end Json
end ProfileGraph

/-! The written form of JSON values: two blanks of indentation per level, one
item or field per line, and nothing between the brackets of an empty array or
object. A number that JSON has no numeral for is written as null. -/
namespace ProfileGraph.Json

/-- The digit of a number below sixteen. -/
def hexDigit (n : Nat) : Char := Nat.digitChar n

/-- A character inside quotes. Quotes, backslashes and control characters are
escaped, the common control characters by a letter. -/
def escaped (c : Char) : List Char :=
  if c = '"' then ['\\', '"']
  else if c = '\\' then ['\\', '\\']
  else if c = '\x08' then ['\\', 'b']
  else if c = '\x0c' then ['\\', 'f']
  else if c = '\n' then ['\\', 'n']
  else if c = '\r' then ['\\', 'r']
  else if c = '\t' then ['\\', 't']
  else if c.toNat < 0x20 then
    ['\\', 'u', '0', '0', hexDigit (c.toNat / 16), hexDigit (c.toNat % 16)]
  else [c]

/-- A text in quotes. -/
def quoted (text : List Char) : List Char := '"' :: text.flatMap escaped ++ ['"']

/-- A new line with the indentation of a level. -/
def newline (level : Nat) : List Char := '\n' :: List.replicate (2 * level) ' '

/-- An integer in decimal digits. -/
def integerText (n : Int) : List Char :=
  if n < 0 then '-' :: Nat.toDigits 10 n.natAbs else Nat.toDigits 10 n.natAbs

mutual

/-- A value whose first line stands at the given level. -/
def lines (level : Nat) : Json → List Char
  | .null => "null".toList
  | .bool value => (if value then "true" else "false").toList
  | .integer n => integerText n
  | .real x => x.dataText.getD "null".toList
  | .string value => quoted value.toList
  | .array [] => ['[', ']']
  | .array (item :: items) =>
    '[' :: newline (level + 1) ++ lines (level + 1) item ++ itemLines (level + 1) items
      ++ newline level ++ [']']
  | .object [] => ['\x7b', '\x7d']
  | .object ((name, value) :: fields) =>
    '\x7b' :: newline (level + 1) ++ quoted name.toList ++ ':' :: ' ' :: lines (level + 1) value
      ++ fieldLines (level + 1) fields ++ newline level ++ ['\x7d']

/-- The items after the first one. -/
def itemLines (level : Nat) : List Json → List Char
  | [] => []
  | item :: items => ',' :: newline level ++ lines level item ++ itemLines level items

/-- The fields after the first one. -/
def fieldLines (level : Nat) : List (String × Json) → List Char
  | [] => []
  | (name, value) :: fields =>
    ',' :: newline level ++ quoted name.toList ++ ':' :: ' ' :: lines level value
      ++ fieldLines level fields

end

/-- The written form of a value. -/
def pretty (value : Json) : String := String.ofList (lines 0 value)

end ProfileGraph.Json
