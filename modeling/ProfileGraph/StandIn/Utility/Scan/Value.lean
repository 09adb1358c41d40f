import ProfileGraph.StandIn.Shell.Printing

/-! The values of a scanning program. A value is a number, a text, or a text from the
input, which counts as a number where it looks like one; a variable that was never set
counts as zero and as an empty text. -/
namespace ProfileGraph.Utility.Scan

/-- A value. -/
inductive Value where
  /-- The value of what was never set. -/
  | absent
  | number (x : Binary64)
  | text (text : String)
  /-- A text that was read from the input. -/
  | input (text : String)
deriving DecidableEq

namespace Value

instance : Inhabited Value := ⟨.absent⟩

/-- The number of a truth value. -/
def ofBool (holds : Bool) : Value := .number (.ofNat (if holds then 1 else 0))

/-- A natural number as a value. -/
def ofNat (n : Nat) : Value := .number (.ofNat n)

/-- An integer as a value. -/
def ofInt (n : Int) : Value := .number (.ofInt n)

end Value

/-- The digit that a character is in numbers with the base sixteen. -/
def hexDigit? (c : Char) : Option Nat :=
  if c.isDigit then some (c.toNat - '0'.toNat)
  else if 'a' ≤ c.toLower && c.toLower ≤ 'f' then some (c.toLower.toNat - 'a'.toNat + 10)
  else none

/-- The number with the base sixteen at the front of a text, behind its mark, and what
stands behind it. -/
def hexNumber (negative : Bool) (text : List Char) : Binary64 × List Char :=
  let isDigit (c : Char) : Bool := (hexDigit? c).isSome
  let valueOf (digits : List Char) : Nat :=
    digits.foldl (fun n c => 16 * n + (hexDigit? c).getD 0) 0
  let (whole, rest) := text.span isDigit
  let (fraction, rest) := match rest with
    | '.' :: rest => rest.span isDigit
    | rest => ([], rest)
  let mantissa := valueOf (whole ++ fraction)
  let (power, rest) : Int × List Char := match rest with
    | p :: more =>
      let (isNegative, digits) := Decimal.splitSign more
      let (digits, behind) := Decimal.spanDigits digits
      if (p == 'p' || p == 'P') && !digits.isEmpty then
        let n : Int := Decimal.natOfDigits digits
        (if isNegative then -n else n, behind)
      else (0, rest)
    | [] => (0, [])
  let power := power - 4 * fraction.length
  let value :=
    if mantissa = 0 then Binary64.signedZero negative
    else if 4096 < power then .infinity negative
    else if power < -8192 then Binary64.signedZero negative
    else if 0 ≤ power then Binary64.ofRatio negative (mantissa * Nat.pow 2 power.toNat) 1
    else Binary64.ofRatio negative mantissa (Nat.pow 2 (-power).toNat)
  (value, rest)

/-- The number at the front of a text and what stands behind it, unless there is none.
Blanks may stand in front of it. -/
def leadingNumber? (text : List Char) : Option (Binary64 × List Char) :=
  let (negative, body) := Decimal.splitSign (Shell.dropSpaces text)
  let startsWith (word : String) : Bool :=
    (body.take word.length).map Char.toLower == word.toList
  if startsWith "infinity" then some (.infinity negative, body.drop 8)
  else if startsWith "inf" then some (.infinity negative, body.drop 3)
  else if startsWith "nan" then some (.nan, body.drop 3)
  else if startsWith "0x" && (body.drop 2).head?.any fun c => (hexDigit? c).isSome then
    some (hexNumber negative (body.drop 2))
  else
    let (numeral, rest) := Shell.splitNumeral body
    (Decimal.unsigned? negative numeral).map fun decimal => (decimal.toBinary64, rest)

/-- The number that a text counts as. -/
def textNumber (text : String) : Binary64 :=
  match leadingNumber? text.toList with
  | some (x, _) => x
  | none => .ofNat 0

/-- Whether a character stands between words. -/
def isGap (c : Char) : Bool := c == ' ' || c == '\t' || c == '\n'

/-- The number that a text looks like as a whole, blanks at its ends aside. It ends in a
digit or in a point. -/
def wholeNumber? (text : String) : Option Binary64 :=
  let start := text.toList.dropWhile isGap
  let isStart (c : Char) : Bool := c.isDigit || c == '+' || c == '-' || c == '.'
  let isLast (c : Char) : Bool := c.isDigit || c == '.'
  if start.head?.any isStart && (start.reverse.dropWhile isGap).head?.any isLast then
    match leadingNumber? start with
    | some (x, rest) => if rest.all isGap then some x else none
    | none => none
  else none

/-- The whole number that a finite number is. -/
def wholeValue? : Binary64 → Option Int
  | .finite negative units _ =>
    if units % unitsPerOne = 0 then some (Binary64.signedUnits negative (units / unitsPerOne))
    else none
  | _ => none

/-- The whole part of a finite number. -/
def wholePart? : Binary64 → Option Int
  | .finite negative units _ => some (Binary64.signedUnits negative (units / unitsPerOne))
  | _ => none

/-- The bound of the whole numbers that are written with all their digits. -/
def wholeBound : Int := Nat.pow 2 63

/-- The whole number that is written with all its digits. -/
def plainWhole? (x : Binary64) : Option Int :=
  (wholeValue? x).filter fun n => -wholeBound ≤ n && n < wholeBound

namespace Value

/-- The number that a value counts as. -/
def toNumber : Value → Binary64
  | .absent => .ofNat 0
  | .number x => x
  | .text found | .input found => textNumber found

/-- The number that a value is: of texts only those from the input that look like
one. -/
def number? : Value → Option Binary64
  | .absent => some (.ofNat 0)
  | .number x => some x
  | .text _ => none
  | .input found => wholeNumber? found

/-- Whether a value counts as true. -/
def holds : Value → Bool
  | .absent => false
  | .number x => !Binary64.eq x (.ofNat 0)
  | .text found => !found.isEmpty
  | .input found =>
    match wholeNumber? found with
    | some x => !Binary64.eq x (.ofNat 0)
    | none => !found.isEmpty

end Value

/-- The sign between two values that are compared. -/
inductive Order where
  | less
  | lessOrEqual
  | equal
  | different
  | greater
  | greaterOrEqual
deriving DecidableEq, Repr

/-- Whether two values are in an order, given their texts. They are compared as texts
unless both of them are numbers. -/
def Order.holds (order : Order) (first second : Value) (firstText secondText : String) : Bool :=
  match first.number?, second.number? with
  | some a, some b =>
    match order with
    | .less => Binary64.lt a b
    | .lessOrEqual => Binary64.le a b
    | .equal => Binary64.eq a b
    | .different => !Binary64.eq a b
    | .greater => Binary64.lt b a
    | .greaterOrEqual => Binary64.le b a
  | _, _ =>
    match order with
    | .less => firstText < secondText
    | .lessOrEqual => firstText ≤ secondText
    | .equal => firstText == secondText
    | .different => firstText != secondText
    | .greater => secondText < firstText
    | .greaterOrEqual => secondText ≤ firstText

end ProfileGraph.Utility.Scan

/-! Tables that give values to keys. The keys of a table are listed by the buckets into
which a hash puts their names, and within a bucket the one that was used last comes
first. Keys that were only used as numbers get their names when one is looked up by its
name, or when the keys are listed. -/
namespace ProfileGraph.Utility.Scan

/-- A key of a table. -/
inductive Key where
  | number (n : Int)
  | name (name : String)
deriving DecidableEq, Repr

/-- The name of a key. -/
def Key.toName : Key → String
  | .number n => toString n
  | .name text => text

/-- The hash of a name: its bytes are put in one after the other. -/
def nameHash (name : String) : Nat :=
  name.toList.foldl (fun hash c => ((hash ^^^ c.toNat) * 16777619) % Nat.pow 2 32) 2166136261

/-- A table. -/
structure Table where
  /-- The values by the names of their keys. -/
  values : List (String × Value) := []
  /-- The keys with names, the one that was used last in front. -/
  names : List String := []
  /-- The keys that were used as numbers, the one that was used last in front. -/
  numbers : List Int := []
  /-- Keys are found by their names. -/
  hasNames : Bool := false
  /-- The keys are the numbers from one on. -/
  isRow : Bool := false
  buckets : Nat := 64

namespace Table

/-- How many keys a bucket holds before there are more buckets. -/
def bucketLimit : Nat := 12

/-- The number of buckets for a number of keys. The fuel bounds how often it is
doubled. -/
def bucketsFor (count : Nat) : Nat → Nat → Nat
  | 0, buckets => buckets
  | fuel + 1, buckets =>
    if buckets * bucketLimit < count then bucketsFor count fuel (2 * buckets) else buckets

/-- The table with as many buckets as it needs. -/
def enlarge (table : Table) : Table :=
  { table with buckets := bucketsFor table.values.length 32 table.buckets }

/-- The table whose keys are the numbers from one on. -/
def ofRow (values : List Value) : Table :=
  { values := values.zipIdx.map fun (value, index) => (toString (index + 1), value)
    isRow := !values.isEmpty }

/-- Moves a key to the front. -/
def toFront {α : Type} [BEq α] (key : α) (keys : List α) : List α :=
  if keys.head? == some key then keys else key :: keys.erase key

/-- The table whose keys are found one by one, even if they were the numbers from one
on. -/
def withNumbers (table : Table) : Table :=
  if table.isRow then
    { table with
      isRow := false
      numbers := ((List.range table.values.length).map fun (n : Nat) => (n : Int) + 1).reverse }.enlarge
  else table

/-- Gives names to the keys that have none, bucket by bucket. -/
def withNames (table : Table) : Table :=
  let table := table.withNumbers
  if table.hasNames then table
  else
    let ordered := table.numbers.mergeSort fun a b =>
      a % (table.buckets : Int) ≤ b % (table.buckets : Int)
    { table with
      names := ordered.foldl (fun names n => toString n :: names) table.names
      hasNames := !table.values.isEmpty }

/-- Whether a key of a row is there, or would lengthen it. -/
def rowIndex? (table : Table) (key : Key) : Option Nat :=
  match key with
  | .number n => if table.isRow && 0 < n then some n.toNat else none
  | .name _ => none

/-- Looks up a key: its value, and the table after that. If the key is missing and
`creates` is set, it is put into the table. -/
def find (table : Table) (key : Key) (creates : Bool) : Option Value × Table :=
  let count := table.values.length
  match table.rowIndex? key with
  | some n =>
    if n ≤ count then (table.values.lookup (toString n), table)
    else if creates && n = count + 1 then
      (some .absent, { table with values := table.values ++ [(toString n, .absent)] })
    else findApart table.withNumbers key
  | none => findApart table key
where
  /-- Puts a new key into the table. -/
  insert (table : Table) (name : String) : Table :=
    { table with values := (name, .absent) :: table.values }.enlarge
  /-- Looks up a name. -/
  findName (table : Table) (name : String) : Option Value × Table :=
    let table := table.withNames
    match table.values.lookup name with
    | some value => (some value, { table with names := toFront name table.names })
    | none =>
      if creates then
        (some .absent, { insert table name with names := name :: table.names, hasNames := true })
      else (none, table)
  /-- Looks up a key in a table that is no row. -/
  findApart (table : Table) (key : Key) : Option Value × Table :=
    if table.values.isEmpty && !creates then (none, table)
    else match key with
      | .name name => findName table name
      | .number n =>
        if table.numbers.contains n then
          (table.values.lookup (toString n),
            { table with numbers := toFront n table.numbers })
        else if table.hasNames then
          let (found, table) := findName table (toString n)
          (found, if found.isSome then { table with numbers := n :: table.numbers } else table)
        else if creates then
          (some .absent, { insert table (toString n) with numbers := n :: table.numbers })
        else (none, table)

/-- Whether a key is in a table. -/
def has (table : Table) (key : Key) : Bool := (table.values.lookup key.toName).isSome

/-- The value of a key that is there or is put in. -/
def get (table : Table) (key : Key) : Value × Table :=
  let (found, table) := table.find key true
  (found.getD .absent, table)

/-- Gives a value to a name that is there. -/
def replace (name : String) (value : Value) : List (String × Value) → List (String × Value)
  | [] => []
  | (other, old) :: later =>
    if other == name then (name, value) :: later else (other, old) :: replace name value later

/-- Gives a value to a key. -/
def set (table : Table) (key : Key) (value : Value) : Table :=
  let (_, table) := table.find key true
  { table with values := replace key.toName value table.values }

/-- Takes a key out of a table. -/
def erase (table : Table) (key : Key) : Table :=
  let isLast := table.rowIndex? key == some table.values.length
  let (found, table) := if isLast then (some .absent, table) else table.find key false
  match found with
  | none => table
  | some _ =>
    let table := if isLast then table else table.withNumbers
    let name := key.toName
    let values := table.values.filter (·.1 != name)
    if values.isEmpty then {}
    else
      { table with
        values
        names := table.names.erase name
        numbers := match name.toInt? with
          | some n => table.numbers.erase n
          | none => table.numbers }

/-- The names of the keys in the order in which they are listed, and the table after
that. -/
def list (table : Table) : List String × Table :=
  let table := table.withNames
  (table.names.mergeSort fun a b => nameHash a % table.buckets ≤ nameHash b % table.buckets, table)

end Table
end ProfileGraph.Utility.Scan
