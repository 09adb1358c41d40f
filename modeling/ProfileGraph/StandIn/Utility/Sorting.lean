import ProfileGraph.StandIn.Utility.Counting

/-! The utility that sorts lines: by their bytes, or by keys that are parts of
them. -/
namespace ProfileGraph.Utility
open Host

/-- How keys are compared. -/
structure KeyOrder where
  numeric : Bool := false
  humanNumeric : Bool := false
  ignoresCase : Bool := false
  dictionary : Bool := false
  ignoresBlanks : Bool := false
  printable : Bool := false
  versions : Bool := false
  reversed : Bool := false
deriving DecidableEq, Repr

/-- The part of a line that is a key: from a field and a character in it to
another one. -/
structure SortKey where
  startField : Nat
  startChar : Nat := 1
  endField : Option Nat := none
  endChar : Nat := 0
  startSkipsBlanks : Bool := false
  endSkipsBlanks : Bool := false
  order : KeyOrder := {}
deriving Repr

/-- How lines are sorted. -/
structure SortOptions where
  keys : List SortKey := []
  order : KeyOrder := {}
  separator : Option Char := none
  unique : Bool := false
  stable : Bool := false

namespace KeyOrder

/-- A number at the front of a text: its sign, the digits in front of a point
and those behind it, without needless zeros. -/
def leadingNumber (text : List Char) : Bool × List Char × List Char :=
  let text := text.dropWhile fun c => c == ' ' || c == '\t'
  let (negative, text) := match text with
    | '-' :: rest => (true, rest)
    | text => (false, text)
  let whole := text.takeWhile Char.isDigit
  let fraction := match text.drop whole.length with
    | '.' :: rest => rest.takeWhile Char.isDigit
    | _ => []
  let whole := whole.dropWhile (· == '0')
  let fraction := (fraction.reverse.dropWhile (· == '0')).reverse
  (negative && !(whole.isEmpty && fraction.isEmpty), whole, fraction)

/-- The order of two magnitudes. -/
def compareMagnitudes (a b : List Char × List Char) : Ordering :=
  ((compare a.1.length b.1.length).then
    (compare (String.ofList a.1) (String.ofList b.1))).then
      (compare (String.ofList a.2) (String.ofList b.2))

/-- The order of the numbers at the front of two texts. -/
def compareNumbers (a b : List Char) : Ordering :=
  let (negativeA, a) := leadingNumber a
  let (negativeB, b) := leadingNumber b
  match negativeA, negativeB with
  | false, false => compareMagnitudes a b
  | true, true => compareMagnitudes b a
  | true, false => .lt
  | false, true => .gt

/-- The rank of the unit behind the number at the front of a text. -/
def unitRank (text : List Char) : Nat :=
  let rest := (text.dropWhile fun c => c == ' ' || c == '-').dropWhile fun c => c.isDigit || c == '.'
  match rest.head? with
  | some 'K' | some 'k' => 1
  | some 'M' => 2
  | some 'G' => 3
  | some 'T' => 4
  | some 'P' => 5
  | _ => 0

/-- The order of two texts in which numbers count as such. The fuel bounds their
lengths. -/
def compareVersions : Nat → List Char → List Char → Ordering
  | 0, _, _ => .eq
  | _, [], [] => .eq
  | _, [], _ :: _ => .lt
  | _, _ :: _, [] => .gt
  | fuel + 1, a :: restA, b :: restB =>
    if a.isDigit && b.isDigit then
      let digitsA := (a :: restA).takeWhile Char.isDigit
      let digitsB := (b :: restB).takeWhile Char.isDigit
      let plain (digits : List Char) := digits.dropWhile (· == '0')
      (compareMagnitudes (plain digitsA, []) (plain digitsB, [])).then
        (compareVersions fuel ((a :: restA).drop digitsA.length)
          ((b :: restB).drop digitsB.length))
    else if a == b then compareVersions fuel restA restB
    else
      let rank (c : Char) : Nat :=
        if c == '~' then 0 else if c.isDigit then 1 else if c.isAlpha then 256 + c.toNat
        else 1024 + c.toNat
      compare (rank a) (rank b)

/-- The text of a key without what the order ignores. -/
def reduce (order : KeyOrder) (text : List Char) : List Char :=
  let text := if order.dictionary then text.filter fun c => c.isAlphanum || c == ' ' || c == '\t'
    else text
  let text := if order.printable then text.filter fun c => ' ' ≤ c && c ≤ '~' else text
  if order.ignoresCase then text.map Char.toUpper else text

/-- The order of two keys. -/
def compareKeys (order : KeyOrder) (a b : List Char) : Ordering :=
  let found :=
    if order.numeric then compareNumbers a b
    else if order.humanNumeric then
      (compare (unitRank a) (unitRank b)).then (compareNumbers a b)
    else if order.versions then compareVersions (a.length + b.length + 1) a b
    else compare (String.ofList (order.reduce a)) (String.ofList (order.reduce b))
  if order.reversed then found.swap else found

/-- The order with one more letter, if the letter is known. -/
def withLetter? (order : KeyOrder) : Char → Option KeyOrder
  | 'n' | 'g' => some { order with numeric := true }
  | 'h' => some { order with humanNumeric := true }
  | 'f' => some { order with ignoresCase := true }
  | 'd' => some { order with dictionary := true }
  | 'b' => some { order with ignoresBlanks := true }
  | 'i' => some { order with printable := true }
  | 'V' => some { order with versions := true }
  | 'r' => some { order with reversed := true }
  | 'M' => some order
  | _ => none

end KeyOrder

/-- Whether a character separates fields. -/
def isBlankChar (c : Char) : Bool := c == ' ' || c == '\t'

namespace SortOptions

/-- The offset of the start of a field. -/
def fieldStart (options : SortOptions) (line : List Char) (field : Nat) : Nat :=
  match options.separator with
  | some mark =>
    let parts := line.splitOnP (· == mark)
    if parts.length < field then line.length
    else ((parts.take (field - 1)).map (·.length + 1)).foldl (· + ·) 0
  | none => line.length - (dropBlankFields (field - 1) line).length
where
  /-- Drops fields with the blanks in front of them. -/
  dropBlankFields : Nat → List Char → List Char
    | 0, text => text
    | n + 1, text => dropBlankFields n ((text.dropWhile isBlankChar).dropWhile (!isBlankChar ·))

/-- The offset of the end of a field. -/
def fieldEnd (options : SortOptions) (line : List Char) (field : Nat) : Nat :=
  let start := options.fieldStart line field
  let rest := line.drop start
  match options.separator with
  | some mark => start + (rest.takeWhile (· != mark)).length
  | none =>
    let blanks := (rest.takeWhile isBlankChar).length
    start + blanks + ((rest.drop blanks).takeWhile (!isBlankChar ·)).length

/-- The text of a key of a line. -/
def keyText (options : SortOptions) (key : SortKey) (line : List Char) : List Char :=
  let skip (skips : Bool) (offset : Nat) : Nat :=
    if skips then offset + ((line.drop offset).takeWhile isBlankChar).length else offset
  let start := min line.length
    (skip key.startSkipsBlanks (options.fieldStart line key.startField) + (key.startChar - 1))
  let stop := match key.endField with
    | none => line.length
    | some field =>
      if key.endChar = 0 then options.fieldEnd line field
      else min line.length
        (skip key.endSkipsBlanks (options.fieldStart line field) + key.endChar)
  (line.drop start).take (stop - start)

/-- The order of two lines by their keys alone. -/
def compareByKeys (options : SortOptions) (a b : List Char) : Ordering :=
  if options.keys.isEmpty then
    let drop (text : List Char) : List Char :=
      if options.order.ignoresBlanks then text.dropWhile isBlankChar else text
    options.order.compareKeys (drop a) (drop b)
  else options.keys.foldl (fun found key =>
    found.then (key.order.compareKeys (options.keyText key a) (options.keyText key b))) .eq

/-- The order of two lines. Those with like keys are compared as a whole. -/
def compareLines (options : SortOptions) (a b : String) : Ordering :=
  let found := options.compareByKeys a.toList b.toList
  if options.unique || options.stable then found
  else found.then (if options.order.reversed then (compare a b).swap else compare a b)

/-- Drops lines whose keys are like those of the line in front. -/
def dropLike (options : SortOptions) : List String → List String
  | a :: b :: later =>
    if options.compareByKeys a.toList b.toList == .eq then dropLike options (a :: later)
    else a :: dropLike options (b :: later)
  | lines => lines
termination_by lines => lines.length

/-- Sorts lines. -/
def sortLines (options : SortOptions) (lines : List String) : List String :=
  let sorted := lines.mergeSort fun a b => (options.compareLines a b).isLE
  if options.unique then options.dropLike sorted else sorted

/-- The number of the first line that is out of order, with the line. -/
def disorder? (options : SortOptions) (n : Nat) : List String → Option (Nat × String)
  | a :: b :: later =>
    let found := options.compareLines a b
    if found == .gt || (options.unique && found == .eq) then some (n + 1, b)
    else disorder? options (n + 1) (b :: later)
  | _ => none

end SortOptions

/-- Reads a field and a character in it, with the letters behind them. -/
def readPosition (text : List Char) : Option (Nat × Option Nat × List Char) := do
  let digits := text.takeWhile Char.isDigit
  let field ← (String.ofList digits).toNat?
  match text.drop digits.length with
  | '.' :: rest =>
    let more := rest.takeWhile Char.isDigit
    let char ← (String.ofList more).toNat?
    return (field, some char, rest.drop more.length)
  | rest => return (field, none, rest)

/-- Reads a key, or says what is wrong with it. -/
def SortKey.read (text : String) : Except String SortKey := do
  let (front, back) := text.toList.span (· != ',')
  let (startField, startChar, letters) ← match readPosition front with
    | some found => pure found
    | none => throw ("invalid number at field start: invalid count at start of " ++ quotedWord text)
  if startField = 0 then
    throw ("field number is zero: invalid field specification " ++ quotedWord text)
  if startChar == some 0 then
    throw ("character offset is zero: invalid field specification " ++ quotedWord text)
  let (endField, endChar, moreLetters) ← match back with
    | [] => pure (none, none, [])
    | _ :: rest => match readPosition rest with
      | some (field, char, letters) => pure (some field, char, letters)
      | none => throw ("invalid number after ',': invalid count at start of "
          ++ quotedWord (String.ofList rest))
  if endField == some 0 then
    throw ("field number is zero: invalid field specification " ++ quotedWord text)
  let refuse : Except String KeyOrder :=
    throw ("stray character in field spec: invalid field specification " ++ quotedWord text)
  let order ← (letters ++ moreLetters).foldlM (fun order letter =>
    match KeyOrder.withLetter? order letter with
    | some order => pure order
    | none => refuse) ({} : KeyOrder)
  return {
    startField, startChar := startChar.getD 1, endField, endChar := endChar.getD 0
    startSkipsBlanks := letters.contains 'b', endSkipsBlanks := moreLetters.contains 'b', order }

/-- The separator that an option gives, or what is wrong with it. -/
def separatorOf (text : Option String) : Except String (Option Char) :=
  match text.map String.toList with
  | none => .ok none
  | some [] => .error "empty tab"
  | some [c] => .ok (some c)
  | some ['\\', '0'] => .ok (some '\x00')
  | some c => .error ("multi-character tab " ++ quotedWord (String.ofList c))

/-- The way of sorting that options ask for, or what is wrong with them. -/
def SortOptions.ofGiven (given : Given) : Except String SortOptions := do
  let order := ("nghfdbiVrM".toList.filter fun c => given.has (String.singleton c)).foldl
    (fun order letter => (KeyOrder.withLetter? order letter).getD order) ({} : KeyOrder)
  let keys ← (given.values "k").mapM SortKey.read
  let separator ← separatorOf (given.value? "t")
  let complete (key : SortKey) : SortKey :=
    if key.order == {} && !key.startSkipsBlanks && !key.endSkipsBlanks then
      { key with
        order, startSkipsBlanks := order.ignoresBlanks, endSkipsBlanks := order.ignoresBlanks }
    else key
  return {
    keys := keys.map complete, order, separator, unique := given.has "u", stable := given.has "s" }

/-- Sorts the lines of inputs. -/
def sort : Job Nat :=
  withOptions [.flag 'b' "ignore-leading-blanks", .flag 'd' "dictionary-order", .flag 'f' "ignore-case",
      .flag 'g' "general-numeric-sort", .flag 'i' "ignore-nonprinting", .flag 'M' "month-sort",
      .flag 'h' "human-numeric-sort", .flag 'n' "numeric-sort", .flag 'r' "reverse",
      .flag 'V' "version-sort", .flag 'R' "random-sort", .flag 'c', .flag 'C', .value 'k' "key",
      .flag 'm' "merge", .value 'o' "output", .flag 's' "stable", .value 'S' "buffer-size",
      .value 't' "field-separator", .value 'T' "temporary-directory", .flag 'u' "unique",
      .flag 'z' "zero-terminated", .named "check" .optional, .named "parallel" .required]
    (fun given => do
      match SortOptions.ofGiven given with
      | .error complaint =>
        Job.complainAs complaint
        return 2
      | .ok options =>
        let mark := if given.has "z" then '\x00' else '\n'
        let mut texts : List String := []
        for path in inputs given.operands do
          match (← openInput path) with
          | .error reason =>
            Job.complainAs ("cannot read: " ++ quotedIfNeeded path ++ ": " ++ reason.description)
            return 2
          | .ok number =>
            match (← Job.readOpen number) with
            | .error reason =>
              Job.complainAs ("read failed: " ++ quotedIfNeeded path ++ ": " ++ reason.description)
              return 2
            | .ok text => texts := texts ++ [text]
        let lines := texts.flatMap fun text => (Line.allBetween mark text).map (·.text)
        if given.has "c" || given.has "C" || given.has "check" then
          match options.disorder? 1 lines with
          | none => return 0
          | some (n, line) =>
            unless given.has "C" do
              Job.complainAs (given.operands.headD "-" ++ ":" ++ toString n ++ ": disorder: " ++ line)
            return 1
        else
          let output := String.join ((options.sortLines lines).map fun line =>
            line ++ String.singleton mark)
          match given.value? "o" with
          | none =>
            Job.print output
            return 0
          | some path =>
            match (← Job.openPath path .writing) with
            | .ok number =>
              let _ ← Job.writeOpen number output
              return 0
            | .error reason =>
              Job.complainAs ("open failed: " ++ quotedIfNeeded path ++ ": " ++ reason.description)
              return 2) 2

end ProfileGraph.Utility
