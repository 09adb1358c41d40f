import ProfileGraph.StandIn.Utility.Input

/-! The utilities that take lines apart and put them together: parts of lines,
lines side by side, and long lines in pieces. -/
namespace ProfileGraph.Utility
open Host

/-- A range of positions; without an end it goes on for ever. -/
structure PositionRange where
  first : Nat
  last : Option Nat
deriving DecidableEq, Repr

namespace PositionRange

/-- Whether a position is in a range. -/
def holds (n : Nat) (range : PositionRange) : Bool :=
  range.first ≤ n && match range.last with
    | some last => decide (n ≤ last)
    | none => true

/-- Reads a range, or says what is wrong with it. `fields` says that fields are
counted. -/
def read (fields : Bool) (text : String) : Except String PositionRange := do
  let number (digits : List Char) : Except String Nat :=
    match (String.ofList digits).toNat? with
    | some 0 =>
      throw (if fields then "fields are numbered from 1" else "byte/character positions are numbered from 1")
    | some n => pure n
    | none =>
      throw ((if fields then "invalid field value " else "invalid byte/character position ")
        ++ quotedWord text)
  match text.toList.span (· != '-') with
  | ([], []) =>
    throw (if fields then "fields are numbered from 1" else "byte/character positions are numbered from 1")
  | (digits, []) =>
    let n ← number digits
    return ⟨n, some n⟩
  | ([], ['-']) => throw "invalid range with no endpoint: -"
  | ([], _ :: digits) => return ⟨1, some (← number digits)⟩
  | (digits, ['-']) => return ⟨← number digits, none⟩
  | (first, _ :: last) =>
    let first ← number first
    let last ← number last
    if last < first then throw "invalid decreasing range"
    return ⟨first, some last⟩

/-- Reads ranges between commas or blanks. -/
def readAll (fields : Bool) (text : String) : Except String (List PositionRange) :=
  ((text.toList.splitOnP fun c => c == ',' || c == ' ').map String.ofList).mapM (read fields)

end PositionRange

/-- The parts of a line that are cut out. -/
structure Cut where
  ranges : List PositionRange
  complement : Bool := false
  /-- Cuts fields between the separator, not characters. -/
  fields : Bool := false
  separator : Char := '\t'
  onlySeparated : Bool := false
  joiner : Option String := none

namespace Cut

/-- Whether a position is cut out. -/
def selects (cut : Cut) (n : Nat) : Bool := cut.ranges.any (·.holds n) != cut.complement

/-- What is cut out of a line. -/
def line? (cut : Cut) (text : String) : Option String :=
  if cut.fields then
    let parts := (text.toList.splitOnP (· == cut.separator)).map String.ofList
    if parts.length = 1 then if cut.onlySeparated then none else some text
    else
      let kept := (parts.zipIdx.filter fun (_, n) => cut.selects (n + 1)).map (·.1)
      some ((cut.joiner.getD (String.singleton cut.separator)).intercalate kept)
  else
    let kept := text.toList.zipIdx.filter fun (_, n) => cut.selects (n + 1)
    match cut.joiner with
    | none => some (String.ofList (kept.map (·.1)))
    | some joiner =>
      some (String.join (kept.mapIdx fun i (c, n) =>
        let follows := match kept[i - 1]? with
          | some (_, before) => i = 0 || before + 1 = n
          | none => true
        (if follows then "" else joiner) ++ String.singleton c))

end Cut

/-- Cuts parts out of lines. -/
def cutLines : Job Nat :=
  withOptions [.value 'b' "bytes", .value 'c' "characters", .value 'd' "delimiter",
      .value 'f' "fields", .flag 'n', .flag 's' "only-delimited", .named "complement",
      .named "output-delimiter" .required, .flag 'z' "zero-terminated"] fun given => do
    let lists := given.options.filter fun (key, _) => ["b", "c", "f"].contains key
    match lists with
    | [] => misuse "you must specify a list of bytes, characters, or fields"
    | _ :: _ :: _ => misuse "only one list may be specified"
    | [(key, text)] =>
      let fields := key == "f"
      let separator := (given.value? "d").map String.toList
      if !fields && separator.isSome then
        misuse "an input delimiter may be specified only when operating on fields"
      else if !fields && given.has "s" then
        misuse "suppressing non-delimited lines makes sense\n\tonly when operating on fields"
      else if (separator.map List.length).getD 1 > 1 then
        misuse "the delimiter must be a single character"
      else match PositionRange.readAll fields (text.getD "") with
        | .error complaint => misuse complaint
        | .ok ranges =>
          let cut : Cut := {
            ranges, complement := given.has "complement", fields
            separator := ((separator.map fun text => text.headD '\x00')).getD '\t'
            onlySeparated := given.has "s", joiner := given.value? "output-delimiter" }
          forEach (inputs given.operands) fun path => do
            match (← readOrComplain path) with
            | none => return false
            | some text =>
              Job.print (String.join ((lineTexts text).filterMap fun line =>
                (cut.line? line).map (· ++ "\n")))
              return true

/-- Joins texts with separators that are used in turn. -/
def joinInTurn (separators : List Char) : Nat → List String → String
  | _, [] => ""
  | _, [text] => text
  | n, text :: later =>
    let mark := match separators[n % separators.length]? with
      | some '\x00' | none => ""
      | some c => String.singleton c
    text ++ mark ++ joinInTurn separators (n + 1) later

/-- The separators that a list writes. -/
def separatorList : List Char → List Char
  | '\\' :: 'n' :: rest => '\n' :: separatorList rest
  | '\\' :: 't' :: rest => '\t' :: separatorList rest
  | '\\' :: '0' :: rest => '\x00' :: separatorList rest
  | '\\' :: c :: rest => c :: separatorList rest
  | c :: rest => c :: separatorList rest
  | [] => []

/-- Puts lines of inputs side by side. -/
def pasteLines : Job Nat :=
  withOptions [.value 'd' "delimiters", .flag 's' "serial", .flag 'z' "zero-terminated"] fun given => do
    let separators := separatorList ((given.value? "d").getD "\t").toList
    let separators := if separators.isEmpty then ['\x00'] else separators
    let paths := inputs given.operands
    let mut columns : List (List String) := []
    for path in paths do
      match (← readInput path) with
      | .ok text => columns := columns ++ [lineTexts text]
      | .error reason =>
        Job.complainAs (quotedIfNeeded path ++ ": " ++ reason.description)
        return 1
    if given.has "s" then
      columns.forM fun lines => Job.print (joinInTurn separators 0 lines ++ "\n")
    else
      let count := (columns.map (·.length)).foldl max 0
      (List.range count).forM fun n =>
        Job.print (joinInTurn separators 0 (columns.map fun lines => lines[n]?.getD "") ++ "\n")
    return 0

/-- Cuts a line into pieces of a width, behind blanks if that is asked for. The
fuel bounds the number of pieces. -/
def foldLine (width : Nat) (atBlanks : Bool) : Nat → List Char → List (List Char)
  | 0, text => [text]
  | fuel + 1, text =>
    if text.length ≤ width then [text]
    else
      let piece := text.take width
      let kept := (piece.reverse.dropWhile (· != ' ')).reverse
      let piece := if atBlanks && !kept.isEmpty then kept else piece
      piece :: foldLine width atBlanks fuel (text.drop piece.length)

/-- Cuts long lines into pieces. -/
def foldLines : Job Nat :=
  withOptions [.value 'w' "width", .flag 's' "spaces", .flag 'b' "bytes"] fun given => do
    let width := max 1 (((given.value? "w").bind String.toNat?).getD 80)
    forEach (inputs given.operands) fun path => do
      match (← readOrComplain path) with
      | none => return false
      | some text =>
        Job.print (String.join ((Line.all text).map fun line =>
          let pieces := foldLine width (given.has "s") line.text.length line.text.toList
          "\n".intercalate (pieces.map String.ofList) ++ if line.ended then "\n" else ""))
        return true

/-- A text with blanks instead of tabs, up to stops at a distance. -/
def expandTabs (distance column : Nat) : List Char → List Char
  | [] => []
  | '\t' :: rest =>
    let gap := distance - column % distance
    List.replicate gap ' ' ++ expandTabs distance (column + gap) rest
  | '\n' :: rest => '\n' :: expandTabs distance 0 rest
  | c :: rest => c :: expandTabs distance (column + 1) rest

/-- Writes blanks instead of tabs. -/
def expand : Job Nat :=
  withOptions [.flag 'i' "initial", .value 't' "tabs"] fun given => do
    let distance := max 1 (((given.value? "t").bind String.toNat?).getD 8)
    forEach (inputs given.operands) fun path => do
      match (← readOrComplain path) with
      | none => return false
      | some text =>
        Job.print (String.ofList (expandTabs distance 0 text.toList))
        return true

/-- Merges sorted lists: each line with a column, the first for lines of the first
list only, the second for those of the other one, and the third for both. -/
def mergeCompared : List String → List String → List (Nat × String)
  | [], right => right.map fun line => (2, line)
  | left, [] => left.map fun line => (1, line)
  | a :: left, b :: right =>
    if a == b then (3, a) :: mergeCompared left right
    else if a < b then (1, a) :: mergeCompared left (b :: right)
    else (2, b) :: mergeCompared (a :: left) right
termination_by left right => left.length + right.length

/-- Compares two sorted inputs line by line. -/
def compareSorted : Job Nat :=
  withOptions [.flag '1', .flag '2', .flag '3', .flag 'i', .named "check-order",
      .named "nocheck-order", .named "output-delimiter" .required, .named "total",
      .flag 'z' "zero-terminated"] fun given => do
    match given.operands with
    | [] => misuse "missing operand"
    | [operand] => misuse ("missing operand after " ++ quotedWord operand)
    | [left, right] =>
      match (← readOrComplain left) with
      | none => return 1
      | some a => match (← readOrComplain right) with
        | none => return 1
        | some b =>
          let mark := (given.value? "output-delimiter").getD "\t"
          let hidden (n : Nat) : Bool := given.has (toString n)
          let gap (n : Nat) : String :=
            String.join ((List.range (n - 1)).map fun i => if hidden (i + 1) then "" else mark)
          (mergeCompared (lineTexts a) (lineTexts b)).forM fun (column, line) =>
            if hidden column then return () else Job.print (gap column ++ line ++ "\n")
          return 0
    | _ :: _ :: extra :: _ => misuse ("extra operand " ++ quoted extra)

end ProfileGraph.Utility
