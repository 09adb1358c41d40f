import ProfileGraph.StandIn.Utility.Input

/-! The utilities that copy their input to the output, as it is, marked up or in
another order. -/
namespace ProfileGraph.Utility
open Host

/-- How copied text is marked up. -/
structure Marking where
  numbers : Bool := false
  /-- Numbers only the lines that are not empty. -/
  numbersText : Bool := false
  squeezes : Bool := false
  marksEnds : Bool := false
  marksTabs : Bool := false
  marksOthers : Bool := false

/-- The text that shows a character that cannot be printed. -/
def visible (c : Char) : List Char :=
  let plain (n : Nat) : List Char :=
    if n < 32 then ['^', Char.ofNat (n + 64)]
    else if n = 127 then ['^', '?']
    else [Char.ofNat n]
  if c.toNat < 128 then plain c.toNat else 'M' :: '-' :: plain (c.toNat - 128)

namespace Marking

/-- Whether text is copied as it is. -/
def isPlain (marking : Marking) : Bool :=
  !(marking.numbers || marking.numbersText || marking.squeezes || marking.marksEnds
    || marking.marksTabs || marking.marksOthers)

/-- A character the way it is shown. -/
def char (marking : Marking) (c : Char) : List Char :=
  if c == '\t' then if marking.marksTabs then ['^', 'I'] else [c]
  else if marking.marksOthers then visible c else [c]

/-- Marks up lines. The state holds the number of the last line, whether the
line in front was empty, and whether a line has begun. -/
def lines (marking : Marking) : Nat × Bool × Bool → List Line → List Char × (Nat × Bool × Bool)
  | state, [] => ([], state)
  | (number, wasEmpty, begun), line :: later =>
    let isEmpty := line.text.isEmpty && line.ended && !begun
    if marking.squeezes && isEmpty && wasEmpty then
      lines marking (number, wasEmpty, begun) later
    else
      let counts := !begun && (if marking.numbersText then !isEmpty else marking.numbers)
      let number := if counts then number + 1 else number
      let start := if counts then (padLeft 6 (toString number) ++ "\t").toList else []
      let text := line.text.toList.flatMap marking.char
      let ending :=
        if line.ended then (if marking.marksEnds then ['$', '\n'] else ['\n']) else []
      let (rest, state) := lines marking (number, isEmpty, !line.ended) later
      (start ++ text ++ ending ++ rest, state)

end Marking

/-- Whether reading an open file would read what is being written. -/
def isOwnOutput (number : Nat) : Job Bool := do
  let machine ← get
  let channel? (number : Nat) : Option Channel := (machine.opened[number]?).map (·.channel)
  match channel? number, ((← Job.openFile? 1).bind channel?) with
  | some (.node input), some (.node output) =>
    if input != output then return false
    else
      let size := ((machine.tree.nodes[input]?).map (·.size)).getD 0
      return decide ((← positionOf number) < size)
  | _, _ => return false

/-- Copies inputs to the output. -/
def concatenate : Job Nat :=
  withOptions [.flag 'A' "show-all", .flag 'b' "number-nonblank", .flag 'e', .flag 'E' "show-ends",
      .flag 'n' "number", .flag 's' "squeeze-blank", .flag 't', .flag 'T' "show-tabs", .flag 'u',
      .flag 'v' "show-nonprinting"] fun given => do
    let any (keys : List String) : Bool := keys.any given.has
    let marking : Marking := {
      numbers := any ["n"], numbersText := any ["b"], squeezes := any ["s"]
      marksEnds := any ["A", "e", "E"], marksTabs := any ["A", "t", "T"]
      marksOthers := any ["A", "e", "t", "v"] }
    let mut state : Nat × Bool × Bool := (0, false, false)
    let mut code := 0
    for path in inputs given.operands do
      match (← openInput path) with
      | .error reason =>
        Job.complainAs (quotedIfNeeded path ++ ": " ++ reason.description)
        code := 1
      | .ok number =>
        if ← isOwnOutput number then
          Job.complainAs (quotedIfNeeded path ++ ": input file is output file")
          code := 1
        else match (← Job.readOpen number) with
          | .error reason =>
            Job.complainAs (quotedIfNeeded path ++ ": " ++ reason.description)
            code := 1
          | .ok text =>
            if marking.isPlain then Job.print text
            else
              let (marked, next) := marking.lines state (Line.all text)
              state := next
              Job.print (String.ofList marked)
    return code

/-- Copies inputs to the output, the last line first. -/
def concatenateBackwards : Job Nat :=
  withOptions [.flag 'b' "before", .flag 'r' "regex", .value 's' "separator"] fun given =>
    forEach (inputs given.operands) fun path => do
      match (← readInput path) with
      | .ok text =>
        Job.print (String.join ((Line.all text).reverse.map Line.whole))
        return true
      | .error reason =>
        if reason = .isDirectory then
          Job.complainAs (quotedIfNeeded path ++ ": read error: " ++ reason.description)
        else
          Job.complainAs ("failed to open " ++ quoted path ++ " for reading: " ++ reason.description)
        return false

/-- Copies inputs to the output with each line turned around. -/
def reverseLines : Job Nat :=
  withOptions [] fun given =>
    forEach (inputs given.operands) fun path => do
      match (← readInput path) with
      | .ok text =>
        Job.print (String.join ((Line.all text).map fun line =>
          Line.whole ⟨String.ofList line.text.toList.reverse, line.ended⟩))
        return true
      | .error reason =>
        Job.complainAs ("cannot open " ++ path ++ ": " ++ reason.description)
        return false

/-- Copies the input to the output and to files. -/
def copyToAll : Job Nat :=
  withOptions [.flag 'a' "append", .flag 'i' "ignore-interrupts", .flag 'p'] fun given => do
    let text ← match (← Job.readDescriptor 0) with
      | .ok text => pure text
      | .error reason =>
        Job.complainAs ("read error: " ++ reason.description)
        pure ""
    let access := if given.has "a" then Access.appending else .writing
    Job.print text
    forEach given.operands fun path => do
      let written ← match (← Job.openPath path access) with
        | .ok number => Job.writeOpen number text
        | .error reason => pure (.error reason)
      match written with
      | .ok () => return true
      | .error reason =>
        Job.complainAs (quotedIfNeeded path ++ ": " ++ reason.description)
        return false

/-- How numbered lines are laid out. -/
structure Numbering where
  style : Char := 't'
  width : Nat := 6
  separator : String := "\t"
  start : Int := 1
  increment : Int := 1
  layout : String := "rn"

/-- Numbers the lines of the input. -/
def numberLines : Job Nat :=
  withOptions [.value 'b' "body-numbering", .value 'w' "number-width",
      .value 's' "number-separator", .value 'v' "starting-line-number",
      .value 'i' "line-increment", .value 'n' "number-format"] fun given => do
    let numbering : Numbering := {
      style := (((given.value? "b").bind fun text => text.toList.head?).getD 't')
      width := ((given.value? "w").bind String.toNat?).getD 6
      separator := (given.value? "s").getD "\t"
      start := ((given.value? "v").bind String.toInt?).getD 1
      increment := ((given.value? "i").bind String.toInt?).getD 1
      layout := (given.value? "n").getD "rn" }
    let mut number := numbering.start
    let mut code := 0
    for path in inputs given.operands do
      match (← readOrComplain path) with
      | none => code := 1
      | some text =>
        for line in Line.all text do
          let counts := numbering.style == 'a' || (numbering.style == 't' && !line.text.isEmpty)
          if counts then
            let digits := toString number
            let shown :=
              if numbering.layout == "ln" then padRight numbering.width digits
              else if numbering.layout == "rz" then
                String.ofList (List.replicate (numbering.width - digits.length) '0') ++ digits
              else padLeft numbering.width digits
            Job.print (shown ++ numbering.separator ++ line.text ++ "\n")
            number := number + numbering.increment
          else
            let gap := numbering.width + numbering.separator.length
            Job.print (padLeft gap "" ++ line.text ++ "\n")
    return code

/-- How many bytes are written before one assumes that nobody reads on. -/
def endlessOutput : Nat := 70000

/-- Writes a line again and again. -/
def repeatForever : Job Nat :=
  withOptions [] fun given => do
    let line := (if given.operands.isEmpty then "y" else " ".intercalate given.operands) ++ "\n"
    Job.print (String.join (List.replicate (endlessOutput / line.length + 1) line))
    return 0

end ProfileGraph.Utility

/-! The utilities that print the front or the back of their inputs. -/
namespace ProfileGraph.Utility
open Host

/-- What an amount counts. -/
inductive Measure where
  | lines
  | bytes
deriving DecidableEq, Repr

namespace Measure

/-- The name of what is counted. -/
def name : Measure → String
  | .lines => "lines"
  | .bytes => "bytes"

/-- The parts of a text that are counted. -/
def parts (unit : Measure) (text : String) : List String :=
  match unit with
  | .lines => (Line.all text).map Line.whole
  | .bytes => text.toList.map String.singleton

end Measure

/-- How titles are put in front of several inputs. -/
inductive Titles where
  | always
  | never
  | ifSeveral
deriving DecidableEq, Repr

/-- The titles that options ask for. -/
def titlesOf (given : Given) : Titles :=
  match given.last? ["q", "v"] with
  | some "q" => .never
  | some _ => .always
  | none => .ifSeveral

/-- Prints inputs one after the other, each under its title. `open?` opens an
input or complains, and `act` prints it. -/
def printTitled (titles : Titles) (operands : List String) (act : String → Nat → Job Bool) :
    Job Nat := do
  let titled := titles == .always || (titles == .ifSeveral && 1 < operands.length)
  let mut isFirst := true
  let mut code := 0
  for path in operands do
    match (← openInput path) with
    | .error reason =>
      Job.complainAs ("cannot open " ++ quoted path ++ " for reading: " ++ reason.description)
      code := 1
    | .ok number =>
      if titled then
        Job.print ((if isFirst then "" else "\n") ++ "==> " ++ inputName path ++ " <==\n")
        isFirst := false
      unless (← act path number) do code := 1
  return code

/-- Complains that an input cannot be read. -/
def complainAboutReading (path : String) (reason : OsError) : Job Bool := do
  Job.complainAs ("error reading " ++ quoted (inputName path) ++ ": " ++ reason.description)
  return false

/-- The amount of a text in front, perhaps counted from the back. -/
structure FrontAmount where
  unit : Measure := .lines
  count : Nat := 10
  /-- Everything but the amount at the back. -/
  allBut : Bool := false

/-- Prints the front of an open file. What is not printed can still be read from
a regular file. -/
def printFront (amount : FrontAmount) (path : String) (number : Nat) : Job Bool := do
  let start ← positionOf number
  match (← Job.readOpen number) with
  | .error reason => complainAboutReading path reason
  | .ok text =>
    let parts := amount.unit.parts text
    let count := if amount.allBut then parts.length - amount.count else amount.count
    let shown := String.join (parts.take count)
    Job.print shown
    if ← canMoveBack number then movePosition number (start + shown.length)
    return true

/-- An old form of an amount: a dash, digits and letters. -/
def oldAmount? (argument : String) : Option (List String) :=
  match argument.toList with
  | '-' :: digit :: rest =>
    if digit.isDigit then
      let digits := (digit :: rest).takeWhile Char.isDigit
      let letters := (digit :: rest).drop digits.length
      let count := String.ofList digits
      let unit := if letters.contains 'c' then "-c" else "-n"
      let factor := if letters.contains 'b' then "b" else if letters.contains 'k' then "k"
        else if letters.contains 'm' then "m" else ""
      some ((if letters.contains 'q' then ["-q"] else [])
        ++ (if letters.contains 'v' then ["-v"] else []) ++ [unit, count ++ factor])
    else none
  | _ => none

/-- Reads an amount, or refuses it. -/
def amountOf (unit : Measure) (text : String) (act : Nat → Job Nat) : Job Nat := do
  match count? text with
  | some count => act count
  | none =>
    Job.complainAs ("invalid number of " ++ unit.name ++ ": " ++ quotedWord text)
    return 1

/-- Prints the front of inputs. -/
def head : Job Nat := do
  let arguments := (← read).arguments
  let arguments := match arguments with
    | first :: later => match oldAmount? first with
      | some modern => modern ++ later
      | none => arguments
    | [] => []
  Job.within { ← read with arguments } <|
    withOptions [.value 'n' "lines", .value 'c' "bytes", .flag 'q' "quiet", .named "silent",
        .flag 'v' "verbose", .flag 'z' "zero-terminated"] fun given => do
      let unit := if given.last? ["n", "c"] == some "c" then Measure.bytes else .lines
      let text := ((given.last? ["n", "c"]).bind given.value?).getD "10"
      let (allBut, digits) := match text.toList with
        | '-' :: rest => (true, String.ofList rest)
        | '+' :: rest => (false, String.ofList rest)
        | _ => (false, text)
      amountOf unit digits fun count =>
        printTitled (titlesOf given) (inputs given.operands)
          (printFront { unit, count, allBut })

/-- The amount of a text at the back, perhaps counted from the front. -/
structure BackAmount where
  unit : Measure := .lines
  count : Nat := 10
  fromStart : Bool := false

/-- Prints the back of an open file. -/
def printBack (amount : BackAmount) (path : String) (number : Nat) : Job Bool := do
  match (← Job.readOpen number) with
  | .error reason => complainAboutReading path reason
  | .ok text =>
    let parts := amount.unit.parts text
    let skipped := if amount.fromStart then amount.count - 1 else parts.length - amount.count
    Job.print (String.join (parts.drop skipped))
    return true

/-- An old form of the amount at the back: a sign, digits and letters. -/
def oldBackAmount? (argument : String) : Option (List String) :=
  match argument.toList with
  | sign :: rest =>
    let digits := rest.takeWhile Char.isDigit
    let letters := rest.drop digits.length
    let known := letters == [] || letters == ['l'] || letters == ['c'] || letters == ['b']
      || letters == ['f']
    if (sign == '+' || (sign == '-' && !digits.isEmpty)) && known
        && !(digits.isEmpty && letters.isEmpty) then
      let count := if digits.isEmpty then "10" else String.ofList digits
      let count := if letters == ['b'] then count ++ "b" else count
      let unit := if letters == ['c'] || letters == ['b'] then "-c" else "-n"
      some [unit, if sign == '+' then "+" ++ count else count]
    else none
  | [] => none

/-- Prints the back of inputs. -/
def tail : Job Nat := do
  let arguments := (← read).arguments
  let arguments := match arguments with
    | [first] => (oldBackAmount? first).getD arguments
    | [first, operand] =>
      if operand.startsWith "-" && operand != "-" then arguments
      else match oldBackAmount? first with
        | some modern => modern ++ [operand]
        | none => arguments
    | _ => arguments
  Job.within { ← read with arguments } <|
    withOptions [.value 'n' "lines", .value 'c' "bytes", .flag 'q' "quiet", .named "silent",
        .flag 'v' "verbose", ⟨some 'f', some "follow", .optional⟩, .flag 'F',
        .flag 'z' "zero-terminated", .value 's' "sleep-interval"] fun given => do
      let unit := if given.last? ["n", "c"] == some "c" then Measure.bytes else .lines
      let text := ((given.last? ["n", "c"]).bind given.value?).getD "10"
      let (fromStart, digits) := match text.toList with
        | '+' :: rest => (true, String.ofList rest)
        | '-' :: rest => (false, String.ofList rest)
        | _ => (false, text)
      amountOf unit digits fun count =>
        printTitled (titlesOf given) (inputs given.operands)
          (printBack { unit, count, fromStart })

end ProfileGraph.Utility
