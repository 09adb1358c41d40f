import Std.Data.HashMap
import ProfileGraph.StandIn.Utility.Difference.Report
import ProfileGraph.StandIn.Utility.Input
import ProfileGraph.StandIn.Utility.Moment

/-! The utility that tells how files differ. Directories are compared entry by entry. -/
namespace ProfileGraph.Utility.Difference
open Host

/-- How files are compared. -/
structure Rules where
  style : Style := .plain
  ignoresCase : Bool := false
  /-- Blanks do not count at all. -/
  ignoresBlanks : Bool := false
  /-- Blanks in a row count as one, and those at the end of a line do not count. -/
  squeezesBlanks : Bool := false
  ignoresEnds : Bool := false
  dropsReturns : Bool := false
  /-- Changes of empty lines do not count. -/
  ignoresEmpty : Bool := false
  isText : Bool := false
  tellsEqual : Bool := false
  descends : Bool := false
  /-- A file that is missing counts as an empty one. -/
  addsMissing : Bool := false
  labels : List String := []
  /-- The options as they were given. -/
  given : List String := []

/-- What came of a comparison. -/
inductive Outcome where
  | same
  | differ
  | trouble
deriving DecidableEq, Repr

namespace Outcome

/-- The status for an outcome. -/
def code : Outcome → Nat
  | .same => 0
  | .differ => 1
  | .trouble => 2

/-- The worse one of two outcomes. -/
def max (a b : Outcome) : Outcome := if a.code < b.code then b else a

end Outcome

/-- Whether a character is a blank. -/
def isBlank (c : Char) : Bool := c == ' ' || ('\t' ≤ c && c ≤ '\r')

/-- Squeezes blanks in a row to one. -/
def squeeze : List Char → List Char
  | [] => []
  | c :: rest =>
    if isBlank c then
      match squeeze rest with
      | ' ' :: later => ' ' :: later
      | later => ' ' :: later
    else c :: squeeze rest

/-- A text without the blanks at its end. -/
def dropEndBlanks (text : List Char) : List Char := (text.reverse.dropWhile isBlank).reverse

namespace Rules

/-- What counts of a line. -/
def keyOf (rules : Rules) (line : Line) : String :=
  let text := line.text.toList
  let text := if rules.dropsReturns && text.getLast? == some '\r' then text.dropLast else text
  let text :=
    if rules.ignoresBlanks then text.filter (!isBlank ·)
    else if rules.squeezesBlanks then dropEndBlanks (squeeze text)
    else if rules.ignoresEnds then dropEndBlanks text
    else text
  let text := if rules.ignoresCase then text.map Char.toLower else text
  let endCounts := !(rules.ignoresBlanks || rules.squeezesBlanks || rules.ignoresEnds)
  String.ofList (if line.ended || !endCounts then text else text ++ ['\n'])

/-- Whether a change counts. -/
def counts (rules : Rules) (first second : Side) (change : Change) : Bool :=
  let isEmpty (side : Side) (start count : Nat) : Bool :=
    (side.lines.extract start (start + count)).all fun line =>
      (rules.keyOf ⟨line, true⟩).isEmpty
  !rules.ignoresEmpty || !(isEmpty first change.firstStart change.firstCount
    && isEmpty second change.secondStart change.secondCount)

end Rules

/-- Numbers for texts, equal ones for equal texts. -/
def numbered (texts : List String) (known : Std.HashMap String Nat) :
    Array Nat × Std.HashMap String Nat :=
  texts.foldl (fun (numbers, known) text =>
    match known[text]? with
    | some number => (numbers.push number, known)
    | none =>
      let number := known.size
      (numbers.push number, known.insert text number)) (#[], known)

/-- What one file is compared as. -/
structure Found where
  path : String
  text : String
  modified : Nat

/-- How a file is called in front of changes. -/
def Found.header (found : Found) (label : Option String) : String :=
  label.getD (found.path ++ "\t" ++ Moment.dateText found.modified ++ ".000000000 +0000")

/-- Compares the texts of two files. -/
def compareTexts (rules : Rules) (title : String) (first second : Found) : Job Outcome := do
  let isBinary (text : String) : Bool := !rules.isText && text.toList.contains '\x00'
  let both := first.path ++ " and " ++ second.path
  let tellSame : Job Outcome := do
    if rules.tellsEqual then Job.print ("Files " ++ both ++ " are identical\n")
    return .same
  if first.text == second.text then tellSame
  else if isBinary first.text || isBinary second.text then
    if rules.style = .brief then Job.print ("Files " ++ both ++ " differ\n")
    else Job.print ("Binary files " ++ both ++ " differ\n")
    return .differ
  else
    let firstLines := Line.all first.text
    let secondLines := Line.all second.text
    let (firstNumbers, known) := numbered (firstLines.map rules.keyOf) {}
    let (secondNumbers, _) := numbered (secondLines.map rules.keyOf) known
    let side (found : Found) (lines : List Line) (label : Option String) : Side :=
      { header := found.header label
        lines := (lines.map (·.text)).toArray
        isOpen := lines.getLast?.any (!·.ended) }
    let firstSide := side first firstLines rules.labels[0]?
    let secondSide := side second secondLines rules.labels[1]?
    let changes := changesAround rules.style.around firstNumbers secondNumbers
    let counts := rules.counts firstSide secondSide
    if changes.any counts then
      if rules.style = .brief then Job.print ("Files " ++ both ++ " differ\n")
      else Job.print (title ++ reportText rules.style counts firstSide secondSide changes)
      return .differ
    else tellSame

/-- A path in a directory. -/
def inDirectory (directory name : String) : String :=
  if directory.endsWith "/" then directory ++ name else directory ++ "/" ++ name

/-- The last part of a path. -/
def lastPart (path : String) : String := ((path.splitOn "/").getLast?).getD path

/-- What a path leads to. -/
inductive Kind where
  | missing (reason : OsError)
  | directory
  | file (modified : Nat)

/-- What the path leads to. -/
def kindOf (path : String) : Job Kind := do
  if path == "-" then return .file 0
  else match (← Job.node path) with
    | .ok node => return if node.isDirectory then .directory else .file node.modified
    | .error reason => return .missing reason

/-- The names of the entries of a directory. -/
def entryNames (path : String) : Job (List String) := do
  let tree ← Job.tree
  match tree.find (Octets.toText path) with
  | .ok (place, _) => return (tree.names place).map Octets.ofText
  | .error _ => return []

/-- Reads a file that is compared. -/
def readFound (path : String) (modified : Nat) : Job (Option Found) := do
  match (← readInput path) with
  | .ok text => return some { path, text, modified }
  | .error reason =>
    Job.complainAs (path ++ ": " ++ reason.description)
    return none

/-- Compares two files. -/
def compareFiles (rules : Rules) (title : String) (first second : String)
    (firstTime secondTime : Option Nat) : Job Outcome := do
  let found (path : String) (time : Option Nat) : Job (Option Found) :=
    match time with
    | some time => readFound path time
    | none => return some { path, text := "", modified := 0 }
  match (← found first firstTime), (← found second secondTime) with
  | some first, some second => compareTexts rules title first second
  | _, _ => return .trouble

/-- How a kind of file is called. -/
def kindName (path : String) (kind : Kind) : Job String := do
  match kind with
  | .directory => return "directory"
  | _ =>
    match (← readInput path) with
    | .ok "" => return "regular empty file"
    | _ => return "regular file"

/-- Tells that one path leads to a directory, and another one to a file. -/
def tellKinds (first second : String) (firstKind secondKind : Kind) : Job Outcome := do
  Job.print ("File " ++ first ++ " is a " ++ (← kindName first firstKind) ++ " while file "
    ++ second ++ " is a " ++ (← kindName second secondKind) ++ "\n")
  return .differ

/-- Compares the entries of two directories that have some names. `compareOne` compares what
two paths lead to. -/
def compareNames (rules : Rules) (compareOne : String → String → Job Outcome)
    (first second : String) (firstNames secondNames : List String) :
    List String → Job Outcome
  | [] => return .same
  | name :: later => do
    let only (directory : String) : Job Outcome := do
      Job.print ("Only in " ++ directory ++ ": " ++ name ++ "\n")
      return .differ
    let outcome ←
      if !rules.addsMissing && !secondNames.contains name then only first
      else if !rules.addsMissing && !firstNames.contains name then only second
      else compareOne (inDirectory first name) (inDirectory second name)
    return outcome.max
      (← compareNames rules compareOne first second firstNames secondNames later)

/-- Compares the entries of two directories. -/
def compareEntries (rules : Rules) (compareOne : String → String → Job Outcome)
    (first second : String) : Job Outcome := do
  let firstNames ← entryNames first
  let secondNames ← entryNames second
  let all := firstNames ++ secondNames.filter (!firstNames.contains ·)
  compareNames rules compareOne first second firstNames secondNames
    (all.mergeSort fun a b => a ≤ b)

/-- Compares what two paths lead to. `isTop` says that the paths were given as operands; the
fuel bounds how deep directories lie in one another. -/
def compare (rules : Rules) : Nat → Bool → String → String → Job Outcome
  | 0, _, _, _ => return .trouble
  | depth + 1, isTop, first, second => do
    let firstKind ← kindOf first
    let secondKind ← kindOf second
    let title :=
      if isTop then ""
      else " ".intercalate ("diff" :: rules.given ++ [first, second]) ++ "\n"
    let complain (path : String) (reason : OsError) : Job Outcome := do
      Job.complainAs (path ++ ": " ++ reason.description)
      return .trouble
    match firstKind, secondKind with
    | .missing reason, .missing other =>
      let _ ← complain first reason
      complain second other
    | .missing reason, .file time =>
      if rules.addsMissing && reason == .noEntry then
        compareFiles rules title first second none (some time)
      else complain first reason
    | .file time, .missing reason =>
      if rules.addsMissing && reason == .noEntry then
        compareFiles rules title first second (some time) none
      else complain second reason
    | .missing reason, .directory =>
      if rules.addsMissing && !isTop then compareEntries rules (compare rules depth false) first second
      else complain first reason
    | .directory, .missing reason =>
      if rules.addsMissing && !isTop then compareEntries rules (compare rules depth false) first second
      else complain second reason
    | .file firstTime, .file secondTime =>
      if first == second then
        if rules.tellsEqual then
          Job.print ("Files " ++ first ++ " and " ++ second ++ " are identical\n")
        return .same
      else compareFiles rules title first second (some firstTime) (some secondTime)
    | .directory, .directory =>
      if isTop || rules.descends then compareEntries rules (compare rules depth false) first second
      else
        Job.print ("Common subdirectories: " ++ first ++ " and " ++ second ++ "\n")
        return .same
    | .directory, .file _ =>
      if isTop then compare rules depth true (inDirectory first (lastPart second)) second
      else tellKinds first second firstKind secondKind
    | .file _, .directory =>
      if isTop then compare rules depth true first (inDirectory second (lastPart first))
      else tellKinds first second firstKind secondKind

/-- The forms of the options. -/
def optionForms : List OptionForm := [
  .flag 'i' (some "ignore-case"), .flag 'w' (some "ignore-all-space"),
  .flag 'b' (some "ignore-space-change"), .flag 'Z' (some "ignore-trailing-space"),
  .flag 'E' (some "ignore-tab-expansion"), .flag 'B' (some "ignore-blank-lines"),
  .flag 'a' (some "text"), .flag 'q' (some "brief"), .flag 's' (some "report-identical-files"),
  .flag 'r' (some "recursive"), .flag 'N' (some "new-file"), .flag 'u', .value 'U', .flag 'c',
  .value 'C', .named "unified" .optional, .named "context" .optional, .value 'L' (some "label"),
  .flag 'd' (some "minimal"), .flag 'H' (some "speed-large-files"), .flag 't' (some "expand-tabs"),
  .flag 'T' (some "initial-tab"), .flag 'p' (some "show-c-function"), .named "normal",
  .named "strip-trailing-cr", .named "color" .optional, .named "no-dereference", .named "help",
  .flag 'v' (some "version")]

/-- The number of lines around changes that an option gives. -/
def aroundOf (value : Option String) : Nat := (value.bind (·.toNat?)).getD 3

/-- Takes over an option. -/
def Rules.withOption (rules : Rules) (key : String) (value : Option String) : Rules :=
  match key with
  | "i" => { rules with ignoresCase := true }
  | "w" => { rules with ignoresBlanks := true }
  | "b" => { rules with squeezesBlanks := true }
  | "Z" => { rules with ignoresEnds := true }
  | "B" => { rules with ignoresEmpty := true }
  | "a" => { rules with isText := true }
  | "q" => { rules with style := .brief }
  | "s" => { rules with tellsEqual := true }
  | "r" => { rules with descends := true }
  | "N" => { rules with addsMissing := true }
  | "u" | "p" => { rules with style := .unified 3 }
  | "U" | "unified" => { rules with style := .unified (aroundOf value) }
  | "c" => { rules with style := .context 3 }
  | "C" | "context" => { rules with style := .context (aroundOf value) }
  | "L" => { rules with labels := rules.labels ++ value.toList }
  | "strip-trailing-cr" => { rules with dropsReturns := true }
  | _ => rules

/-- The options among arguments as they were given. -/
def givenOptions (arguments operands : List String) : List String :=
  match arguments with
  | [] => []
  | argument :: later =>
    if argument == "--" then []
    else if operands.head? == some argument then givenOptions later operands.tail
    else argument :: givenOptions later operands

/-- Refuses the arguments. -/
def refuse (text : String) : Job Nat := do
  Job.complainAs text
  Job.complainAs ("Try '" ++ (← read).name ++ " --help' for more information.")
  return 2

/-- Tells how files differ. -/
def tellDifferences : Job Nat := do
  let process ← read
  match Given.read optionForms false process.arguments with
  | .error fault => refuse fault.message
  | .ok given =>
    if given.has "help" || given.has "v" then return 0
    else
      let rules := given.options.foldl (fun rules (key, value) => rules.withOption key value)
        ({ given := givenOptions process.arguments given.operands } : Rules)
      match given.operands with
      | [first, second] =>
        return (← compare rules 100 true first second).code
      | _ :: _ :: extra :: _ => refuse ("extra operand '" ++ extra ++ "'")
      | operands =>
        refuse ("missing operand after '" ++ operands.head?.getD process.name ++ "'")

end ProfileGraph.Utility.Difference

/-! The utility that compares two files byte by byte. It tells the first byte that differs,
or all of them. -/
namespace ProfileGraph.Utility.Difference
open Host

/-- How bytes are compared. -/
structure ByteRules where
  isSilent : Bool := false
  tellsAll : Bool := false
  showsBytes : Bool := false
  limit : Option Nat := none

/-- A byte as it is shown: control characters by the letters with which they are typed. -/
def byteText (c : Char) : String :=
  let n := c.toNat
  let (mark, n) := if 128 ≤ n then ("M-", n - 128) else ("", n)
  if n < 32 then mark ++ "^" ++ String.singleton (Char.ofNat (n + 64))
  else if n = 127 then mark ++ "^?"
  else mark ++ String.singleton (Char.ofNat n)

/-- The number of a byte in octal digits, with blanks in front. -/
def octalByte (c : Char) : String := padLeft 3 (octalText 1 c.toNat)

/-- The places, counted from one on, at which two texts differ, with what stands there. -/
def differingBytes : List Char → List Char → Nat → List (Nat × Char × Char)
  | c :: first, d :: second, place =>
    if c == d then differingBytes first second (place + 1)
    else (place, c, d) :: differingBytes first second (place + 1)
  | _, _, _ => []

/-- Tells that a text, which stands in a file, ended before another one. -/
def tellEnd (rules : ByteRules) (name : String) (text : List Char) : Job Unit := do
  if !rules.isSilent then
    let lines := text.count '\n'
    let behind :=
      if text.isEmpty then " which is empty"
      else if rules.tellsAll then " after byte " ++ toString text.length
      else
        let line :=
          if text.getLast? == some '\n' then ", line " ++ toString lines
          else ", in line " ++ toString (lines + 1)
        " after byte " ++ toString text.length ++ line
    Job.complainAs ("EOF on " ++ name ++ behind)

/-- Compares two texts. -/
def compareBytes (rules : ByteRules) (firstName secondName : String) (first second : List Char) :
    Job Nat := do
  let shorter := min first.length second.length
  let tellShorter : Job Unit :=
    if first.length < second.length then tellEnd rules firstName first
    else if second.length < first.length then tellEnd rules secondName second
    else return
  match differingBytes first second 1 with
  | [] =>
    tellShorter
    return if first.length == second.length then 0 else 1
  | (place, c, d) :: later =>
    if rules.isSilent then return 1
    else if rules.tellsAll then
      let width := (toString shorter).length
      for (place, c, d) in (place, c, d) :: later do
        let number := padLeft width (toString place)
        let shown :=
          if rules.showsBytes then
            octalByte c ++ " " ++ padRight 4 (byteText c) ++ " " ++ octalByte d ++ " " ++ byteText d
          else octalByte c ++ " " ++ octalByte d
        Job.print (number ++ " " ++ shown ++ "\n")
      tellShorter
      return 1
    else
      let line := (first.take (place - 1)).count '\n' + 1
      let word := if rules.showsBytes then "byte " else "char "
      let shown :=
        if rules.showsBytes then
          " is " ++ octalByte c ++ " " ++ byteText c ++ " " ++ octalByte d ++ " " ++ byteText d
        else ""
      Job.print (firstName ++ " " ++ secondName ++ " differ: " ++ word ++ toString place ++ ", line "
        ++ toString line ++ shown ++ "\n")
      return 1

/-- The numbers of bytes that are skipped in both files. -/
def skips? (text : String) : Option (Nat × Nat) :=
  match text.splitOn ":" with
  | [both] => (count? both).map fun n => (n, n)
  | [first, second] => do return (← count? first, ← count? second)
  | _ => none

/-- Compares two files byte by byte. -/
def tellFirstDifference : Job Nat := do
  let process ← read
  let forms : List OptionForm := [
    .flag 's' (some "quiet"), .named "silent", .flag 'l' (some "verbose"),
    .flag 'b' (some "print-bytes"), .value 'n' (some "bytes"), .value 'i' (some "ignore-initial"),
    .flag 'v' (some "version"), .named "help"]
  match Given.read forms false process.arguments with
  | .error fault => refuse fault.message
  | .ok given =>
    if given.has "help" || given.has "v" then return 0
    let operands := given.operands
    let first := operands.headD ""
    let second := operands[1]?.getD "-"
    let rules : ByteRules := {
      isSilent := given.has "s" || given.has "silent"
      tellsAll := given.has "l"
      showsBytes := given.has "b"
      limit := (given.value? "n").bind count? }
    if operands.isEmpty then refuse ("missing operand after '" ++ process.name ++ "'")
    else if 4 < operands.length then
      refuse ("extra operand '" ++ operands[4]?.getD "" ++ "'")
    else
      let skip (index : Nat) (given : Nat) : Nat := ((operands[index]?).bind count?).getD given
      match skips? ((given.value? "i").getD "0") with
      | none => refuse ("invalid --ignore-initial value '" ++ (given.value? "i").getD "" ++ "'")
      | some (firstSkip, secondSkip) =>
        let cut (text : String) (count : Nat) : List Char :=
          let rest := text.toList.drop count
          match rules.limit with
          | some limit => rest.take limit
          | none => rest
        let complain (path : String) (reason : OsError) : Job Nat := do
          if !rules.isSilent then Job.complainAs (path ++ ": " ++ reason.description)
          return 2
        match (← readInput first) with
        | .error reason => complain first reason
        | .ok firstText =>
          if first == second then return 0
          else match (← readInput second) with
            | .error reason => complain second reason
            | .ok secondText =>
              compareBytes rules first second (cut firstText (skip 2 firstSkip))
                (cut secondText (skip 3 secondSkip))

end ProfileGraph.Utility.Difference
