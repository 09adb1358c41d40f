import ProfileGraph.StandIn.RegularExpression.Reader
import ProfileGraph.StandIn.Utility.Naming

/-! The utility that looks for lines in which expressions match. -/
namespace ProfileGraph.Utility.Search
open Host ProfileGraph.Path

/-- What is printed of the lines that were found. -/
inductive Report where
  | lines
  /-- Only what matched. -/
  | matches
  | count
  | namesWith
  | namesWithout
  | nothing
deriving DecidableEq, Repr

/-- How lines are looked for and printed. -/
structure Settings where
  expressions : List RegularExpression := []
  ignoresCase : Bool := false
  inverted : Bool := false
  wholeWords : Bool := false
  wholeLines : Bool := false
  report : Report := .lines
  silent : Bool := false
  numbers : Bool := false
  offsets : Bool := false
  names : Bool := false
  most : Option Nat := none
  before : Nat := 0
  after : Nat := 0
  separator : Option String := some "--"
  mark : Char := '\n'
  /-- Ends the names of files instead of a colon or a line end. -/
  zeroNames : Bool := false
  takesBytes : Bool := false
  label : String := "(standard input)"
  recursive : Bool := false
  skipsDirectories : Bool := false
  included : List String := []
  excluded : List String := []
  excludedDirectories : List String := []

namespace Settings

/-- Whether a match is as whole as it has to be. -/
def admits (settings : Settings) (subject : Subject) (start stop : Nat) : Bool :=
  (!settings.wholeLines || (start == 0 && stop == subject.chars.size))
    && (!settings.wholeWords
      || (!(0 < start && subject.isWordAt (start - 1)) && !subject.isWordAt stop))

/-- The longest match of one of the expressions that starts at a position. -/
def longestAt? (settings : Settings) (subject : Subject) (start : Nat) : Option Nat :=
  let stops := settings.expressions.flatMap fun expression =>
    (expression.reach subject expression.looksBack [{ position := start }]).map (·.position)
  (stops.filter (settings.admits subject start)).max?

/-- The first match at a position or behind it. -/
def matchFrom? (settings : Settings) (subject : Subject) (start : Nat) : Option (Nat × Nat) :=
  (List.range (subject.chars.size + 1 - start)).findSome? fun offset =>
    (settings.longestAt? subject (start + offset)).map fun stop => (start + offset, stop)

/-- All matches that are not empty. The fuel bounds their number. -/
def matchesFrom (settings : Settings) (subject : Subject) : Nat → Nat → List (Nat × Nat)
  | 0, _ => []
  | fuel + 1, start =>
    match settings.matchFrom? subject start with
    | none => []
    | some (first, last) =>
      if first == last then
        if subject.chars.size ≤ first then [] else matchesFrom settings subject fuel (first + 1)
      else (first, last) :: matchesFrom settings subject fuel last

/-- A text that patterns are matched with. -/
def subject (settings : Settings) (text : String) : Subject :=
  { chars := text.toList.toArray, ignoresCase := settings.ignoresCase }

/-- Whether a line is one of those that are looked for. -/
def selects (settings : Settings) (text : String) : Bool :=
  (settings.matchFrom? (settings.subject text) 0).isSome != settings.inverted

/-- What stands in front of a line. -/
def start (settings : Settings) (name : String) (number offset : Nat) (mark : String) : String :=
  (if settings.names then name ++ (if settings.zeroNames then "\x00" else mark) else "")
    ++ (if settings.numbers then toString number ++ mark else "")
    ++ (if settings.offsets then toString offset ++ mark else "")

end Settings

/-- A line of an input: its number, and how many bytes stand in front of it. -/
structure Place where
  number : Nat
  offset : Nat
  text : String
  selected : Bool

/-- The lines of an input. -/
def placesOf (settings : Settings) (text : String) : List Place :=
  let (places, _) := (Line.allBetween settings.mark text).foldl
    (fun ((places : Array Place), (number, offset)) line =>
      (places.push ⟨number, offset, line.text, settings.selects line.text⟩,
        (number + 1, offset + line.text.length + 1))) (#[], (1, 0))
  places.toList

/-- How many lines are looked at: those up to the last one that may be found. -/
def limited (most : Option Nat) (places : List Place) : List Place × List Place :=
  match most with
  | none => (places, [])
  | some most =>
    let length := (places.foldl (fun ((found, length) : Nat × Nat) place =>
      if found < most then (if place.selected then found + 1 else found, length + 1)
      else (found, length)) (0, 0)).2
    (places.take length, places.drop length)

/-- The numbers of the lines that are printed with the ones that were found. -/
def isNear (settings : Settings) (found : List Nat) (number : Nat) : Bool :=
  found.any fun other => other ≤ number + settings.before && number ≤ other + settings.after

/-- Prints the lines that were found, with those around them. -/
def printLines (settings : Settings) (name : String) (places : List Place)
    (hasPrinted : Bool) : Job Bool := do
  let (looked, behind) := limited settings.most places
  let found := (looked.filter (·.selected)).map (·.number)
  let lineEnd := String.singleton settings.mark
  let hasContext := 0 < settings.before || 0 < settings.after
  let later : List Place := behind.map fun place => { place with selected := false }
  let shown := (looked ++ later).filter fun place => isNear settings found place.number
  let mut last := none
  let mut hasPrinted := hasPrinted
  for place in shown do
    let follows := last == some (place.number - 1) && last.isSome
    if hasContext && hasPrinted && !follows then
      if let some separator := settings.separator then Job.print (separator ++ "\n")
    let mark := if place.selected then ":" else "-"
    Job.print (settings.start name place.number place.offset mark ++ place.text ++ lineEnd)
    last := some place.number
    hasPrinted := true
  return hasPrinted

/-- Prints what matched in the lines that were found. -/
def printMatches (settings : Settings) (name : String) (places : List Place) : Job Unit := do
  let (looked, _) := limited settings.most places
  unless settings.inverted do
    for place in looked do
      if place.selected then
        let subject := settings.subject place.text
        for (first, last) in settings.matchesFrom subject (subject.chars.size + 1) 0 do
          Job.print (settings.start name place.number (place.offset + first) ":"
            ++ String.ofList (subject.chars.extract first last).toList
            ++ String.singleton settings.mark)

/-- Looks for lines in a text. The result tells whether there were any, and whether
lines were printed. -/
def searchText (settings : Settings) (name text : String) (hasPrinted : Bool) :
    Job (Bool × Bool) := do
  let places := placesOf settings text
  let (looked, _) := limited settings.most places
  let count := (looked.filter (·.selected)).length
  let nameEnd := if settings.zeroNames then "\x00" else "\n"
  let hasBytes := text.toList.contains '\x00' && !settings.takesBytes && settings.mark != '\x00'
  match settings.report with
  | .nothing => return (0 < count, hasPrinted)
  | .count =>
    let start := if settings.names then
        name ++ (if settings.zeroNames then "\x00" else ":") else ""
    Job.print (start ++ toString count ++ "\n")
    return (0 < count, hasPrinted)
  | .namesWith =>
    if 0 < count then Job.print (name ++ nameEnd)
    return (0 < count, hasPrinted)
  | .namesWithout =>
    if count = 0 then Job.print (name ++ nameEnd)
    return (0 < count, hasPrinted)
  | .lines =>
    if hasBytes then
      if 0 < count then Job.complainAs (name ++ ": binary file matches")
      return (0 < count, hasPrinted)
    else
      let hasPrinted ← printLines settings name places hasPrinted
      return (0 < count, hasPrinted)
  | .matches =>
    if hasBytes then
      if 0 < count then Job.complainAs (name ++ ": binary file matches")
    else printMatches settings name places
    return (0 < count, hasPrinted)

/-- What a search has come to. -/
structure Progress where
  found : Bool := false
  failed : Bool := false
  hasPrinted : Bool := false

/-- Complains about an input, unless that is not wanted. -/
def complain (settings : Settings) (text : String) : Job Unit := do
  unless settings.silent do Job.complainAs text

/-- Whether an open file is the one to which the output goes. -/
def isOutput (number : Nat) : Job Bool := do
  let machine ← get
  match (← Job.openFile? 1) with
  | none => return false
  | some output =>
    return match machine.opened[number]?, machine.opened[output]? with
      | some { channel := .node input, .. }, some { channel := .node target, .. } => input == target
      | _, _ => false

/-- Looks for lines in an input. -/
def searchInput (settings : Settings) (path : String) (progress : Progress) : Job Progress := do
  let name := if path == "-" then settings.label else path
  match (← openInput path) with
  | .error reason =>
    complain settings (path ++ ": " ++ reason.description)
    return { progress with failed := true }
  | .ok number =>
    let checksOutput := match settings.report with
      | .lines | .matches => settings.most.all (1 < ·)
      | _ => false
    if checksOutput && (← isOutput number) then
      complain settings (name ++ ": input file is also the output")
      return { progress with failed := true }
    else match (← Job.readOpen number) with
      | .error reason =>
        if settings.skipsDirectories && reason = .isDirectory then return progress
        else
          complain settings (name ++ ": " ++ reason.description)
          let (_, hasPrinted) ← searchText settings name "" progress.hasPrinted
          return { progress with failed := true, hasPrinted }
      | .ok text =>
        let (found, hasPrinted) ← searchText settings name text progress.hasPrinted
        return { progress with found := progress.found || found, hasPrinted }

/-- Whether a name is one of those that a pattern stands for, in which an asterisk
stands for any text. -/
def fits (pattern : List Char) (name : List Char) : Bool :=
  match pattern, name with
  | [], name => name.isEmpty
  | '*' :: later, [] => fits later []
  | '*' :: later, c :: rest => fits later (c :: rest) || fits ('*' :: later) rest
  | '?' :: later, _ :: rest => fits later rest
  | c :: later, d :: rest => c == d && fits later rest
  | _ :: _, [] => false
termination_by (name.length, pattern.length)

/-- Whether a file that was met in a directory is looked at. -/
def Settings.includes (settings : Settings) (path : String) : Bool :=
  let fitsOne (patterns : List String) : Bool :=
    patterns.any fun pattern => fits pattern.toList (lastPart path).toList
  (settings.included.isEmpty || fitsOne settings.included) && !fitsOne settings.excluded

/-- Looks for lines in all files below a path. The fuel bounds the depth. -/
def searchTree (settings : Settings) : Nat → Bool → String → Progress → Job Progress
  | 0, _, _, progress => return progress
  | fuel + 1, isTop, path, progress => do
    match (← findNode path) with
    | .error reason =>
      complain settings (path ++ ": " ++ reason.description)
      return { progress with failed := true }
    | .ok (place, node) =>
      if node.isDirectory then
        let isExcluded := settings.excludedDirectories.any fun pattern =>
          fits pattern.toList (lastPart path).toList
        if isExcluded && !isTop then return progress
        else
          let mut progress := progress
          for name in (← Job.tree).names place do
            let inner := if path == "." && settings.label == "" then Octets.ofText name
              else below path (Octets.ofText name)
            if !(← isLink inner) then
              progress := (← searchTree settings fuel false inner progress)
          return progress
      else if !settings.includes path then return progress
      else searchInput settings path progress

/-- How the utility is used. -/
def tellUse : Job Nat := do
  let name := (← read).name
  Job.complain ("Usage: " ++ name ++ " [OPTION]... PATTERNS [FILE]...")
  Job.complain ("Try '" ++ name ++ " --help' for more information.")
  return 2

/-- The expressions of patterns, one in each line. -/
def expressionsOf (given : Given) (text : String) :
    Except RegularExpression.Fault (List RegularExpression.Written) :=
  let lines := text.splitOn "\n"
  lines.mapM fun line =>
    match given.last? ["E", "F", "G", "P"] with
    | some "F" =>
      .ok {
        expression := line.toList.foldr (fun c later => .both (.char c) later) .empty
        groups := 0
        idle := [] }
    | key => RegularExpression.read { extended := key == some "E" || key == some "P" } line.toList

/-- The patterns that were given, and the other operands. The result is missing if
there are none. -/
def patternsOf (given : Given) : Job (Except String (Option (List String × List String))) := do
  let mut patterns := []
  let mut isGiven := false
  for (key, value) in given.options do
    match key, value with
    | "e", some text =>
      patterns := patterns ++ [text]
      isGiven := true
    | "f", some path =>
      isGiven := true
      match (← readInput path) with
      | .ok text => patterns := patterns ++ lineTexts text
      | .error reason => return .error (path ++ ": " ++ reason.description)
    | _, _ => pure ()
  if isGiven then return .ok (some (patterns, given.operands))
  else match given.operands with
    | [] => return .ok none
    | pattern :: operands => return .ok (some ([pattern], operands))

/-- The options. -/
def forms : List OptionForm :=
  [.flag 'E' "extended-regexp", .flag 'F' "fixed-strings", .flag 'G' "basic-regexp",
    .flag 'P' "perl-regexp", .value 'e' "regexp", .value 'f' "file", .flag 'i' "ignore-case",
    .flag 'y', .named "no-ignore-case", .flag 'v' "invert-match", .flag 'w' "word-regexp",
    .flag 'x' "line-regexp", .flag 'c' "count", ⟨none, some "color", .optional⟩,
    ⟨none, some "colour", .optional⟩, .flag 'L' "files-without-match",
    .flag 'l' "files-with-matches", .value 'm' "max-count", .flag 'o' "only-matching",
    .flag 'q' "quiet", .named "silent", .flag 's' "no-messages", .flag 'b' "byte-offset",
    .flag 'H' "with-filename", .flag 'h' "no-filename", .named "label" .required,
    .flag 'n' "line-number", .flag 'T' "initial-tab", .flag 'Z' "null", .value 'A' "after-context",
    .value 'B' "before-context", .value 'C' "context", .named "group-separator" .required,
    .named "no-group-separator", .flag 'a' "text", .named "binary-files" .required,
    .value 'D' "devices", .value 'd' "directories", .named "exclude" .required,
    .named "exclude-from" .required, .named "exclude-dir" .required, .flag 'I',
    .named "include" .required, .flag 'r' "recursive", .flag 'R' "dereference-recursive",
    .named "line-buffered", .flag 'U' "binary", .flag 'z' "null-data", .flag 'V', .flag 'u']

/-- Looks for lines with settings that were read. -/
def search (settings : Settings) (operands : List String) : Job Nat := do
  let mut progress : Progress := {}
  let paths :=
    if !operands.isEmpty then operands else if settings.recursive then ["."] else ["-"]
  for path in paths do
    if settings.report = .nothing && progress.found then break
    if settings.recursive && path != "-" then
      let settings := if operands.isEmpty then { settings with label := "" } else settings
      progress := (← searchTree settings FileTree.maxPathLength true path progress)
    else progress := (← searchInput settings path progress)
  let isQuiet := settings.report = .nothing
  return if progress.failed && !(isQuiet && progress.found) then 2
    else if progress.found then 0 else 1

/-- What is printed, as the options say. -/
def reportOf (given : Given) : Report :=
  if given.has "q" || given.has "silent" then .nothing
  else match given.last? ["l", "L"] with
    | some "l" => .namesWith
    | some _ => .namesWithout
    | none =>
      if given.has "c" then .count else if given.has "o" then .matches else .lines

/-- Looks for lines as the options say. -/
def searchGiven (given : Given) : Job Nat := do
  let context (key : String) : Except String (Option Nat) :=
    match given.value? key with
    | none => .ok none
    | some text => match text.toNat? with
      | some n => .ok (some n)
      | none => .error text
  match context "A", context "B", context "C" with
  | .ok after, .ok before, .ok around =>
    let most := given.value? "m"
    if most.any fun text => (text.toInt?).isNone then
      Job.complainAs "invalid max count"
      return 2
    else match (← patternsOf given) with
      | .error message =>
        Job.complainAs message
        return 2
      | .ok none => tellUse
      | .ok (some (patterns, operands)) =>
        match patterns.flatMapM (expressionsOf given) with
        | .error fault =>
          Job.complainAs fault.message
          return 2
        | .ok written =>
          for mark in written.flatMap (·.idle) do
            Job.complainAs ("warning: " ++ mark ++ " at start of expression")
          let recursive := given.has "r" || given.has "R"
          let many := 1 < operands.length || (recursive && !(operands.any (· == "-")))
          let settings : Settings := {
            expressions := written.map (·.expression)
            ignoresCase := given.last? ["i", "y", "no-ignore-case"] matches some "i" | some "y"
            inverted := given.has "v", wholeWords := given.has "w", wholeLines := given.has "x"
            report := reportOf given, silent := given.has "s"
            numbers := given.has "n", offsets := given.has "b"
            names := match given.last? ["H", "h"] with
              | some "H" => true
              | some _ => false
              | none => many
            most := most.bind fun text => (text.toInt?).bind fun n => if n < 0 then none else some n.toNat
            before := if given.has "o" then 0 else (before <|> around).getD 0
            after := if given.has "o" then 0 else (after <|> around).getD 0
            separator := if given.has "no-group-separator" then none
              else some ((given.value? "group-separator").getD "--")
            mark := if given.has "z" then '\x00' else '\n'
            zeroNames := given.has "Z"
            takesBytes := given.has "a" || given.value? "binary-files" == some "text"
            label := (given.value? "label").getD "(standard input)"
            recursive
            skipsDirectories := given.value? "d" == some "skip"
            included := given.values "include", excluded := given.values "exclude"
            excludedDirectories := given.values "exclude-dir" }
          if settings.most == some 0 then return 1 else search settings operands
  | .error text, _, _ | _, .error text, _ | _, _, .error text =>
    Job.complainAs (text ++ ": invalid context length argument")
    return 2

/-- Arguments in which counts of lines around a match are written as options. -/
def modernArguments (arguments : List String) : List String :=
  arguments.flatMap fun argument =>
    match argument.toList with
    | '-' :: c :: rest =>
      if (c :: rest).all Char.isDigit then ["-C", String.ofList (c :: rest)] else [argument]
    | _ => [argument]

/-- Looks for lines in which expressions match. `standard` is the option that is
given in any case. -/
def searchLines (standard : Option String) : Job Nat := do
  let arguments := standard.toList ++ modernArguments (← read).arguments
  match Given.read forms false arguments with
  | .error fault =>
    Job.complainAs fault.message
    tellUse
  | .ok given =>
    if given.has "help" || given.has "version" || given.has "V" then return 0
    else searchGiven given

end ProfileGraph.Utility.Search
