import ProfileGraph.StandIn.Utility.Edit.Reader
import ProfileGraph.StandIn.Utility.Naming

/-! Running editing scripts. Each line is taken into the pattern space, the commands
that are for it run in their order, and what is left is printed. -/
namespace ProfileGraph.Utility.Edit
open Host

/-- A place to which edited text goes. -/
structure Output where
  /-- The open file, if there is one. -/
  number : Option Nat
  /-- What has been written; the standard output is written at the end. -/
  text : String := ""
  /-- The last line has no end so far. -/
  isUnfinished : Bool := false

/-- Puts text behind what was written. A line without an end gets one first. -/
def Output.write (output : Output) (text : String) (isUnfinished : Bool := false) : Output :=
  { output with
    text := (if output.isUnfinished then output.text ++ "\n" else output.text) ++ text
    isUnfinished }

/-- Text that is put behind the line at the end of its turn. -/
inductive Appended where
  | text (text : String)
  | file (text : String)

/-- How a script is run. -/
structure Settings where
  quiet : Bool := false
  separate : Bool := false
  mark : Char := '\n'
  width : Nat := 70

/-- The state of a run. -/
structure Run where
  /-- The lines that were not read, and the inputs behind them. -/
  lines : List Line := []
  name : String := "-"
  inputs : List (String × List Line) := []
  number : Nat := 0
  pattern : Line := ⟨"", true⟩
  held : Line := ⟨"", true⟩
  appended : List Appended := []
  replaced : Bool := false
  /-- The ranges that have started: the command and where the range ends. -/
  ranges : List (Nat × RangeEnd) := []
  lastSearch : Option Search := none
  output : Output
  /-- The files that are written, by their names. -/
  files : List (String × Output) := []
  /-- The files that are read line by line. -/
  readers : List (String × List Line) := []

/-- What is done next. -/
inductive Outcome where
  /-- The pattern space is printed, and the next line is read. -/
  | finished
  /-- The next line is read. -/
  | dropped
  /-- The commands run again without reading a line. -/
  | again
  /-- The pattern space is printed, and the run ends. -/
  | quit (code : Nat)
  | quitSilently (code : Nat)
  /-- There was nothing to look for. -/
  | failed
deriving DecidableEq

/-- Steps of a run. -/
abbrev Editing := ReaderT Settings (StateT Run Job)

namespace Editing

/-- The character that ends a line, as a text. -/
def mark : Editing String := do return String.singleton (← read).mark

/-- Writes to the output. -/
def emit (text : String) (isUnfinished : Bool := false) : Editing Unit :=
  modify fun run => { run with output := run.output.write text isUnfinished }

/-- A line with its end, if it has one. -/
def withEnd (line : Line) : Editing String := do
  let mark ← mark
  return if line.ended then line.text ++ mark else line.text

/-- Writes a line to the output. -/
def emitLine (line : Line) : Editing Unit := do
  emit (← withEnd line) (!line.ended)

/-- The file that stands for the output. -/
def outputPath : String := "/dev/stdout"

/-- Writes a line to a file. -/
def writeLine (path : String) (line : Line) : Editing Unit := do
  let text ← withEnd line
  modify fun run =>
    let written := run.files.map fun (name, output) =>
      if name == path then (name, output.write text (!line.ended)) else (name, output)
    if path == outputPath then
      let new := String.join ((written.filter (·.1 == path)).map (·.2.text))
      { run with
        files := written.map fun (name, output) =>
          if name == path then (name, { output with text := "" }) else (name, output)
        output := { run.output with text := run.output.text ++ new } }
    else { run with files := written }

/-- Writes what was put behind the line. -/
def flushAppended : Editing Unit := do
  let appended := (← get).appended
  modify fun run => { run with appended := [] }
  for item in appended do
    match item with
    | .text text => emit text
    | .file text => unless text.isEmpty do emit text

/-- Whether all lines were read. -/
def atEnd : Editing Bool := do
  let run ← get
  return run.lines.isEmpty && ((← read).separate || run.inputs.all (·.2.isEmpty))

/-- Reads the next line, if there is one. -/
def nextLine? : Editing (Option Line) := do
  flushAppended
  let run ← get
  match run.lines with
  | line :: lines =>
    set { run with lines, number := run.number + 1 }
    return some line
  | [] =>
    if (← read).separate then return none
    else match run.inputs.dropWhile (·.2.isEmpty) with
      | (name, line :: lines) :: inputs =>
        set { run with lines, name, inputs, number := run.number + 1 }
        return some line
      | _ => return none

/-- Where the last match of a search lies in a text. The result is missing if there
was nothing to look for. -/
def find? (search : Search) (text : Array Char) (start : Nat) :
    Editing (Option (Option RegularExpression.Match)) := do
  let search ← match search.expression with
    | some _ => pure (some search)
    | none => pure (← get).lastSearch
  match search.bind fun search => search.expression.map fun expression => (search, expression) with
  | none => return none
  | some (search, expression) =>
    modify fun run => { run with lastSearch := some search }
    return some (expression.matchFrom?
      { chars := text, ignoresCase := search.ignoresCase, hasLines := search.hasLines } start)

/-- Whether an address is that of the line. The result is missing if there was
nothing to look for. -/
def isAt (address : Address) : Editing (Option Bool) := do
  let run ← get
  match address with
  | .line number => return some (run.number == number)
  | .every first step =>
    return some (if step = 0 then run.number == first
      else first ≤ run.number && (run.number - first) % step == 0)
  | .last => return some (← atEnd)
  | .found search =>
    return (← find? search run.pattern.text.toList.toArray 0).map (·.isSome)

/-- The range that a command has started. -/
def startRange (command : Nat) (stop : RangeEnd) : Editing Unit :=
  modify fun run => { run with ranges := (command, stop) :: run.ranges }

/-- Notes that the range of a command is over. -/
def endRange (command : Nat) : Editing Unit :=
  modify fun run => { run with ranges := run.ranges.filter (·.1 != command) }

/-- Whether a command is for the line. -/
def isFor (command : Command) (index : Nat) : Editing (Option Bool) := do
  let number := (← get).number
  match command.start, command.stop with
  | none, _ => return some true
  | some start, none => isAt start
  | some start, some stop =>
    match (← get).ranges.lookup index with
    | some (.address (.line last)) =>
      if last ≤ number then endRange index
      return some (number ≤ last)
    | some (.address address) =>
      match (← isAt address) with
      | none => return none
      | some isLast =>
        if isLast then endRange index
        return some true
    | some _ => return some true
    | none =>
      match (← isAt start) with
      | none => return none
      | some false => return some false
      | some true =>
        let last? := match stop with
          | .address (.line last) => some last
          | .linesLater count => some (number + count)
          | .multiple of =>
            some (if of = 0 then number else (number + of - 1) / of * of)
          | .address _ => none
        match last? with
        | some last => if number < last then startRange index (.address (.line last))
        | none => startRange index stop
        return some true

/-- A text while parts are put behind it, with the case that letters get. -/
structure Building where
  chars : Array Char := #[]
  /-- The case of all letters. -/
  all : Option Bool := none
  /-- The case of the next letter. -/
  first : Option Bool := none

/-- A letter in another case. -/
def recased (isUpper : Option Bool) (c : Char) : Char :=
  match isUpper with
  | some true => c.toUpper
  | some false => c.toLower
  | none => c

/-- Puts a text behind another one. -/
def Building.add (building : Building) (text : List Char) : Building :=
  match text with
  | [] => building
  | c :: rest =>
    let start := building.chars.push (recased (building.first <|> building.all) c)
    { building with
      chars := rest.foldl (fun chars c => chars.push (recased building.all c)) start
      first := none }

/-- Puts the parts of a replacement behind a text. -/
def Building.addParts (building : Building) (chars : Array Char) (found : RegularExpression.Match)
    (parts : List ReplacementPart) : Building :=
  let done := parts.foldl (fun building part =>
    match part with
    | .text text => building.add text.toList
    | .group number => match found.group? number with
      | some (start, stop) => building.add (chars.extract start stop).toList
      | none => building
    | .change .upper => { building with all := some true }
    | .change .lower => { building with all := some false }
    | .change .upperNext => { building with first := some true }
    | .change .lowerNext => { building with first := some false }
    | .change .stop => { building with all := none, first := none }) building
  { chars := done.chars }

/-- Replaces what is found from a position on. `skipped` counts the matches before,
and `lastStop` is the end of the last one. The fuel bounds the number of matches;
the result is missing if there was nothing to look for. -/
def replaceFrom (substitution : Substitution) (chars : Array Char) :
    Nat → Nat → Nat → Option Nat → Building → Bool → Editing (Option (Building × Bool))
  | 0, _, _, _, building, replaced => return some (building, replaced)
  | fuel + 1, start, skipped, lastStop, building, replaced => do
    let copy (building : Building) (first last : Nat) : Building :=
      { building with chars := building.chars ++ chars.extract first last }
    match (← find? substitution.search chars start) with
    | none => return none
    | some none => return some (copy building start chars.size, replaced)
    | some (some found) =>
      let building := copy building start found.start
      let isEmpty := found.start == found.stop
      if isEmpty && lastStop == some found.start then
        if chars.size ≤ found.start then return some (building, replaced)
        else
          replaceFrom substitution chars fuel (found.start + 1) skipped none
            (copy building found.start (found.start + 1)) replaced
      else
        let counts := substitution.first ≤ skipped + 1
        let building :=
          if counts then building.addParts chars found substitution.parts
          else copy building found.start found.stop
        if counts && !substitution.everywhere then
          return some (copy building found.stop chars.size, true)
        else if isEmpty then
          if chars.size ≤ found.start then return some (building, replaced || counts)
          else
            replaceFrom substitution chars fuel (found.start + 1) (skipped + 1) none
              (copy building found.start (found.start + 1)) (replaced || counts)
        else
          replaceFrom substitution chars fuel found.stop (skipped + 1) (some found.stop) building
            (replaced || counts)

/-- Replaces in the pattern space. -/
def substitute (substitution : Substitution) : Editing Bool := do
  let pattern := (← get).pattern
  let chars := pattern.text.toList.toArray
  match (← replaceFrom substitution chars (2 * chars.size + 2) 0 0 none {} false) with
  | none => return false
  | some (building, replaced) =>
    if replaced then
      modify fun run => { run with
        pattern := { pattern with text := String.ofList building.chars.toList }, replaced := true }
      if substitution.prints then emitLine (← get).pattern
      if let some path := substitution.file then writeLine path (← get).pattern
    return true

/-- The written form of characters, in which all of them can be seen. -/
def visibleForm (c : Char) : String :=
  match c with
  | '\\' => "\\\\"
  | '\x07' => "\\a"
  | '\x08' => "\\b"
  | '\x0c' => "\\f"
  | '\n' => "\\n"
  | '\r' => "\\r"
  | '\t' => "\\t"
  | '\x0b' => "\\v"
  | c =>
    if ' ' ≤ c && c ≤ '~' then String.singleton c
    else "\\" ++ octalText 3 c.toNat

/-- Puts forms into lines of a width. -/
def wrapped (width : Nat) (forms : List String) : String :=
  let (done, line) := forms.foldl (fun (done, line) (form : String) =>
    if 0 < width && width - 1 < line.length + form.length then (done ++ line ++ "\\\n", form)
    else (done, line ++ form)) ("", "")
  done ++ line ++ "$\n"

/-- The first line of the pattern space, and the rest if there is one. -/
def splitFirst (text : String) : List Char × Option (List Char) :=
  let first := text.toList.takeWhile (· != '\n')
  let rest := text.toList.drop first.length
  (first, if rest.isEmpty then none else some (rest.drop 1))

/-- Reads a file for output, or nothing if it cannot be read. -/
def fileText (path : String) : Editing String := do
  match (← (liftM (readInput (if path == "/dev/stdin" then "-" else path)) :
      Editing (Except OsError String))) with
  | .ok text => return text
  | .error _ => return ""

/-- Puts a text in the place of the line that is edited. -/
def setPattern (text : String) : Editing Unit :=
  modify fun run => { run with pattern := { run.pattern with text } }

/-- Does what a simple command does. Commands that decide what is done next have a
result. -/
def perform (action : Action) (isInRange : Bool) : Editing (Option Outcome) := do
  let run ← get
  match action with
  | .append text =>
    set { run with appended := run.appended ++ [Appended.text text] }
    return none
  | .insert text =>
    emit text
    return none
  | .change text =>
    unless isInRange do emit text
    return some .dropped
  | .delete => return some .dropped
  | .deleteFirstLine =>
    match splitFirst run.pattern.text with
    | (_, none) => return some .dropped
    | (_, some rest) =>
      setPattern (String.ofList rest)
      return some .again
  | .printName =>
    emit (run.name ++ "\n")
    return none
  | .takeHeld =>
    set { run with pattern := run.held }
    return none
  | .appendHeld =>
    let mark ← mark
    set { run with pattern := { run.held with text := run.pattern.text ++ mark ++ run.held.text } }
    return none
  | .hold =>
    set { run with held := run.pattern }
    return none
  | .holdMore =>
    let mark ← mark
    set { run with held := { run.pattern with text := run.held.text ++ mark ++ run.pattern.text } }
    return none
  | .exchange =>
    set { run with pattern := run.held, held := run.pattern }
    return none
  | .list width =>
    emit (wrapped (width.getD (← read).width) (run.pattern.text.toList.map visibleForm))
    return none
  | .next =>
    if ← atEnd then return some (.quit 0)
    else
      unless (← read).quiet do emitLine run.pattern
      match (← nextLine?) with
      | some line =>
        modify fun run => { run with pattern := line }
        return none
      | none => return some (.quitSilently 0)
  | .appendNext =>
    if ← atEnd then return some (.quit 0)
    else match (← nextLine?) with
      | some line =>
        let mark ← mark
        modify fun run => { run with
          pattern := { line with text := run.pattern.text ++ mark ++ line.text } }
        return none
      | none => return some (.quit 0)
  | .print =>
    emitLine run.pattern
    return none
  | .printFirstLine =>
    let (first, _) := splitFirst run.pattern.text
    emit (String.ofList first ++ (← mark))
    return none
  | .quit code => return some (.quit code)
  | .quitSilently code => return some (.quitSilently code)
  | .readFile path =>
    let text ← fileText path
    modify fun run => { run with appended := run.appended ++ [Appended.file text] }
    return none
  | .readLine path =>
    let lines ← match run.readers.lookup path with
      | some lines => pure lines
      | none => pure (Line.all (← fileText path))
    modify fun run => { run with
      readers := (path, lines.drop 1) :: run.readers.filter (·.1 != path)
      appended := run.appended ++ (lines.take 1).map fun line => Appended.text (line.text ++ "\n") }
    return none
  | .substitute substitution =>
    return if ← substitute substitution then none else some .failed
  | .writeFile path =>
    writeLine path run.pattern
    return none
  | .writeFirstLine path =>
    writeLine path ⟨String.ofList (splitFirst run.pattern.text).1, true⟩
    return none
  | .exchangeChars pairs =>
    setPattern (String.ofList (run.pattern.text.toList.map fun c => (pairs.lookup c).getD c))
    return none
  | .printNumber =>
    emit (toString run.number ++ "\n")
    return none
  | .clear =>
    setPattern ""
    return none
  | .block _ | .nothing | .branch _ | .branchIfReplaced _ | .branchUnlessReplaced _ => return none

/-- Whether a branch is taken. -/
def takesBranch (action : Action) : Editing (Option (Option Nat)) := do
  let replaced := (← get).replaced
  match action with
  | .branch target => return some target
  | .branchIfReplaced target =>
    if replaced then
      modify fun run => { run with replaced := false }
      return some target
    else return none
  | .branchUnlessReplaced target =>
    if replaced then
      modify fun run => { run with replaced := false }
      return none
    else return some target
  | _ => return none

/-- Runs the commands from one on. The fuel bounds their number. -/
def runFrom (script : Script) : Nat → Nat → Editing Outcome
  | 0, _ => return .finished
  | fuel + 1, index => do
    match script.commands[index]? with
    | none => return .finished
    | some command =>
      match (← isFor command index) with
      | none => return .failed
      | some isForLine =>
        if isForLine == command.negated then
          match command.action with
          | .block stop => runFrom script fuel stop
          | _ => runFrom script fuel (index + 1)
        else match (← takesBranch command.action) with
          | some (some target) => runFrom script fuel target
          | some none => return .finished
          | none =>
            let isInRange := (← get).ranges.any (·.1 == index)
            match (← perform command.action (isInRange && !command.negated)) with
            | some outcome => return outcome
            | none => runFrom script fuel (index + 1)

/-- How many commands may run for one line. -/
def maxCommands : Nat := 200000

/-- Runs a script for lines until the run ends. The fuel bounds the number of turns;
the result is missing if there was nothing to look for. -/
def runAll (script : Script) : Nat → Bool → Editing (Option (Option Nat))
  | 0, _ => return some none
  | fuel + 1, reads => do
    let isThere ←
      if reads then
        match (← nextLine?) with
        | some line =>
          modify fun run => { run with pattern := line, replaced := false }
          pure true
        | none => pure false
      else
        flushAppended
        pure true
    if !isThere then return some none
    else
      let printAtEnd : Editing Unit := do
        unless (← read).quiet do emitLine (← get).pattern
      match (← runFrom script maxCommands 0) with
      | .finished =>
        printAtEnd
        runAll script fuel true
      | .dropped => runAll script fuel true
      | .again => runAll script fuel false
      | .quit code =>
        printAtEnd
        flushAppended
        return some (some code)
      | .quitSilently code => return some (some code)
      | .failed => return none

/-- How many turns a run may have. -/
def maxTurns : Nat := 10000000

/-- The ranges that have started in front of the first line. -/
def startRanges (script : Script) : List (Nat × RangeEnd) :=
  script.commands.toList.zipIdx.filterMap fun (command, index) =>
    match command.start, command.stop with
    | some (.line 0), some stop => some (index, stop)
    | _, _ => none

end Editing

/-- Writes what is kept for an output. -/
def Output.flush (output : Output) : Job Unit := do
  match output.number with
  | some number => let _ ← Job.writeOpen number output.text
  | none => Job.print output.text

/-- Complains that there was nothing to look for. -/
def complainAboutSearch : Job Nat := do
  Job.complainAs "-e expression #1, char 0: no previous regular expression"
  return 1

/-- Reads an input, or complains about it. The result says with which code the run
ends then, and whether it ends at once. -/
def readLines (mark : Char) (path : String) : Job (Except (Nat × Bool) (String × List Line)) := do
  match (← readInput path) with
  | .ok text => return .ok (path, Line.allBetween mark text)
  | .error .isDirectory =>
    Job.complainAs ("read error on " ++ path ++ ": " ++ OsError.isDirectory.description)
    return .error (4, true)
  | .error reason =>
    Job.complainAs ("can't read " ++ path ++ ": " ++ reason.description)
    return .error (2, false)

/-- Opens the files that a script writes. -/
def openFiles : List String → Job (Except (String × OsError) (List (String × Output)))
  | [] => return .ok []
  | path :: later => do
    match (← Job.openPath path .writing) with
    | .error reason => return .error (path, reason)
    | .ok number =>
      return (← openFiles later).map ((path, { number := some number }) :: ·)

/-- Edits inputs as one text, or each on its own, and prints the result. -/
def editAll (script : Script) (settings : Settings) (files : List (String × Output))
    (paths : List String) : Job Nat := do
  let mut texts := []
  let mut code := 0
  for path in paths do
    match (← readLines settings.mark path) with
    | .ok text => texts := texts ++ [text]
    | .error (given, isLast) =>
      code := given
      if isLast then break
  let groups := if settings.separate then texts.map fun text => [text] else [texts]
  let mut run : Run := { output := { number := none }, files, ranges := Editing.startRanges script }
  let mut isOver := false
  for group in groups do
    unless isOver do
      let (lines, name) := match group with
        | (name, lines) :: _ => (lines, name)
        | [] => ([], "-")
      let number := if settings.separate then 0 else run.number
      let (result, after) ← ((Editing.runAll script Editing.maxTurns true).run settings).run
        { run with lines, name, inputs := group.drop 1, number }
      run := after
      match result with
      | none =>
        code := (← complainAboutSearch)
        isOver := true
      | some (some given) =>
        code := if given = 0 then code else given
        isOver := true
      | some none => pure ()
  run.output.flush
  for (_, output) in run.files do output.flush
  return code

/-- Edits files in their places; what they held before may be kept under other
names. -/
def editInPlace (script : Script) (settings : Settings) (files : List (String × Output))
    (ending : String) (paths : List String) : Job Nat := do
  let mut code := 0
  let mut files := files
  let mut held : Line := ⟨"", true⟩
  let mut isOver := false
  for path in paths do
    unless isOver do
      match (← findNode path) with
      | .error reason =>
        Job.complainAs ("can't read " ++ path ++ ": " ++ reason.description)
        code := if code = 0 then 2 else code
      | .ok (place, node) =>
        if !node.isRegular then
          Job.complainAs ("couldn't edit " ++ path ++ ": not a regular file")
          code := 4
        else match (← readLines settings.mark path) with
          | .error (given, _) => code := given
          | .ok (name, lines) =>
            let start : Run := {
              lines, name, held, output := { number := none }, files
              ranges := Editing.startRanges script }
            let (result, run) ← ((Editing.runAll script Editing.maxTurns true).run settings).run start
            files := run.files
            held := run.held
            if !ending.isEmpty then
              let backup := if ending.toList.contains '*' then ending.replace "*" (lastPart path)
                else lastPart path ++ ending
              let target := if path.toList.contains '/' then below (frontPart path) backup else backup
              if let .ok number ← Job.openPath target .writing then
                match node.content with
                | .regular bytes => let _ ← Job.writeOpen number (Octets.ofBytes bytes)
                | _ => pure ()
            let bytes := Octets.toBytes run.output.text
            let _ ← Job.changeTree fun tree =>
              .ok (tree.tick.put place (.regular bytes) node.mode)
            match result with
            | none =>
              code := (← complainAboutSearch)
              isOver := true
            | some (some given) =>
              code := if given = 0 then code else given
              isOver := true
            | some none => pure ()
  for (_, output) in files do output.flush
  return code

/-- The parts of a script that options give, or else the first operand, and the other
operands. The result is missing if there is no script. -/
def scriptParts (given : Given) : Job (Except String (Option (List (Origin × String) × List String))) := do
  let mut parts := []
  let mut number := 0
  for (key, value) in given.options do
    match key, value with
    | "e", some text =>
      number := number + 1
      parts := parts ++ [(Origin.argument number, text)]
    | "f", some path =>
      match (← readInput path) with
      | .ok text =>
        let text := if text.endsWith "\n" then String.ofList (text.toList.dropLast) else text
        parts := parts ++ [(Origin.file path, text)]
      | .error reason => return .error ("couldn't open file " ++ path ++ ": " ++ reason.description)
    | _, _ => pure ()
  match given.operands with
  | [] => return .ok (if parts.isEmpty then none else some (parts, []))
  | script :: operands =>
    if parts.isEmpty then return .ok (some ([(.argument 1, script)], operands))
    else return .ok (some (parts, given.operands))

/-- Edits texts by a script. -/
def editStream : Job Nat :=
  withOptions [.flag 'n' "quiet", .named "silent", .value 'e' "expression", .value 'f' "file",
      .flag 'E' "regexp-extended", .flag 'r', ⟨some 'i', some "in-place", .optional⟩,
      .flag 's' "separate", .flag 'z' "null-data", .flag 'u' "unbuffered", .flag 'b' "binary",
      .value 'l' "line-length", .named "posix", .named "debug", .named "sandbox",
      .named "follow-symlinks"] fun given => do
    match (← scriptParts given) with
    | .error message =>
      Job.complainAs message
      return 4
    | .ok none =>
      Job.complain "Usage: sed [OPTION]... \x7bscript-only-if-no-other-script\x7d [input-file]..."
      return 1
    | .ok (some (texts, operands)) =>
      match Script.read (given.has "E" || given.has "r") texts with
      | .error fault =>
        Job.complainAs fault.message
        return fault.code
      | .ok script =>
        match (← openFiles script.files) with
        | .error (path, reason) =>
          Job.complainAs ("couldn't open file " ++ path ++ ": " ++ reason.description)
          return 4
        | .ok files =>
          let settings : Settings := {
            quiet := given.has "n" || given.has "silent" || script.quiet
            separate := given.has "s" || given.has "i"
            mark := if given.has "z" then '\x00' else '\n'
            width := ((given.value? "l").bind String.toNat?).getD 70 }
          if given.has "i" then
            editInPlace script settings files ((given.value? "i").getD "") operands
          else editAll script settings files (inputs operands)

end ProfileGraph.Utility.Edit
