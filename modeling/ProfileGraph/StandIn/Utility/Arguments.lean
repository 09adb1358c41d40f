import ProfileGraph.StandIn.Host.Launch
import ProfileGraph.StandIn.Utility.Input

/-! The utility that reads arguments and runs a program with them. Arguments are words
between blanks, in which quotes and backslashes protect characters, or texts between
marks. -/
namespace ProfileGraph.Utility.Arguments
open Host

/-- How arguments are given to programs. -/
inductive Grouping where
  /-- As many as there are. -/
  | all
  /-- A number of arguments for each program. -/
  | count (n : Nat)
  /-- A number of lines for each program. -/
  | lines (n : Nat)
  /-- A line for each program, which takes the place of a text. -/
  | replace (text : String)
deriving DecidableEq, Repr

/-- An argument that was read. -/
structure Item where
  text : String
  /-- It is the last one of its line. -/
  endsLine : Bool := false
deriving DecidableEq, Repr

/-- The arguments that were read, and why nothing more could be read. -/
structure Items where
  items : List Item := []
  /-- The quote that is not closed. -/
  openQuote : Option Char := none
deriving Repr

/-- Puts an item in front of others. -/
def Items.after (text : String) (endsLine : Bool) (later : Items) : Items :=
  { later with items := { text, endsLine } :: later.items }

/-- Reads a word up to its end: the word, and the text from its end on. The error is a
quote that is not closed. `isEnd` says what ends it; the fuel bounds the length. -/
def wordFrom (isEnd : Char → Bool) : Nat → List Char → Except Char (List Char × List Char)
  | 0, text => .ok ([], text)
  | _, [] => .ok ([], [])
  | fuel + 1, '\\' :: rest =>
    match rest with
    | [] => .ok ([], [])
    | c :: rest => (wordFrom isEnd fuel rest).map fun (word, rest) => (c :: word, rest)
  | fuel + 1, c :: rest =>
    if isEnd c then .ok ([], c :: rest)
    else if c == '\'' || c == '"' then
      let inside := rest.takeWhile fun d => d != c && d != '\n'
      match rest.drop inside.length with
      | d :: rest =>
        if d == c then
          (wordFrom isEnd fuel rest).map fun (word, rest) => (inside ++ word, rest)
        else .error c
      | [] => .error c
    else (wordFrom isEnd fuel rest).map fun (word, rest) => (c :: word, rest)

/-- Whether a character stands between words of a line. -/
def isGap (c : Char) : Bool := c == ' ' || c == '\t'

/-- Whether a character stands between words. -/
def isBlank (c : Char) : Bool := isGap c || c == '\n'

/-- Reads words between blanks. A blank at the end of a line lets the next one go on with
it. The fuel bounds the length. -/
def readWords : Nat → List Char → Items
  | 0, _ => {}
  | fuel + 1, text =>
    match text.dropWhile isBlank with
    | [] => {}
    | text =>
      match wordFrom isBlank (text.length + 1) text with
      | .error quote => { openQuote := some quote }
      | .ok (word, rest) =>
        (readWords fuel rest).after (String.ofList word) (rest.head? == some '\n')

/-- Reads lines without the blanks in front of them. The fuel bounds the length. -/
def readLines : Nat → List Char → Items
  | 0, _ => {}
  | fuel + 1, text =>
    match text.dropWhile isBlank with
    | [] => {}
    | text =>
      match wordFrom (· == '\n') (text.length + 1) text with
      | .error quote => { openQuote := some quote }
      | .ok (line, rest) => (readLines fuel rest).after (String.ofList line) true

/-- The texts between marks. -/
def readMarked (mark : Char) (text : String) : Items :=
  { items := (Line.allBetween mark text).map fun line => { text := line.text, endsLine := true } }

/-- Cuts items after a number of line ends. -/
def groupLines (count : Nat) : List Item → Nat → List String → List (List String)
  | [], _, group => if group.isEmpty then [] else [group.reverse]
  | item :: later, ended, group =>
    let ended := if item.endsLine then ended + 1 else ended
    if ended = count then (item.text :: group).reverse :: groupLines count later 0 []
    else groupLines count later ended (item.text :: group)

/-- Cuts texts into groups of a size. -/
def groupTexts (size : Nat) : List String → List String → List (List String)
  | [], group => if group.isEmpty then [] else [group.reverse]
  | text :: later, group =>
    if group.length + 1 = size then (text :: group).reverse :: groupTexts size later []
    else groupTexts size later (text :: group)

/-- The arguments of each program. A group that is not full is left out if nothing more
could be read. -/
def groups (grouping : Grouping) (read : Items) : List (List String) :=
  let texts := read.items.map (·.text)
  match grouping with
  | .all => if read.openQuote.isSome then [] else [texts]
  | .count n =>
    (groupTexts n texts []).filter fun group => read.openQuote.isNone || group.length == n
  | .lines n => groupLines n read.items 0 []
  | .replace _ => texts.map ([·])

/-- The words of a program for a group of arguments. -/
def wordsFor (grouping : Grouping) (program group : List String) : List String :=
  match grouping, group with
  | .replace text, [argument] => match program with
    | name :: words => name :: words.map fun word => word.replace text argument
    | [] => []
  | _, group => program ++ group

/-- What the utility is to do. -/
structure Task where
  grouping : Grouping := .all
  mark : Option Char := none
  runsIfEmpty : Bool := true
  tells : Bool := false
  endWord : Option String := none
  source : String := "-"
  program : List String := ["echo"]
deriving Repr

/-- The character that an option names as the mark between arguments. -/
def markOf (text : String) : Char :=
  match text.toList with
  | ['\\', 'n'] => '\n'
  | ['\\', 't'] => '\t'
  | ['\\', '0'] => '\x00'
  | c :: _ => c
  | [] => '\x00'

/-- Takes over an option. -/
def Task.withOption (task : Task) (key : String) (value : Option String) :
    Job (Except String Task) := do
  let number (key : String) (act : Nat → Task) : Job (Except String Task) := do
    let text := value.getD "1"
    match text.toInt? with
    | none => return .error ("invalid number \"" ++ text ++ "\" for -" ++ key ++ " option")
    | some n =>
      if n < 1 then
        return .error ("value " ++ text ++ " for -" ++ key ++ " option should be >= 1")
      else return .ok (act n.toNat)
  let group (grouping : Grouping) : Task := { task with grouping }
  match key with
  | "0" => return .ok { task with mark := some '\x00' }
  | "d" => return .ok { task with mark := some (markOf (value.getD "")) }
  | "r" => return .ok { task with runsIfEmpty := false }
  | "t" => return .ok { task with tells := true }
  | "E" => return .ok { task with endWord := value }
  | "a" => return .ok { task with source := value.getD "-" }
  | "I" => return .ok (group (.replace (value.getD "\x7b\x7d")))
  | "i" => return .ok (group (.replace (value.getD "\x7b\x7d")))
  | "n" =>
    match task.grouping, value with
    | .replace _, some "1" => return .ok task
    | _, _ => number "n" fun n => group (.count n)
  | "L" | "l" => number key fun n => group (.lines n)
  | _ => return .ok task

/-- Takes over options in their order. -/
def Task.withOptions (task : Task) : List (String × Option String) → Job (Except String Task)
  | [] => return .ok task
  | (key, value) :: later => do
    match (← task.withOption key value) with
    | .ok task => task.withOptions later
    | .error text => return .error text

/-- How running programs went on. -/
inductive Progress where
  | ran (code : Nat)
  | stopped (code : Nat)
deriving DecidableEq, Repr

/-- Runs one program. -/
def runOne (launcher : Launcher) (tells : Bool) (words : List String) : Job Progress := do
  match words with
  | [] => return .ran 0
  | name :: arguments =>
    if tells then Job.complain (" ".intercalate (words.map quotedIfNeeded))
    let quiet ← Job.openPath "/dev/null" .reading
    let change (process : Process) : Process := match quiet with
      | .ok number => process.withDescriptor 0 number
      | .error _ => process
    match (← Job.spawn launcher name arguments (← read).environment change) with
    | .error reason =>
      Job.complainAs (name ++ ": " ++ reason.description)
      return .stopped (if reason == .noEntry then 127 else 126)
    | .ok (.code 0) => return .ran 0
    | .ok (.code 255) =>
      Job.complainAs (name ++ ": exited with status 255; aborting")
      return .stopped 124
    | .ok (.code _) => return .ran 123
    | .ok (.signal number) =>
      Job.complainAs (name ++ ": terminated by signal " ++ toString number)
      return .stopped 125

/-- Runs programs one after the other. -/
def runAll (launcher : Launcher) (tells : Bool) : List (List String) → Nat → Job Progress
  | [], code => return .ran code
  | words :: later, code => do
    match (← runOne launcher tells words) with
    | .ran new => runAll launcher tells later (max code new)
    | .stopped code => return .stopped code

/-- The arguments in a text. -/
def Task.itemsIn (task : Task) (text : String) : Items :=
  let found := match task.mark, task.grouping with
    | some mark, _ => readMarked mark text
    | none, .replace _ => readLines (text.length + 1) text.toList
    | none, _ => readWords (text.length + 1) text.toList
  match task.endWord with
  | some word =>
    let kept := found.items.takeWhile (·.text != word)
    if kept.length < found.items.length then { items := kept } else found
  | none => found

/-- Does what is to be done. -/
def Task.run (task : Task) (launcher : Launcher) : Job Nat := do
  match (← readInput task.source) with
  | .error reason =>
    Job.complainAs ("Cannot open input file " ++ quoted task.source ++ ": " ++ reason.description)
    return 1
  | .ok text =>
    let found := task.itemsIn text
    let isReplacing := match task.grouping with
      | .replace _ => true
      | _ => false
    let groups := if found.items.isEmpty then
        if task.runsIfEmpty && !isReplacing && found.openQuote.isNone then [[]] else []
      else groups task.grouping found
    match (← runAll launcher task.tells (groups.map (wordsFor task.grouping task.program)) 0) with
    | .stopped code => return code
    | .ran code =>
      match found.openQuote with
      | none => return code
      | some quote =>
        Job.complainAs ("unmatched " ++ (if quote == '"' then "double" else "single")
          ++ " quote; by default quotes are special to xargs unless you use the -0 option")
        return 1

/-- Reads arguments and runs a program with them. -/
def runWithArguments (launcher : Launcher) : Job ExitStatus := do
  let forms : List OptionForm := [
    .flag '0' (some "null"), .value 'd' (some "delimiter"), .flag 'r' (some "no-run-if-empty"),
    .flag 't' (some "verbose"), .flag 'p' (some "interactive"), .flag 'x' (some "exit"),
    .value 'E', ⟨some 'e', some "eof", .optional⟩, .value 'a' (some "arg-file"), .value 'I',
    ⟨some 'i', some "replace", .optional⟩, .value 'n' (some "max-args"), .value 'L',
    ⟨some 'l', some "max-lines", .optional⟩, .value 'P' (some "max-procs"),
    .value 's' (some "max-chars"), .flag 'o' (some "open-tty")]
  match Given.read forms true (← read).arguments with
  | .error fault => return .code (← misuse fault.message)
  | .ok given =>
    if given.has "help" || given.has "version" then return .code 0
    else
      match (← ({} : Task).withOptions given.options) with
      | .error text => return .code (← misuse text)
      | .ok task =>
        let program := if given.operands.isEmpty then task.program else given.operands
        return .code (← { task with program }.run launcher)

end ProfileGraph.Utility.Arguments
