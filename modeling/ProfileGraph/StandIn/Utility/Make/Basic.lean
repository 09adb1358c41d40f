import ProfileGraph.StandIn.Host.Process
import ProfileGraph.StandIn.Host.Launch

/-! Words in the values of variables: how a text is split into them, and patterns in
which a percent sign stands for any part of a word, its stem. -/
namespace ProfileGraph.Utility.Make

/-- Whether a character separates words. -/
def isBlank (c : Char) : Bool := c == ' ' || ('\t' ≤ c && c ≤ '\r')

/-- Whether a character separates words in a line. -/
def isSpace (c : Char) : Bool := c == ' ' || c == '\t'

/-- Splits a text into words. The fuel bounds its length. -/
def splitWords : Nat → List Char → List String
  | 0, _ => []
  | fuel + 1, text =>
    let text := text.dropWhile isBlank
    let word := text.takeWhile (!isBlank ·)
    if word.isEmpty then [] else String.ofList word :: splitWords fuel (text.drop word.length)

/-- The words of a text. -/
def words (text : String) : List String := splitWords (text.length + 1) text.toList

/-- A text made of words. -/
def unwords (texts : List String) : String := " ".intercalate texts

/-- The text without blanks at its ends. -/
def trim (text : String) : String :=
  String.ofList ((text.toList.dropWhile isBlank).reverse.dropWhile isBlank).reverse

/-- The text without blanks in front. -/
def trimFront (text : String) : String := String.ofList (text.toList.dropWhile isBlank)

/-- A text as if every occurrence of another one was replaced. The fuel bounds its
length. -/
def substituteAll (old new : List Char) : Nat → List Char → List Char
  | 0, text => text
  | _, [] => []
  | fuel + 1, c :: rest =>
    if old.isPrefixOf (c :: rest) then
      new ++ substituteAll old new fuel ((c :: rest).drop old.length)
    else c :: substituteAll old new fuel rest

/-- A pattern: what stands in front of the percent sign and behind it. -/
structure Pattern where
  front : List Char
  back : List Char
deriving DecidableEq, Repr

namespace Pattern

/-- Reads a pattern. Backslashes protect percent signs. The fuel bounds the
length. -/
def readFrom : Nat → List Char → List Char → Option Pattern
  | 0, _, _ | _, _, [] => none
  | fuel + 1, front, '\\' :: '%' :: rest => readFrom fuel ('%' :: front) rest
  | _, front, '%' :: rest => some ⟨front.reverse, rest⟩
  | fuel + 1, front, c :: rest => readFrom fuel (c :: front) rest

/-- The pattern that a word writes, if it writes one. -/
def read? (word : String) : Option Pattern := readFrom (word.length + 1) [] word.toList

/-- The stem of a word for which a pattern stands. -/
def stem? (pattern : Pattern) (word : List Char) : Option (List Char) :=
  let length := word.length
  let around := pattern.front.length + pattern.back.length
  if around ≤ length && pattern.front.isPrefixOf word && pattern.back.isSuffixOf word then
    some ((word.drop pattern.front.length).take (length - around))
  else none

/-- The word that a pattern makes with a stem. -/
def fill (pattern : Pattern) (stem : List Char) : String :=
  String.ofList (pattern.front ++ stem ++ pattern.back)

end Pattern

/-- A word with its percent sign replaced by a stem. -/
def fillStem (word : String) (stem : List Char) : String :=
  match Pattern.read? word with
  | some pattern => pattern.fill stem
  | none => word

/-- Whether a word fits one of some patterns, or is one of them. -/
def fitsOne (patterns : List String) (word : String) : Bool :=
  patterns.any fun text =>
    match Pattern.read? text with
    | some pattern => (pattern.stem? word.toList).isSome
    | none => text == word

/-- A word with what fits a pattern put into another one. -/
def substitutePattern (pattern replacement : String) (word : String) : String :=
  match Pattern.read? pattern with
  | some form => match form.stem? word.toList with
    | some stem => fillStem replacement stem
    | none => word
  | none => if word == pattern then replacement else word

/-- The directory of a path, up to its last slash. -/
def directoryOf (path : String) : String :=
  let back := path.toList.reverse.dropWhile (· != '/')
  if back.isEmpty then "./" else String.ofList back.reverse

/-- The path behind its last slash. -/
def nameOf (path : String) : String :=
  String.ofList (path.toList.reverse.takeWhile (· != '/')).reverse

/-- The ending of a path, from its last period on. -/
def suffixOf (path : String) : String :=
  let name := (nameOf path).toList.reverse
  let ending := name.takeWhile (· != '.')
  if ending.length == name.length then "" else String.ofList ('.' :: ending.reverse)

/-- The path without its ending. -/
def baseOf (path : String) : String :=
  String.ofList (path.toList.take (path.length - (suffixOf path).length))

/-- The words in their order, each once. -/
def sorted (texts : List String) : List String :=
  (texts.mergeSort (· ≤ ·)).foldr (fun text later =>
    if later.head? == some text then later else text :: later) []

/-- Pairs of words put together; the longer list goes on alone. -/
def joinWords : List String → List String → List String
  | [], later | later, [] => later
  | a :: as, b :: bs => (a ++ b) :: joinWords as bs

end ProfileGraph.Utility.Make

/-! What a makefile says: variables, rules for targets, and rules that patterns
give. A run can be stopped at any place; what it has done by then stays done. -/
namespace ProfileGraph.Utility.Make
open Host

/-- Where a variable comes from. A later one of these wins. -/
inductive Origin where
  | standard
  | environment
  | file
  | environmentOverride
  | commandLine
  | override
  | automatic
deriving DecidableEq, Repr

namespace Origin

/-- How strong a source of variables is. -/
def rank : Origin → Nat
  | .standard => 0
  | .environment => 1
  | .file => 2
  | .environmentOverride => 3
  | .commandLine => 4
  | .override => 5
  | .automatic => 6

/-- The words for where a value comes from. -/
def description : Origin → String
  | .standard => "default"
  | .environment => "environment"
  | .file => "file"
  | .environmentOverride => "environment override"
  | .commandLine => "command line"
  | .override => "override"
  | .automatic => "automatic"

end Origin

/-- A line of a makefile. -/
structure Place where
  file : String
  line : Nat
deriving DecidableEq, Repr

/-- A variable. -/
structure Variable where
  value : String
  /-- The value is expanded whenever it is used. -/
  isRecursive : Bool := true
  origin : Origin := .file
  /-- Whether programs are given the variable, if that has been said. -/
  exported : Option Bool := none
  /-- The line that gave the value. -/
  place : Option Place := none
deriving Repr

/-- How a variable gets a value. -/
inductive Operator where
  | recursive
  | simple
  | conditional
  | append
  | shell
deriving DecidableEq, Repr

/-- A value for a variable as it is written. -/
structure Assignment where
  name : String
  operator : Operator
  value : String
  isOverride : Bool := false
  exported : Option Bool := none
deriving Repr

/-- The commands of a rule, and the place of the first one. Those of the rules that
are always there have none. -/
structure Recipe where
  place : Option Place
  lines : List String
deriving Repr

/-- What a target needs, and how it is made. -/
structure Rule where
  prerequisites : List String := []
  /-- What must be there first, but may be newer. -/
  orderOnly : List String := []
  recipe : Option Recipe := none
  /-- The part of the name for which a pattern of the rule stands. -/
  stem : Option String := none
deriving Repr

/-- A target with its rules. Several rules of their own are marked by two
colons. -/
structure Target where
  name : String
  rule : Rule := {}
  ownRules : List Rule := []
  /-- The target is that of a rule, and not only a prerequisite. -/
  isTarget : Bool := true
  assignments : List Assignment := []
  /-- The targets that the same commands make. -/
  siblings : List String := []
deriving Repr

/-- A rule for all targets that fit a pattern. -/
structure PatternRule where
  targets : List Pattern
  prerequisites : List String
  orderOnly : List String
  recipe : Option Recipe
  /-- What the rule needs must be there or have rules of its own. -/
  isTerminal : Bool := false
  isBuiltIn : Bool := false
deriving Repr

/-- How a run is to be done. -/
structure Settings where
  alwaysMakes : Bool := false
  environmentWins : Bool := false
  ignoresFailures : Bool := false
  keepsGoing : Bool := false
  onlyPrints : Bool := false
  onlyAsks : Bool := false
  onlyTouches : Bool := false
  silent : Bool := false
  noBuiltInRules : Bool := false
  printsDirectory : Bool := false
  /-- The options as they are handed on. -/
  handedOn : String := ""
  includeDirectories : List String := []
deriving Repr

/-- What became of a target. -/
inductive Outcome where
  | done
  /-- It would have to be made, and that was asked only. -/
  | wanting
  | failed
deriving DecidableEq, Repr

/-- The worse one of two outcomes. -/
def Outcome.worse : Outcome → Outcome → Outcome
  | .failed, _ | _, .failed => .failed
  | .wanting, _ | _, .wanting => .wanting
  | .done, .done => .done

/-- When a target was changed. -/
inductive Age where
  | missing
  /-- Older than everything that is there. -/
  | ancient
  | changed (moment : Nat)
  /-- Newer than everything that is there. -/
  | fresh
deriving DecidableEq, Repr

/-- Whether a target was changed later than another one. -/
def Age.isNewer : Age → Age → Bool
  | .fresh, other => other != .fresh
  | .changed moment, .changed other => other < moment
  | .changed _, other => other != .fresh
  | .ancient, other => other == .missing
  | .missing, _ => false

/-- A makefile that was asked for. -/
structure Source where
  path : String
  /-- The line that asked for it. -/
  place : Option Place
  /-- Why it could not be read, if it could not. -/
  fault : Option OsError
  isOptional : Bool := false
deriving Repr

/-- The state of a run. -/
structure State where
  settings : Settings := {}
  /-- The name under which messages are written. -/
  name : String := "make"
  level : Nat := 0
  bindings : List (String × Variable) := []
  /-- The variables of targets that are being made, the innermost first. -/
  scopes : List (List (String × Variable)) := []
  targets : List Target := []
  patterns : List PatternRule := []
  patternAssignments : List (Pattern × Assignment) := []
  suffixes : List String := []
  exportsAll : Bool := false
  /-- The line that is read, or the commands of which are expanded. -/
  place : Option Place := none
  /-- The variables whose values are being expanded. -/
  expanding : List String := []
  recipeMark : Char := '\t'
  /-- The makefiles that were asked for, the last one first. -/
  sources : List Source := []
  /-- The makefiles are looked at as targets. -/
  remakesSources : Bool := false
  /-- The targets that were looked at, and what became of them. -/
  outcomes : List (String × Outcome) := []
  /-- When the targets were changed, as far as that is known. -/
  ages : List (String × Age) := []
  /-- The directories in which files are looked for that fit a word. -/
  searchPaths : List (String × List String) := []
  /-- The files that were found in other directories, with their paths there. -/
  elsewhere : List (String × String) := []
  /-- The targets that are being looked at, the innermost first. -/
  active : List String := []
  /-- The targets for which a rule for patterns was looked for. -/
  searched : List String := []
  /-- Files that are only made on the way to others. -/
  intermediates : List String := []
  /-- A message has been written. -/
  hasSpoken : Bool := false
  /-- How many commands have been run. -/
  commandCount : Nat := 0

/-- Steps of a run. A run that is stopped has an exit code. -/
abbrev Making := ReaderT Launcher (ExceptT Nat (StateT State Job))

namespace Making

/-- Does a job. -/
def job {α : Type} (act : Job α) : Making α := fun _ => ExceptT.lift (StateT.lift act)

/-- Tells which directory the run is in, if that is wanted, before anything else is
written. -/
def announce : Making Unit := do
  let state ← get
  unless state.hasSpoken do
    modify fun state => { state with hasSpoken := true }
    if state.settings.printsDirectory then
      let tree ← job Job.tree
      let here := "/" ++ "/".intercalate (tree.workingDirectory.map Octets.ofText)
      job (Job.print (state.name ++ ": Entering directory '" ++ here ++ "'\n"))

/-- Writes a line to the output. -/
def say (text : String) : Making Unit := do
  announce
  job (Job.print (text ++ "\n"))

/-- Writes a line to the standard error behind a place, or behind the name of the
program. -/
def complainAt (place : Option Place) (text : String) : Making Unit := do
  announce
  let name := (← get).name
  let start := match place with
    | some place => place.file ++ ":" ++ toString place.line
    | none => name
  job (Job.complain (start ++ ": " ++ text))

/-- The exit code of a run that is stopped. -/
def stopCode : Nat := 2

/-- Stops the run with a message about a place. -/
def stopAt {α : Type} (place : Option Place) (text : String) : Making α := do
  complainAt place ("*** " ++ text ++ ".  Stop.")
  throw stopCode

/-- Stops the run with a message about the line that is read. -/
def stop {α : Type} (text : String) : Making α := do
  let place := (← get).place
  stopAt place text

/-- Stops the run with a message about the value that is expanded. -/
def stopExpanding {α : Type} (text : String) : Making α := do
  let state ← get
  let place := state.expanding.findSome? fun name =>
    (state.bindings.lookup name).bind (·.place)
  stopAt (place <|> state.place) text

/-- The variable with a name, as the targets that are being made see it. -/
def find? (name : String) : Making (Option Variable) := do
  let state ← get
  return (state.scopes.findSome? (·.lookup name)) <|> state.bindings.lookup name

/-- Gives a variable a value, unless one from a stronger source is there. -/
def setVariable (name : String) (entry : Variable) : Making Unit :=
  modify fun state =>
    match state.bindings.lookup name with
    | none => { state with bindings := (name, entry) :: state.bindings }
    | some old =>
      if old.origin.rank ≤ entry.origin.rank then
        let new := { entry with exported := entry.exported <|> old.exported }
        { state with
          bindings := state.bindings.map fun (other, value) =>
            if other == name then (name, new) else (other, value) }
      else state

/-- The target with a name. -/
def target? (name : String) : Making (Option Target) := do
  return (← get).targets.find? (·.name == name)

/-- Changes the target with a name, which is made if it is not known. -/
def modifyTarget (name : String) (change : Target → Target) : Making Unit :=
  modify fun state =>
    if state.targets.any (·.name == name) then
      { state with
        targets := state.targets.map fun target =>
          if target.name == name then change target else target }
    else { state with targets := state.targets ++ [change { name, isTarget := false }] }

/-- What a special target names. The result is missing if there is no such
target. -/
def special? (name : String) : Making (Option (List String)) := do
  return (← target? name).map fun target =>
    target.rule.prerequisites ++ target.ownRules.flatMap (·.prerequisites)

/-- Whether a target is no file. -/
def isPhony (name : String) : Making Bool := do
  return ((← special? ".PHONY").getD []).contains name

end Making
end ProfileGraph.Utility.Make
