import ProfileGraph.StandIn.Host.Launch
import ProfileGraph.StandIn.Utility.Input
import ProfileGraph.StandIn.Utility.Options

/-! The utilities that tell about the system and its users. There is one user, who may do
everything. -/
namespace ProfileGraph.Utility
open Host

/-- What the system is called in parts, each with the letter that asks for it. -/
def systemParts : List (String × String) := [
  ("s", "Linux"), ("n", "localhost"), ("r", "6.1.0"), ("v", "#1 SMP"), ("m", "x86_64"),
  ("p", "x86_64"), ("i", "x86_64"), ("o", "GNU/Linux")]

/-- Refuses the first operand beyond a number of them. -/
def withinOperands (most : Nat) (given : Given) (act : Job Nat) : Job Nat :=
  match given.operands[most]? with
  | some extra => misuse ("extra operand " ++ quoted extra)
  | none => act

/-- Tells what the system is called. -/
def tellSystem : Job Nat :=
  withOptions [.flag 'a' "all", .flag 's' "kernel-name", .flag 'n' "nodename",
      .flag 'r' "kernel-release", .flag 'v' "kernel-version", .flag 'm' "machine",
      .flag 'p' "processor", .flag 'i' "hardware-platform", .flag 'o' "operating-system"]
    fun given => withinOperands 0 given do
      let shown := systemParts.filter fun (key, _) =>
        given.has "a" || given.has key || (given.options.isEmpty && key == "s")
      Job.print (" ".intercalate (shown.map (·.2)) ++ "\n")
      return 0

/-- Tells what kind of machine the system has. -/
def tellMachine : Job Nat :=
  withOptions [] fun given => withinOperands 0 given do
    Job.print "x86_64\n"
    return 0

/-- Tells who uses the system. -/
def tellUser : Job Nat :=
  withOptions [] fun given => withinOperands 0 given do
    Job.print "root\n"
    return 0

/-- Tells the name and the numbers of the user. -/
def tellIdentity : Job Nat :=
  withOptions [.flag 'u' "user", .flag 'g' "group", .flag 'G' "groups", .flag 'n' "name",
      .flag 'r' "real", .flag 'z' "zero", .flag 'a', .flag 'Z' "context"] fun given => do
    let users := if given.operands.isEmpty then ["root"] else given.operands
    forEach users fun user => do
      if user != "root" && user != "0" then
        Job.complainAs (quoted user ++ ": no such user")
        return false
      else
        let isPart := given.has "u" || given.has "g" || given.has "G"
        let text :=
          if !isPart then "uid=0(root) gid=0(root) groups=0(root)"
          else if given.has "n" then "root"
          else "0"
        Job.print (text ++ "\n")
        return true

/-- Tells the groups of users. -/
def tellGroups : Job Nat :=
  withOptions [] fun given => do
    if given.operands.isEmpty then
      Job.print "root\n"
      return 0
    else
      forEach given.operands fun user => do
        if user == "root" then
          Job.print "root : root\n"
          return true
        else
          Job.complainAs (quoted user ++ ": no such user")
          return false

/-- Tells which terminal is the input: there is none. -/
def tellTerminal : Job Nat :=
  withOptions [.flag 's' "silent", .named "quiet"] (fun given => withinOperands 0 given do
    unless given.has "s" || given.has "quiet" do Job.print "not a tty\n"
    return 1) 2

end ProfileGraph.Utility

/-! The utilities that start a program in other surroundings, and those that tell
what the surroundings are. -/
namespace ProfileGraph.Utility
open Host

/-- The exit code of a utility that could not start a program. -/
def startFault (reason : OsError) : Nat :=
  match reason with
  | .noEntry | .notDirectory => 127
  | _ => 126

/-- Lets a program take the place of a utility. `describe` makes the complaint if it
cannot be started. -/
def startInstead (launcher : Launcher) (words : List String)
    (environment : List (String × String)) (describe : String → String) : Job ExitStatus := do
  match words with
  | [] => return .code 0
  | name :: arguments =>
    match (← Job.become launcher name arguments environment) with
    | .ok status => return status
    | .error reason =>
      Job.complainAs (describe (quoted name) ++ ": " ++ reason.description)
      return .code (startFault reason)

/-- Reads the options in front of the name of a program. -/
def withStartOptions (forms : List OptionForm) (act : Given → Job ExitStatus) :
    Job ExitStatus := do
  match Given.read forms true (← read).arguments with
  | .error fault => return .code (← misuse fault.message 125)
  | .ok given =>
    if given.has "help" || given.has "version" then return .code 0 else act given

/-- Gives a variable of an environment a value. -/
def setIn (environment : List (String × String)) (name value : String) :
    List (String × String) :=
  if environment.any (·.1 == name) then
    environment.map fun (other, old) => if other == name then (name, value) else (other, old)
  else environment ++ [(name, value)]

/-- The settings in front of words, and the words behind them. -/
def leadingSettings : List String → List (String × String) × List String
  | [] => ([], [])
  | word :: later =>
    let (name, rest) := word.toList.span (· != '=')
    match rest with
    | _ :: value =>
      let (settings, words) := leadingSettings later
      ((String.ofList name, String.ofList value) :: settings, words)
    | [] => ([], word :: later)

/-- Puts words from a text that is to be split in front of others. -/
def splitGiven (text : Option String) (words : List String) : List String :=
  match text with
  | some text =>
    ((text.toList.splitOnP fun c => c == ' ' || c == '\t').filter (!·.isEmpty)).map String.ofList
      ++ words
  | none => words

/-- Lists an environment. -/
def listEnvironment (environment : List (String × String)) (mark : String) : Job Unit := do
  for (name, value) in environment do Job.print (name ++ "=" ++ value ++ mark)

/-- Starts a program in a changed environment, or lists the environment. -/
def startInEnvironment (launcher : Launcher) : Job ExitStatus := withStartOptions
  [.flag 'i' (some "ignore-environment"), .flag '0' (some "null"), .value 'u' (some "unset"),
    .value 'C' (some "chdir"), .value 'S' (some "split-string"), .flag 'v' (some "debug"),
    .named "ignore-signal" .optional, .named "default-signal" .optional,
    .named "block-signal" .optional] fun given => do
  let words := splitGiven (given.value? "S") given.operands
  let (clears, words) := match words with
    | "-" :: words => (true, words)
    | words => (given.has "i", words)
  let (settings, words) := leadingSettings words
  let whole := (← read).environment
  let start := if clears then [] else whole
  let removed := given.values "u"
  match removed.find? fun name => name.isEmpty || name.toList.contains '=' with
  | some name =>
    Job.complainAs ("cannot unset " ++ quoted name ++ ": Invalid argument")
    return .code 125
  | none =>
    let kept := start.filter fun (name, _) => !removed.contains name
    let environment := settings.foldl (fun found (name, value) => setIn found name value) kept
    if given.has "0" && !words.isEmpty then
      return .code (← misuse "cannot specify --null (-0) with command" 125)
    else
      match given.value? "C" with
      | none => finish words environment given
      | some path =>
        if words.isEmpty then
          return .code (← misuse "must specify command with --chdir (-C)" 125)
        else match (← Job.tree).find (Octets.toText path) with
          | .ok (place, node) =>
            if node.isDirectory then
              modify (·.backIn place)
              finish words environment given
            else refuse path .notDirectory
          | .error reason => refuse path reason
where
  /-- Starts the program, or lists the environment if there is none. -/
  finish (words : List String) (environment : List (String × String)) (given : Given) :
      Job ExitStatus := do
    if words.isEmpty then
      listEnvironment environment (if given.has "0" then "\x00" else "\n")
      return .code 0
    else startInstead launcher words environment id
  /-- Says that a directory cannot be entered. -/
  refuse (path : String) (reason : OsError) : Job ExitStatus := do
    Job.complainAs ("cannot change directory to " ++ quoted path ++ ": " ++ reason.description)
    return .code 125

/-- Tells the values of variables, or lists the environment. -/
def printEnvironment : Job Nat := withOptions [.flag '0' (some "null")] (fun given => do
  let mark := if given.has "0" then "\x00" else "\n"
  let environment := (← read).environment
  if given.operands.isEmpty then
    listEnvironment environment mark
    return 0
  else forEach given.operands fun name => do
    match environment.lookup name with
    | some value =>
      Job.print (value ++ mark)
      return true
    | none => return false) 2

/-- Starts a program that outlives its terminal. -/
def startLasting (launcher : Launcher) : Job ExitStatus := withStartOptions [] fun given => do
  if given.operands.isEmpty then return .code (← misuse "missing operand" 125)
  else
    startInstead launcher given.operands (← read).environment fun name =>
      "failed to run command " ++ name

/-- Starts a program that takes less of the machine. -/
def startNicely (launcher : Launcher) : Job ExitStatus :=
  withStartOptions [.value 'n' (some "adjustment")] fun given => do
  match given.value? "n" with
  | some text =>
    if (text.toInt?).isNone then
      Job.complainAs ("invalid adjustment " ++ quoted text)
      return .code 125
    else if given.operands.isEmpty then
      return .code (← misuse "a command must be given with an adjustment" 125)
    else startInstead launcher given.operands (← read).environment id
  | none =>
    if given.operands.isEmpty then Job.print "0\n"
    startInstead launcher given.operands (← read).environment id

/-- Whether a text is a time that a program may take. -/
def isDuration (text : String) : Bool :=
  let digits := if ["s", "m", "h", "d"].any (text.endsWith ·) then (text.dropEnd 1).toString else text
  !digits.isEmpty && digits.toList.all (fun c => c.isDigit || c == '.') && digits != "."

/-- Starts a program that may take some time only. -/
def startLimited (launcher : Launcher) : Job ExitStatus := withStartOptions
  [.value 'k' (some "kill-after"), .value 's' (some "signal"), .flag 'v' (some "verbose"),
    .named "foreground", .named "preserve-status"] fun given => do
  match given.operands with
  | [] | [_] => return .code (← misuse "missing operand" 125)
  | time :: words =>
    if !isDuration time then
      return .code (← misuse ("invalid time interval " ++ quoted time) 125)
    else
      startInstead launcher words (← read).environment fun name => "failed to run command " ++ name

/-- Tells where programs are found. -/
def tellLocations : Job Nat := do
  let process ← read
  let (all, names) := match process.arguments with
    | "-a" :: names => (true, names)
    | names => (false, names)
  let tree ← Job.tree
  let mut code := if names.isEmpty then 1 else 0
  for name in names do
    let found := (programCandidates process.environment name).filter fun path =>
      tree.isExecutable (Octets.toText path)
    match found with
    | [] => code := 1
    | first :: _ => for path in (if all then found else [first]) do Job.print (path ++ "\n")
  return code

end ProfileGraph.Utility
