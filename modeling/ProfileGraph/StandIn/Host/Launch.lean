import ProfileGraph.StandIn.Host.Process
import ProfileGraph.Text.Characters

/-! How a program starts another one by its name: the name is looked up in the
directories that the environment lists, and a file that names no interpreter is
run by a shell. -/
namespace ProfileGraph.Host

/-- Where programs are looked for if the environment does not say it. -/
def defaultPath : String := "/bin:/usr/bin"

/-- The paths at which a program may be found. -/
def programCandidates (environment : List (String × String)) (name : String) : List String :=
  if name.toList.contains '/' then [name]
  else
    let directories := (environment.lookup "PATH").getD defaultPath
    (directories.splitOn ":").map fun directory =>
      if directory.isEmpty then name else directory ++ "/" ++ name

namespace Job

/-- Starts the first of some paths that can be started, and waits for its end. -/
def launchFirst (launcher : Launcher) (process : Process) :
    List String → Option OsError → Job (Except OsError ExitStatus)
  | [], reason => return .error (reason.getD .noEntry)
  | path :: later, reason => do
    match (← launch launcher path process) with
    | .error .execFormat =>
      launch launcher "/bin/sh"
        { process with name := "/bin/sh", arguments := path :: process.arguments }
    | .error .permissionDenied => launchFirst launcher process later (some .permissionDenied)
    | .error .noEntry => launchFirst launcher process later (reason <|> some .noEntry)
    | .error .notDirectory => launchFirst launcher process later (reason <|> some .notDirectory)
    | ended => return ended

/-- Lets another program take the place of this one. -/
def become (launcher : Launcher) (name : String) (arguments : List String)
    (environment : List (String × String)) : Job (Except OsError ExitStatus) := do
  let process := { ← read with name, arguments, environment }
  if name.isEmpty then return .error .noEntry
  else launchFirst launcher process (programCandidates environment name) none

/-- Starts another program and waits for its end. `change` says what the program
finds otherwise than this one. -/
def spawn (launcher : Launcher) (name : String) (arguments : List String)
    (environment : List (String × String)) (change : Process → Process := id) :
    Job (Except OsError ExitStatus) := do
  let machine ← get
  let (number, machine) := machine.newProcess
  set machine
  let outer ← read
  let process := change { outer with name, arguments, environment, number, parent := outer.number }
  let ended ←
    if name.isEmpty then pure (.error .noEntry)
    else launchFirst launcher process (programCandidates environment name) none
  modify (·.endProcess number)
  return ended

end Job
end ProfileGraph.Host

/-! Starting programs: those of the system and files whose first line names an
interpreter. Each program may start others, up to a depth. -/
namespace ProfileGraph.Host

/-- The interpreter that the first line of a file names, and the argument that
the line gives it. -/
def interpreter? (bytes : List UInt8) : Option (String × Option String) :=
  match (Octets.ofBytes (bytes.takeWhile (· != 10))).toList with
  | '#' :: '!' :: line =>
    let isBlank (c : Char) : Bool := c == ' ' || c == '\t'
    let line := ((line.dropWhile isBlank).reverse.dropWhile isBlank).reverse
    let (path, rest) := line.span (!isBlank ·)
    let argument := rest.dropWhile isBlank
    if path.isEmpty then none
    else some (String.ofList path,
      if argument.isEmpty then none else some (String.ofList argument))
  | _ => none

/-- How many interpreters may stand behind one another. -/
def maxInterpreters : Nat := 5

/-- Finds what is run for a path: the name of a program of the system, and its
arguments. -/
def resolve (tree : FileTree) : Nat → String → Process → Except OsError (String × Process)
  | 0, _, _ => .error .linkLoop
  | fuel + 1, path, process => do
    let (_, node) ← tree.find (Octets.toText path)
    if !node.isExecutable then throw .permissionDenied
    match node.content with
    | .program name => return (name, process)
    | .regular bytes =>
      match interpreter? bytes with
      | none => throw .execFormat
      | some (interpreter, argument) =>
        resolve tree fuel interpreter { process with
          name := interpreter
          arguments := argument.toList ++ path :: process.arguments }
    | _ => throw .permissionDenied

/-- Whether a text can be given to a program. -/
def isPassable (text : String) : Bool := !text.toList.contains '\x00'

/-- How many programs may have started one another. -/
def maxPrograms : Nat := 60

/-- Starts programs up to a depth. -/
def launchWithin (find : String → Option Program) : Nat → Launcher
  | 0, _, _, _ => .error .noResources
  | depth + 1, path, process, machine => do
    let (name, process) ← resolve machine.tree maxInterpreters path process
    match find name with
    | none => throw .execFormat
    | some program => return program.run (launchWithin find depth) process machine

/-- The environment of the first process. -/
def startEnvironment : List (String × String) :=
  [("PATH", "/usr/local/sbin:/usr/local/bin:/usr/sbin:/usr/bin:/sbin:/bin"), ("HOME", "/root")]

/-- The path of a program. A name without a slash is looked up. -/
def programPath (tree : FileTree) (program : String) : Except OsError String :=
  if program.toList.contains '/' then .ok program
  else
    let directories := (startEnvironment.lookup "PATH").getD ""
    let paths := (directories.splitOn ":").map fun directory => directory ++ "/" ++ program
    match paths.find? tree.isFile with
    | some path => .ok path
    | none => .error .noEntry

/-- Runs a program with arguments and input, and collects what it writes. -/
def run (find : String → Option Program) (tree : FileTree) (program : String)
    (arguments : List String) (input : List UInt8) : Except OsError Finished := do
  if !(program :: arguments).all isPassable then throw .nulInArgument
  let path ← programPath tree program
  let (input, machine) := { tree : Machine }.openStream input
  let (output, machine) := machine.openStream
  let (errors, machine) := machine.openStream
  let (number, machine) := machine.newProcess
  let process : Process := {
    name := Octets.ofText program
    arguments := arguments.map Octets.ofText
    environment := startEnvironment
    descriptors := [(0, input), (1, output), (2, errors)]
    number }
  let (status, ended) ← launchWithin find maxPrograms (Octets.ofText path) process machine
  return {
    status
    output := ended.streamBytes output
    errors := ended.streamBytes errors
    tree := (ended.backIn tree.workingDirectory).tree }

end ProfileGraph.Host
