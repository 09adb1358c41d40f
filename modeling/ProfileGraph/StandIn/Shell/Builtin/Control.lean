import ProfileGraph.StandIn.Shell.Builtin.Basic
import ProfileGraph.StandIn.Shell.Builtin.Jobs
import ProfileGraph.StandIn.Shell.Builtin.Surroundings
import ProfileGraph.StandIn.Shell.Builtin.Variables
import ProfileGraph.StandIn.Shell.Printing

/-! The commands of a shell that steer it, run other texts, print and check
conditions. -/
namespace ProfileGraph.Shell.Builtin
open Host

/-- Leaves loops, by a number that an argument may give. -/
def leave (flow : Nat → Flow) : Builtin := fun arguments => do
  let count ← match arguments with
    | [] => pure 1
    | text :: _ =>
      let count ← number text
      if count = 0 then refuseNumber text
      pure count
  let count := min count (← Act.session).loopDepth
  Act.setStatus 0
  if 0 < count then throw (flow count)
  return 0

/-- Ends the function or the script that runs. -/
def giveBack : Builtin := fun arguments => do
  if let text :: _ := arguments then Act.setStatus (← number text)
  throw .returns

/-- Ends the shell. -/
def exit : Builtin := fun arguments => do
  let session ← Act.session
  let status ← match arguments with
    | [] => pure (session.trapStatus.getD session.status)
    | text :: _ => number text
  Act.setStatus status
  throw .exits

/-- Runs its arguments as a script. -/
def evaluateText (runtime : Runtime) (mode : Mode) : Builtin := fun arguments => do
  match arguments with
  | [] => return 0
  | arguments =>
    runText runtime { mode with final := false } (" ".intercalate arguments)
    return (← Act.session).status

/-- The path of a script to be read. A name is looked up like that of a
program. -/
def scriptPath (name : String) : Act String := do
  if name.toList.contains '/' then return name
  else
    let tree := (← get).machine.tree
    match (programPaths (← Act.session) name none).find? fun path =>
        tree.isFile (Octets.toText path) with
    | some path => return path
    | none => Act.failWith (name ++ ": not found")

/-- The text of a script. What cannot be read counts as empty. -/
def scriptText (path : String) : Act String := do
  match (← Act.job (Job.openPath path .reading)) with
  | .error reason => Act.failWith (RedirectionMode.input.complaint path reason)
  | .ok number =>
    match (← Act.job (Job.readOpen number)) with
    | .ok text => return text
    | .error _ => return ""

/-- Runs a script within the shell. -/
def readScript (runtime : Runtime) : Builtin := fun arguments => do
  match (← options "" arguments).2 with
  | [] => return 0
  | name :: _ =>
    let path ← scriptPath name
    let text ← scriptText path
    Act.modifySession fun session => { session with commandName := some path }
    match (← Act.outcome (runText runtime {} text)) with
    | none | some .returns => return (← Act.session).status
    | some flow => throw flow

/-- Lets a program take the place of the shell. -/
def replaceShell (runtime : Runtime) : Builtin := fun arguments => do
  match arguments with
  | [] => return 0
  | name :: arguments =>
    let found ← findProgram name none
    let session ← Act.session
    let ended ← match found with
      | .error reason => pure (.error reason)
      | .ok path => startProgram runtime.launch path name arguments session.process
    match ended with
    | .error reason =>
      complainAboutStart name reason
      Act.setStatus (startFault reason)
      throw .exits
    | .ok status =>
      Act.modifySession fun session => { session with traps := [], status := status.shellCode }
      match status with
      | .code _ => throw .exits
      | .signal n => throw (.dies n)

/-- How long the shell and its programs have been running. -/
def times : Builtin := fun _ => do
  write "0m0.000000s 0m0.000000s\n0m0.000000s 0m0.000000s\n"
  return 0

/-- Prints its words. -/
def echo : Builtin := fun arguments => do
  write (echoText arguments)
  return 0

/-- Prints words in a format. -/
def printFormat : Builtin := fun arguments => do
  match (← options "" arguments).2 with
  | [] => Act.failWith "usage: printf format [arg ...]"
  | format :: arguments =>
    let formatted := shellFormats.text format arguments
    formatted.complaints.forM fun (text, fault) => Act.complain (text ++ ": " ++ fault.message)
    if let some fault := formatted.fault then Act.complain fault.message
    write (String.ofList formatted.text)
    if formatted.fault.isSome then return 2
    else return if formatted.complaints.isEmpty then 0 else 1

/-- Checks the condition that words state. -/
def checkWords (words : List String) : Act Nat := do
  match Condition.check (← get).machine.tree words with
  | .ok holds => return if holds then 0 else 1
  | .error fault => Act.failWith fault.message

/-- Checks the condition in front of a closing bracket. -/
def checkInBrackets : Builtin := fun arguments => do
  match arguments.getLast? with
  | some last =>
    if last.startsWith "]" then checkWords arguments.dropLast else Act.failWith "missing ]"
  | none => Act.failWith "missing ]"

end ProfileGraph.Shell.Builtin

/-! The commands that a shell carries out itself, by their names. -/
namespace ProfileGraph.Shell.Builtin

/-- The names of the commands that the shell carries out itself. -/
def names : List String :=
  [".", ":", "[", "alias", "bg", "break", "cd", "chdir", "command", "continue", "echo", "eval",
    "exec", "exit", "export", "false", "fg", "getopts", "hash", "jobs", "kill", "local", "printf",
    "pwd", "read", "readonly", "return", "set", "shift", "test", "times", "trap", "true", "type",
    "ulimit", "umask", "unalias", "unset", "wait"]

/-- Whether a name is one of them. -/
def isName (name : String) : Bool := names.contains name

/-- The command with a name. -/
def find? (runtime : Runtime) (mode : Mode) : String → Option Builtin
  | "." => some (readScript runtime)
  | ":" | "true" => some fun _ => return 0
  | "[" => some checkInBrackets
  | "alias" => some setAliases
  | "bg" | "fg" => some moveJob
  | "break" => some (leave .breaks)
  | "cd" | "chdir" => some changeDirectory
  | "command" => some (tellMeaning isName)
  | "continue" => some (leave .continues)
  | "echo" => some echo
  | "eval" => some (evaluateText runtime mode)
  | "exec" => some (replaceShell runtime)
  | "exit" => some exit
  | "export" => some exportVariables
  | "false" => some fun _ => return 1
  | "getopts" => some readOption
  | "hash" => some trackPrograms
  | "jobs" => some listJobs
  | "kill" => some kill
  | "local" => some makeLocal
  | "printf" => some printFormat
  | "pwd" => some printDirectory
  | "read" => some readVariables
  | "readonly" => some protectVariables
  | "return" => some giveBack
  | "set" => some setOptions
  | "shift" => some shift
  | "test" => some checkWords
  | "times" => some times
  | "trap" => some trap
  | "type" => some (tellMeanings isName)
  | "ulimit" => some limit
  | "umask" => some umask
  | "unalias" => some removeAliases
  | "unset" => some unset
  | "wait" => some (wait runtime)
  | _ => none

/-- Whether a command takes arguments that look like assignments as such. -/
def takesAssignments (name : String) : Bool :=
  name == "alias" || name == "export" || name == "local" || name == "readonly"

end ProfileGraph.Shell.Builtin
