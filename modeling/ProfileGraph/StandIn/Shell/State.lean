import ProfileGraph.StandIn.Shell.Syntax
import ProfileGraph.StandIn.Host.Process

/-! The state of a shell between two commands, and how a command can leave the
commands around it. -/
namespace ProfileGraph.Shell
open Host

/-- A variable. One that has no value may still be marked. -/
structure Variable where
  value : Option String := none
  exported : Bool := false
  isReadOnly : Bool := false
deriving Repr

/-- The options of a shell, each with a letter and a name. -/
structure Options where
  exitOnError : Bool := false
  noGlob : Bool := false
  ignoreEof : Bool := false
  interactive : Bool := false
  monitor : Bool := false
  noExec : Bool := false
  readsInput : Bool := false
  trace : Bool := false
  verbose : Bool := false
  viEditor : Bool := false
  emacsEditor : Bool := false
  noClobber : Bool := false
  exportAll : Bool := false
  notify : Bool := false
  noUnset : Bool := false
  privileged : Bool := false
  noLog : Bool := false
  debug : Bool := false
deriving Repr

/-- A function: its body and the line on which it begins. -/
structure Definition where
  line : Nat
  body : Command

/-- How far an option list has been read. -/
structure OptionPosition where
  /-- The number of the argument. -/
  index : Nat := 1
  /-- The letters of the argument that are left. -/
  letters : Option String := none
deriving Repr

/-- What belongs to one shell; a shell within it starts with a copy. -/
structure Session where
  /-- The name under which the shell complains. -/
  name : String
  arguments : List String := []
  bindings : List (String × Variable) := []
  functions : List (String × Definition) := []
  aliases : List (String × String) := []
  options : Options := {}
  /-- What is done on a signal; the number zero stands for the end of the
  shell, and an empty text for nothing. -/
  traps : List (Nat × String) := []
  descriptors : Descriptors := []
  /-- The number of this process. -/
  process : Nat
  /-- The number of the process that the shell started as. -/
  mainProcess : Nat
  parent : Nat := 0
  umask : Nat := 0o022
  /-- Signals that were ignored when the shell started. -/
  ignored : List Nat := []
  /-- The exit code of the last command. -/
  status : Nat := 0
  /-- The exit code of the last substitution in the command that runs. -/
  substitutionStatus : Nat := 0
  lastBackground : Option Nat := none
  /-- The exit code in front of the trap that is being run, if one is. -/
  trapStatus : Option Nat := none
  /-- The documents of the scripts that have been read. -/
  documents : List (Nat × Word) := []
  /-- The line of the command that runs. -/
  line : Nat := 1
  /-- The name of the builtin command that runs. -/
  commandName : Option String := none
  loopDepth : Nat := 0
  /-- The variables to be put back at the end of the functions that run, the
  innermost function first. -/
  locals : List (List (String × Option Variable)) := []
  /-- The options to be put back at the end of these functions. -/
  savedOptions : List (Option Options) := []
  isSubshell : Bool := false
  /-- Limits that were changed, by their letters. -/
  limits : List (Char × String) := []
  /-- The programs that were found by their names, each with its path. -/
  tracked : List (String × String) := []
  optionPosition : OptionPosition := {}
  /-- The working directory as it was reached. -/
  directory : String := "/"

/-- A command that was not waited for. It runs when the shell waits or
ends. -/
structure BackgroundJob where
  process : Nat
  command : Command
  session : Session
  /-- The working directory of the command. -/
  directory : Place
  ended : Option ExitStatus := none
  /-- The end of the command has been reported. -/
  isReported : Bool := false

/-- The state of a shell. -/
structure State where
  machine : Machine
  session : Session
  jobs : List BackgroundJob := []

/-- How a command leaves the commands around it. -/
inductive Flow where
  /-- Ends some of the loops around. -/
  | breaks (loops : Nat)
  /-- Ends all but the last of some loops around, and goes on with that one. -/
  | continues (loops : Nat)
  /-- Ends the function or the script around. -/
  | returns
  /-- Ends the shell because of an error that has been reported. -/
  | fails
  /-- Ends the shell. -/
  | exits
  /-- Ends the shell because of a signal. -/
  | dies (signal : Nat)
deriving DecidableEq, Repr

/-- Something that a shell does. -/
abbrev Act := ExceptT Flow (StateM State)

namespace Act

/-- What the shell keeps between commands. -/
def session : Act Session := return (← get).session

/-- Changes what the shell keeps between commands. -/
def modifySession (change : Session → Session) : Act Unit :=
  modify fun state => { state with session := change state.session }

/-- Notes the status of the last command. -/
def setStatus (status : Nat) : Act Unit := modifySession fun session => { session with status }

/-- The process that this shell is, as a program sees it. -/
def process (session : Session) : Process where
  name := session.name
  environment := session.bindings.filterMap fun (name, v) =>
    if v.exported then v.value.map fun value => (name, value) else none
  descriptors := session.descriptors
  number := session.process
  parent := session.parent
  umask := session.umask
  ignored := session.ignored ++ session.traps.filterMap fun (signal, action) =>
    if action.isEmpty then some signal else none

/-- Does a job in the shell itself. -/
def job {α : Type} (job : Job α) : Act α := do
  let state ← get
  let (found, machine) := (job (process state.session)).run state.machine
  set { state with machine }
  return found

/-- Writes to the standard output; tells whether that was possible. -/
def print (text : String) : Act Bool := do
  match (← job (Job.writeDescriptor 1 text)) with
  | .ok () => return true
  | .error _ => return false

/-- Writes a line to the standard error. -/
def note (text : String) : Act Unit := job (Job.complain text)

/-- Writes a complaint with the name of the shell, the line and the builtin
command that runs. -/
def complain (text : String) : Act Unit := do
  let session ← session
  let command := match session.commandName with
    | some name => name ++ ": "
    | none => ""
  note (session.name ++ ": " ++ toString session.line ++ ": " ++ command ++ text)

/-- Writes a complaint and ends the shell, unless a builtin command runs that is
not special. -/
def failWith {α : Type} (text : String) : Act α := do
  complain text
  setStatus 2
  throw .fails

/-- Does something and tells its result, or how it left the commands around. -/
def attempt {α : Type} (act : Act α) : Act (Except Flow α) := fun state =>
  let (found, state) := ExceptT.run act state
  (.ok found, state)

/-- Does something and then something else, however the first one ends. -/
def andFinally {α : Type} (act : Act α) (last : Act Unit) : Act α := do
  let found ← attempt act
  last
  match found with
  | .ok found => return found
  | .error flow => throw flow

/-- Does something and tells how it left the commands around, if it did. -/
def outcome (act : Act Unit) : Act (Option Flow) := do
  match (← attempt act) with
  | .ok () => return none
  | .error flow => return some flow

/-- The value of a variable. -/
def valueOf? (name : String) : Act (Option String) := do
  return ((← session).bindings.lookup name).bind (·.value)

/-- Replaces an entry of a list of pairs, or adds one behind the others. -/
def setEntry {α : Type} (entries : List (String × α)) (name : String) (value : α) :
    List (String × α) :=
  if entries.any (·.1 == name) then
    entries.map fun entry => if entry.1 == name then (name, value) else entry
  else entries ++ [(name, value)]

/-- What happens beside a change of a variable. -/
def noticeChange (name : String) (value : Option String) : Act Unit := do
  if name == "OPTIND" then
    let index := (value.bind String.toNat?).getD 1
    modifySession fun session => { session with optionPosition := ⟨index, none⟩ }
  if name == "PATH" then modifySession fun session => { session with tracked := [] }

/-- Gives a variable a value. `exported` marks it for programs. -/
def assign (name value : String) (exported : Bool := false) : Act Unit := do
  let session ← session
  let old := (session.bindings.lookup name).getD {}
  if old.isReadOnly then failWith (name ++ ": is read only")
  let new := { old with
    value := some value
    exported := old.exported || exported || session.options.exportAll }
  modifySession fun session => { session with bindings := setEntry session.bindings name new }
  noticeChange name (some value)

/-- Takes the value of a variable away. -/
def unset (name : String) : Act Unit := do
  let session ← session
  if ((session.bindings.lookup name).getD {}).isReadOnly then
    failWith (name ++ ": is read only")
  modifySession fun session =>
    { session with bindings := session.bindings.filter (·.1 != name) }

/-- Marks a variable. -/
def mark (name : String) (change : Variable → Variable) : Act Unit :=
  modifySession fun session =>
    { session with
      bindings := setEntry session.bindings name
        (change ((session.bindings.lookup name).getD {})) }

/-- Makes a variable local to the function that runs, if it is not yet. -/
def makeLocal (name : String) : Act Unit :=
  modifySession fun session =>
    match session.locals with
    | [] => session
    | inner :: outer =>
      if inner.any (·.1 == name) then session
      else { session with
        locals := ((name, session.bindings.lookup name) :: inner) :: outer }

/-- Starts a scope for local variables. -/
def openScope : Act Unit :=
  modifySession fun session =>
    { session with locals := [] :: session.locals, savedOptions := none :: session.savedOptions }

/-- Puts the local variables of the innermost scope back. -/
def closeScope : Act Unit :=
  modifySession fun session =>
    match session.locals with
    | [] => session
    | inner :: outer =>
      { session with
        locals := outer
        options := (session.savedOptions.head?.join).getD session.options
        savedOptions := session.savedOptions.tail
        bindings := inner.foldl (fun bindings (name, old) =>
          match old with
          | some old => setEntry bindings name old
          | none => bindings.filter (·.1 != name)) session.bindings }

end Act
end ProfileGraph.Shell
