import ProfileGraph.StandIn.Host.Process
import ProfileGraph.StandIn.Shell.Interpreter

/-! The shell as a program: its arguments name a script, which is text of its own,
a file or the standard input. -/
namespace ProfileGraph.Shell
open Host

/-- Where a shell finds its script. -/
inductive Script where
  | text (text : String)
  | file (path : String)
  | input
deriving Repr

/-- What the arguments of a shell ask for. -/
structure Invocation where
  options : Options
  script : Script
  /-- The name under which the script runs, if the arguments give one. -/
  name : Option String := none
  arguments : List String := []
deriving Repr

/-- Reads the arguments of a shell. -/
def Invocation.read (arguments : List String) : Except String Invocation := do
  let (reading, _, operands) ←
    Builtin.setByArguments true { options := {} } (arguments.length + 1) arguments
  let options := reading.options
  if reading.takesScript then
    match operands with
    | [] => throw "-c requires an argument"
    | script :: rest =>
      return { options, script := .text script, name := rest.head?, arguments := rest.tail }
  else match operands with
    | [] => return { options := { options with readsInput := true }, script := .input }
    | path :: rest =>
      if options.readsInput then return { options, script := .input, arguments := operands }
      else return { options, script := .file path, name := some path, arguments := rest }

/-- The path under which a process knows its working directory. -/
def knownDirectory (process : Process) (tree : FileTree) : String :=
  let here := "/" ++ "/".intercalate (tree.workingDirectory.map Octets.ofText)
  match process.valueOf? "PWD" with
  | some path =>
    let isHere := match tree.find (Octets.toText path) with
      | .ok (place, _) => place == tree.workingDirectory
      | .error _ => false
    if Path.isAbsolute path && isHere then path else here
  | none => here

/-- The variables that a shell starts with. Those of its own come before those
of the environment. -/
def startVariables (process : Process) (directory : String) : List (String × Variable) :=
  let own : List (String × String) := [("IFS", defaultSeparators), ("OPTIND", "1"),
    ("PPID", toString process.parent)]
  let given := process.environment.filter fun (name, _) =>
    isName name && (own.lookup name).isNone && name != "PWD"
  let absent (pairs : List (String × String)) : List (String × String) :=
    pairs.filter fun (name, _) => (process.valueOf? name).isNone
  let initial := own ++ absent [("PATH", standardPath), ("PS1", "# "), ("PS2", "> "), ("PS4", "+ ")]
  initial.map (fun (name, value) => (name, { value := some value }))
    ++ given.map (fun (name, value) => (name, { value := some value, exported := true }))
    ++ [("PWD", { value := some directory, exported := true })]

/-- The session that a shell starts with. -/
def startSession (process : Process) (tree : FileTree) : Session :=
  let directory := knownDirectory process tree
  { name := process.name
    bindings := startVariables process directory
    descriptors := process.descriptors
    process := process.number
    mainProcess := process.number
    parent := process.parent
    umask := process.umask
    ignored := process.ignored
    line := 0
    directory }

/-- The text of the standard input. What cannot be read counts as empty. -/
def inputText : Act String := do
  match (← Act.job (Job.readDescriptor 0)) with
  | .ok text => return text
  | .error _ => return ""

/-- Runs the script of a shell. -/
def runScript (runtime : Runtime) (arguments : List String) : Act Unit := do
  match Invocation.read arguments with
  | .error complaint => Act.failWith complaint
  | .ok invocation =>
    let start : Act Unit :=
      Act.modifySession fun session =>
        { session with
          options := invocation.options
          name := invocation.name.getD session.name
          arguments := invocation.arguments }
    match invocation.script with
    | .text script =>
      start
      let reads := invocation.options.readsInput
      runText runtime { final := !reads } script
      if reads then runText runtime {} (← inputText)
    | .file path =>
      let text ← Builtin.scriptText path
      start
      runText runtime {} text
    | .input =>
      start
      runText runtime {} (← inputText)

/-- The shell. -/
def program : Program := fun launch process machine =>
  let runtime := Interpreter.runtime launch
  let started : State := { machine, session := startSession process machine.tree }
  let act := finish runtime maxJobDepth do
    checkSignals runtime
    runScript runtime process.arguments
  let (ended, state) := (ExceptT.run act).run started
  let status := match ended with
    | .ok status => status
    | .error flow => Flow.status state.session (some flow)
  (status, state.machine)

end ProfileGraph.Shell
