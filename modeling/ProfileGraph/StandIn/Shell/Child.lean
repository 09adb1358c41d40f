import ProfileGraph.StandIn.Shell.Expansion

/-! How a shell lets commands run: in the shell itself, in a copy of it, or as a
program. How a single command is run is a parameter here. -/
namespace ProfileGraph.Shell
open Host

/-- How a command is run. -/
structure Mode where
  /-- The exit code of the command is checked, so that a failure does not end
  the shell. -/
  tested : Bool := false
  /-- The shell has nothing to do behind the command. -/
  final : Bool := false

/-- What commands are run with. -/
structure Runtime where
  launch : Launcher
  run : Mode → Command → Act Unit

/-- The source that a text is for a shell. -/
def sourceOf (session : Session) (text : String) : Source where
  text := text.toList
  aliases := session.aliases
  nextDocument := session.documents.length

/-- Complains about what cannot be read and ends the shell. -/
def refuseSyntax {α : Type} (placed : PlacedFault) : Act α := do
  Act.modifySession fun session => { session with line := placed.line }
  Act.failWith ("Syntax error: " ++ placed.fault.message)

/-- Runs the lines of a text from a point on. The flag tells whether any command
has been run. The fuel bounds the number of lines. -/
def runLines (runtime : Runtime) (mode : Mode) (source : Source) (hasRun : Bool) :
    Nat → Act Unit
  | 0 => return ()
  | fuel + 1 => do
    let session ← Act.session
    match CommandReader.nextLine.run
        { source with aliases := session.aliases, documents := [] } with
    | .error fault => refuseSyntax fault
    | .ok (none, _) => unless hasRun do Act.setStatus 0
    | .ok (some (command, isLast), rest) =>
      Act.modifySession fun session =>
        { session with documents := rest.documents ++ session.documents }
      match command with
      | .empty => runLines runtime mode rest hasRun fuel
      | command =>
        unless (← Act.session).options.noExec do
          runtime.run { mode with final := mode.final && isLast } command
        runLines runtime mode rest true fuel

/-- Runs the commands of a text. -/
def runText (runtime : Runtime) (mode : Mode) (text : String) : Act Unit := do
  runLines runtime mode (sourceOf (← Act.session) text) false (text.length + 2)

/-- What a shell does on a signal, if it has been told. -/
def trap? (signal : Nat) : Act (Option String) := return (← Act.session).traps.lookup signal

/-- Does what the shell has been told to do on a signal. The exit code is what
it was before, unless the action leaves the commands around it. -/
def runTrap (runtime : Runtime) (action : String) : Act Unit := do
  let session ← Act.session
  Act.modifySession fun inner =>
    { inner with trapStatus := session.trapStatus <|> some session.status }
  let left ← Act.outcome (runText runtime {} action)
  Act.modifySession fun inner => { inner with trapStatus := session.trapStatus }
  match left with
  | none => Act.setStatus session.status
  | some flow => throw flow

/-- Takes notice of the signals that have been sent to the shell. The fuel
bounds their number. -/
def noticeSignals (runtime : Runtime) : Nat → Act Unit
  | 0 => return ()
  | fuel + 1 => do
    let state ← get
    match state.machine.takeSignal? state.session.process with
    | none => return ()
    | some (signal, machine) =>
      set { state with machine }
      if signal == 9 then throw (.dies signal)
      match (← trap? signal) with
      | some action => unless action.isEmpty do runTrap runtime action
      | none =>
        if Signal.isFatal signal && !state.session.ignored.contains signal then
          throw (.dies signal)
      noticeSignals runtime fuel

/-- Takes notice of all signals that have been sent to the shell. -/
def checkSignals (runtime : Runtime) : Act Unit := do
  noticeSignals runtime ((← get).machine.signals.length + 1)

/-- The exit status that a way to leave a shell stands for. -/
def Flow.status (session : Session) : Option Flow → ExitStatus
  | some (.dies signal) => .signal signal
  | _ => .code (session.status % 256)

/-- Runs the commands that were not waited for. -/
def runJobs (runJob : BackgroundJob → Act ExitStatus) : Act Unit := do
  let jobs := (← get).jobs
  let mut done : List BackgroundJob := []
  for job in jobs do
    if job.ended.isNone then
      let status ← runJob job
      done := done ++ [{ job with ended := some status }]
    else done := done ++ [job]
  modify fun state => { state with jobs := done }

/-- Does something in a process of its own, which starts as a copy of the
shell. -/
def asProcess (number : Nat) (session : Session) (act : Act ExitStatus) : Act ExitStatus := do
  let outer ← get
  let directory := outer.machine.tree.workingDirectory
  let (ended, inner) := (ExceptT.run act).run { machine := outer.machine, session }
  let status := match ended with
    | .ok status => status
    | .error flow => Flow.status inner.session (some flow)
  set { outer with machine := (inner.machine.endProcess number).backIn directory }
  return status

/-- The session of a copy of a shell. Only the signals without an action stay
trapped. -/
def Session.copy (session : Session) (process : Nat) : Session :=
  { session with
    process, parent := session.process, isSubshell := true
    traps := session.traps.filter (·.2.isEmpty) }

mutual

/-- Does something and ends the shell: first comes what it was told to do at its
end, then the commands that were not waited for. The fuel bounds how deep these
lie within one another. -/
def finish (runtime : Runtime) : Nat → Act Unit → Act ExitStatus
  | 0, _ => return .code 2
  | fuel + 1, act => do
    let left ← Act.outcome act
    let left ← match left with
      | some (.dies _) => pure left
      | left => do
        match (← trap? 0) with
        | some action =>
          if action.isEmpty then pure left
          else
            Act.modifySession fun session =>
              { session with
                traps := session.traps.filter (·.1 != 0), loopDepth := 0, commandName := none
                line := 1 }
            let status := (← Act.session).status
            match (← Act.outcome (runTrap runtime action)) with
            | none => pure left
            | some .returns | some (.breaks _) | some (.continues _) =>
              Act.setStatus status
              pure left
            | flow => pure flow
        | none => pure left
    let status := Flow.status (← Act.session) left
    runJobs (runJob runtime fuel)
    return status

/-- Runs a command that was not waited for. -/
def runJob (runtime : Runtime) : Nat → BackgroundJob → Act ExitStatus
  | 0, _ => return .code 2
  | fuel + 1, job => do
    asProcess job.process job.session do
      modify fun state => { state with machine := state.machine.backIn job.directory }
      finish runtime fuel do
        checkSignals runtime
        runtime.run { final := true } job.command

end

/-- How deep commands that are not waited for may lie within one another. -/
def maxJobDepth : Nat := 100

/-- Runs the commands that were not waited for and have not been run. -/
def catchUp (runtime : Runtime) : Act Unit := runJobs (runJob runtime maxJobDepth)

/-- Does something in a copy of the shell and waits for its end. -/
def inCopy (runtime : Runtime) (change : Session → Session) (act : Act Unit) :
    Act ExitStatus := do
  let state ← get
  let (number, machine) := state.machine.newProcess
  set { state with machine }
  asProcess number (change (state.session.copy number)) (finish runtime maxJobDepth act)

/-- Takes over the exit status of a process. The end by a signal is reported. -/
def takeStatus (runtime : Runtime) (status : ExitStatus) : Act Unit := do
  Act.setStatus status.shellCode
  if let .signal signal := status then
    unless signal == 2 || signal == 13 do Act.note (Signal.describe signal)
  checkSignals runtime

/-- The output of a command that runs in a copy of the shell. -/
def capture (runtime : Runtime) (command : Command) : Act String := do
  let state ← get
  let (number, machine) := state.machine.openStream
  set { state with machine }
  let status ← inCopy runtime
    (fun session =>
      { session with descriptors := (1, number) :: session.descriptors.filter (·.1 != 1) })
    (match command with
      | .empty => Act.setStatus 0
      | command => runtime.run { final := true } command)
  Act.modifySession fun session => { session with substitutionStatus := status.shellCode }
  checkSignals runtime
  let output := Octets.ofBytes ((← get).machine.streamBytes number)
  return String.ofList (output.toList.filter (· != '\x00'))

/-- The paths at which a program may be found. -/
def programPaths (session : Session) (name : String) (path : Option String) : List String :=
  if name.toList.contains '/' then [name]
  else
    let directories := match path with
      | some path => path
      | none => ((session.bindings.lookup "PATH").bind (·.value)).getD ""
    ((directories.toList.splitOnP (· == ':')).map String.ofList).map fun directory =>
      if directory.isEmpty then name else directory ++ "/" ++ name

/-- Where programs are looked for if the variable for that is to be ignored. -/
def standardPath : String := "/usr/local/sbin:/usr/local/bin:/usr/sbin:/usr/bin:/sbin:/bin"

/-- The path of a program, or why there is none. A path is taken as it is; a
name is looked up. -/
def findProgram (name : String) (path : Option String) : Act (Except OsError String) := do
  if name.toList.contains '/' then return .ok name
  else
    let tree := (← get).machine.tree
    let paths := programPaths (← Act.session) name path
    match paths.find? fun path => tree.isFile (Octets.toText path) with
    | some path => return .ok path
    | none =>
      let isThere := paths.any fun path => (tree.find (Octets.toText path)).isOk
      return .error (if isThere then .permissionDenied else .noEntry)

/-- Starts the program at a path. A file without a line that names its
interpreter is run as a script. -/
def startProgram (launch : Launcher) (path name : String) (arguments : List String)
    (number : Nat) : Act (Except OsError ExitStatus) := do
  let session ← Act.session
  let parent := if number == session.process then session.parent else session.process
  let process := { Act.process session with name, arguments, number, parent }
  match (← Act.job (Job.launch launch path process)) with
  | .error .execFormat =>
    Act.job (Job.launch launch "/bin/sh" { process with name := "sh", arguments := path :: arguments })
  | ended => return ended

/-- The exit code for a program that cannot be started. -/
def startFault (reason : OsError) : Nat :=
  match reason with
  | .noEntry | .notDirectory | .nameTooLong | .linkLoop => 127
  | _ => 126

/-- Complains about a program that cannot be started. -/
def complainAboutStart (name : String) (reason : OsError) : Act Unit :=
  Act.complain (name ++ ": " ++ openFault "not found" reason)

/-- Runs the program at a path. If the shell has nothing to do behind it, the
program takes the place of the shell. -/
def runProgram (runtime : Runtime) (mode : Mode) (path name : String)
    (arguments : List String) : Act Unit := do
  if name == "sleep" || path.endsWith "/sleep" then catchUp runtime
  let session ← Act.session
  if mode.final && session.traps.all (·.2.isEmpty) then
    match (← startProgram runtime.launch path name arguments session.process) with
    | .ok (.code n) =>
      Act.setStatus n
      throw .exits
    | .ok (.signal n) => throw (.dies n)
    | .error reason =>
      complainAboutStart name reason
      Act.setStatus (startFault reason)
      throw .exits
  else
    let state ← get
    let (number, machine) := state.machine.newProcess
    set { state with machine }
    let ended ← startProgram runtime.launch path name arguments number
    modify fun state => { state with machine := state.machine.endProcess number }
    match ended with
    | .ok status => takeStatus runtime status
    | .error reason =>
      complainAboutStart name reason
      Act.setStatus (startFault reason)

end ProfileGraph.Shell
