import ProfileGraph.StandIn.Shell.Builtin.Basic

/-! The commands of a shell for signals and for commands that are not waited
for. -/
namespace ProfileGraph.Shell.Builtin
open Host

/-- The names of the signals by their numbers. Number zero stands for the end of
the shell; a signal without a name is named by its number. -/
def signalName (number : Nat) : String :=
  if number = 0 then "EXIT"
  else if number = 16 then "16"
  else match Signal.ofNumber? number with
    | some signal => signal.name
    | none =>
      let offset (base : String) (sign : String) (n : Nat) : String :=
        if n = 0 then base else base ++ sign ++ toString n
      if number < 34 then toString number
      else if number < 50 then offset "RTMIN" "+" (number - 34)
      else offset "RTMAX" "-" (64 - number)

/-- The largest number of a signal. -/
def maxSignal : Nat := 64

/-- A text in capital letters. -/
def capitals (text : String) : String := String.ofList (text.toList.map Char.toUpper)

/-- The signal that a number or a name stands for, from a least number on. -/
def signalNumber? (least : Nat) (text : String) : Option Nat :=
  if !text.isEmpty && text.toList.all Char.isDigit then
    text.toNat?.filter (· ≤ maxSignal)
  else
    (List.range (maxSignal + 1)).find? fun n => least ≤ n && signalName n == capitals text

/-- What is done on signals, as commands that say so. -/
def trapListing (traps : List (Nat × String)) : String :=
  String.join ((traps.mergeSort (·.1 ≤ ·.1)).map fun (number, action) =>
    "trap -- " ++ quoted action ++ " " ++ signalName number ++ "\n")

/-- Says what is done on signals, up to the first name that is none. -/
def setTraps (action : Option String) : List String → Act Nat
  | [] => return 0
  | name :: later => do
    match signalNumber? 0 name with
    | none =>
      Act.note ("trap: " ++ name ++ ": bad trap")
      return 1
    | some number =>
      Act.modifySession fun session =>
        { session with
          traps := session.traps.filter (·.1 != number) ++
            (action.map fun action => (number, action)).toList }
      setTraps action later

/-- Says what is done on signals, or tells it. -/
def trap : Builtin := fun arguments => do
  match (← options "" arguments).2 with
  | [] =>
    write (trapListing (← Act.session).traps)
    return 0
  | [name] => setTraps none [name]
  | action :: names =>
    let isNumber := !action.isEmpty && action.toList.all Char.isDigit
    if isNumber && (signalNumber? 0 action).isSome then setTraps none (action :: names)
    else setTraps (if action == "-" then none else some action) names

/-- The process numbers of commands that are not waited for, with a number for
each that ended. -/
def job? (text : String) : Act (Except String BackgroundJob) := do
  let jobs := (← get).jobs
  let numbered (n : Nat) : Option BackgroundJob := if n = 0 then none else jobs[n - 1]?
  match text.toList with
  | [] | ['%'] | ['%', '%'] | ['%', '+'] =>
    return (jobs.getLast?.map Except.ok).getD (.error "No current job")
  | ['%', '-'] =>
    return (jobs.dropLast.getLast?.map Except.ok).getD (.error "No previous job")
  | '%' :: rest =>
    return (((String.ofList rest).toNat?.bind numbered).map Except.ok).getD
      (.error ("No such job: " ++ text))
  | _ => return .error ("No such job: " ++ text)

/-- Refuses to move a job to the front or to the back. -/
def moveJob : Builtin := fun arguments => do
  let (_, names) ← options "" arguments
  match (← job? (names.headD "")) with
  | .error complaint => Act.failWith complaint
  | .ok _ =>
    Act.failWith ("job " ++ names.headD "(null)" ++ " not created under job control")

/-- How a command that was not waited for is doing. -/
def jobState (job : BackgroundJob) : String :=
  match job.ended with
  | none => "Running"
  | some (.code 0) => "Done"
  | some (.code n) => "Done(" ++ toString n ++ ")"
  | some (.signal n) => Signal.describe n

/-- The line that tells how a job is doing. -/
def jobLine (count n : Nat) (job : BackgroundJob) : String :=
  let mark := if n = count then "+" else if n + 1 = count then "-" else " "
  let text := "[" ++ toString n ++ "] " ++ mark ++ " " ++ jobState job
  text ++ String.ofList (List.replicate (33 - text.length) ' ') ++ "\n"

/-- Tells how the jobs are doing, the last one first. -/
def listJobs : Builtin := fun arguments => do
  let _ ← options "lp" arguments
  let jobs := (← get).jobs
  let lines := jobs.zipIdx.filterMap fun (job, n) =>
    if job.isReported then none else some (jobLine jobs.length (n + 1) job)
  write (String.join lines.reverse)
  modify fun state =>
    { state with jobs := state.jobs.map fun job => { job with isReported := job.ended.isSome } }
  return 0

/-- The exit code of the job that an argument of the waiting command names. -/
def waitFor (text : String) : Act Nat := do
  if text.startsWith "%" then
    match (← job? text) with
    | .ok job => return (job.ended.map ExitStatus.shellCode).getD 0
    | .error complaint => Act.failWith complaint
  else
    let process ← number text
    match (← get).jobs.find? (·.process == process) with
    | some job =>
      if let some (.signal n) := job.ended then
        unless n == 2 || n == 13 do Act.note (Signal.describe n)
      return (job.ended.map ExitStatus.shellCode).getD 0
    | none => return 127

/-- Waits for the end of jobs. -/
def wait (runtime : Runtime) : Builtin := fun arguments => do
  let (_, names) ← options "" arguments
  catchUp runtime
  let mut status := 0
  for name in names do status ← waitFor name
  return status

/-- Sends a signal to a process. -/
def sendSignal (signal process : Nat) : Act Bool := do
  let machine := (← get).machine
  if !machine.running.contains process then
    Act.complain (OsError.noProcess.description ++ "\n")
    return false
  else
    if signal != 0 then
      modify fun state =>
        { state with
          machine := { state.machine with
            signals := state.machine.signals ++ [(process, signal)] } }
    return true

/-- Sends a signal to the process that an argument names. -/
def sendTo (signal : Nat) (target : String) : Act Bool := do
  if target.startsWith "%" then
    match (← job? target) with
    | .error complaint => Act.failWith complaint
    | .ok _ =>
      Act.complain (OsError.noProcess.description ++ "\n")
      return false
  else
    match target.toList with
    | '-' :: rest =>
      let _ ← number (String.ofList rest)
      Act.complain (OsError.noProcess.description ++ "\n")
      return false
    | _ => sendSignal signal (← number target)

/-- What is said when the command that sends signals is used wrongly. -/
def killUsage : String :=
  "Usage: kill [-s sigspec | -signum | -sigspec] [pid | job]... or\nkill -l [exitstatus]"

/-- The name of the signal that an exit code or a number stands for, or all
names. -/
def listSignals : Builtin := fun arguments => do
  match arguments with
  | [] => write ("0\n" ++ String.join ((List.range maxSignal).map fun n => signalName (n + 1) ++ "\n"))
  | text :: _ =>
    let given ← number text
    let signal := if 128 < given then given - 128 else given
    if 0 < signal && signal ≤ maxSignal then write (signalName signal ++ "\n")
    else Act.failWith ("invalid signal number or exit status: " ++ text)
  return 0

/-- What the options of the command that sends signals ask for: a list, the
signal, and the arguments behind them. -/
def killOptions (arguments : List String) : Act (Bool × Option Nat × List String) := do
  match arguments with
  | [] => return (false, none, [])
  | first :: later =>
    match first.toList with
    | '-' :: name =>
      match signalNumber? 1 (String.ofList name) with
      | some signal => return (false, some signal, later)
      | none =>
        let (found, targets) ← options "ls:" arguments
        let mut signal : Option Nat := none
        for (letter, text) in found do
          if letter == 's' then
            match signalNumber? 1 text with
            | some n => signal := some n
            | none => Act.failWith ("invalid signal number or name: " ++ text)
        return (found.any (·.1 == 'l'), signal, targets)
    | _ => return (false, none, arguments)

/-- Sends signals to processes, or lists the signals. -/
def kill : Builtin := fun arguments => do
  let (lists, signal, targets) ← killOptions arguments
  if lists then
    if signal.isSome then Act.failWith killUsage else listSignals targets
  else if targets.isEmpty then Act.failWith killUsage
  else
    let mut failed := false
    for target in targets do
      unless (← sendTo (signal.getD 15) target) do failed := true
    return if failed then 1 else 0

end ProfileGraph.Shell.Builtin
