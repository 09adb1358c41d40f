import ProfileGraph.StandIn.Host.Launch
import ProfileGraph.StandIn.RegularExpression.Basic
import ProfileGraph.StandIn.Utility.Input
import ProfileGraph.StandIn.Utility.Scan.Format
import ProfileGraph.StandIn.Utility.Scan.Value

/-! What a scanning program knows while it runs: its variables, the record with its
fields, and the files and commands that it reads and writes. -/
namespace ProfileGraph.Utility.Scan
open Host

/-- What a variable is. -/
inductive Cell where
  | value (value : Value)
  /-- The table with a number. -/
  | table (number : Nat)

instance : Inhabited Cell := ⟨.value .absent⟩

/-- Something that is written to. What was written goes out when the output is closed or
when something else has to see it. -/
structure Output where
  /-- The open file; without one it is a command that reads what is written. -/
  file : Option Nat
  /-- The texts that were written, the last one first. -/
  pending : List String := []

/-- Something that is read from, and the code with which its command ended. -/
structure Source where
  text : List Char
  code : Option Nat := none

/-- What a program knows. -/
structure State where
  globals : List (String × Cell) := []
  /-- The parameters of the function that runs. -/
  parameters : Array Cell := #[]
  tables : Array Table := #[]
  record : Value := .absent
  fields : Array Value := #[]
  /-- The ranges whose first record was seen, but not their last one. -/
  openRanges : List Nat := []
  sources : List (String × Source) := []
  /-- The outputs, the one that was used last in front. -/
  outputs : List (String × Output) := []
  /-- The texts for the standard output, the last one first. -/
  pending : List String := []
  main : Option Source := none
  /-- The number of the next argument that may name an input. -/
  nextArgument : Nat := 1
  /-- An argument has named an input. -/
  hasInput : Bool := false
  isAtEnd : Bool := false
  /-- What the random numbers were started with. -/
  seed : Value := .number (.ofNat 0)

/-- Where a value can be kept. -/
inductive Place where
  | scalar (name : Name)
  | element (table : Nat) (key : Key)
  | field (index : Nat)
  | nowhere

/-- What ends what is done. -/
inductive Halt where
  | exit (code : Option Nat)
  | next
  | nextFile
  /-- The program cannot go on. -/
  | failed (message : String)

/-- What a program does not change. -/
structure Surroundings where
  functions : List Function
  launcher : Launcher

/-- Something that a program does. -/
abbrev Running := ReaderT Surroundings (ExceptT Halt (StateT State Job))

namespace Running

/-- Does something from a state on: what came of it, and the state after that. -/
def outcome {α : Type} (surroundings : Surroundings) (act : Running α) (state : State) :
    Job (Except Halt α × State) :=
  ((ReaderT.run act surroundings).run).run state

/-- What a program of the system does, as a step of the scanning program. -/
def job {α : Type} (act : Job α) : Running α :=
  liftM (m := StateT State Job) (liftM act)

/-- The value of a variable of the program. -/
def valueOf (name : String) : Running Value := do
  match (← get).globals.lookup name with
  | some (.value value) => return value
  | _ => return .absent

/-- The text of a value. -/
def text (value : Value) : Running String := do
  match value with
  | .number x =>
    match plainWhole? x with
    | some n => return toString n
    | none => return numberText ((← valueOf "CONVFMT").toText "%.6g") x
  | value => return value.toText ""

/-- The text of a variable of the program. -/
def textOf (name : String) : Running String := do text (← valueOf name)

/-- Ends the program because of a fault. -/
def fail {α : Type} (message : String) : Running α := throw (.failed message)

/-- Ends the program because of a fault in what it does. -/
def failRunning {α : Type} (message : String) : Running α := do
  let file ← textOf "FILENAME"
  let inFile ← textOf "FNR"
  let all ← textOf "NR"
  fail ("run time error: " ++ message ++ "\n\tFILENAME=\"" ++ file ++ "\" FNR=" ++ inFile
    ++ " NR=" ++ all)

/-- Puts a value in the place of a name. -/
def replaceCell (name : String) (cell : Cell) : List (String × Cell) → List (String × Cell)
  | [] => [(name, cell)]
  | (other, old) :: later =>
    if other == name then (name, cell) :: later
    else (other, old) :: replaceCell name cell later

/-- Lets a name outside functions stand for something. -/
def setCell (name : String) (cell : Cell) : Running Unit :=
  modify fun state => { state with globals := replaceCell name cell state.globals }

/-- What a name stands for. -/
def cell (name : Name) : Running Cell := do
  match name with
  | .global name => return ((← get).globals.lookup name).getD (.value .absent)
  | .parameter index => return ((← get).parameters[index]?).getD (.value .absent)

/-- Lets a name stand for something. -/
def setName (name : Name) (cell : Cell) : Running Unit := do
  match name with
  | .global name => setCell name cell
  | .parameter index =>
    modify fun state => { state with parameters := state.parameters.set! index cell }

/-- The number of the table that a name stands for, which is made if there is none. -/
def tableNumber (name : Name) : Running Nat := do
  match (← cell name) with
  | .table number => return number
  | .value _ =>
    let number := (← get).tables.size
    modify fun state => { state with tables := state.tables.push {} }
    setName name (.table number)
    return number

/-- The table with a number. -/
def tableAt (number : Nat) : Running Table := return ((← get).tables[number]?).getD {}

/-- Puts a table in the place of the one with a number. -/
def setTable (number : Nat) (table : Table) : Running Unit :=
  modify fun state => { state with tables := state.tables.set! number table }

/-- A regular expression that is written in a text. -/
def patternIn (text : String) : Running RegularExpression := do
  match Pattern.read text with
  | .ok pattern => return pattern
  | .error fault =>
    failRunning ("regular expression compile failed (" ++ fault.message ++ ")\n" ++ text)

/-- Runs a command in a shell, and says how it ended. -/
def runCommand (command : String) (change : Process → Process) : Running ExitStatus := do
  let launcher := (← read).launcher
  let ended ← job do
    Job.spawn launcher "/bin/sh" ["-c", command] (← read).environment change
  match ended with
  | .ok status => return status
  | .error _ => return .code 127

/-- The code of a command that has ended. -/
def codeOf : ExitStatus → Nat
  | .code code => code
  | .signal number => 256 + number

/-- The text of what was written, the last text first. -/
def joinPending (pending : List String) : String := String.join pending.reverse

/-- Writes what is left for the standard output. -/
def flushStandard : Running Unit := do
  let pending := (← get).pending
  modify fun state => { state with pending := [] }
  job (Job.print (joinPending pending))

/-- Writes what is left for the files. -/
def flushFiles : Running Unit := do
  for (name, output) in (← get).outputs do
    if let some number := output.file then
      unless output.pending.isEmpty do
        let _ ← job (Job.writeOpen number (joinPending output.pending))
        modify fun state => { state with
          outputs := state.outputs.map fun (other, output) =>
            if other == name then (other, { output with pending := [] }) else (other, output) }

/-- Writes what is left, so that other programs find it. -/
def flushAll : Running Unit := do
  flushStandard
  flushFiles

/-- Closes an output, and returns the code of its command. -/
def closeOutput (name : String) (output : Output) : Running Nat := do
  modify fun state => { state with outputs := state.outputs.filter (·.1 != name) }
  let text := joinPending output.pending
  match output.file with
  | some number =>
    let _ ← job (Job.writeOpen number text)
    return 0
  | none =>
    let (number, machine) := (← job get).openStream (Octets.toBytes text)
    job (set machine)
    return codeOf (← runCommand name fun process => process.withDescriptor 0 number)

/-- Closes all outputs. -/
def closeAll : Running Unit := do
  flushFiles
  for (name, output) in (← get).outputs do
    if output.file.isNone then
      let _ ← closeOutput name output
  flushAll

/-- Writes a text to the file or the command with a name. -/
def writeTo (direction : Direction) (name text : String) : Running Unit := do
  if direction != .piping && (name == "/dev/stdout" || name == "-") then
    modify fun state => { state with pending := text :: state.pending }
  else if direction != .piping && name == "/dev/stderr" then
    let _ ← job (Job.writeDescriptor 2 text)
  else
    let old := (← get).outputs.lookup name
    let output ← match old with
      | some output => pure output
      | none =>
        if direction == .piping then
          flushAll
          pure { file := none }
        else
          let access := if direction == .appending then Access.appending else .writing
          match (← job (Job.openPath name access)) with
          | .ok number => pure { file := some number }
          | .error reason =>
            fail ("cannot open \"" ++ name ++ "\" for output (" ++ reason.description ++ ")")
    modify fun state => { state with
      outputs := (name, { output with pending := text :: output.pending })
        :: state.outputs.filter (·.1 != name) }

/-- Prints a text. -/
def write (output : Option (Direction × String)) (text : String) : Running Unit := do
  match output with
  | none => modify fun state => { state with pending := text :: state.pending }
  | some (direction, name) => writeTo direction name text

end Running
end ProfileGraph.Utility.Scan
