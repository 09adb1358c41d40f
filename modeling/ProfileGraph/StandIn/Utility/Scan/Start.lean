import ProfileGraph.StandIn.Utility.Scan.Reader
import ProfileGraph.StandIn.Utility.Scan.Run

/-! The utility that scans its input with a program. Options set variables or name files
that hold the program; without such a file the first operand is the program. -/
namespace ProfileGraph.Utility.Scan
open Host

/-- What the utility is asked for. -/
structure Wish where
  separator : Option String := none
  settings : List (String × String) := []
  files : List String := []
  operands : List String := []

/-- Why arguments are not understood. -/
inductive ArgumentFault where
  | missing (letter : Char)
  | unknown (argument : String)
  | noSetting (text : String)
  /-- Only help was asked for. -/
  | help

/-- The complaint about an argument. -/
def ArgumentFault.message? : ArgumentFault → Option String
  | .missing letter => some ("option -" ++ String.singleton letter ++ " lacks argument")
  | .unknown argument => some ("not an option: " ++ argument)
  | .noSetting text => some ("improper assignment: -v " ++ text)
  | .help => none

/-- Reads arguments behind what has been read. -/
def readArguments : List String → Wish → Except ArgumentFault Wish
  | [], wish => .ok wish
  | argument :: later, wish =>
    let take (letter : Char) (value : String) (rest : List String)
        (goOn : Wish → Except ArgumentFault Wish) : Except ArgumentFault Wish :=
      match letter with
      | 'F' => goOn { wish with separator := some value }
      | 'f' => goOn { wish with files := wish.files ++ [value] }
      | 'W' =>
        if ["version", "help", "usage"].contains value then .error .help
        else goOn wish
      | _ =>
        match Running.setting? value with
        | some setting => goOn { wish with settings := wish.settings ++ [setting] }
        | none => .error (if rest.isEmpty && value.isEmpty then .missing letter else .noSetting value)
    match argument.toList with
    | ['-'] => .ok { wish with operands := argument :: later }
    | ['-', '-'] => .ok { wish with operands := later }
    | '-' :: '-' :: _ =>
      if ["--version", "--help", "--usage"].contains argument then .error .help
      else if ["--posix", "--compat", "--interactive"].contains argument then
        readArguments later wish
      else .error (.unknown argument)
    | '-' :: letter :: value =>
      if !(['F', 'f', 'v', 'W'].contains letter) then .error (.unknown argument)
      else if value.isEmpty then
        match later with
        | [] => .error (.missing letter)
        | value :: later => take letter value later (readArguments later)
      else take letter (String.ofList value) later (readArguments later)
    | _ => .ok { wish with operands := argument :: later }

namespace Running

/-- Sets the variables that are there from the start. -/
def setUp (name : String) (wish : Wish) (operands : List String)
    (environment : List (String × String)) : Running Unit := do
  let given : List (String × Value) := [
    ("NR", .ofNat 0), ("FNR", .ofNat 0), ("NF", .ofNat 0), ("FS", .text " "), ("OFS", .text " "),
    ("ORS", .text "\n"), ("RS", .text "\n"), ("SUBSEP", .text "\x1c"), ("RSTART", .ofNat 0),
    ("RLENGTH", .ofInt (-1)), ("CONVFMT", .text "%.6g"), ("OFMT", .text "%.6g"),
    ("FILENAME", .text ""), ("ARGC", .ofNat (operands.length + 1))]
  for (name, value) in given do setCell name (.value value)
  let environment := environment.foldl (fun (table : Table) (name, value) =>
    table.set (.name name) (.input value)) {}
  setTable (← tableNumber (.global "ENVIRON")) environment
  let arguments := (name :: operands).zipIdx.foldl (fun (table : Table) (argument, index) =>
    table.set (.number index) (.input argument)) {}
  setTable (← tableNumber (.global "ARGV")) arguments
  for (name, text) in wish.settings do applySetting name text
  if let some separator := wish.separator then
    let text := String.ofList (unescaped (separator.length + 1) separator.toList)
    setCell "FS" (.value (.text text))

/-- Does something that may end the program. The result tells the code with which it does,
and whether it does. -/
def untilExit (act : Running Unit) (code : Nat) : Running (Nat × Bool) := do
  try
    act
    return (code, false)
  catch halt =>
    match halt with
    | .exit given => return (given.getD code, true)
    | .next | .nextFile => return (code, false)
    | halt => throw halt

/-- Executes statements that stand in front of the input or behind it. -/
def executeApart : List Statement → Running Unit
  | [] => return
  | first :: later => do
    let _ ← execute maxSteps first
    executeApart later

/-- The most records that are read. -/
def maxRecords : Nat := Nat.pow 10 9

/-- Runs a program, and returns the code with which it ends. -/
def useScript (script : Script) : Running Nat := do
  let (code, hasEnded) ← untilExit (executeApart script.before) 0
  let (code, _) ←
    if hasEnded || (script.rules.isEmpty && script.after.isEmpty) then pure (code, false)
    else untilExit (useRecords script.rules maxRecords) code
  let (code, _) ← untilExit (executeApart script.after) code
  closeAll
  return code

end Running

/-- Reads the program that is asked for: its text, the name of its file and the operands. The
error is a complaint. -/
def programOf (wish : Wish) : Job (Except String (String × Option String × List String)) := do
  match wish.files with
  | [] =>
    match wish.operands with
    | program :: operands => return .ok (program, none, operands)
    | [] => return .error ""
  | files =>
    let mut text := ""
    for file in files do
      match (← readInput file) with
      | .ok found => text := text ++ found
      | .error reason =>
        return .error ("cannot open \"" ++ file ++ "\" (" ++ reason.description ++ ")")
    return .ok (text, files.getLast?, wish.operands)

/-- Writes what is left when a program failed, and complains. -/
def endFailed (surroundings : Surroundings) (state : State) (message : String) : Job Unit := do
  Job.complainAs message
  let _ ← Running.outcome surroundings Running.closeAll state

/-- Scans the input with a program, which knows the last part of the name under which the
utility was started. -/
def scanAs (launcher : Launcher) : Job ExitStatus := do
  let process ← read
  match readArguments process.arguments {} with
  | .error fault =>
    match fault.message? with
    | some text =>
      Job.complainAs text
      return .code 2
    | none => return .code 0
  | .ok wish =>
    match (← programOf wish) with
    | .error text =>
      if text.isEmpty then return .code 0
      else
        Job.complainAs text
        return .code 2
    | .ok (text, file, operands) =>
      match Reader.script text with
      | .error (line, fault) =>
        let inFile := match file with
          | some file => if fault.namesFile then file ++ ": " else ""
          | none => ""
        Job.complainAs (inFile ++ fault.message line)
        return .code 2
      | .ok script =>
        let surroundings : Surroundings := { functions := script.functions, launcher }
        let act : Running Nat := do
          Running.setUp process.name wish operands process.environment
          Running.useScript script
        match (← Running.outcome surroundings act {}) with
        | (.ok code, _) => return .code code
        | (.error (.failed message), state) =>
          endFailed surroundings state message
          return .code 2
        | (.error _, state) =>
          let _ ← Running.outcome surroundings Running.closeAll state
          return .code 0

/-- Scans the input with a program. -/
def scan (launcher : Launcher) : Job ExitStatus := do
  let process ← read
  let name := ((process.name.splitOn "/").getLast?).getD process.name
  Job.within { process with name } (scanAs launcher)

end ProfileGraph.Utility.Scan
