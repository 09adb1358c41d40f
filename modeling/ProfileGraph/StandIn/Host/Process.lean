import ProfileGraph.StandIn.Host.Machine

/-! What a program finds when it starts, and the operations through which it
acts on the machine. Arguments, paths and file contents are octet texts. -/
namespace ProfileGraph.Host

/-- Descriptors, each with the number of its open file. -/
abbrev Descriptors := List (Nat × Nat)

/-- The surroundings in which a program runs. -/
structure Process where
  /-- The name under which the program was started. -/
  name : String
  arguments : List String := []
  environment : List (String × String) := []
  descriptors : Descriptors := []
  number : Nat := 1
  parent : Nat := 0
  /-- The bits that new files do not get. -/
  umask : Nat := 0o022
  /-- The signals that the program does not notice. -/
  ignored : List Nat := []
deriving Repr

/-- Something that a program does. -/
abbrev Job := ReaderT Process (StateM Machine)

/-- Starts the program at a path and waits for its end. -/
abbrev Launcher := String → Process → Machine → Except OsError (ExitStatus × Machine)

namespace Process

/-- The value of a variable of the environment. -/
def valueOf? (process : Process) (name : String) : Option String :=
  process.environment.lookup name

/-- The process with another open file at a descriptor. -/
def withDescriptor (process : Process) (descriptor number : Nat) : Process :=
  { process with
    descriptors := (descriptor, number) :: process.descriptors.filter (·.1 != descriptor) }

end Process

namespace Job

/-- Does something that may be refused. -/
def attempt {α : Type} (act : Machine → Except OsError (α × Machine)) :
    Job (Except OsError α) := do
  match act (← get) with
  | .ok (found, machine) =>
    set machine
    return .ok found
  | .error reason => return .error reason

/-- Changes the file tree, unless that is refused. -/
def changeTree (change : FileTree → Except OsError FileTree) : Job (Except OsError Unit) :=
  attempt fun machine => (change machine.tree).map fun tree => ((), { machine with tree })

/-- The files. -/
def tree : Job FileTree := return (← get).tree

/-- The open file behind a descriptor. -/
def openFile? (descriptor : Nat) : Job (Option Nat) :=
  return (← read).descriptors.lookup descriptor

/-- The descriptor that a path stands for, if it stands for one. -/
def descriptorPath? (path : String) : Option Nat :=
  match path with
  | "/dev/stdin" => some 0
  | "/dev/stdout" => some 1
  | "/dev/stderr" => some 2
  | path =>
    match ["/dev/fd/", "/proc/self/fd/"].find? (path.startsWith ·) with
    | some start => (path.drop start.length).toNat?
    | none => none

/-- Opens the file to which a path leads. -/
def openPath (path : String) (access : Access) : Job (Except OsError Nat) := do
  match descriptorPath? path with
  | some descriptor =>
    match (← openFile? descriptor) with
    | some number => return .ok number
    | none => return .error .noEntry
  | none =>
    let mode := 0o666 &&& (0o777 ^^^ (← read).umask)
    attempt fun machine => machine.openPath (Octets.toText path) access mode

/-- Reads from an open file, up to a number of bytes or to the end. -/
def readOpen (number : Nat) (limit : Option Nat := none) : Job (Except OsError String) := do
  return (← attempt (·.readOpen number limit)).map Octets.ofBytes

/-- Writes to an open file. -/
def writeOpen (number : Nat) (text : String) : Job (Except OsError Unit) :=
  attempt fun machine => (machine.writeOpen number (Octets.toBytes text)).map fun machine =>
    ((), machine)

/-- Reads what is left behind a descriptor. -/
def readDescriptor (descriptor : Nat) (limit : Option Nat := none) :
    Job (Except OsError String) := do
  match (← openFile? descriptor) with
  | some number => readOpen number limit
  | none => return .error .badDescriptor

/-- Writes to a descriptor. -/
def writeDescriptor (descriptor : Nat) (text : String) : Job (Except OsError Unit) := do
  match (← openFile? descriptor) with
  | some number => writeOpen number text
  | none => return .error .badDescriptor

/-- Writes to the standard output. A failure is kept until the program ends. -/
def print (text : String) : Job Unit := do
  unless text.isEmpty do
    match (← writeDescriptor 1 text) with
    | .ok () => return ()
    | .error reason =>
      modify fun machine => { machine with writeFault := machine.writeFault <|> some reason }

/-- Writes a line to the standard error. -/
def complain (text : String) : Job Unit := do
  let _ ← writeDescriptor 2 (text ++ "\n")

/-- Writes a line to the standard error, behind the name of the program. -/
def complainAs (text : String) : Job Unit := do
  complain ((← read).name ++ ": " ++ text)

/-- Reads the file to which a path leads. -/
def readPath (path : String) : Job (Except OsError String) := do
  match (← openPath path .reading) with
  | .ok number => readOpen number
  | .error reason => return .error reason

/-- The node to which a path leads. -/
def node (path : String) (throughLast : Bool := true) : Job (Except OsError FileNode) := do
  return ((← tree).find (Octets.toText path) throughLast).map (·.2)

/-- Runs a job with another process around it. -/
def within {α : Type} (process : Process) (job : Job α) : Job α := fun _ => job process

/-- Starts the program at a path in changed surroundings. It cannot move this
process to another directory. -/
def launch (launcher : Launcher) (path : String) (process : Process) :
    Job (Except OsError ExitStatus) := do
  let directory := (← tree).workingDirectory
  let ended ← attempt (launcher path process)
  modify (·.backIn directory)
  return ended

end Job
end ProfileGraph.Host

/-! The programs of a system. A program is given how others are started. -/
namespace ProfileGraph.Host

/-- What a program does, up to its end. -/
abbrev Program := Launcher → Job ExitStatus

namespace Program

/-- A program that starts no others and ends with a code. -/
def ofJob (job : Job Nat) : Program := fun _ => return .code (← job)

/-- Runs a program in its process. Output that could not be written makes it
fail. -/
def run (program : Program) (launch : Launcher) (process : Process) (machine : Machine) :
    ExitStatus × Machine :=
  let checked : Job ExitStatus := do
    let status ← program launch
    match (← get).writeFault with
    | none => return status
    | some reason =>
      Job.complainAs ("write error: " ++ reason.description)
      return .code 1
  let (status, ended) := (checked process).run { machine with writeFault := none }
  (status, { ended with writeFault := machine.writeFault })

end Program
end ProfileGraph.Host
