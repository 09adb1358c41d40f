import ProfileGraph.Config.Toml
import ProfileGraph.Workspace.FileTree

/-! How a process ends, and how its end is reported. -/
namespace ProfileGraph

/-- How a process ended. -/
inductive ExitStatus where
  | code (n : Nat)
  | signal (n : Nat)
deriving DecidableEq, Repr

/-- What a signal does to a process that says nothing about it. -/
inductive SignalEffect where
  | ends
  /-- Ends the process and leaves an image of its memory. -/
  | dumps
  | stops
  | nothing
deriving DecidableEq, Repr

/-- A signal: its number, its name, its description and its effect. -/
structure Signal where
  number : Nat
  name : String
  description : String
  effect : SignalEffect := .ends
deriving DecidableEq, Repr

namespace Signal

/-- The signals below those for real time. -/
def all : List Signal := [
  ⟨1, "HUP", "Hangup", .ends⟩, ⟨2, "INT", "Interrupt", .ends⟩, ⟨3, "QUIT", "Quit", .dumps⟩,
  ⟨4, "ILL", "Illegal instruction", .dumps⟩, ⟨5, "TRAP", "Trace/breakpoint trap", .dumps⟩,
  ⟨6, "ABRT", "Aborted", .dumps⟩, ⟨7, "BUS", "Bus error", .dumps⟩,
  ⟨8, "FPE", "Floating point exception", .dumps⟩, ⟨9, "KILL", "Killed", .ends⟩,
  ⟨10, "USR1", "User defined signal 1", .ends⟩, ⟨11, "SEGV", "Segmentation fault", .dumps⟩,
  ⟨12, "USR2", "User defined signal 2", .ends⟩, ⟨13, "PIPE", "Broken pipe", .ends⟩,
  ⟨14, "ALRM", "Alarm clock", .ends⟩, ⟨15, "TERM", "Terminated", .ends⟩,
  ⟨16, "STKFLT", "Stack fault", .ends⟩, ⟨17, "CHLD", "Child exited", .nothing⟩,
  ⟨18, "CONT", "Continued", .nothing⟩, ⟨19, "STOP", "Stopped (signal)", .stops⟩,
  ⟨20, "TSTP", "Stopped", .stops⟩, ⟨21, "TTIN", "Stopped (tty input)", .stops⟩,
  ⟨22, "TTOU", "Stopped (tty output)", .stops⟩, ⟨23, "URG", "Urgent I/O condition", .nothing⟩,
  ⟨24, "XCPU", "CPU time limit exceeded", .dumps⟩,
  ⟨25, "XFSZ", "File size limit exceeded", .dumps⟩, ⟨26, "VTALRM", "Virtual timer expired", .ends⟩,
  ⟨27, "PROF", "Profiling timer expired", .ends⟩, ⟨28, "WINCH", "Window changed", .nothing⟩,
  ⟨29, "IO", "I/O possible", .ends⟩, ⟨30, "PWR", "Power failure", .ends⟩,
  ⟨31, "SYS", "Bad system call", .dumps⟩]

/-- The signal with a number. -/
def ofNumber? (number : Nat) : Option Signal := all.find? (·.number == number)

/-- The signal with a name. -/
def ofName? (name : String) : Option Signal := all.find? (·.name == name)

/-- Whether a signal ends a process that says nothing about it. Those for real
time do. -/
def isFatal (number : Nat) : Bool :=
  match ofNumber? number with
  | some signal => signal.effect == .ends || signal.effect == .dumps
  | none => 34 ≤ number && number ≤ 64

/-- The description of a signal by its number. -/
def describe (number : Nat) : String :=
  match ofNumber? number with
  | some signal => signal.description
  | none =>
    if 34 ≤ number && number ≤ 64 then "Real-time signal " ++ toString (number - 34)
    else "Unknown signal " ++ toString number

end Signal

namespace ExitStatus

/-- Whether a program ended with the code for success. -/
def isSuccess : ExitStatus → Bool
  | .code n => n == 0
  | .signal _ => false

/-- The text for how a program ended. -/
def message : ExitStatus → String
  | .code n => "exit status: " ++ toString n
  | .signal n =>
    let name := match Signal.ofNumber? n with
      | some known => " (SIG" ++ known.name ++ ")"
      | none => ""
    "signal: " ++ toString n ++ name

/-- The status as a shell counts it. -/
def shellCode : ExitStatus → Nat
  | .code n => n
  | .signal n => 128 + n

end ExitStatus

end ProfileGraph

/-! What a run takes from outside: it starts other programs, whose effects on the
files are theirs, and a package reads the text of its settings. Nothing is known
here of either of them; the program is a function of both. -/
namespace ProfileGraph

/-- What a program left behind that was started: how it ended, what it printed and
the files as they are then. -/
structure Finished where
  status : ExitStatus
  output : List UInt8
  errors : List UInt8
  tree : FileTree

/-- The programs and packages that a run finds. -/
structure Surroundings where
  /-- Starts a program by its name, with arguments and input, and waits for its end. -/
  launch : FileTree → String → List String → List UInt8 → Except OsError Finished
  /-- Reads a TOML text; there is no result if the text is malformed. -/
  readToml : String → Option Toml.Entries

end ProfileGraph
