import ProfileGraph.StandIn.Shell.Child
import ProfileGraph.StandIn.Shell.Condition

/-! What the commands share that a shell carries out itself: options in front of
their arguments, numbers, quoted texts, and output that is checked behind each
command. -/
namespace ProfileGraph.Shell
open Host

/-- A command that the shell carries out itself: it acts on its arguments and
yields an exit code. -/
abbrev Builtin := List String → Act Nat

namespace Builtin

/-- Writes to the standard output. A failure is kept until the command ends. -/
def write (text : String) : Act Unit := Act.job (Job.print text)

/-- Reads the letters of one argument. Each letter must be known; a colon behind
it in the list of known ones says that it takes an argument. -/
def readLetters (known : List Char) : List Char → List String →
    Except String (List (Char × String) × List String)
  | [], arguments => .ok ([], arguments)
  | letter :: rest, arguments =>
    match known.dropWhile (· != letter) with
    | _ :: ':' :: _ =>
      if !rest.isEmpty then .ok ([(letter, String.ofList rest)], arguments)
      else match arguments with
        | [] => .error ("No arg for -" ++ String.singleton letter ++ " option")
        | argument :: arguments => .ok ([(letter, argument)], arguments)
    | _ :: _ =>
      if letter == ':' then .error "Illegal option -:"
      else (readLetters known rest arguments).map fun (later, arguments) =>
        ((letter, "") :: later, arguments)
    | [] => .error ("Illegal option -" ++ String.singleton letter)

/-- Reads the options in front of arguments. The fuel bounds their number. -/
def readOptions (known : String) : Nat → List String →
    Except String (List (Char × String) × List String)
  | 0, arguments => .ok ([], arguments)
  | _, [] => .ok ([], [])
  | fuel + 1, argument :: arguments =>
    match argument.toList with
    | ['-', '-'] => .ok ([], arguments)
    | '-' :: letter :: letters => do
      let (found, arguments) ← readLetters known.toList (letter :: letters) arguments
      let (later, arguments) ← readOptions known fuel arguments
      return (found ++ later, arguments)
    | _ => .ok ([], argument :: arguments)

/-- The options in front of arguments and the other arguments. -/
def options (known : String) (arguments : List String) :
    Act (List (Char × String) × List String) := do
  match readOptions known (arguments.length + 1) arguments with
  | .ok found => return found
  | .error complaint => Act.failWith complaint

/-- Refuses a text that is no number. -/
def refuseNumber {α : Type} (text : String) : Act α := Act.failWith ("Illegal number: " ++ text)

/-- The largest number that an argument can be. -/
def maxArgument : Nat := Nat.pow 2 31 - 1

/-- The number that an argument denotes. -/
def number (text : String) : Act Nat := do
  match Condition.integer? text with
  | some n => if n < 0 || maxArgument < n.natAbs then refuseNumber text else return n.natAbs
  | none => refuseNumber text

/-- Puts a text between single quotes, and its single quotes between double
ones. The fuel bounds the number of quotes. -/
def quoteWithin : Nat → List Char → List Char
  | 0, _ => []
  | fuel + 1, text =>
    let plain := text.takeWhile (· != '\'')
    let rest := text.drop plain.length
    let marks := rest.takeWhile (· == '\'')
    let later := rest.drop marks.length
    let first := '\'' :: plain ++ ['\'']
    if marks.isEmpty then first
    else
      let first := first ++ '"' :: marks ++ ['"']
      if later.isEmpty then first else first ++ quoteWithin fuel later

/-- A text as it can be written in a script. -/
def quoted (text : String) : String :=
  String.ofList (quoteWithin (text.length + 1) text.toList)

/-- An argument that gives a variable a value, with the name in front. -/
def splitAssignment (argument : String) : String × Option String :=
  let (name, rest) := argument.toList.span (· != '=')
  (String.ofList name, match rest with
    | [] => none
    | _ :: value => some (String.ofList value))

/-- The name of a variable, unless it cannot be one. -/
def variableName (name : String) : Act String := do
  if isName name then return name else Act.failWith (name ++ ": bad variable name")

/-- Runs a command under its name and checks its output. -/
def run (builtin : Builtin) (name : String) (arguments : List String) : Act Unit := do
  let outer := (← Act.session).commandName
  Act.modifySession fun session => { session with commandName := some name }
  let close : Act Unit :=
    Act.modifySession fun session => { session with commandName := outer }
  Act.andFinally (do
    let status ← builtin arguments
    let state ← get
    if state.machine.writeFault.isSome then
      set { state with machine := { state.machine with writeFault := none } }
      Act.complain (name ++ ": I/O error")
      Act.setStatus (status ||| 1)
    else Act.setStatus status) close

end Builtin
end ProfileGraph.Shell
