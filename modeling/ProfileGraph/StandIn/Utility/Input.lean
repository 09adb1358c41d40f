import ProfileGraph.StandIn.Utility.Options

/-! The input of utilities: operands name files, and a dash or no operand at all
means the standard input. -/
namespace ProfileGraph.Utility
open Host

/-- A line and whether it has an end. -/
structure Line where
  text : String
  ended : Bool
deriving DecidableEq, Repr

namespace Line

/-- The line as it was read. -/
def whole (line : Line) : String := if line.ended then line.text ++ "\n" else line.text

/-- The lines of a text, which a character ends; the last one may lack its
end. -/
def allBetween (mark : Char) (text : String) : List Line :=
  let parts := (text.toList.splitOnP (· == mark)).map String.ofList
  let last := parts.getLast?.getD ""
  parts.dropLast.map (fun part => ⟨part, true⟩) ++ if last.isEmpty then [] else [⟨last, false⟩]

/-- The lines of a text. -/
def all (text : String) : List Line := allBetween '\n' text

end Line

/-- The texts of the lines of a text. -/
def lineTexts (text : String) : List String := (Line.all text).map (·.text)

/-- The operands, or a dash instead of none. -/
def inputs (operands : List String) : List String := if operands.isEmpty then ["-"] else operands

/-- How the input with a name is called. -/
def inputName (path : String) : String := if path == "-" then "standard input" else path

/-- Opens an input. -/
def openInput (path : String) : Job (Except OsError Nat) := do
  if path == "-" then
    match (← Job.openFile? 0) with
    | some number => return .ok number
    | none => return .error .badDescriptor
  else Job.openPath path .reading

/-- Reads an input to its end. -/
def readInput (path : String) : Job (Except OsError String) := do
  match (← openInput path) with
  | .ok number => Job.readOpen number
  | .error reason => return .error reason

/-- Reads the input with a name, or complains about it as most utilities do. -/
def readOrComplain (path : String) : Job (Option String) := do
  match (← readInput path) with
  | .ok text => return some text
  | .error reason =>
    Job.complainAs (quotedIfNeeded path ++ ": " ++ reason.description)
    return none

/-- Whether an open file is read from a regular file, whose position can be
moved back. -/
def canMoveBack (number : Nat) : Job Bool := do
  return match (← get).opened[number]? with
    | some file => match file.channel with
      | .node _ => true
      | _ => false
    | none => false

/-- Moves the position of an open file. -/
def movePosition (number position : Nat) : Job Unit :=
  modify fun machine =>
    { machine with opened := machine.opened.modify number fun file => { file with position } }

/-- The position of an open file. -/
def positionOf (number : Nat) : Job Nat := do
  return (((← get).opened[number]?).map (·.position)).getD 0

/-- The text without a text at its end. -/
def dropEnd? (text ending : List Char) : Option (List Char) :=
  if ending.isSuffixOf text then some (text.take (text.length - ending.length)) else none

/-- The factor that the letters behind a count stand for. -/
def countUnit? : String → Option Nat
  | "" => some 1
  | "b" => some 512
  | "K" | "k" | "KiB" => some 1024
  | "kB" | "KB" => some 1000
  | "M" | "m" | "MiB" => some (Nat.pow 1024 2)
  | "MB" => some (Nat.pow 1000 2)
  | "G" | "GiB" => some (Nat.pow 1024 3)
  | "GB" => some (Nat.pow 1000 3)
  | _ => none

/-- The count that a text denotes. -/
def count? (text : String) : Option Nat :=
  let digits := text.toList.takeWhile Char.isDigit
  if digits.isEmpty then none
  else do
    let n ← (String.ofList digits).toNat?
    let factor ← countUnit? (String.ofList (text.toList.drop digits.length))
    return n * factor

/-- A text filled up with blanks on the left. -/
def padLeft (width : Nat) (text : String) : String :=
  String.ofList (List.replicate (width - text.length) ' ') ++ text

/-- A text filled up with blanks on the right. -/
def padRight (width : Nat) (text : String) : String :=
  text ++ String.ofList (List.replicate (width - text.length) ' ')

/-- The text of a number in octal digits, at least as many as asked for. -/
def octalText (width n : Nat) : String :=
  let digits := Nat.toDigits 8 n
  String.ofList (List.replicate (width - digits.length) '0' ++ digits)

end ProfileGraph.Utility
