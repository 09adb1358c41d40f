import ProfileGraph.StandIn.RegularExpression.Reader

/-! Scripts that edit a text line by line. A script is a row of commands; blocks
and branches name the command at which they go on. -/
namespace ProfileGraph.Utility.Edit

/-- What is looked for. Without an expression the last one that was used is looked
for again. -/
structure Search where
  expression : Option RegularExpression
  ignoresCase : Bool := false
  hasLines : Bool := false
deriving Repr

/-- Which lines a command is for. -/
inductive Address where
  | line (number : Nat)
  /-- Every so many lines, from a first one on. -/
  | every (first step : Nat)
  | last
  | found (search : Search)
deriving Repr

/-- Where a range of lines ends. -/
inductive RangeEnd where
  | address (address : Address)
  /-- So many lines behind the first one. -/
  | linesLater (count : Nat)
  /-- The next line whose number is a multiple. -/
  | multiple (of : Nat)
deriving Repr

/-- How the case of letters is changed. -/
inductive CaseChange where
  | upper
  | lower
  /-- Only the next letter. -/
  | upperNext
  | lowerNext
  | stop
deriving DecidableEq, Repr

/-- A part of a text that replaces another one. -/
inductive ReplacementPart where
  | text (text : String)
  | group (number : Nat)
  | change (change : CaseChange)
deriving DecidableEq, Repr

/-- A replacement of what is found. -/
structure Substitution where
  search : Search
  parts : List ReplacementPart
  everywhere : Bool := false
  /-- The first match that is replaced. -/
  first : Nat := 1
  prints : Bool := false
  file : Option String := none
deriving Repr

/-- What a command does. -/
inductive Action where
  /-- Goes on behind the end of a block, unless the lines are those of the
  block. -/
  | block (stop : Nat)
  | nothing
  | append (text : String)
  | insert (text : String)
  | change (text : String)
  | branch (target : Option Nat)
  | branchIfReplaced (target : Option Nat)
  | branchUnlessReplaced (target : Option Nat)
  | delete
  | deleteFirstLine
  | printName
  | takeHeld
  | appendHeld
  | hold
  | holdMore
  | exchange
  | list (width : Option Nat)
  | next
  | appendNext
  | print
  | printFirstLine
  | quit (code : Nat)
  | quitSilently (code : Nat)
  | readFile (path : String)
  | readLine (path : String)
  | substitute (substitution : Substitution)
  | writeFile (path : String)
  | writeFirstLine (path : String)
  | exchangeChars (pairs : List (Char × Char))
  | printNumber
  | clear
deriving Repr

/-- A command and the lines that it is for. -/
structure Command where
  start : Option Address := none
  stop : Option RangeEnd := none
  negated : Bool := false
  action : Action
deriving Repr

/-- A script. -/
structure Script where
  commands : Array Command := #[]
  /-- The script says itself that lines are only printed by commands. -/
  quiet : Bool := false
deriving Repr

namespace Script

/-- The files that a script writes. -/
def files (script : Script) : List String :=
  (script.commands.toList.filterMap fun command =>
    match command.action with
    | .writeFile path | .writeFirstLine path => some path
    | .substitute substitution => substitution.file
    | _ => none).eraseDups

end Script
end ProfileGraph.Utility.Edit
