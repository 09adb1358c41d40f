import ProfileGraph.StandIn.Utility.Difference.Alignment

/-! How changes between two files are written: by commands that would make them, or with
lines around them in one list or in two. -/
namespace ProfileGraph.Utility.Difference

/-- A file that is compared: how it is called and its lines. -/
structure Side where
  header : String
  lines : Array String
  /-- The last line has no end. -/
  isOpen : Bool

/-- How changes are written. -/
inductive Style where
  | plain
  | brief
  /-- In one list, with a number of lines around each change. -/
  | unified (around : Nat)
  /-- In two lists. -/
  | context (around : Nat)
deriving DecidableEq, Repr

/-- How many lines around changes are written. -/
def Style.around : Style → Nat
  | .unified n | .context n => n
  | _ => 0

namespace Change

/-- The first line behind a change. -/
def firstStop (change : Change) : Nat := change.firstStart + change.firstCount

/-- The first line of the other file behind a change. -/
def secondStop (change : Change) : Nat := change.secondStart + change.secondCount

/-- The change with lines in front of the rows that were compared. -/
def behind (change : Change) (front : Nat) : Change :=
  { change with
    firstStart := change.firstStart + front, secondStart := change.secondStart + front }

end Change

/-- The changes between two rows of lines. Equal lines at both ends are left aside, up to
as many as are written around changes. -/
def changesAround (around : Nat) (first second : Array Nat) : List Change :=
  let whole : Part :=
    { firstStart := 0, firstStop := first.size, secondStart := 0, secondStop := second.size }
  let front := whole.equalFront first second first.size 0 - around
  let part := { whole with firstStart := front, secondStart := front }
  let back := part.equalBack first second first.size 0 - around
  let found := changesBetween (first.extract front (first.size - back))
    (second.extract front (second.size - back))
  found.map (·.behind front)

/-- What stands behind a last line that has no end. -/
def openMark : String := "\n\\ No newline at end of file\n"

namespace Side

/-- A line with a mark in front of it. -/
def line (side : Side) (mark : String) (index : Nat) : String :=
  let text := mark ++ (side.lines[index]?).getD ""
  if side.isOpen && index + 1 = side.lines.size then text ++ openMark else text ++ "\n"

/-- Lines with a mark in front of each. -/
def marked (side : Side) (mark : String) (start count : Nat) : String :=
  String.join ((List.range count).map fun i => side.line mark (start + i))

end Side

/-- The numbers of lines, counted from one on. -/
def rangeText (start count : Nat) : String :=
  if count ≤ 1 then toString (start + count)
  else toString (start + 1) ++ "," ++ toString (start + count)

/-- A change as a command with the lines that it takes away and puts in. -/
def plainText (first second : Side) (change : Change) : String :=
  let letter := if change.firstCount = 0 then "a" else if change.secondCount = 0 then "d" else "c"
  rangeText change.firstStart change.firstCount ++ letter
    ++ rangeText change.secondStart change.secondCount ++ "\n"
    ++ first.marked "< " change.firstStart change.firstCount
    ++ (if letter == "c" then "---\n" else "")
    ++ second.marked "> " change.secondStart change.secondCount

/-- Changes that are written together, since few lines lie between them. -/
def group (around : Nat) : List Change → List Change → List (List Change)
  | [], current => if current.isEmpty then [] else [current.reverse]
  | change :: later, current =>
    match current with
    | [] => group around later [change]
    | last :: _ =>
      if change.firstStart - last.firstStop ≤ 2 * around then group around later (change :: current)
      else current.reverse :: group around later [change]

/-- The lines of both files that a group of changes covers, with those around it. -/
def covered (around : Nat) (first second : Side) (changes : List Change) :
    (Nat × Nat) × Nat × Nat :=
  match changes.head?, changes.getLast? with
  | some front, some last =>
    let before := min around front.firstStart
    ((front.firstStart - before, min first.lines.size (last.firstStop + around)),
      front.secondStart - before, min second.lines.size (last.secondStop + around))
  | _, _ => ((0, 0), 0, 0)

/-- The numbers of lines in a list of changes, with how many there are. -/
def countedRange (start stop : Nat) : String :=
  let count := stop - start
  if count = 0 then toString start ++ ",0"
  else if count = 1 then toString (start + 1)
  else toString (start + 1) ++ "," ++ toString count

/-- Lines of the first file up to a change, and those that changes take away and put in. -/
def unifiedLines (first second : Side) : List Change → Nat → Nat → String
  | [], index, stop => first.marked " " index (stop - index)
  | change :: later, index, stop =>
    first.marked " " index (change.firstStart - index)
      ++ first.marked "-" change.firstStart change.firstCount
      ++ second.marked "+" change.secondStart change.secondCount
      ++ unifiedLines first second later change.firstStop stop

/-- A group of changes in one list. -/
def unifiedText (around : Nat) (first second : Side) (changes : List Change) : String :=
  let ((start, stop), otherStart, otherStop) := covered around first second changes
  "@@ -" ++ countedRange start stop ++ " +" ++ countedRange otherStart otherStop ++ " @@\n"
    ++ unifiedLines first second changes start stop

/-- The lines of one file, with marks on those that changes touch. `spanOf` gives the start
and the end of a change in the file, and the mark of its lines. -/
def sideLines (side : Side) (spanOf : Change → Nat × Nat × String) :
    List Change → Nat → Nat → String
  | [], index, stop => side.marked "  " index (stop - index)
  | change :: later, index, stop =>
    let (start, behind, mark) := spanOf change
    side.marked "  " index (start - index) ++ side.marked mark start (behind - start)
      ++ sideLines side spanOf later behind stop

/-- The numbers of the first and the last line of a list. -/
def endsText (start stop : Nat) : String :=
  if stop ≤ start + 1 then toString stop else toString (start + 1) ++ "," ++ toString stop

/-- A group of changes in two lists. A list in which nothing is changed is left out. -/
def contextText (around : Nat) (first second : Side) (changes : List Change) : String :=
  let ((start, stop), otherStart, otherStop) := covered around first second changes
  let firstSpan (change : Change) : Nat × Nat × String :=
    (change.firstStart, change.firstStop, if change.secondCount = 0 then "- " else "! ")
  let secondSpan (change : Change) : Nat × Nat × String :=
    (change.secondStart, change.secondStop, if change.firstCount = 0 then "+ " else "! ")
  let firstList :=
    if changes.any fun change => change.firstCount != 0 then
      sideLines first firstSpan changes start stop
    else ""
  let secondList :=
    if changes.any fun change => change.secondCount != 0 then
      sideLines second secondSpan changes otherStart otherStop
    else ""
  "***************\n*** " ++ endsText start stop ++ " ****\n" ++ firstList
    ++ "--- " ++ endsText otherStart otherStop ++ " ----\n" ++ secondList

/-- All changes in a style. Groups of changes without any that counts are left out. -/
def reportText (style : Style) (counts : Change → Bool) (first second : Side)
    (changes : List Change) : String :=
  let groups := (group style.around changes []).filter (·.any counts)
  match style with
  | .brief => ""
  | .plain => String.join ((changes.filter counts).map (plainText first second))
  | .unified around =>
    "--- " ++ first.header ++ "\n+++ " ++ second.header ++ "\n"
      ++ String.join (groups.map (unifiedText around first second))
  | .context around =>
    "*** " ++ first.header ++ "\n--- " ++ second.header ++ "\n"
      ++ String.join (groups.map (contextText around first second))

end ProfileGraph.Utility.Difference
