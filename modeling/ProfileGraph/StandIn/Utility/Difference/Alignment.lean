/-! How two rows of lines are aligned with as few changes as possible. Lines are numbers
that are equal where the lines are alike. The search goes from both ends along the
diagonals until the paths meet, and each half is aligned in the same way. -/
namespace ProfileGraph.Utility.Difference

/-- The lines that have no counterpart in the other row. -/
structure Changes where
  first : Array Bool
  second : Array Bool

namespace Changes

/-- No changes in rows of some lengths. -/
def none (first second : Nat) : Changes :=
  { first := Array.replicate first false, second := Array.replicate second false }

/-- Marks lines of the first row, from one up to another one. -/
def markFirst (changes : Changes) (start stop : Nat) : Changes :=
  { changes with first :=
      (List.range (stop - start)).foldl (fun all i => all.set! (start + i) true) changes.first }

/-- Marks lines of the second row, from one up to another one. -/
def markSecond (changes : Changes) (start stop : Nat) : Changes :=
  { changes with second :=
      (List.range (stop - start)).foldl (fun all i => all.set! (start + i) true) changes.second }

end Changes

/-- A part of two rows: where it starts and where it ends in each. -/
structure Part where
  firstStart : Nat
  firstStop : Nat
  secondStart : Nat
  secondStop : Nat

namespace Part

/-- The number of equal lines at the front of two rows. The fuel bounds it. -/
def equalFront (first second : Array Nat) (part : Part) : Nat → Nat → Nat
  | 0, count => count
  | fuel + 1, count =>
    if part.firstStart + count < part.firstStop && part.secondStart + count < part.secondStop
        && first[part.firstStart + count]? == second[part.secondStart + count]? then
      equalFront first second part fuel (count + 1)
    else count

/-- The number of equal lines at the end of two rows. The fuel bounds it. -/
def equalBack (first second : Array Nat) (part : Part) : Nat → Nat → Nat
  | 0, count => count
  | fuel + 1, count =>
    if part.firstStart + count < part.firstStop && part.secondStart + count < part.secondStop
        && first[part.firstStop - 1 - count]? == second[part.secondStop - 1 - count]? then
      equalBack first second part fuel (count + 1)
    else count

/-- The part without equal lines at its ends. -/
def trim (first second : Array Nat) (part : Part) : Part :=
  let fuel := part.firstStop - part.firstStart
  let front := part.equalFront first second fuel 0
  let part := { part with
    firstStart := part.firstStart + front, secondStart := part.secondStart + front }
  let back := part.equalBack first second fuel 0
  { part with firstStop := part.firstStop - back, secondStop := part.secondStop - back }

end Part

/-- The farthest places that were reached on the diagonals from one end, and the diagonals
that were reached. -/
structure Front where
  places : Array Int
  least : Int
  most : Int

namespace Front

/-- The place on a diagonal. `base` is the least diagonal. -/
def at? (front : Front) (base diagonal : Int) : Int :=
  (front.places[(diagonal - base + 1).toNat]?).getD 0

/-- The front with a place on a diagonal. -/
def put (front : Front) (base diagonal place : Int) : Front :=
  { front with places := front.places.set! (diagonal - base + 1).toNat place }

/-- Makes room for another step; diagonals beyond the part are left out. `beyond` is the
place on diagonals that were not reached. -/
def widen (front : Front) (base top beyond : Int) : Front :=
  let front :=
    if base < front.least then
      { front.put base (front.least - 2) beyond with least := front.least - 1 }
    else { front with least := front.least + 1 }
  if front.most < top then
    { front.put base (front.most + 2) beyond with most := front.most + 1 }
  else { front with most := front.most - 1 }

/-- The diagonals of the front, the greatest one first. -/
def diagonals (front : Front) : List Int :=
  (List.range ((front.most - front.least) / 2 + 1).toNat).map fun (i : Nat) =>
    front.most - 2 * (i : Int)

end Front

/-- Follows equal lines forwards from a place on a diagonal. The fuel bounds their
number. -/
def slideDown (first second : Array Nat) (part : Part) (diagonal : Int) : Nat → Int → Int
  | 0, x => x
  | fuel + 1, x =>
    let y := x - diagonal
    if x < part.firstStop && y < part.secondStop && first[x.toNat]? == second[y.toNat]? then
      slideDown first second part diagonal fuel (x + 1)
    else x

/-- Follows equal lines backwards from a place on a diagonal. -/
def slideUp (first second : Array Nat) (part : Part) (diagonal : Int) : Nat → Int → Int
  | 0, x => x
  | fuel + 1, x =>
    let y := x - diagonal
    if part.firstStart < x && part.secondStart < y
        && first[(x - 1).toNat]? == second[(y - 1).toNat]? then
      slideUp first second part diagonal fuel (x - 1)
    else x

/-- Takes a step forwards on some diagonals, until a place lies behind one that was reached
from the other end, if such a place counts. -/
def stepDown (first second : Array Nat) (part : Part) (base : Int) (counts : Bool)
    (back : Front) : List Int → Front → Front × Option (Int × Int)
  | [], front => (front, none)
  | diagonal :: later, front =>
    let below := front.at? base (diagonal - 1)
    let above := front.at? base (diagonal + 1)
    let start := if below < above then above else below + 1
    let x := slideDown first second part diagonal (part.firstStop + 1) start
    let front := front.put base diagonal x
    if counts && back.least ≤ diagonal && diagonal ≤ back.most && back.at? base diagonal ≤ x then
      (front, some (x, x - diagonal))
    else stepDown first second part base counts back later front

/-- Takes a step backwards on some diagonals. -/
def stepUp (first second : Array Nat) (part : Part) (base : Int) (counts : Bool)
    (forth : Front) : List Int → Front → Front × Option (Int × Int)
  | [], front => (front, none)
  | diagonal :: later, front =>
    let below := front.at? base (diagonal - 1)
    let above := front.at? base (diagonal + 1)
    let start := if below < above then below else above - 1
    let x := slideUp first second part diagonal (part.firstStop + 1) start
    let front := front.put base diagonal x
    if counts && forth.least ≤ diagonal && diagonal ≤ forth.most && x ≤ forth.at? base diagonal then
      (front, some (x, x - diagonal))
    else stepUp first second part base counts forth later front

/-- Takes steps from both ends until the paths meet. The fuel bounds their number. -/
def meet (first second : Array Nat) (part : Part) (base top : Int) (isOdd : Bool) :
    Nat → Front → Front → Option (Int × Int)
  | 0, _, _ => none
  | fuel + 1, forth, back =>
    let forth := forth.widen base top (-1)
    match stepDown first second part base isOdd back forth.diagonals forth with
    | (_, some found) => some found
    | (forth, none) =>
      let back := back.widen base top (part.firstStop + part.secondStop + 2 : Nat)
      match stepUp first second part base (!isOdd) forth back.diagonals back with
      | (_, some found) => some found
      | (back, none) => meet first second part base top isOdd fuel forth back

/-- The place where the shortest paths from both ends meet. -/
def middle? (first second : Array Nat) (part : Part) : Option (Nat × Nat) :=
  let base : Int := (part.firstStart : Int) - part.secondStop
  let top : Int := (part.firstStop : Int) - part.secondStart
  let start : Int := (part.firstStart : Int) - part.secondStart
  let stop : Int := (part.firstStop : Int) - part.secondStop
  let width := (top - base).toNat + 3
  let front (diagonal place : Int) : Front :=
    ({ places := Array.replicate width 0, least := diagonal, most := diagonal } : Front).put
      base diagonal place
  let found := meet first second part base top ((start - stop) % 2 != 0) width
    (front start part.firstStart) (front stop part.firstStop)
  found.map fun (x, y) => (x.toNat, y.toNat)

/-- Aligns a part of two rows. The fuel bounds how often it is divided. -/
def alignPart (first second : Array Nat) : Nat → Part → Changes → Changes
  | 0, _, changes => changes
  | fuel + 1, part, changes =>
    let part := part.trim first second
    if part.firstStart = part.firstStop then
      changes.markSecond part.secondStart part.secondStop
    else if part.secondStart = part.secondStop then
      changes.markFirst part.firstStart part.firstStop
    else match middle? first second part with
      | none =>
        (changes.markFirst part.firstStart part.firstStop).markSecond
          part.secondStart part.secondStop
      | some (x, y) =>
        let changes := alignPart first second fuel { part with firstStop := x, secondStop := y } changes
        alignPart first second fuel { part with firstStart := x, secondStart := y } changes

/-- The lines that have an equal one in the other row, with their numbers. -/
def keptLines (lines others : Array Nat) : Array (Nat × Nat) :=
  (lines.toList.zipIdx.filter fun (line, _) => others.contains line).toArray

/-- Aligns two rows. Lines without an equal one in the other row are changed in any
case. -/
def align (first second : Array Nat) : Changes :=
  let keptFirst := keptLines first second
  let keptSecond := keptLines second first
  let lines (kept : Array (Nat × Nat)) : Array Nat := kept.map (·.1)
  let inner := alignPart (lines keptFirst) (lines keptSecond)
    (keptFirst.size + keptSecond.size + 1)
    { firstStart := 0, firstStop := keptFirst.size, secondStart := 0, secondStop := keptSecond.size }
    (Changes.none keptFirst.size keptSecond.size)
  let spread (size : Nat) (kept : Array (Nat × Nat)) (changed : Array Bool) : Array Bool :=
    kept.toList.zipIdx.foldl (fun all ((_, line), index) =>
      all.set! line ((changed[index]?).getD true)) (Array.replicate size true)
  { first := spread first.size keptFirst inner.first
    second := spread second.size keptSecond inner.second }

/-- Where the search for runs of changes has come in a row and in the other one. -/
structure Shifting where
  changed : Array Bool
  start : Nat
  stop : Nat
  other : Int

/-- Whether a line is marked. -/
def isMarked (marks : Array Bool) (index : Int) : Bool :=
  0 ≤ index && (marks[index.toNat]?).getD false

/-- The first place from one on, in steps of a direction, that is not marked. The fuel
bounds the number of steps. -/
def pastMarks (marks : Array Bool) (step : Int) : Nat → Int → Int
  | 0, index => index
  | fuel + 1, index => if isMarked marks index then pastMarks marks step fuel (index + step) else index

/-- Moves a run of changes back as long as the line in front of it is like its last one. -/
def shiftBack (lines : Array Nat) (others : Array Bool) : Nat → Shifting → Shifting
  | 0, shifting => shifting
  | fuel + 1, shifting =>
    if 0 < shifting.start && lines[shifting.start - 1]? == lines[shifting.stop - 1]? then
      let changed :=
        (shifting.changed.set! (shifting.start - 1) true).set! (shifting.stop - 1) false
      let start := (pastMarks changed (-1) (changed.size + 1) ((shifting.start : Int) - 2) + 1).toNat
      let other := pastMarks others (-1) (others.size + 1) (shifting.other - 1)
      shiftBack lines others fuel { changed, start, stop := shifting.stop - 1, other }
    else shifting

/-- Moves a run of changes forwards as long as its first line is like the one behind it.
The number tells where the run last stood beside a run of the other row. -/
def shiftForth (lines : Array Nat) (others : Array Bool) : Nat → Shifting → Nat → Shifting × Nat
  | 0, shifting, beside => (shifting, beside)
  | fuel + 1, shifting, beside =>
    if shifting.stop < lines.size && lines[shifting.start]? == lines[shifting.stop]? then
      let changed := (shifting.changed.set! shifting.start false).set! shifting.stop true
      let stop := (pastMarks changed 1 (changed.size + 1) (shifting.stop + 1 : Nat)).toNat
      let next := shifting.other + 1
      let other := pastMarks others 1 (others.size + 1) next
      let beside := if isMarked others next then stop else beside
      shiftForth lines others fuel { changed, start := shifting.start + 1, stop, other } beside
    else (shifting, beside)

/-- Moves a run of changes back and forth until it does not grow any more. -/
def shiftUntilStable (lines : Array Nat) (others : Array Bool) : Nat → Shifting → Shifting × Nat
  | 0, shifting => (shifting, lines.size)
  | fuel + 1, shifting =>
    let length := shifting.stop - shifting.start
    let back := shiftBack lines others (lines.size + 1) shifting
    let beside := if isMarked others (back.other - 1) then back.stop else lines.size
    let (forth, beside) := shiftForth lines others (lines.size + 1) back beside
    if forth.stop - forth.start = length then (forth, beside)
    else shiftUntilStable lines others fuel forth

/-- Moves a run of changes back to where it stood beside a run of the other row. -/
def shiftBeside (others : Array Bool) (beside : Nat) : Nat → Shifting → Shifting
  | 0, shifting => shifting
  | fuel + 1, shifting =>
    if beside < shifting.stop then
      let changed :=
        (shifting.changed.set! (shifting.start - 1) true).set! (shifting.stop - 1) false
      let other := pastMarks others (-1) (others.size + 1) (shifting.other - 1)
      shiftBeside others beside fuel
        { changed, start := shifting.start - 1, stop := shifting.stop - 1, other }
    else shifting

/-- Moves the runs of changes of a row to where they are expected: as far behind as possible,
or beside a run of the other row. The fuel bounds the number of lines. -/
def shiftRuns (lines : Array Nat) (others : Array Bool) :
    Nat → Array Bool → Nat → Int → Array Bool
  | 0, changed, _, _ => changed
  | fuel + 1, changed, index, other =>
    if lines.size ≤ index then changed
    else if !isMarked changed index then
      shiftRuns lines others fuel changed (index + 1)
        (pastMarks others 1 (others.size + 1) other + 1)
    else
      let stop := (pastMarks changed 1 (changed.size + 1) (index + 1 : Nat)).toNat
      let other := pastMarks others 1 (others.size + 1) other
      let (shifted, beside) := shiftUntilStable lines others (lines.size + 1)
        { changed, start := index, stop, other }
      let shifted := shiftBeside others beside (lines.size + 1) shifted
      shiftRuns lines others fuel shifted.changed shifted.stop shifted.other

/-- The changes with their runs where they are expected. -/
def Changes.shift (changes : Changes) (first second : Array Nat) : Changes :=
  let fuel := 2 * (first.size + second.size) + 2
  let moved := shiftRuns first changes.second fuel changes.first 0 0
  { first := moved, second := shiftRuns second moved fuel changes.second 0 0 }

/-- A change: lines of the first row for which lines of the second one stand. -/
structure Change where
  firstStart : Nat
  firstCount : Nat
  secondStart : Nat
  secondCount : Nat
deriving DecidableEq, Repr

/-- The changes from a line of each row on. The fuel bounds the number of lines. -/
def Changes.list (changes : Changes) : Nat → Nat → Nat → List Change
  | 0, _, _ => []
  | fuel + 1, i, j =>
    if changes.first.size ≤ i && changes.second.size ≤ j then []
    else
      let stop (marks : Array Bool) (start : Nat) : Nat :=
        (pastMarks marks 1 (marks.size + 1) (start : Int)).toNat
      let firstStop := stop changes.first i
      let secondStop := stop changes.second j
      let later := changes.list fuel (firstStop + 1) (secondStop + 1)
      if firstStop = i && secondStop = j then later
      else ⟨i, firstStop - i, j, secondStop - j⟩ :: later

/-- The changes that lead from one row to another one. -/
def changesBetween (first second : Array Nat) : List Change :=
  ((align first second).shift first second).list (first.size + second.size + 2) 0 0

end ProfileGraph.Utility.Difference
