import ProfileGraph.Text.Characters

/-! Regular expressions and the places in a text where they match. Of all
matches the one that starts first is taken, and of those the longest one; what
the groups of an expression hold is decided from the left, the first alternative
and the most repetitions being taken that lead to this match. -/
namespace ProfileGraph

/-- A condition on the place between two characters. -/
inductive Edge where
  | lineStart
  | lineEnd
  | textStart
  | textEnd
  | wordStart
  | wordEnd
  /-- The start or the end of a word. -/
  | wordEdge
  | noWordEdge
deriving DecidableEq, Repr

/-- A regular expression. -/
inductive RegularExpression where
  | empty
  | char (c : Char)
  | any
  | bracket (bracket : Bracket)
  | edge (edge : Edge)
  /-- What the group with a number holds. -/
  | back (number : Nat)
  | group (number : Nat) (inner : RegularExpression)
  | both (first second : RegularExpression)
  | either (first second : RegularExpression)
  /-- At least and at most as often as given. -/
  | repeated (inner : RegularExpression) (least : Nat) (most : Option Nat)
deriving Repr

/-- A text in which an expression is looked for. -/
structure Subject where
  chars : Array Char
  /-- Small and capital letters are alike. -/
  ignoresCase : Bool := false
  /-- Lines start and end inside the text, too. -/
  hasLines : Bool := false

namespace Subject

/-- Whether the character at a position is part of a word. -/
def isWordAt (subject : Subject) (position : Nat) : Bool :=
  match subject.chars[position]? with
  | some c => c.isAlphanum || c == '_'
  | none => false

/-- Whether a condition holds at a position. -/
def holdsAt (subject : Subject) (position : Nat) (edge : Edge) : Bool :=
  let before := 0 < position && subject.isWordAt (position - 1)
  let behind := subject.isWordAt position
  match edge with
  | .textStart => position == 0
  | .textEnd => position == subject.chars.size
  | .lineStart =>
    position == 0 || (subject.hasLines && subject.chars[position - 1]? == some '\n')
  | .lineEnd =>
    position == subject.chars.size
      || (subject.hasLines && subject.chars[position]? == some '\n')
  | .wordStart => !before && behind
  | .wordEnd => before && !behind
  | .wordEdge => before != behind
  | .noWordEdge => before == behind

/-- Whether two characters are alike. -/
def alike (subject : Subject) (c d : Char) : Bool :=
  c == d || (subject.ignoresCase && c.toLower == d.toLower)

/-- Whether brackets stand for a character. -/
def accepts (subject : Subject) (bracket : Bracket) (c : Char) : Bool :=
  if subject.ignoresCase then
    [c, c.toLower, c.toUpper].any (fun c => bracket.items.any (·.holds c)) != bracket.negated
  else bracket.accepts c

end Subject

/-- How far a match has come, and what its groups hold: the number of a group,
where it starts and where it ends. -/
structure Reached where
  position : Nat
  groups : List (Nat × Nat × Nat) := []
deriving DecidableEq, Repr

namespace Reached

/-- Where a group starts and ends. -/
def group? (reached : Reached) (number : Nat) : Option (Nat × Nat) := reached.groups.lookup number

/-- Keeps the first of those that have come equally far and, if that matters,
whose groups hold the same. -/
def distinct (byGroups : Bool) (all : List Reached) : List Reached :=
  (all.foldl (fun kept next =>
    if kept.any fun old =>
        old.position == next.position && (!byGroups || old.groups == next.groups) then kept
    else next :: kept) []).reverse

/-- Those that have come farther stand in front. -/
def farthestFirst (all : List Reached) : List Reached :=
  all.mergeSort fun a b => b.position ≤ a.position

end Reached

namespace RegularExpression

/-- Whether an expression repeats what a group holds. -/
def looksBack : RegularExpression → Bool
  | .back _ => true
  | .group _ inner | .repeated inner _ _ => inner.looksBack
  | .both first second | .either first second => first.looksBack || second.looksBack
  | _ => false

/-- What can be reached by any number of steps that come farther: first what can be
reached behind the first step, and last where one starts. What was reached before
is left out. The fuel bounds the number of steps; the result holds what was seen and
what was reached, the last one first. -/
def visit (byGroups : Bool) (step : List Reached → List Reached) :
    Nat → Reached → List Reached × List Reached → List Reached × List Reached
  | 0, _, found => found
  | fuel + 1, start, (seen, found) =>
    let isSeen := seen.any fun old =>
      old.position == start.position && (!byGroups || old.groups == start.groups)
    if isSeen then (seen, found)
    else
      let farther := (step [start]).filter fun next => start.position < next.position
      let (seen, found) := farther.foldl (fun found next => visit byGroups step fuel next found)
        (start :: seen, found)
      (seen, start :: found)

/-- Everything that can be reached by steps, together with what was there before.
The fuel bounds the number of rounds. -/
def spread (byGroups : Bool) (step : List Reached → List Reached) :
    Nat → List Reached → List Reached → List Reached
  | 0, found, _ => found
  | fuel + 1, found, front =>
    let isNew (next : Reached) : Bool := !found.any fun old =>
      old.position == next.position && (!byGroups || old.groups == next.groups)
    match (step front).filter isNew with
    | [] => found
    | new => spread byGroups step fuel (found ++ new) new

/-- How far an expression can get from some positions. -/
def reach (subject : Subject) (byGroups : Bool) : RegularExpression → List Reached → List Reached
  | .empty, starts => starts
  | .char c, starts => starts.filterMap fun start =>
    match subject.chars[start.position]? with
    | some d =>
      if subject.alike c d then some { start with position := start.position + 1 } else none
    | none => none
  | .any, starts => starts.filterMap fun start =>
    if start.position < subject.chars.size then
      some { start with position := start.position + 1 }
    else none
  | .bracket brackets, starts => starts.filterMap fun start =>
    match subject.chars[start.position]? with
    | some d =>
      if subject.accepts brackets d then some { start with position := start.position + 1 }
      else none
    | none => none
  | .edge condition, starts => starts.filter fun start => subject.holdsAt start.position condition
  | .back number, starts => starts.filterMap fun start =>
    match start.group? number with
    | none => none
    | some (first, last) =>
      let length := last - first
      let isThere := start.position + length ≤ subject.chars.size
        && (List.range length).all fun i =>
          match subject.chars[first + i]?, subject.chars[start.position + i]? with
          | some c, some d => subject.alike c d
          | _, _ => false
      if isThere then some { start with position := start.position + length } else none
  | .group number inner, starts => Reached.distinct byGroups <| starts.flatMap fun start =>
    (reach subject byGroups inner [start]).map fun stop =>
      { stop with groups :=
          (number, start.position, stop.position) :: stop.groups.filter (·.1 != number) }
  | .both first second, starts =>
    Reached.distinct byGroups
      (reach subject byGroups second (reach subject byGroups first starts))
  | .either first second, starts =>
    Reached.distinct byGroups <| starts.flatMap fun start =>
      reach subject byGroups first [start] ++ reach subject byGroups second [start]
  | .repeated inner least most, starts =>
    let step (front : List Reached) : List Reached :=
      Reached.distinct byGroups (reach subject byGroups inner front)
    Reached.distinct byGroups <| starts.flatMap fun start =>
      let front := (List.range least).foldl (fun front _ => step front) [start]
      match most with
      | none => (front.foldl (fun found start =>
          visit byGroups step (subject.chars.size + 1) start found) ([], [])).2.reverse
      | some most =>
        if most - least = 1 then
          front.flatMap fun start => step [start] ++ [start]
        else Reached.farthestFirst (spread byGroups step (most - least) front front)

/-- A match: where it starts and ends, and what its groups hold. -/
structure Match where
  start : Nat
  stop : Nat
  groups : List (Nat × Nat × Nat)
deriving DecidableEq, Repr

/-- Where a group starts and ends; the group with the number zero is the
match. -/
def Match.group? (found : Match) (number : Nat) : Option (Nat × Nat) :=
  if number = 0 then some (found.start, found.stop) else found.groups.lookup number

/-- The longest match that starts at a position. -/
def matchAt? (expression : RegularExpression) (subject : Subject) (start : Nat) :
    Option Match :=
  let stops := expression.reach subject expression.looksBack [{ position := start }]
  let longest := stops.foldl (fun best next =>
    match best with
    | some (old : Reached) => if old.position < next.position then some next else some old
    | none => some next) none
  longest.map fun stop => ⟨start, stop.position, stop.groups⟩

/-- The first match that starts at a position or behind it. -/
def matchFrom? (expression : RegularExpression) (subject : Subject) (start : Nat) :
    Option Match :=
  (List.range (subject.chars.size + 1 - start)).findSome? fun offset =>
    expression.matchAt? subject (start + offset)

/-- Whether an expression matches somewhere. -/
def isFoundIn (expression : RegularExpression) (subject : Subject) : Bool :=
  (expression.matchFrom? subject 0).isSome

end RegularExpression
end ProfileGraph
