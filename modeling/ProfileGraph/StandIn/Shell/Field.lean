import ProfileGraph.Text.Bytes
import ProfileGraph.Text.Characters
import ProfileGraph.Workspace.FileTree

/-! Patterns of a shell: an asterisk stands for any text, a question mark for any
character, and brackets for one of several characters. -/
namespace ProfileGraph.Shell

/-- A character of a word after its expansion; quotes protect a character from
having a meaning. -/
structure Cell where
  char : Char
  quoted : Bool
deriving DecidableEq, Repr

/-- A part of a pattern. -/
inductive GlobPart where
  | char (c : Char)
  | anyChar
  | anyText
  | bracket (bracket : Bracket)
deriving DecidableEq, Repr

/-- A pattern. -/
abbrev Glob := List GlobPart

namespace Glob

/-- The character that is taken as it is at the front of cells. A backslash
protects the one behind it. -/
def plainCell? : List Cell → Option (Char × List Cell)
  | [] => none
  | ⟨'\\', false⟩ :: next :: rest => some (next.char, rest)
  | cell :: rest => some (cell.char, rest)

/-- The name of a kind of characters between its colons. -/
def kindName? (cells : List Cell) : Option (String × List Cell) :=
  match cells with
  | ⟨'[', false⟩ :: ⟨':', false⟩ :: rest =>
    let name := (rest.takeWhile fun cell => cell.char.isAlpha && !cell.quoted).map (·.char)
    match rest.drop name.length with
    | ⟨':', false⟩ :: ⟨']', false⟩ :: rest =>
      if (charClass? (String.ofList name)).isSome then some (String.ofList name, rest) else none
    | _ => none
  | _ => none

/-- Reads what brackets hold, up to the closing one. The fuel bounds the number
of items. -/
def bracketItems (first : Bool) : Nat → List Cell → Option (List BracketItem × List Cell)
  | 0, _ => none
  | fuel + 1, cells =>
    match cells with
    | [] => none
    | ⟨']', false⟩ :: rest =>
      if first then item fuel (']', rest) else some ([], rest)
    | cells =>
      match kindName? cells with
      | some (name, rest) =>
        (bracketItems false fuel rest).map fun (items, rest) => (.kind name :: items, rest)
      | none =>
        match plainCell? cells with
        | some found => item fuel found
        | none => none
where
  /-- Reads the rest of an item that starts with a character. -/
  item (fuel : Nat) (found : Char × List Cell) : Option (List BracketItem × List Cell) :=
    let single :=
      (bracketItems false fuel found.2).map fun (items, rest) =>
        (.range found.1 found.1 :: items, rest)
    match found.2 with
    | ⟨'-', false⟩ :: rest =>
      match rest with
      | ⟨']', false⟩ :: _ => single
      | rest =>
        match plainCell? rest with
        | some (last, rest) =>
          (bracketItems false fuel rest).map fun (items, rest) =>
            (.range found.1 last :: items, rest)
        | none => single
    | _ => single

/-- The pattern that cells write. The fuel bounds their number. -/
def ofCellsWithin : Nat → List Cell → Glob
  | 0, _ => []
  | _, [] => []
  | fuel + 1, ⟨c, true⟩ :: rest => .char c :: ofCellsWithin fuel rest
  | fuel + 1, ⟨'*', false⟩ :: rest => .anyText :: ofCellsWithin fuel rest
  | fuel + 1, ⟨'?', false⟩ :: rest => .anyChar :: ofCellsWithin fuel rest
  | fuel + 1, ⟨'\\', false⟩ :: next :: rest => .char next.char :: ofCellsWithin fuel rest
  | fuel + 1, ⟨'[', false⟩ :: rest =>
    let (negated, inner) := match rest with
      | ⟨'!', false⟩ :: inner => (true, inner)
      | inner => (false, inner)
    match bracketItems true (inner.length + 1) inner with
    | some (items, rest) => .bracket { negated, items } :: ofCellsWithin fuel rest
    | none => .char '[' :: ofCellsWithin fuel rest
  | fuel + 1, ⟨c, false⟩ :: rest => .char c :: ofCellsWithin fuel rest

/-- The pattern that cells write. -/
def ofCells (cells : List Cell) : Glob := ofCellsWithin cells.length cells

/-- Whether a pattern stands for more than one text. -/
def isOpen (glob : Glob) : Bool :=
  glob.any fun
    | .char _ => false
    | _ => true

/-- Whether a pattern stands for a text. -/
def accepts : Glob → List Char → Bool
  | [], text => text.isEmpty
  | .anyText :: later, text => (List.range (text.length + 1)).any fun n => accepts later (text.drop n)
  | _ :: _, [] => false
  | .char c :: later, d :: rest => c == d && accepts later rest
  | .anyChar :: later, _ :: rest => accepts later rest
  | .bracket bracket :: later, c :: rest => bracket.accepts c && accepts later rest

/-- Drops the shortest or the longest start of a text for which a pattern
stands. -/
def trimStart (glob : Glob) (longest : Bool) (text : List Char) : List Char :=
  let lengths := List.range (text.length + 1)
  let lengths := if longest then lengths.reverse else lengths
  match lengths.find? fun n => glob.accepts (text.take n) with
  | some n => text.drop n
  | none => text

/-- Drops the shortest or the longest end of a text for which a pattern
stands. -/
def trimEnd (glob : Glob) (longest : Bool) (text : List Char) : List Char :=
  let lengths := List.range (text.length + 1)
  let lengths := if longest then lengths else lengths.reverse
  match lengths.find? fun n => glob.accepts (text.drop n) with
  | some n => text.take n
  | none => text

end Glob
end ProfileGraph.Shell

/-! Fields: what words are cut into after their expansion, and the paths for
which a field stands that is a pattern. -/
namespace ProfileGraph.Shell

/-- What a part of a word expands to. -/
inductive Piece where
  /-- Text; `splits` says that separators cut it into fields. -/
  | text (text : String) (quoted splits : Bool)
  /-- A mark of quotation; a field that has one is there even if it is empty. -/
  | quote
  /-- The gap between two arguments. Fields next to a blank gap vanish if they
  are empty. -/
  | gap (blank : Bool)
deriving DecidableEq, Repr

namespace Piece

/-- The character that stands for the gap between two arguments in a text that
joins them. -/
def gapMark : Char := '\x00'

/-- The text of an expansion with marked gaps, in pieces. -/
def ofMarked (quoted splits : Bool) (text : String) : List Piece :=
  ((text.toList.splitOnP (· == gapMark)).map fun part =>
    Piece.text (String.ofList part) quoted splits).intersperse (.gap !quoted)

/-- The characters of a piece. -/
def cells : Piece → List Cell
  | .text value quoted _ => value.toList.map fun c => ⟨c, quoted⟩
  | .quote | .gap _ => []

/-- The text of a piece. -/
def plain : Piece → String
  | .text value _ _ => value
  | .quote | .gap _ => ""

end Piece

/-- The characters that separate fields unless something else is said. -/
def defaultSeparators : String := " \t\n"

/-- Fields while they are cut: those that are finished, the last one first, and
the one that has begun, its last character first. -/
structure Cutting where
  finished : List (List Cell) := []
  begun : List Cell := []
  /-- The field that has begun is there even if it is empty. -/
  marked : Bool := false

namespace Cutting

/-- Whether the field that has begun is nothing yet. -/
def isFresh (cutting : Cutting) : Bool := cutting.begun.isEmpty && !cutting.marked

/-- Ends the field that has begun. -/
def cut (cutting : Cutting) : Cutting :=
  { finished := cutting.begun.reverse :: cutting.finished }

/-- Ends the field that has begun unless it is nothing. -/
def cutIfAny (cutting : Cutting) : Cutting := if cutting.isFresh then cutting else cutting.cut

/-- Whether a separator is blank. -/
def isBlankSeparator (c : Char) : Bool := defaultSeparators.toList.contains c

/-- Drops the separators behind one that ended a field: blank ones, and one
that is not blank if the first one was. -/
def dropSeparators (separators : List Char) (blank : Bool) : List Char → List Char
  | [] => []
  | c :: rest =>
    if !separators.contains c then c :: rest
    else if isBlankSeparator c then dropSeparators separators blank rest
    else if blank then dropSeparators separators false rest
    else c :: rest

theorem length_dropSeparators_le (separators : List Char) (blank : Bool) (text : List Char) :
    (dropSeparators separators blank text).length ≤ text.length := by
  induction text generalizing blank with
  | nil => simp [dropSeparators]
  | cons c rest ih =>
    have hb := ih blank
    have hf := ih false
    simp only [dropSeparators]
    repeat' split
    all_goals simp only [List.length_cons]; omega

/-- Adds the text of an expansion and cuts it at its separators. -/
def addSplit (separators : List Char) (quoted : Bool) (cutting : Cutting) :
    List Char → Cutting
  | [] => cutting
  | c :: rest =>
    if !separators.contains c then
      addSplit separators quoted { cutting with begun := ⟨c, quoted⟩ :: cutting.begun } rest
    else if isBlankSeparator c && cutting.isFresh then
      addSplit separators quoted cutting rest
    else
      addSplit separators quoted cutting.cut
        (dropSeparators separators (isBlankSeparator c) rest)
termination_by text => text.length
decreasing_by
  · simp
  · simp
  · exact Nat.lt_succ_of_le (length_dropSeparators_le ..)

/-- Adds a piece. -/
def add (separators : List Char) (cutting : Cutting) : Piece → Cutting
  | .text text quoted true => cutting.addSplit separators quoted text.toList
  | .text text quoted false =>
    { cutting with begun := (text.toList.map fun c => ⟨c, quoted⟩).reverse ++ cutting.begun }
  | .quote => { cutting with marked := true }
  | .gap true => cutting.cutIfAny
  | .gap false => { cutting.cut with marked := true }

end Cutting

/-- Cuts pieces into fields. -/
def fieldsOf (separators : String) (pieces : List Piece) : List (List Cell) :=
  ((pieces.foldl (Cutting.add separators.toList) {}).cutIfAny).finished.reverse

/-- The text of a field. -/
def fieldText (field : List Cell) : String := String.ofList (field.map (·.char))

namespace Glob

/-- The names in a directory that a pattern stands for. A name that starts with
a period is meant only by a pattern that does so, too. -/
def namesIn (glob : Glob) (tree : FileTree) (directory : String) : List String :=
  match tree.find (Octets.toText (if directory.isEmpty then "." else directory)) with
  | .ok (place, node) =>
    if node.isDirectory then
      ("." :: ".." :: (tree.names place).map Octets.ofText).filter fun name =>
        glob.accepts name.toList && (!name.startsWith "." || glob.head? == some (.char '.'))
    else []
  | .error _ => []

/-- The text of a pattern that stands for one text. -/
def literalText (glob : Glob) : String :=
  String.ofList (glob.filterMap fun
    | .char c => some c
    | _ => none)

/-- The paths behind a start for which the steps of a pattern stand. -/
def pathsBehind (tree : FileTree) (start : String) : List Glob → List String
  | [] => [start]
  | step :: later =>
    let names := if step.isOpen then step.namesIn tree start else [step.literalText]
    names.flatMap fun name =>
      if later.isEmpty then [start ++ name] else pathsBehind tree (start ++ name ++ "/") later

/-- Whether there is something at a path. -/
def isThere (tree : FileTree) (path : String) : Bool :=
  (tree.find (Octets.toText path) false).isOk

/-- The paths for which a field stands: none if it is no pattern or nothing is
found. -/
def paths (tree : FileTree) (field : List Cell) : List String :=
  let steps := (field.splitOnP (·.char == '/')).map ofCells
  if steps.any isOpen then
    ((pathsBehind tree "" steps).filter (isThere tree)).mergeSort (· ≤ ·)
  else []

end Glob
end ProfileGraph.Shell
