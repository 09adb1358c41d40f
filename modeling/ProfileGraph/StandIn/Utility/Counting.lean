import ProfileGraph.StandIn.Utility.Input

/-! The utilities that count: lines, words and characters of inputs, and lines
that repeat the one in front. -/
namespace ProfileGraph.Utility
open Host

/-- What is counted in a text. -/
structure Counts where
  lines : Nat := 0
  words : Nat := 0
  bytes : Nat := 0
  longest : Nat := 0
deriving DecidableEq, Repr

/-- Whether a character separates words. -/
def isSpaceChar (c : Char) : Bool := c == ' ' || ('\t' ≤ c && c ≤ '\r')

namespace Counts

/-- Counts a text. -/
def ofText (text : String) : Counts where
  lines := (text.toList.filter (· == '\n')).length
  words := ((text.toList.splitOnP isSpaceChar).filter (!·.isEmpty)).length
  bytes := text.length
  longest := ((lineTexts text).map (·.length)).foldl max 0

/-- The counts of two inputs together; the longest line is that of either. -/
def add (a b : Counts) : Counts :=
  ⟨a.lines + b.lines, a.words + b.words, a.bytes + b.bytes, max a.longest b.longest⟩

/-- The counts that options ask for, in the order in which they are shown. -/
def shown (counts : Counts) (given : Given) : List Nat :=
  let all := !(["l", "w", "c", "m", "L"].any given.has)
  (if all || given.has "l" then [counts.lines] else [])
    ++ (if all || given.has "w" then [counts.words] else [])
    ++ (if given.has "m" then [counts.bytes] else [])
    ++ (if all || given.has "c" then [counts.bytes] else [])
    ++ if given.has "L" then [counts.longest] else []

/-- The line that shows counts. -/
def line (counts : Counts) (given : Given) (width : Nat) (name : Option String) : String :=
  let numbers := (counts.shown given).map fun n => padLeft width (toString n)
  " ".intercalate (numbers ++ name.toList) ++ "\n"

end Counts

/-- The number of bytes of the regular file behind an input, none for another
input, if there is one. -/
def inputSize (path : String) : Job (Option (Option Nat)) := do
  match (← openInput path) with
  | .error _ => return none
  | .ok number =>
    let machine ← get
    match machine.opened[number]? with
    | some { channel := .node node, .. } =>
      return some ((machine.tree.nodes[node]?).map (·.size))
    | _ => return some none

/-- The width of the columns of counts. -/
def countWidth (given : Given) (paths : List String) : Job Nat := do
  if paths.length = 1 && (Counts.shown {} given).length = 1 then return 1
  else
    let sizes ← paths.mapM inputSize
    if (sizes.head?.join).isNone && sizes.head? == some none && paths.length = 1 then return 1
    else
      let total := (sizes.filterMap Option.join).foldl (· + ·) 0
      let least := if sizes.any (· == some none) then 7 else 1
      return max least (toString total).length

/-- Counts inputs. -/
def countText : Job Nat :=
  withOptions [.flag 'c' "bytes", .flag 'm' "chars", .flag 'l' "lines", .flag 'w' "words",
      .flag 'L' "max-line-length", .named "total" .required] fun given => do
    let paths := inputs given.operands
    let width ← countWidth given paths
    let mut total : Counts := {}
    let mut code := 0
    for path in paths do
      let name := if given.operands.isEmpty then none else some path
      match (← openInput path) with
      | .error reason =>
        Job.complainAs (quotedIfNeeded path ++ ": " ++ reason.description)
        code := 1
      | .ok number =>
        match (← Job.readOpen number) with
        | .ok text =>
          let counts := Counts.ofText text
          total := total.add counts
          Job.print (counts.line given width name)
        | .error reason =>
          Job.complainAs (quotedIfNeeded path ++ ": " ++ reason.description)
          Job.print (({} : Counts).line given width name)
          code := 1
    if 1 < paths.length then Job.print (total.line given width (some "total"))
    return code

/-- How repeated lines are found and shown. -/
structure RepetitionOptions where
  counts : Bool := false
  repeatedOnly : Bool := false
  uniqueOnly : Bool := false
  ignoresCase : Bool := false
  skippedFields : Nat := 0
  skippedChars : Nat := 0
  comparedChars : Option Nat := none

namespace RepetitionOptions

/-- Drops fields at the front of a line. -/
def dropFields : Nat → List Char → List Char
  | 0, text => text
  | n + 1, text =>
    dropFields n ((text.dropWhile fun c => c == ' ' || c == '\t').dropWhile fun c =>
      c != ' ' && c != '\t')

/-- What is compared of a line. -/
def key (options : RepetitionOptions) (line : String) : List Char :=
  let text := (dropFields options.skippedFields line.toList).drop options.skippedChars
  let text := match options.comparedChars with
    | some n => text.take n
    | none => text
  if options.ignoresCase then text.map Char.toLower else text

/-- The groups of neighbouring lines that are alike: the first line and the
number of lines. -/
def groups (options : RepetitionOptions) (lines : List String) : List (String × Nat) :=
  (lines.foldl (fun found line =>
    match found with
    | (first, n) :: later =>
      if options.key first == options.key line then (first, n + 1) :: later
      else (line, 1) :: found
    | [] => [(line, 1)]) ([] : List (String × Nat))).reverse

/-- The line that shows a group, if it is shown. -/
def shown (options : RepetitionOptions) (line : String) (n : Nat) : String :=
  if (options.repeatedOnly && n = 1) || (options.uniqueOnly && 1 < n) then ""
  else (if options.counts then padLeft 7 (toString n) ++ " " else "") ++ line ++ "\n"

end RepetitionOptions

/-- Drops lines that repeat the one in front. -/
def dropRepetitions : Job Nat :=
  withOptions [.flag 'c' "count", .flag 'd' "repeated", .flag 'D', .flag 'i' "ignore-case",
      .flag 'u' "unique", .value 'f' "skip-fields", .value 's' "skip-chars", .value 'w' "check-chars",
      .flag 'z' "zero-terminated"] fun given => do
    let number (key : String) : Option Nat := (given.value? key).bind String.toNat?
    let options : RepetitionOptions := {
      counts := given.has "c", repeatedOnly := given.has "d", uniqueOnly := given.has "u"
      ignoresCase := given.has "i", skippedFields := (number "f").getD 0
      skippedChars := (number "s").getD 0, comparedChars := number "w" }
    match given.operands with
    | _ :: _ :: extra :: _ => misuse ("extra operand " ++ quoted extra)
    | operands =>
      let path := operands.headD "-"
      match (← openInput path) with
      | .error reason =>
        Job.complainAs (quotedIfNeeded path ++ ": " ++ reason.description)
        return 1
      | .ok number =>
        match (← Job.readOpen number) with
        | .error reason =>
          Job.complainAs ("error reading " ++ quoted path ++ ": " ++ reason.description)
          return 1
        | .ok text =>
          let groups := options.groups (lineTexts text)
          let output := String.join (groups.map fun (line, n) => options.shown line n)
          match operands with
          | [_, target] =>
            match (← Job.openPath target .writing) with
            | .ok number =>
              let _ ← Job.writeOpen number output
              return 0
            | .error reason =>
              Job.complainAs (quotedIfNeeded target ++ ": " ++ reason.description)
              return 1
          | _ =>
            Job.print output
            return 0

end ProfileGraph.Utility
