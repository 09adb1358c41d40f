import ProfileGraph.Pattern.Reader
import ProfileGraph.Record.Basic

/-! Line patterns of the rendered profile, and the reading of a line into a
record. The patterns are tried in a fixed order and the first that matches
decides: a line with an inclusive amount also matches the pattern of lines
without one. -/
namespace ProfileGraph

/-- The text of the pattern of a function with own and inclusive amounts. -/
def nodeWithInclusiveText : String :=
  r#"^(N.*)\s\[label="(.*?)\\n([0-9]*)\s\((.*)%\)\\rof\s(.*)\s\((.*)%\)\\r"#

/-- The text of the pattern of a function with own amounts only. -/
def nodeSelfOnlyText : String := r#"^(N.*)\s\[label="(.*)\\n([0-9]*)\s\((.*)%\)\\r"#

/-- The text of the pattern of a call. -/
def edgeText : String := r#"^(N.*)\s->\s(N.*)\s\[label=([0-9]*),"#

/-- The text of the pattern of the legend. -/
def legendText : String := r#"^Legend\s\[.*Total samples:\s([0-9]*).*\]"#

/-- The texts of the patterns in the order of priority. -/
def patternTexts : List String :=
  [nodeWithInclusiveText, nodeSelfOnlyText, edgeText, legendText]

namespace Segment

/-- Pieces outside of all groups: a blank and a literal text behind it. -/
def blankThen (text : String) : Segment := ⟨false, .one .blank :: Piece.literal text⟩

/-- A literal text outside of all groups. -/
def literal (text : String) : Segment := ⟨false, Piece.literal text⟩

/-- A captured function id: the letter all ids start with, and more. -/
def nodeId : Segment := ⟨true, [.one (.only 'N'), .longRun .withinLine]⟩

/-- A captured text, as long as possible. -/
def longText : Segment := ⟨true, [.longRun .withinLine]⟩

/-- A captured text, as short as possible. -/
def shortText : Segment := ⟨true, [.shortRun .withinLine]⟩

/-- Captured digits. -/
def digits : Segment := ⟨true, [.longRun .digit]⟩

end Segment

namespace Pattern
open Segment

/-- The pattern of a function with own and inclusive amounts, as data. -/
def nodeWithInclusive : Pattern where
  anchored := true
  segments := [nodeId, blankThen "[label=\"", shortText, literal "\\n", digits, blankThen "(",
    longText, ⟨false, Piece.literal "%)\\rof" ++ [.one .blank]⟩, longText, blankThen "(", longText,
    literal "%)\\r"]

/-- The pattern of a function with own amounts only, as data. -/
def nodeSelfOnly : Pattern where
  anchored := true
  segments := [nodeId, blankThen "[label=\"", longText, literal "\\n", digits, blankThen "(",
    longText, literal "%)\\r"]

/-- The pattern of a call, as data. -/
def edge : Pattern where
  anchored := true
  segments := [nodeId, ⟨false, .one .blank :: Piece.literal "->" ++ [.one .blank]⟩, nodeId,
    blankThen "[label=", digits, literal ","]

/-- The pattern of the legend, as data. -/
def legend : Pattern where
  anchored := true
  segments := [⟨false, Piece.literal "Legend" ++ .one .blank :: .one (.only '[')
      :: .longRun .withinLine :: Piece.literal "Total samples:" ++ [.one .blank]⟩,
    digits, ⟨false, [.longRun .withinLine, .one (.only ']')]⟩]

theorem read_nodeWithInclusiveText : read nodeWithInclusiveText = .ok nodeWithInclusive := by
  rfl

theorem read_nodeSelfOnlyText : read nodeSelfOnlyText = .ok nodeSelfOnly := rfl

theorem read_edgeText : read edgeText = .ok edge := rfl

theorem read_legendText : read legendText = .ok legend := rfl

end Pattern

/-- One pattern for each kind of record. -/
structure RecordPatterns where
  nodeWithInclusive : Pattern
  nodeSelfOnly : Pattern
  edge : Pattern
  legend : Pattern
deriving DecidableEq, Repr

namespace RecordPatterns

/-- The patterns of the profile renderer. -/
def standard : RecordPatterns :=
  ⟨.nodeWithInclusive, .nodeSelfOnly, .edge, .legend⟩

/-- The patterns in the order in which they are tried. -/
def toList (patterns : RecordPatterns) : List Pattern :=
  [patterns.nodeWithInclusive, patterns.nodeSelfOnly, patterns.edge, patterns.legend]

/-- The first of the patterns from a position on that matches a text. -/
def matchFrom? (text : List Char) : Nat → List Pattern → Option (RecordKind × Match)
  | _, [] => none
  | position, pattern :: later =>
    match pattern.match? text with
    | some found => some (RecordKind.ofPriority position, found)
    | none => matchFrom? text (position + 1) later

/-- The kind of a line and the match of its pattern. -/
def match? (patterns : RecordPatterns) (text : List Char) : Option (RecordKind × Match) :=
  matchFrom? text 0 patterns.toList

/-- A number in a group of a match, or the error that names its field. -/
def field {β : Type} (read? : List Char → Option β) (line : Nat) (kind : RecordKind)
    (found : Match) (number : Nat) (name : RecordField) : Except RecordError β :=
  match read? (found.group number) with
  | some x => .ok x
  | none => .error (.malformedField line kind name (String.ofList (found.group number)))

/-- The record of a matched line. The kind alone says how the groups are
read, whatever its pattern is. -/
def record (line : Nat) (kind : RecordKind) (found : Match) : Except RecordError Record :=
  let text (number : Nat) : String := String.ofList (found.group number)
  let percentage := field readAmount? line kind found
  let count := field readCount? line kind found
  match kind with
  | .nodeWithInclusive => do
    let self ← percentage 4 .selfPercentage
    let inclusive ← percentage 6 .inclusivePercentage
    return .node {
      id := text 1
      name := text 2
      selfSamples := readAmount? (found.group 3)
      selfPercentage := self
      hasInclusive := true
      inclusiveSamples := readAmount? (found.group 5)
      coveragePercentage := inclusive }
  | .nodeSelfOnly => do
    let self ← percentage 4 .selfPercentage
    return .node {
      id := text 1
      name := text 2
      selfSamples := readAmount? (found.group 3)
      selfPercentage := self
      hasInclusive := false
      inclusiveSamples := none
      coveragePercentage := self }
  | .edge => return .edge ⟨text 1, text 2, ← count 3 .callCount⟩
  | .legend => return .legend (← count 1 .totalSamples)
  | .ignored => return .ignored

/-- Reads a line of text. -/
def readText (patterns : RecordPatterns) (line : Nat) (text : List Char) :
    Except RecordError Record :=
  match patterns.match? text with
  | some (kind, found) => record line kind found
  | none => .ok .ignored

/-- Reads a line of bytes; its number is used by diagnostics only. -/
def readLine (patterns : RecordPatterns) (line : Nat) (bytes : List UInt8) :
    Except RecordError Record :=
  patterns.readText line (Text.decode bytes)

end RecordPatterns
end ProfileGraph
