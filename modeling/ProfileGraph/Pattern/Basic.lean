import ProfileGraph.Text.Characters

/-! Line patterns. A pattern is a row of pieces, each a single character of a
set or a run of such characters, some of them inside capture groups. A text
matches when a stretch of it can be cut into one part for each piece. Of all
cuts the preferred one is taken: parts are compared from the left, a long run
is as long and a short run as short as the later pieces allow. -/
namespace ProfileGraph

/-- A set of characters. -/
inductive CharSet where
  | only (c : Char)
  /-- One of the characters with the property White_Space. -/
  | blank
  /-- One of the ten ASCII digits. -/
  | digit
  /-- Every character but the line feed. -/
  | withinLine
deriving DecidableEq, Repr

/-- Whether a character is in a set. -/
def CharSet.contains : CharSet → Char → Bool
  | .only c, d => d == c
  | .blank, d => Text.isBlank d
  | .digit, d => '0' ≤ d && d ≤ '9'
  | .withinLine, d => d != '\n'

/-- A piece of a pattern. -/
inductive Piece where
  /-- One character of the set. -/
  | one (set : CharSet)
  /-- Any number of characters of the set, as many as possible. -/
  | longRun (set : CharSet)
  /-- Any number of characters of the set, as few as possible. -/
  | shortRun (set : CharSet)
deriving DecidableEq, Repr

/-- Pieces that follow each other, either inside a capture group or outside
of all groups. -/
structure Segment where
  captured : Bool
  pieces : List Piece
deriving DecidableEq, Repr

/-- A pattern. An anchored one matches at the start of a text only. -/
structure Pattern where
  anchored : Bool
  segments : List Segment
deriving DecidableEq, Repr

/-- The pieces that match exactly one text. -/
def Piece.literal (text : String) : List Piece := text.toList.map fun c => .one (.only c)

section Runs
variable {β : Type} (set : CharSet) (rest? : List Char → Option β)

/-- The longest run of characters of the set after which the rest of the text
is accepted, with what was made of that rest. -/
def longestRun : List Char → Option (List Char × β)
  | [] => (rest? []).map (([], ·))
  | c :: text =>
    match if set.contains c then longestRun text else none with
    | some (taken, result) => some (c :: taken, result)
    | none => (rest? (c :: text)).map (([], ·))

/-- The shortest run of characters of the set after which the rest of the
text is accepted, with what was made of that rest. -/
def shortestRun : List Char → Option (List Char × β)
  | [] => (rest? []).map (([], ·))
  | c :: text =>
    match rest? (c :: text) with
    | some result => some ([], result)
    | none =>
      if set.contains c then (shortestRun text).map fun (taken, result) => (c :: taken, result)
      else none

end Runs

/-- Cuts the part of a piece from the front of a text, such that the rest is
accepted. -/
def Piece.cut? {β : Type} (rest? : List Char → Option β) :
    Piece → List Char → Option (List Char × β)
  | .one _, [] => none
  | .one set, c :: text => if set.contains c then (rest? text).map (([c], ·)) else none
  | .longRun set, text => longestRun set rest? text
  | .shortRun set, text => shortestRun set rest? text

/-- The preferred cut of the front of a text into one part for each piece. -/
def decompose? : List Piece → List Char → Option (List (List Char))
  | [], _ => some []
  | piece :: pieces, text =>
    (piece.cut? (decompose? pieces) text).map fun (part, parts) => part :: parts

/-- A stretch of a text, with the bytes of its UTF-8 form at which it starts
and before which it stops. -/
structure Stretch where
  start : Nat
  stop : Nat
  text : List Char
deriving DecidableEq, Repr

/-- The number of bytes of the UTF-8 form of a text. -/
def byteLength : List Char → Nat
  | [] => 0
  | c :: rest => c.utf8Size + byteLength rest

/-- The stretch of `text` that starts at a byte. -/
def Stretch.from (start : Nat) (text : List Char) : Stretch :=
  ⟨start, start + byteLength text, text⟩

/-- A matched stretch of a text and the stretches of the groups in it, in
their order. -/
structure Match where
  whole : Stretch
  groups : List Stretch
deriving DecidableEq, Repr

/-- The text of a group, counted from one. A group that the pattern lacks
reads as the empty text. -/
def Match.group (found : Match) (number : Nat) : List Char :=
  match found.groups[number - 1]? with
  | some stretch => stretch.text
  | none => []

/-- The stretches of the capture groups among segments whose pieces took the
given parts of a text, from a byte on. -/
def groupStretches : List Segment → List (List Char) → Nat → List Stretch
  | [], _, _ => []
  | segment :: segments, parts, start =>
    let stretch := Stretch.from start (parts.take segment.pieces.length).flatten
    let later := groupStretches segments (parts.drop segment.pieces.length) stretch.stop
    if segment.captured then stretch :: later else later

namespace Pattern

/-- All pieces of a pattern, in their order. -/
def pieces (pattern : Pattern) : List Piece := pattern.segments.flatMap (·.pieces)

/-- The match that starts at the front of a text, which stands at the given
byte of the whole text. -/
def matchAt? (pattern : Pattern) (start : Nat) (text : List Char) : Option Match :=
  (decompose? pattern.pieces text).map fun parts =>
    ⟨Stretch.from start parts.flatten, groupStretches pattern.segments parts start⟩

/-- The leftmost match at or behind the front of a text. -/
def search? (pattern : Pattern) (start : Nat) : List Char → Option Match
  | [] => pattern.matchAt? start []
  | c :: text =>
    match pattern.matchAt? start (c :: text) with
    | some found => some found
    | none => if pattern.anchored then none else search? pattern (start + c.utf8Size) text

/-- The leftmost match in a text, cut in the preferred way. -/
def match? (pattern : Pattern) (text : List Char) : Option Match := pattern.search? 0 text

end Pattern
end ProfileGraph
