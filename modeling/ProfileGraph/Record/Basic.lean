import ProfileGraph.Numeric.Decimal
import ProfileGraph.Text.Characters
import ProfileGraph.Text.Bytes

/-! Records of the rendered profile. Each line declares a function, a call, or
the sample count of the whole run, or carries nothing of interest. The numbers
of a record are read strictly where the graph needs them and leniently where
they are only informative. -/
namespace ProfileGraph

/-- What a line is. The first four kinds are those of the line patterns, in
the order in which the patterns are tried. -/
inductive RecordKind where
  | nodeWithInclusive
  | nodeSelfOnly
  | edge
  | legend
  /-- The line matches no pattern. -/
  | ignored
deriving DecidableEq, Repr

namespace RecordKind

/-- The kind of a position in the order of the patterns. -/
def ofPriority : Nat → RecordKind
  | 0 => .nodeWithInclusive
  | 1 => .nodeSelfOnly
  | 2 => .edge
  | 3 => .legend
  | _ => .ignored

/-- The position of a kind in the order of the patterns. -/
def priority? : RecordKind → Option Nat
  | .nodeWithInclusive => some 0
  | .nodeSelfOnly => some 1
  | .edge => some 2
  | .legend => some 3
  | .ignored => none

/-- The kind in words, as diagnostics name it. -/
def description : RecordKind → String
  | .nodeWithInclusive => "node (self+inclusive)"
  | .nodeSelfOnly => "node (self)"
  | .edge => "edge"
  | .legend => "legend"
  | .ignored => "ignored"

end RecordKind

/-- The declaration of a function. -/
structure NodeRecord where
  /-- The id that calls use for the function. -/
  id : String
  /-- The name of the symbol. -/
  name : String
  /-- The number of own samples, where the text is a number. -/
  selfSamples : Option Binary64
  /-- The share of own samples, in percent. -/
  selfPercentage : Binary64
  /-- The line states an inclusive amount of its own. -/
  hasInclusive : Bool
  /-- The inclusive number of samples, where the text is a number. -/
  inclusiveSamples : Option Binary64
  /-- The inclusive share in percent; the own share where the line has no
  inclusive amount. -/
  coveragePercentage : Binary64
deriving DecidableEq

/-- The declaration of a call. -/
structure EdgeRecord where
  source : String
  target : String
  weight : Nat
deriving DecidableEq

/-- A line, read. -/
inductive Record where
  | node (declared : NodeRecord)
  | edge (declared : EdgeRecord)
  | legend (totalSamples : Nat)
  | ignored
deriving DecidableEq

/-- The kind of a record. -/
def Record.kind : Record → RecordKind
  | .node declared => if declared.hasInclusive then .nodeWithInclusive else .nodeSelfOnly
  | .edge _ => .edge
  | .legend _ => .legend
  | .ignored => .ignored

/-- A number that a record must hold. -/
inductive RecordField where
  | selfPercentage
  | inclusivePercentage
  | callCount
  | totalSamples
deriving DecidableEq, Repr

/-- The field in words, as diagnostics name it. -/
def RecordField.description : RecordField → String
  | .selfPercentage => "self percentage"
  | .inclusivePercentage => "inclusive percentage"
  | .callCount => "call count"
  | .totalSamples => "total samples"

/-- Why a line of a known kind is not a record. -/
inductive RecordError where
  /-- The text of a field is not the number that the field needs. -/
  | malformedField (line : Nat) (kind : RecordKind) (field : RecordField) (value : String)
deriving DecidableEq, Repr

/-- The text for a line that is refused. -/
def RecordError.message : RecordError → String
  | .malformedField line kind field value =>
    "Line " ++ toString line ++ ": malformed " ++ field.description ++ " `" ++ value ++ "` in "
      ++ kind.description ++ " record"

/-- Reads a count: digits, with a plus sign in front at most, below the bound. -/
def readCount? (text : List Char) : Option Nat :=
  let digits := match Text.trim text with
    | '+' :: digits => digits
    | digits => digits
  if digits.isEmpty || !digits.all Char.isDigit then none
  else
    let n := Decimal.natOfDigits digits
    if n < countBound then some n else none

/-- Reads an amount of samples: a finite number that is not below zero. -/
def readAmount? (text : List Char) : Option Binary64 :=
  match Binary64.ofText? (Text.trim text) with
  | some x => if x.isFinite && (Binary64.signedZero false).le x then some x else none
  | none => none

end ProfileGraph
