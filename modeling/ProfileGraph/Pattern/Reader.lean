import ProfileGraph.Pattern.Basic

/-! The text form of patterns. A circumflex in front anchors a pattern, a pair
of parentheses is a capture group, an asterisk makes a run of the character
set before it and a question mark behind the asterisk a short run. The sets
are written as a character, as the point for all characters of a line, as the
escape `s` for a blank and as the bracketed range of the digits; other
characters with a meaning are written behind a backslash. -/
namespace ProfileGraph

/-- Why a text is not a pattern. -/
inductive PatternError where
  | unclosedGroup
  | unopenedGroup
  | unclosedSet
  | nothingToRepeat
  /-- A form that patterns here do not have. -/
  | unsupported (c : Char)
deriving DecidableEq, Repr

/-- An element of the text form. -/
inductive PatternToken where
  | chars (set : CharSet)
  | groupStart
  | groupEnd
  /-- A repetition mark; the flag says that it asks for a long run. -/
  | repeated (long : Bool)
deriving DecidableEq, Repr

/-- The characters that have a meaning of their own in the text form. -/
def isPatternMark (c : Char) : Bool := "\\.+*?()|[]\x7b\x7d^$#&-~".toList.contains c

namespace PatternToken

/-- Cuts the text form into its elements. -/
def scan : List Char → Except PatternError (List PatternToken)
  | [] => .ok []
  | '(' :: text => (scan text).map (.groupStart :: ·)
  | ')' :: text => (scan text).map (.groupEnd :: ·)
  | '*' :: '?' :: text => (scan text).map (.repeated false :: ·)
  | '*' :: text => (scan text).map (.repeated true :: ·)
  | '.' :: text => (scan text).map (.chars .withinLine :: ·)
  | '\\' :: 's' :: text => (scan text).map (.chars .blank :: ·)
  | '\\' :: c :: text =>
    if isPatternMark c then (scan text).map (.chars (.only c) :: ·) else .error (.unsupported c)
  | '[' :: '0' :: '-' :: '9' :: ']' :: text => (scan text).map (.chars .digit :: ·)
  | '[' :: text => .error (if text.contains ']' then .unsupported '[' else .unclosedSet)
  | c :: text =>
    if "\\+?|\x7b^$".toList.contains c then .error (.unsupported c)
    else (scan text).map (.chars (.only c) :: ·)

/-- Reads the pieces up to the end of a group or of the pattern, and the
elements from there on. -/
def pieces : List PatternToken → Except PatternError (List Piece × List PatternToken)
  | .chars set :: .repeated long :: tokens =>
    (pieces tokens).map fun (rest, left) =>
      ((if long then .longRun set else .shortRun set) :: rest, left)
  | .chars set :: tokens => (pieces tokens).map fun (rest, left) => (.one set :: rest, left)
  | .repeated _ :: _ => .error .nothingToRepeat
  | tokens => .ok ([], tokens)

/-- Reads segments until the elements are used up. Every group but the last
one takes an element, so as many rounds as there are elements are enough. -/
def segments : Nat → List PatternToken → Except PatternError (List Segment)
  | 0, _ => .ok []
  | rounds + 1, tokens => do
    let (outside, rest) ← pieces tokens
    let before := if outside.isEmpty then [] else [⟨false, outside⟩]
    match rest with
    | .groupStart :: tokens =>
      match ← pieces tokens with
      | (_, .groupEnd :: .repeated _ :: _) => .error (.unsupported '*')
      | (inside, .groupEnd :: tokens) =>
        return before ++ ⟨true, inside⟩ :: (← segments rounds tokens)
      | (_, .groupStart :: _) => .error (.unsupported '(')
      | (_, _) => .error .unclosedGroup
    | .groupEnd :: _ => .error .unopenedGroup
    | _ => return before

end PatternToken

/-- Reads a pattern from its text form. -/
def Pattern.read (text : String) : Except PatternError Pattern :=
  let (anchored, body) := match text.toList with
    | '^' :: body => (true, body)
    | body => (false, body)
  do
    let tokens ← PatternToken.scan body
    return ⟨anchored, ← PatternToken.segments (tokens.length + 1) tokens⟩

end ProfileGraph
