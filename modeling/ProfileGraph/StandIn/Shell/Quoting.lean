import ProfileGraph.StandIn.Shell.Syntax

/-! What the characters of a word stand for, which depends on the quotes, braces
and parentheses around them. -/
namespace ProfileGraph.Shell

/-- Whether a character separates words in a line. -/
def isBlank (c : Char) : Bool := c == ' ' || c == '\t'

/-- The characters that end a word. -/
def endsWord (c : Char) : Bool :=
  isBlank c || "\n;&|()<>".toList.contains c || isAliasMark c

/-- Whether a name may begin with a character. -/
def isNameStart (c : Char) : Bool := c.isAlpha || c == '_'

/-- Whether a character may stand in a name. -/
def isNameChar (c : Char) : Bool := c.isAlphanum || c == '_'

/-- The parameters named by a sign. -/
def isSpecialParameter (c : Char) : Bool := "@*#?-$!".toList.contains c

/-- Whether a text is the name of a variable. -/
def isName (text : String) : Bool :=
  match text.toList with
  | [] => false
  | c :: rest => isNameStart c && rest.all isNameChar

/-- What is around the characters that are read. -/
structure Frame where
  /-- The characters stand between double quotes. -/
  double : Bool := false
  /-- A closing brace ends the part. -/
  braces : Bool := false
  /-- Two closing parentheses end the part. -/
  arithmetic : Bool := false
  /-- The characters belong to a document in the script. -/
  document : Bool := false
  /-- The document that these characters are, if they are one. -/
  mark? : Option PendingDocument := none
  /-- A closing brace somewhere further out ends the part around this one. -/
  withinBraces : Bool := false
  /-- A mark of quotation within these braces has not been closed. -/
  toggled : Bool := false
  /-- How many parentheses of an expression are open. -/
  depth : Nat := 0
deriving Repr

/-- What a character does in a word. -/
inductive Glyph where
  | literal
  /-- The word ends in front of it. -/
  | stops
  /-- The part ends behind it. -/
  | ends
  | escapes
  | opensSingle
  | opensDouble
  /-- Is dropped, but braces within these marks stand for themselves. -/
  | toggles
  | dollar
  | backQuote
  | opensParenthesis
  | closesParenthesis
  | nothing
deriving DecidableEq, Repr

namespace Frame

/-- Whether the rules of double quotes hold. -/
def isQuoted (frame : Frame) : Bool := frame.double || frame.arithmetic

/-- Whether characters belong directly to a word outside of everything. -/
def isPlain (frame : Frame) : Bool := !frame.isQuoted && !frame.braces

/-- What a character does. -/
def glyph (frame : Frame) (c : Char) : Glyph :=
  if c == '\\' then .escapes
  else if c == '$' then .dollar
  else if c == '\x60' then .backQuote
  else if c == '\x7d' && frame.braces && !frame.toggled then .ends
  else if frame.arithmetic then
    if c == '(' then .opensParenthesis
    else if c == ')' then .closesParenthesis
    else .literal
  else if c == '"' then
    if !frame.double then .opensDouble
    else if frame.braces then .toggles
    else if frame.document then .literal
    else .ends
  else if c == '\'' && !frame.double then .opensSingle
  else if frame.isPlain && endsWord c then .stops
  else if isAliasMark c then .nothing
  else .literal

/-- Whether a backslash in front of a character stands for itself. -/
def keepsBackslash (frame : Frame) (c : Char) : Bool :=
  frame.isQuoted && c != '\\' && c != '\x60' && c != '$'
    && (c != '"' || (frame.document && !frame.braces))
    && (c != '\x7d' || !(frame.braces || frame.withinBraces))

/-- What is wrong if the script ends here, if anything is. -/
def faultAtEnd? (frame : Frame) : Option SyntaxFault :=
  if frame.arithmetic then some .missingParentheses
  else if frame.double && !frame.document then some .unterminatedQuote
  else if frame.braces then some .missingBrace
  else none

/-- The frame of a part between double quotes. -/
def insideDouble (frame : Frame) : Frame :=
  { double := true, withinBraces := frame.braces || frame.withinBraces }

/-- The frame of the word in braces behind an operation. -/
def insideBraces (frame : Frame) (operation : Operation) : Frame :=
  let trims := match operation with
    | .trimStart _ | .trimEnd _ => true
    | _ => false
  { double := frame.isQuoted && !trims, braces := true, document := frame.document }

end Frame
end ProfileGraph.Shell
