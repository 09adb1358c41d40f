/-! The commands of a shell: words with quotes, parameters and substitutions,
simple commands with assignments and redirections, and their combination. -/
namespace ProfileGraph.Shell

/-- What is done with the value of a parameter. The flag of the middle four
tells whether an empty value counts as a missing one. -/
inductive Operation where
  | value
  | length
  /-- Takes the word if the value is missing. -/
  | default (orEmpty : Bool)
  /-- Takes the word if the value is missing, and assigns it. -/
  | assign (orEmpty : Bool)
  /-- Complains with the word if the value is missing. -/
  | require (orEmpty : Bool)
  /-- Takes the word unless the value is missing. -/
  | alternative (orEmpty : Bool)
  | trimStart (longest : Bool)
  | trimEnd (longest : Bool)
  /-- Cannot be carried out. -/
  | bad
deriving DecidableEq, Repr

/-- How a redirection opens a file. -/
inductive RedirectionMode where
  | input
  | output
  | append
  /-- Replaces a file even where that is forbidden. -/
  | overwrite
  | inputAndOutput
deriving DecidableEq, Repr

mutual

/-- A part of a word. -/
inductive Fragment where
  | literal (quoted : Bool) (text : String)
  /-- A mark of quotation; a word that has one is there even if it is empty. -/
  | quote
  | parameter (quoted : Bool) (name : String) (operation : Operation) (word : List Fragment)
  /-- Stands for the output of a command. -/
  | substitution (quoted : Bool) (body : Command)
  | arithmetic (quoted : Bool) (expression : List Fragment)

/-- Where a descriptor of a command leads instead. -/
inductive Redirection where
  | file (descriptor : Nat) (mode : RedirectionMode) (target : List Fragment)
  /-- Makes a descriptor a copy of another one; a dash closes it. -/
  | copy (descriptor : Nat) (source : List Fragment)
  /-- Reads from a document in the script, by its number. -/
  | document (descriptor : Nat) (number : Nat)

/-- A command with all its parts. -/
inductive Command where
  /-- Nothing at all. -/
  | empty
  /-- A command without parts, at a line of its script. -/
  | simple (line : Nat) (assignments : List (String × List Fragment))
      (words : List (List Fragment)) (redirections : List Redirection)
  | group (line : Nat) (body : Command) (redirections : List Redirection)
  /-- Runs a command without effect on the shell around it. -/
  | subshell (line : Nat) (body : Command) (redirections : List Redirection)
  /-- Runs a command and does not wait for its end. -/
  | background (line : Nat) (body : Command) (redirections : List Redirection)
  /-- Hands the output of each command to the next one. -/
  | pipeline (parts : List Command) (inBackground : Bool)
  | negation (body : Command)
  | sequence (left right : Command)
  /-- Runs the second command if the first one succeeds. -/
  | both (left right : Command)
  /-- Runs the second command if the first one fails. -/
  | either (left right : Command)
  | conditional (test yes no : Command)
  /-- Runs the body as long as the test succeeds, or fails. -/
  | loop (untilSuccess : Bool) (test body : Command)
  | forEach (line : Nat) (name : String) (words : List (List Fragment)) (body : Command)
  | choice (line : Nat) (word : List Fragment) (cases : List (List (List Fragment) × Command))
  | definition (line : Nat) (name : String) (body : Command)

end

instance : Inhabited Command := ⟨.empty⟩

/-- A word as written. -/
abbrev Word := List Fragment

/-- Why a script cannot be read further. -/
inductive SyntaxFault where
  | unterminatedQuote
  | missingBrace
  | missingParentheses
  /-- The script ends within back quotes. -/
  | openBackQuote
  | badLoopVariable
  | badFunctionName
  | badDescriptor
  /-- A token stands where it cannot, perhaps instead of another one. -/
  | unexpected (found : String) (expected : Option String)
deriving DecidableEq, Repr

/-- The text for a fault. -/
def SyntaxFault.message : SyntaxFault → String
  | .unterminatedQuote => "Unterminated quoted string"
  | .missingBrace => "Missing '\x7d'"
  | .missingParentheses => "Missing '))'"
  | .openBackQuote => "EOF in backquote substitution"
  | .badLoopVariable => "Bad for loop variable"
  | .badFunctionName => "Bad function name"
  | .badDescriptor => "Bad fd number"
  | .unexpected found none => found ++ " unexpected"
  | .unexpected found (some expected) => found ++ " unexpected (expecting " ++ expected ++ ")"

/-- A fault and the line on which it is found. -/
structure PlacedFault where
  line : Nat
  fault : SyntaxFault
deriving DecidableEq, Repr

end ProfileGraph.Shell

/-! The text of a script while it is read, character by character. The text of
an alias is put in front of what is left, with a mark behind it that tells
where the alias ends. -/
namespace ProfileGraph.Shell

/-- A token. A word is plain if it has no quotes. -/
inductive Token where
  | word (word : Word) (plain : Bool)
  | keyword (text : String)
  /-- One of the signs between commands. -/
  | sign (text : String)
  | redirection (descriptor : Nat) (sign : String)
  | newline
  | endOfText

/-- A document in the script that has been announced: its number, the line that
ends it, whether tabs in front of its lines are dropped, and whether its text
is taken as it is. -/
structure PendingDocument where
  number : Nat
  mark : String
  dropsTabs : Bool
  verbatim : Bool
deriving Repr

/-- What is left of a script, and what has been found so far. -/
structure Source where
  text : List Char
  line : Nat := 1
  /-- The token that is read next, if it has been read before. -/
  pushed : Option Token := none
  pending : List PendingDocument := []
  documents : List (Nat × Word) := []
  /-- The number of the next document. -/
  nextDocument : Nat := 0
  aliases : List (String × String) := []
  /-- The aliases whose text is being read, the innermost first. -/
  active : List String := []
  /-- The alias that ended last ended with a blank. -/
  afterAlias : Bool := false

/-- A reader of the front of a script. -/
abbrev Reading := StateT Source (Except PlacedFault)

/-- The mark behind the text of an alias. -/
def aliasEnd : Char := '\u0100'

/-- The mark behind the text of an alias that ends with a blank; the word that
follows may be an alias too. -/
def blankAliasEnd : Char := '\u0101'

/-- Whether a character marks where the text of an alias ends. -/
def isAliasMark (c : Char) : Bool := c == aliasEnd || c == blankAliasEnd

namespace Reading

/-- Refuses the text with a fault in the line that was reached. -/
def fail {α : Type} (fault : SyntaxFault) : Reading α := do
  throw ⟨(← get).line, fault⟩

/-- Drops joined line ends, a backslash and a line feed each. -/
def joined (line : Nat) : List Char → Nat × List Char
  | '\\' :: '\n' :: rest => joined (line + 1) rest
  | text => (line, text)

/-- Notes that an alias ended at a mark. -/
def closeAlias (mark : Char) : Reading Unit :=
  modify fun source =>
    { source with
      active := source.active.tail
      afterAlias := source.afterAlias || mark == blankAliasEnd }

/-- Puts the text of an alias in front of what is left. -/
def openAlias (name text : String) : Reading Unit :=
  modify fun source =>
    let blank := match text.toList.getLast? with
      | some c => c == ' ' || c == '\t'
      | none => false
    { source with
      text := text.toList ++ (if blank then blankAliasEnd else aliasEnd) :: source.text
      active := name :: source.active }

/-- The next character as it is, if there is one. -/
def nextRaw : Reading (Option Char) := do
  let source ← get
  match source.text with
  | [] => return none
  | c :: rest =>
    set { source with text := rest, line := if c == '\n' then source.line + 1 else source.line }
    return some c

/-- The next character behind joined line ends. -/
def next : Reading (Option Char) := do
  modify fun source =>
    let (line, text) := joined source.line source.text
    { source with line, text }
  nextRaw

/-- The next character, which is left there. -/
def peek : Reading (Option Char) := do
  modify fun source =>
    let (line, text) := joined source.line source.text
    { source with line, text }
  return (← get).text.head?

/-- Puts back a character that is no line feed. -/
def back (c : Char) : Reading Unit :=
  modify fun source => { source with text := c :: source.text }

/-- Passes over a character if it comes next. -/
def takes (c : Char) : Reading Bool := do
  if (← peek) == some c then
    let _ ← next
    return true
  else return false

/-- Passes over the line that ends a document, if it comes next. -/
def takesMark (document : PendingDocument) : Reading Bool := do
  let source ← get
  let text := if document.dropsTabs then source.text.dropWhile (· == '\t') else source.text
  let mark := document.mark.toList
  let rest := text.drop mark.length
  if mark.isPrefixOf text && (rest.isEmpty || rest.head? == some '\n') then
    set { source with
      text := rest.drop 1
      line := if rest.isEmpty then source.line else source.line + 1 }
    return true
  else
    set { source with text }
    return false

/-- Reads something on another text and comes back. -/
def onText {α : Type} (text : List Char) (line : Nat) (reading : Reading α) : Reading α := do
  let outer ← get
  set { outer with text, line, pushed := none, pending := [] }
  let found ← reading
  modify fun inner =>
    { inner with
      text := outer.text, line := outer.line, pushed := outer.pushed, pending := outer.pending }
  return found

end Reading
end ProfileGraph.Shell
