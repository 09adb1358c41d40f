import ProfileGraph.StandIn.Shell.WordReader

/-! The reader of tokens. What a word is depends on where it stands: a keyword, an
alias or a plain word. -/
namespace ProfileGraph.Shell

/-- The words that structure commands. -/
def keywords : List String :=
  ["!", "case", "do", "done", "elif", "else", "esac", "fi", "for", "if", "in", "then", "until",
    "while", "\x7b", "\x7d"]

/-- The text of a word that is a single piece without quotes. -/
def plainText? : Word → Option String
  | [.literal false text] => some text
  | _ => none

namespace Token

/-- How a token is named in a fault. -/
def description : Token → String
  | .word .. => "word"
  | .keyword text | .sign text => "\"" ++ text ++ "\""
  | .redirection .. => "redirection"
  | .newline => "newline"
  | .endOfText => "end of file"

/-- Whether a token is a keyword or a sign with a text. -/
def isMark (text : String) : Token → Bool
  | .keyword found | .sign found => found == text
  | _ => false

/-- Whether a token is the end of a line. -/
def isNewline : Token → Bool
  | .newline => true
  | _ => false

/-- Whether a list of commands ends in front of a token. -/
def closesList : Token → Bool
  | .endOfText => true
  | .keyword text =>
    ["do", "done", "elif", "else", "esac", "fi", "then", "\x7d"].contains text
  | .sign text => text == ")" || text == ";;"
  | _ => false

end Token

/-- What is looked for in front of a word and in it. -/
structure Expecting where
  /-- Line ends are passed over. -/
  newlines : Bool := false
  keywords : Bool := false
  aliases : Bool := false

namespace Tokenizer
open Reading

/-- A number sign that starts a comment, and the comment, are passed over. -/
def skipComment : Reading Unit :=
  modify fun source => { source with text := source.text.dropWhile (· != '\n') }

/-- The rest of the sign that starts a redirection. -/
def redirectionSign (first : Char) : Reading String := do
  if first == '>' then
    if ← takes '>' then return ">>"
    else if ← takes '|' then return ">|"
    else if ← takes '&' then return ">&"
    else return ">"
  else if ← takes '<' then
    if ← takes '-' then return "<<-" else return "<<"
  else if ← takes '&' then return "<&"
  else if ← takes '>' then return "<>"
  else return "<"

/-- The descriptor that is written in front of a redirection, if any is. -/
def writtenDescriptor? : Word → Option (Option Nat)
  | [] => some none
  | [.literal false text] =>
    match text.toList with
    | [c] => if c.isDigit then some (some (c.toNat - '0'.toNat)) else none
    | _ => none
  | _ => none

/-- Whether a word has no marks of quotation. -/
def isPlain (word : Word) : Bool :=
  word.all fun
    | .quote | .literal true _ => false
    | _ => true

/-- Reads a word, or a redirection with its descriptor. -/
def wordOrRedirection (commands : WordReader.Commands) (fuel : Nat) : Reading Token := do
  let word ← WordReader.parts commands fuel {} []
  match (← peek), writtenDescriptor? word with
  | some c, some descriptor =>
    if c == '<' || c == '>' then
      let _ ← next
      let sign ← redirectionSign c
      return .redirection (descriptor.getD (if c == '>' then 1 else 0)) sign
    else return .word word (isPlain word)
  | _, _ => return .word word (isPlain word)

/-- Reads a sign that may be doubled. -/
def doubled (c : Char) : Reading Token := do
  let _ ← next
  let single := String.singleton c
  return .sign (if ← takes c then single ++ single else single)

/-- Reads a token as it stands. The fuel bounds the number of blanks and
comments in front of it. -/
def bareToken (commands : WordReader.Commands) : Nat → Reading Token
  | 0 => return .endOfText
  | fuel + 1 => do
    match (← peek) with
    | none => return .endOfText
    | some c =>
      if isBlank c then
        let _ ← next
        bareToken commands fuel
      else if isAliasMark c then
        let _ ← next
        closeAlias c
        bareToken commands fuel
      else if c == '#' then
        skipComment
        bareToken commands fuel
      else if c == '\n' then
        let _ ← next
        return .newline
      else if c == '&' || c == '|' || c == ';' then doubled c
      else if c == '(' || c == ')' then
        let _ ← next
        return .sign (String.singleton c)
      else wordOrRedirection commands (fuel + 1)

/-- Puts a token back. -/
def push (token : Token) : Reading Unit :=
  modify fun source => { source with pushed := some token }

/-- The token that was put back, or a new one. -/
def pushedOrBare (commands : WordReader.Commands) (fuel : Nat) : Reading Token := do
  match (← get).pushed with
  | some token =>
    modify fun source => { source with pushed := none }
    return token
  | none => bareToken commands fuel

/-- Passes over line ends; the documents that were announced before each one
are read behind it. The fuel bounds their number. -/
def skipNewlines (commands : WordReader.Commands) (first : Token) : Nat → Reading Token
  | 0 => return first
  | fuel + 1 => do
    if first.isNewline then
      WordReader.announcedDocuments commands (fuel + 1)
      skipNewlines commands (← bareToken commands fuel) fuel
    else return first

/-- The text of an alias that a word stands for. The text of an alias does not
stand for itself again. -/
def alias? (name : String) : Reading (Option String) := do
  let source ← get
  return if source.active.contains name then none else source.aliases.lookup name

/-- Reads a token. The fuel bounds the length of the text. -/
def token (commands : WordReader.Commands) (expecting : Expecting) : Nat → Reading Token
  | 0 => return .endOfText
  | fuel + 1 => do
    modify fun source => { source with afterAlias := false }
    let first ← pushedOrBare commands (fuel + 1)
    let found ← if expecting.newlines then skipNewlines commands first fuel else pure first
    let expectsAlias := expecting.aliases || (← get).afterAlias
    match found with
    | .word word true =>
      match plainText? word with
      | none => return found
      | some text =>
        if expecting.keywords && keywords.contains text then return .keyword text
        else if expectsAlias then
          match (← alias? text) with
          | none => return found
          | some replacement =>
            openAlias text replacement
            token commands { expecting with aliases := true } fuel
        else return found
    | found => return found

end Tokenizer
end ProfileGraph.Shell
