import ProfileGraph.StandIn.Shell.Tokenizer

/-! The reader of shell scripts. A script is read line by line, so that what
stands in front of a fault can still be run. -/
namespace ProfileGraph.Shell

/-- The commands that belong to the shell so closely that no function can have
their names. -/
def specialCommands : List String :=
  [".", ":", "break", "continue", "eval", "exec", "exit", "export", "local", "readonly", "return",
    "set", "shift", "times", "trap", "unset"]

/-- Where a list of commands stands. -/
inductive ListPlace where
  /-- On a line of its own, with which it ends. -/
  | line
  /-- Within another command. -/
  | body
  /-- Where there may be no command at all. -/
  | optional
deriving DecidableEq, Repr

namespace CommandReader
open Reading Tokenizer

/-- Refuses a token, perhaps because another one is expected. -/
def refuse {α : Type} (token : Token) (expected : Option String := none) : Reading α :=
  fail (.unexpected token.description (expected.map fun text => "\"" ++ text ++ "\""))

/-- Splits an assignment into its name and the value. -/
def assignment? : Word → Option (String × Word)
  | .literal false text :: later =>
    let (name, rest) := text.toList.span (· != '=')
    match rest with
    | [] => none
    | _ :: value =>
      if isName (String.ofList name) then
        some (String.ofList name,
          if value.isEmpty then later else .literal false (String.ofList value) :: later)
      else none
  | _ => none

/-- Joins commands of a list. -/
def join (found : Option Command) (next : Command) : Option Command :=
  match found with
  | none => some next
  | some found => some (.sequence found next)

/-- A command that is not waited for. -/
def inBackground (line : Nat) : Command → Command
  | .pipeline parts _ => .pipeline parts true
  | .group line body redirections => .background line body redirections
  | command => .background line command []

/-- Adds redirections to a command. -/
def redirect (line : Nat) (command : Command) (redirections : List Redirection) : Command :=
  if redirections.isEmpty then command
  else match command with
    | .subshell line body _ => .subshell line body redirections
    | command => .group line command redirections

variable (commands : WordReader.Commands) (fuel : Nat)

/-- Reads a word, or refuses what comes instead. -/
def word (expecting : Expecting := {}) : Reading Word := do
  match (← token commands expecting fuel) with
  | .word word _ => return word
  | found => refuse found

/-- Passes over a keyword or a sign, or refuses what comes instead. -/
def expect (text : String) (expecting : Expecting := {}) : Reading Unit := do
  let found ← token commands expecting fuel
  if found.isMark text then return () else refuse found text

/-- The text of the mark behind which a document ends, and whether the document
is taken as it is. Nothing but quotes has a meaning in it. -/
def documentMark : Word → String × Bool
  | [] => ("", false)
  | .literal quoted text :: later =>
    let (rest, verbatim) := documentMark later
    (text ++ rest, quoted || verbatim)
  | .quote :: later => ((documentMark later).1, true)
  | .parameter _ name _ _ :: later =>
    let (rest, verbatim) := documentMark later
    ("$" ++ name ++ rest, verbatim)
  | _ :: later => documentMark later

/-- Reads what stands behind the sign of a redirection. -/
def redirectionTarget (descriptor : Nat) (sign : String) : Reading Redirection := do
  let target ← word commands fuel
  match sign with
  | ">" => return .file descriptor .output target
  | ">>" => return .file descriptor .append target
  | ">|" => return .file descriptor .overwrite target
  | "<" => return .file descriptor .input target
  | "<>" => return .file descriptor .inputAndOutput target
  | "<&" | ">&" => return .copy descriptor target
  | sign =>
    let (mark, verbatim) := documentMark target
    modifyGet fun source =>
      (.document descriptor source.nextDocument, { source with
        pending := source.pending ++
          [⟨source.nextDocument, mark, sign == "<<-", verbatim⟩]
        nextDocument := source.nextDocument + 1 })

/-- Reads the redirections behind a command. The fuel bounds their number. -/
def redirections : Nat → Reading (List Redirection)
  | 0 => return []
  | bound + 1 => do
    match (← token commands { keywords := true, aliases := true } fuel) with
    | .redirection descriptor sign =>
      let first ← redirectionTarget commands fuel descriptor sign
      return first :: (← redirections bound)
    | found =>
      push found
      return []

/-- Reads the words behind a keyword, up to the token that ends them. The fuel
bounds their number. -/
def wordsUpTo : Nat → Reading (List Word × Token)
  | 0 => return ([], .endOfText)
  | bound + 1 => do
    match (← token commands {} fuel) with
    | .word word _ =>
      let (later, last) ← wordsUpTo bound
      return (word :: later, last)
    | found => return ([], found)

/-- Reads the words over which a loop runs; without any, it runs over the
arguments. -/
def loopWords : Reading (List Word) := do
  let found ← token commands { newlines := true, keywords := true, aliases := true } fuel
  if found.isMark "in" then
    let (words, last) ← wordsUpTo commands fuel fuel
    match last with
    | .newline | .sign ";" =>
      push last
      let _ ← token commands {} fuel
      return words
    | last => refuse last
  else
    unless found.isMark ";" do push found
    return [[.quote, .parameter true "@" .value [], .quote]]

/-- The parts of a simple command that have been read. -/
structure SimpleParts where
  assignments : List (String × Word) := []
  words : List Word := []
  redirections : List Redirection := []

/-- Reads the patterns of a case behind the first one, up to the closing
parenthesis. The fuel bounds their number. -/
def patterns (first : Word) : Nat → Reading (List Word)
  | 0 => return [first]
  | bound + 1 => do
    let found ← token commands {} fuel
    if found.isMark "|" then
      match (← token commands {} fuel) with
      | .word next _ => return first :: (← patterns next bound)
      | .keyword text => return first :: (← patterns [.literal false text] bound)
      | found => refuse found ")"
    else if found.isMark ")" then return [first]
    else refuse found ")"

/-- Reads the first pattern of a case, whose parenthesis may have been read. -/
def firstPattern (found : Token) : Reading Word := do
  let found ← if found.isMark "(" then token commands {} fuel else pure found
  match found with
  | .word word _ => return word
  | .keyword text => return [.literal false text]
  | found => refuse found ")"

mutual

/-- Reads a list of commands behind those that were found. There is none only
at the end of the text or where there may be none. -/
def list (commands : WordReader.Commands) (place : ListPlace) (found : Option Command)
    (mayEnd : Bool) : Nat → Reading (Option Command)
  | 0 => return found
  | fuel + 1 => do
    let inside := place != .line
    let first ← token commands { newlines := inside, keywords := true, aliases := true } (fuel + 1)
    match first with
    | .newline =>
      WordReader.announcedDocuments commands (fuel + 1)
      return some (found.getD .empty)
    | .endOfText =>
      push first
      return found
    | first =>
      push first
      if inside && mayEnd && first.closesList then return found
      else
        let line := (← get).line
        let next ← conditions commands fuel
        let last ← token commands {} (fuel + 1)
        let found := join found (if last.isMark "&" then inBackground line next else next)
        match last with
        | .newline | .endOfText =>
          push last
          list commands place found true fuel
        | .sign "&" | .sign ";" => list commands place found true fuel
        | last =>
          if inside then
            push last
            return found
          else refuse last

/-- Reads a list of commands within another command. -/
def body (commands : WordReader.Commands) : Nat → Reading Command
  | 0 => return .empty
  | fuel + 1 => return (← list commands .body none false fuel).getD .empty

/-- Reads pipelines between the signs of conditions. -/
def conditions (commands : WordReader.Commands) : Nat → Reading Command
  | 0 => return .empty
  | fuel + 1 => do moreConditions commands (← negated commands {} fuel) fuel

/-- Reads pipelines behind the signs of conditions and joins them to the one
that was read. -/
def moreConditions (commands : WordReader.Commands) (left : Command) : Nat → Reading Command
  | 0 => return left
  | fuel + 1 => do
    let expecting : Expecting := { newlines := true, keywords := true, aliases := true }
    let found ← token commands {} (fuel + 1)
    if found.isMark "&&" then
      moreConditions commands (.both left (← negated commands expecting fuel)) fuel
    else if found.isMark "||" then
      moreConditions commands (.either left (← negated commands expecting fuel)) fuel
    else
      push found
      return left

/-- Reads a pipeline that may be negated. -/
def negated (commands : WordReader.Commands) (expecting : Expecting) : Nat → Reading Command
  | 0 => return .empty
  | fuel + 1 => do
    let found ← token commands expecting (fuel + 1)
    if found.isMark "!" then
      return .negation (← pipeline commands { keywords := true, aliases := true } fuel)
    else
      push found
      pipeline commands {} fuel

/-- Reads commands between pipe signs. -/
def pipeline (commands : WordReader.Commands) (expecting : Expecting) : Nat → Reading Command
  | 0 => return .empty
  | fuel + 1 => do
    let first ← command commands expecting fuel
    match (← pipelineRest commands fuel) with
    | [] => return first
    | later => return .pipeline (first :: later) false

/-- Reads the commands behind pipe signs. -/
def pipelineRest (commands : WordReader.Commands) : Nat → Reading (List Command)
  | 0 => return []
  | fuel + 1 => do
    let found ← token commands {} (fuel + 1)
    if found.isMark "|" then
      let next ← command commands { newlines := true, keywords := true, aliases := true } fuel
      return next :: (← pipelineRest commands fuel)
    else
      push found
      return []

/-- Reads a single command with its redirections. -/
def command (commands : WordReader.Commands) (expecting : Expecting) : Nat → Reading Command
  | 0 => return .empty
  | fuel + 1 => do
    let line := (← get).line
    let first ← token commands expecting (fuel + 1)
    match first with
    | .word .. | .redirection .. =>
      push first
      simple commands line {} true fuel
    | .keyword "if" => closed commands line "fi" (← conditional commands fuel) fuel
    | .keyword "while" => closed commands line "done" (← loop commands false fuel) fuel
    | .keyword "until" => closed commands line "done" (← loop commands true fuel) fuel
    | .keyword "for" => closed commands line "done" (← forEach commands line fuel) fuel
    | .keyword "case" =>
      let choice ← choice commands line fuel
      return redirect line choice (← redirections commands (fuel + 1) (fuel + 1))
    | .keyword "\x7b" =>
      closed commands line "\x7d" (← body commands fuel) fuel
    | .sign "(" => closed commands line ")" (.subshell line (← body commands fuel) []) fuel
    | first => refuse first

/-- Passes over the token that closes a command and reads its redirections. -/
def closed (commands : WordReader.Commands) (line : Nat) (text : String) (command : Command) :
    Nat → Reading Command
  | 0 => return .empty
  | fuel + 1 => do
    expect commands (fuel + 1) text
    return redirect line command (← redirections commands (fuel + 1) (fuel + 1))

/-- Reads a condition with its branches. -/
def conditional (commands : WordReader.Commands) : Nat → Reading Command
  | 0 => return .empty
  | fuel + 1 => do
    let test ← body commands fuel
    expect commands (fuel + 1) "then"
    let yes ← body commands fuel
    let found ← token commands {} (fuel + 1)
    if found.isMark "elif" then return .conditional test yes (← conditional commands fuel)
    else if found.isMark "else" then return .conditional test yes (← body commands fuel)
    else
      push found
      return .conditional test yes .empty

/-- Reads a loop behind its keyword. -/
def loop (commands : WordReader.Commands) (untilSuccess : Bool) : Nat → Reading Command
  | 0 => return .empty
  | fuel + 1 => do
    let test ← body commands fuel
    expect commands (fuel + 1) "do"
    return .loop untilSuccess test (← body commands fuel)

/-- Reads a loop over words behind its keyword. -/
def forEach (commands : WordReader.Commands) (line : Nat) : Nat → Reading Command
  | 0 => return .empty
  | fuel + 1 => do
    match (← token commands {} (fuel + 1)) with
    | .word word true =>
      match (plainText? word).filter isName with
      | none => fail .badLoopVariable
      | some name =>
        let words ← loopWords commands (fuel + 1)
        expect commands (fuel + 1) "do" { newlines := true, keywords := true, aliases := true }
        return .forEach line name words (← body commands fuel)
    | _ => fail .badLoopVariable

/-- Reads a choice behind its keyword. -/
def choice (commands : WordReader.Commands) (line : Nat) : Nat → Reading Command
  | 0 => return .empty
  | fuel + 1 => do
    match (← token commands {} (fuel + 1)) with
    | .word subject _ =>
      expect commands (fuel + 1) "in" { newlines := true, keywords := true, aliases := true }
      return .choice line subject (← cases commands fuel)
    | found => fail (.unexpected found.description (some "word"))

/-- Reads the cases of a choice up to its end. -/
def cases (commands : WordReader.Commands) : Nat → Reading (List (List Word × Command))
  | 0 => return []
  | fuel + 1 => do
    let found ← token commands { newlines := true, keywords := true } (fuel + 1)
    if found.isMark "esac" then return []
    else
      let first ← firstPattern commands (fuel + 1) found
      let patterns ← patterns commands (fuel + 1) first fuel
      let body := (← list commands .optional none true fuel).getD .empty
      let found ← token commands { newlines := true, keywords := true } (fuel + 1)
      if found.isMark "esac" then return [(patterns, body)]
      else if found.isMark ";;" then return (patterns, body) :: (← cases commands fuel)
      else refuse found ";;"

/-- Reads the parts of a simple command and adds them to those read before. A
word behind which a parenthesis stands names a function. -/
def simple (commands : WordReader.Commands) (line : Nat) (parts : SimpleParts)
    (first : Bool) : Nat → Reading Command
  | 0 => return .empty
  | fuel + 1 => do
    let found ← token commands { aliases := first } (fuel + 1)
    match found with
    | .word word _ =>
      match if first then assignment? word else none with
      | some assignment =>
        simple commands line
          { parts with assignments := parts.assignments ++ [assignment] } true fuel
      | none => simple commands line { parts with words := parts.words ++ [word] } false fuel
    | .redirection descriptor sign =>
      let redirection ← redirectionTarget commands (fuel + 1) descriptor sign
      simple commands line
        { parts with redirections := parts.redirections ++ [redirection] } first fuel
    | found =>
      match parts.words with
      | [name] =>
        if found.isMark "(" && parts.assignments.isEmpty && parts.redirections.isEmpty then
          definition commands name fuel
        else
          push found
          return .simple line parts.assignments parts.words parts.redirections
      | _ =>
        push found
        return .simple line parts.assignments parts.words parts.redirections

/-- Reads the definition of a function behind its opening parenthesis. -/
def definition (commands : WordReader.Commands) (name : Word) : Nat → Reading Command
  | 0 => return .empty
  | fuel + 1 => do
    expect commands (fuel + 1) ")"
    match (plainText? name).filter fun text => isName text && !specialCommands.contains text with
    | none => fail .badFunctionName
    | some name =>
      let expecting : Expecting := { newlines := true, keywords := true, aliases := true }
      let first ← token commands expecting (fuel + 1)
      push first
      let line := (← get).line
      return .definition line name (← command commands {} fuel)

end

/-- The readers of the commands within a substitution. The fuel bounds how deep
substitutions lie within one another. -/
def substituted : Nat → Nat → WordReader.Commands
  | 0, _ => ⟨return .empty, return .empty⟩
  | depth + 1, fuel =>
    let commands := substituted depth fuel
    { toEnd := do
        let body ← list commands .optional none true fuel
        WordReader.announcedDocuments commands fuel
        return body.getD .empty
      toParenthesis := do
        let outer := (← get).pending
        modify fun source => { source with pending := [] }
        let body ← list commands .optional none true fuel
        expect commands fuel ")"
        WordReader.announcedDocuments commands fuel
        modify fun source => { source with pending := outer }
        return body.getD .empty }

/-- How deep substitutions may lie within one another. -/
def maxSubstitutionDepth : Nat := 64

/-- Reads the next line with the commands that begin on it, if the text has not
ended; tells as well whether it ends behind them. -/
def nextLine : Reading (Option (Command × Bool)) := do
  modify fun source => { source with pushed := none, pending := [] }
  let source ← get
  let added := source.aliases.foldl (fun n pair => n + pair.2.length + 2) 0
  let fuel := 4 * (source.text.length + added) + 64
  let commands := substituted maxSubstitutionDepth fuel
  let found ← list commands .line none false fuel
  let isLast := match (← get).pushed with
    | some .endOfText => true
    | _ => false
  match found with
  | none => return none
  | some command => return some (command, isLast)

end CommandReader
end ProfileGraph.Shell
