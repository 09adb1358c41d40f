import ProfileGraph.StandIn.Utility.Edit.Script

/-! The written form of editing scripts. Faults are reported with the place at
which reading stopped: a number of characters in a script that was given as an
argument, a number of lines in a script that was read from a file. -/
namespace ProfileGraph.Utility.Edit

/-- Where a part of a script comes from. -/
inductive Origin where
  | argument (number : Nat)
  | file (path : String)
deriving DecidableEq, Repr

/-- What has been read of a script. -/
structure Reading where
  rest : List Char := []
  /-- How many characters of this part were read. -/
  position : Nat := 0
  line : Nat := 1
  origin : Origin := .argument 1
  extended : Bool := false
  commands : Array Command := #[]
  /-- The blocks that are open, as the numbers of their commands. -/
  blocks : List Nat := []
  /-- The labels with the numbers of the commands behind them. -/
  labels : List (String × Nat) := []
  /-- The labels that commands branch to, with the numbers of the commands. -/
  branches : List (Nat × String) := []
  /-- A command whose text is expected in the next part. -/
  pending : Option Nat := none
  quiet : Bool := false

/-- Why a script cannot be read: a message that needs a place, or one that stands
alone. -/
structure ScriptFault where
  message : String
  code : Nat := 1

/-- Reads with faults. -/
abbrev Reader := StateT Reading (Except ScriptFault)

namespace Reader

/-- Refuses a script at a place. -/
def failAt {α : Type} (origin : Origin) (position line : Nat) (text : String) : Reader α :=
  throw { message := (match origin with
    | .argument number =>
      "-e expression #" ++ toString number ++ ", char " ++ toString position ++ ": "
    | .file path => "file " ++ path ++ " line " ++ toString line ++ ": ") ++ text }

/-- Refuses a script where reading has come to. -/
def fail {α : Type} (text : String) : Reader α := do
  let reading ← get
  failAt reading.origin reading.position reading.line text

/-- The next character. -/
def next : Reader (Option Char) := do
  let reading ← get
  match reading.rest with
  | [] => return none
  | c :: rest =>
    set { reading with
      rest
      position := reading.position + 1
      line := if c == '\n' then reading.line + 1 else reading.line }
    return some c

/-- The next character, which is not taken. -/
def peek : Reader (Option Char) := do return (← get).rest.head?

/-- Takes characters with a property. -/
def takeWhile (property : Char → Bool) : Reader (List Char) := do
  let found := (← get).rest.takeWhile property
  modify fun reading => { reading with
    rest := reading.rest.drop found.length
    position := reading.position + found.length
    line := reading.line + found.count '\n' }
  return found

/-- Whether a character separates words in a line. -/
def isBlank (c : Char) : Bool := c == ' ' || ('\t' ≤ c && c ≤ '\r' && c != '\n')

/-- The next character that is no blank. -/
def nextVisible : Reader (Option Char) := do
  let _ ← takeWhile isBlank
  next

/-- Takes a number. -/
def number? : Reader (Option Nat) := do
  let digits ← takeWhile Char.isDigit
  return (String.ofList digits).toNat?

/-- The number that digits of a base denote. -/
def digitsValue (base : Nat) (digits : List Char) : Nat :=
  digits.foldl (fun n c =>
    base * n + (if c.isDigit then c.toNat - '0'.toNat else c.toLower.toNat - 'a'.toNat + 10)) 0

/-- The character that an escape stands for, and what is left behind the
escape. -/
def escapeValue? (c : Char) (rest : List Char) : Option (Char × List Char) :=
  let byNumber (base width : Nat) (isDigit : Char → Bool) : Option (Char × List Char) :=
    let digits := (rest.take width).takeWhile isDigit
    if digits.isEmpty then none
    else some (Char.ofNat (digitsValue base digits % 256), rest.drop digits.length)
  match c with
  | 'a' => some ('\x07', rest)
  | 'f' => some ('\x0c', rest)
  | 'n' => some ('\n', rest)
  | 'r' => some ('\r', rest)
  | 't' => some ('\t', rest)
  | 'v' => some ('\x0b', rest)
  | 'c' => match rest with
    | d :: rest => some (Char.ofNat (d.toUpper.toNat ^^^ 0x40), rest)
    | [] => none
  | 'd' => byNumber 10 3 Char.isDigit
  | 'o' => byNumber 8 3 fun c => '0' ≤ c && c ≤ '7'
  | 'x' => byNumber 16 2 fun c => c.isDigit || ('a' ≤ c.toLower && c.toLower ≤ 'f')
  | _ => none

/-- What stands between delimiters, with the delimiter that a backslash protects as
it is. In an expression a delimiter between brackets is one of their characters.
The fuel bounds the length; the result is missing if there is no end. -/
def delimited (mark : Char) (isExpression : Bool) :
    Nat → Option Char → Reader (Option (List Char))
  | 0, _ => return none
  | fuel + 1, bracket => do
    let add (found : List Char) (bracket : Option Char) : Reader (Option (List Char)) := do
      return (← delimited mark isExpression fuel bracket).map (found ++ ·)
    match (← peek) with
    | none | some '\n' => return none
    | some c =>
      let _ ← next
      match bracket with
      | some ']' =>
        match c, (← peek) with
        | ']', _ => add [c] none
        | '\\', some 'n' =>
          let _ ← next
          add ['\n'] bracket
        | '[', some kind =>
          if kind == ':' || kind == '.' || kind == '=' then
            let _ ← next
            add [c, kind] (some kind)
          else add [c] bracket
        | _, _ => add [c] bracket
      | some kind =>
        if c == kind && (← peek) == some ']' then
          let _ ← next
          add [c, ']'] (some ']')
        else add [c] bracket
      | none =>
        if c == mark then return some []
        else if c == '\\' then
          match (← next) with
          | none => return none
          | some '\n' => add ['\n'] none
          | some d =>
            if isExpression && d == 'n' && mark != 'n' then add ['\n'] none
            else if d == mark && (isExpression || d != '&') then add [d] none
            else add ['\\', d] none
        else if c == '[' && isExpression then
          let negation ← if (← peek) == some '^' then
              let _ ← next
              pure ['^']
            else pure []
          let first ← if (← peek) == some ']' then
              let _ ← next
              pure [']']
            else pure []
          add (c :: negation ++ first) (some ']')
        else add [c] none

/-- Takes what stands in front of the next delimiter. -/
def upToMark (mark : Char) (isExpression : Bool) : Reader (Option (List Char)) := do
  delimited mark isExpression ((← get).rest.length + 1) none

/-- Replaces the escapes of an expression. The fuel bounds its length. -/
def withoutEscapes : Nat → List Char → List Char
  | 0, text => text
  | _, [] => []
  | fuel + 1, '\\' :: c :: rest =>
    match if c == 'n' then none else escapeValue? c rest with
    | some (value, rest) => value :: withoutEscapes fuel rest
    | none => '\\' :: c :: withoutEscapes fuel rest
  | fuel + 1, c :: rest => c :: withoutEscapes fuel rest

/-- Reads a regular expression; the flags behind it are known. -/
def search (text : List Char) (ignoresCase hasLines : Bool) : Reader (Search × Nat) := do
  if text.isEmpty then
    if ignoresCase || hasLines then fail "no previous regular expression"
    else return ({ expression := none }, 9)
  else
    let dialect : RegularExpression.Dialect := { extended := (← get).extended, strict := true }
    match RegularExpression.read dialect (withoutEscapes (text.length + 1) text) with
    | .ok written =>
      return ({ expression := some written.expression, ignoresCase, hasLines }, written.groups)
    | .error .bareKind => throw { message := RegularExpression.Fault.bareKind.message, code := 4 }
    | .error fault => fail fault.message

/-- Reads the flags behind the expression of an address. The fuel bounds their
number. -/
def addressFlags : Nat → Bool → Bool → Reader (Bool × Bool)
  | 0, ignoresCase, hasLines => return (ignoresCase, hasLines)
  | fuel + 1, ignoresCase, hasLines => do
    let _ ← takeWhile isBlank
    match (← peek) with
    | some 'I' =>
      let _ ← next
      addressFlags fuel true hasLines
    | some 'M' =>
      let _ ← next
      addressFlags fuel ignoresCase true
    | _ => return (ignoresCase, hasLines)

/-- Reads an address between delimiters. -/
def foundAddress (mark : Char) : Reader Address := do
  match (← upToMark mark true) with
  | none => fail "unterminated address regex"
  | some text =>
    let (ignoresCase, hasLines) ← addressFlags ((← get).rest.length + 1) false false
    return .found (← search text ignoresCase hasLines).1

/-- Reads an address, if there is one. -/
def address? : Reader (Option Address) := do
  match (← peek) with
  | some '/' =>
    let _ ← next
    return some (← foundAddress '/')
  | some '\\' =>
    let _ ← next
    match (← next) with
    | some mark => return some (← foundAddress mark)
    | none => fail "unexpected end"
  | some '$' =>
    let _ ← next
    return some .last
  | some c =>
    if !c.isDigit then return none
    let first := (← number?).getD 0
    let _ ← takeWhile isBlank
    if (← peek) == some '~' then
      let _ ← next
      let _ ← takeWhile isBlank
      return some (.every first ((← number?).getD 0))
    else return some (.line first)
  | none => return none

/-- Reads the end of a range, if there is one. -/
def rangeEnd? : Reader (Option RangeEnd) := do
  let _ ← takeWhile isBlank
  match (← peek) with
  | some '+' =>
    let _ ← next
    return some (.linesLater ((← number?).getD 0))
  | some '~' =>
    let _ ← next
    return some (.multiple ((← number?).getD 0))
  | _ => return (← address?).map .address

/-- Checks that a command has come to its end. -/
def endCommand : Reader Unit := do
  let _ ← takeWhile isBlank
  match (← peek) with
  | none | some '\x7d' | some '#' => return ()
  | some '\n' | some ';' =>
    let _ ← next
  | some _ =>
    let _ ← next
    fail "extra characters after command"

/-- Takes the name of a file, which goes to the end of the line. -/
def fileName : Reader String := do
  let _ ← takeWhile isBlank
  let name ← takeWhile (· != '\n')
  if name.isEmpty then fail "missing filename in r/R/w/W commands"
  let _ ← next
  return String.ofList name

/-- Takes a label. -/
def label : Reader String := do
  let _ ← takeWhile isBlank
  return String.ofList (← takeWhile fun c => !isBlank c && c != '\n' && c != ';' && c != '\x7d')

/-- Takes the lines of a text. A backslash keeps the end of a line in the text. The
fuel bounds the length. -/
def textLines : Nat → Reader (List Char)
  | 0 => return []
  | fuel + 1 => do
    match (← next) with
    | none | some '\n' => return []
    | some '\\' =>
      match (← next) with
      | none => return []
      | some c =>
        match escapeValue? c (← get).rest with
        | some (value, rest) =>
          modify fun reading => { reading with rest }
          return value :: (← textLines fuel)
        | none => return c :: (← textLines fuel)
    | some c => return c :: (← textLines fuel)

/-- Takes a text up to its end. -/
def wholeText : Reader String := do
  return String.ofList (← textLines ((← get).rest.length + 1)) ++ "\n"

/-- Takes the text of a command. The result is missing if the text is expected in
the next part of the script. -/
def commandText? : Reader (Option String) := do
  let _ ← takeWhile isBlank
  match (← peek) with
  | none => fail "expected \\ after \x60a', \x60c' or \x60i'"
  | some '\\' =>
    let _ ← next
    match (← peek) with
    | none => return none
    | some '\n' =>
      let _ ← next
      return some (← wholeText)
    | some _ => return some (← wholeText)
  | some _ => return some (← wholeText)

/-- The parts of a replacement. The fuel bounds the length of the text. -/
def replacementParts : Nat → List Char → List ReplacementPart
  | 0, _ | _, [] => []
  | fuel + 1, '&' :: rest => .group 0 :: replacementParts fuel rest
  | fuel + 1, '\\' :: c :: rest =>
    if c.isDigit then .group (c.toNat - '0'.toNat) :: replacementParts fuel rest
    else match c with
      | 'U' => .change .upper :: replacementParts fuel rest
      | 'L' => .change .lower :: replacementParts fuel rest
      | 'u' => .change .upperNext :: replacementParts fuel rest
      | 'l' => .change .lowerNext :: replacementParts fuel rest
      | 'E' => .change .stop :: replacementParts fuel rest
      | c => match escapeValue? c rest with
        | some (value, rest) => .text (String.singleton value) :: replacementParts fuel rest
        | none => .text (String.singleton c) :: replacementParts fuel rest
  | fuel + 1, c :: rest => .text (String.singleton c) :: replacementParts fuel rest

/-- The flags of a substitution. -/
structure SubstitutionFlags where
  everywhere : Bool := false
  first : Option Nat := none
  prints : Bool := false
  ignoresCase : Bool := false
  hasLines : Bool := false
  file : Option String := none

/-- Reads the flags of a substitution. The fuel bounds their number. -/
def substitutionFlags : Nat → SubstitutionFlags → Reader SubstitutionFlags
  | 0, flags => return flags
  | fuel + 1, flags => do
    match (← peek) with
    | none | some '\x7d' | some '#' => return flags
    | some c =>
      if c.isDigit then
        if flags.first.isSome then
          let _ ← number?
          fail "multiple number options to \x60s' command"
        let first := (← number?).getD 0
        if first = 0 then fail "number option to \x60s' command may not be zero"
        substitutionFlags fuel { flags with first := some first }
      else
        let _ ← next
        match c with
        | 'g' =>
          if flags.everywhere then fail "multiple \x60g' options to \x60s' command"
          substitutionFlags fuel { flags with everywhere := true }
        | 'p' =>
          if flags.prints then fail "multiple \x60p' options to \x60s' command"
          substitutionFlags fuel { flags with prints := true }
        | 'i' | 'I' => substitutionFlags fuel { flags with ignoresCase := true }
        | 'm' | 'M' => substitutionFlags fuel { flags with hasLines := true }
        | 'w' => return { flags with file := some (← fileName) }
        | '\n' | ';' => return flags
        | '\r' => substitutionFlags fuel flags
        | c =>
          if isBlank c then substitutionFlags fuel flags
          else fail "unknown option to \x60s'"

/-- Reads a substitution behind its letter. -/
def substitution : Reader Substitution := do
  let unfinished {α : Type} : Reader α := fail "unterminated \x60s' command"
  match (← next) with
  | none => unfinished
  | some mark =>
    match (← upToMark mark true) with
    | none =>
      unfinished
    | some pattern =>
      match (← upToMark mark false) with
      | none => unfinished
      | some replacement =>
        let flags ← substitutionFlags ((← get).rest.length + 1) {}
        let parts := replacementParts (replacement.length + 1) replacement
        let (search, groups) ← search pattern flags.ignoresCase flags.hasLines
        for part in parts do
          if let .group number := part then
            if groups < number then
              fail ("invalid reference \\" ++ toString number ++ " on \x60s' command's RHS")
        return { search, parts, everywhere := flags.everywhere, first := flags.first.getD 1
                 prints := flags.prints, file := flags.file }

/-- The characters of one side of an exchange. The fuel bounds their number. -/
def exchangeSide : Nat → List Char → List Char
  | 0, _ | _, [] => []
  | fuel + 1, '\\' :: c :: rest =>
    if c == '\\' then c :: exchangeSide fuel rest
    else match escapeValue? c rest with
      | some (value, rest) => value :: exchangeSide fuel rest
      | none => '\\' :: c :: exchangeSide fuel rest
  | fuel + 1, c :: rest => c :: exchangeSide fuel rest

/-- Reads an exchange of characters behind its letter. -/
def exchange : Reader (List (Char × Char)) := do
  let unfinished {α : Type} : Reader α := fail "unterminated \x60y' command"
  match (← next) with
  | none => unfinished
  | some mark =>
    match (← upToMark mark false) with
    | none => unfinished
    | some old =>
      match (← upToMark mark false) with
      | none => unfinished
      | some new =>
        let old := exchangeSide (old.length + 1) old
        let new := exchangeSide (new.length + 1) new
        if old.length != new.length then
          fail "strings for \x60y' command are different lengths"
        endCommand
        return old.zip new

/-- Adds a command. -/
def add (command : Command) : Reader Unit :=
  modify fun reading => { reading with commands := reading.commands.push command }

/-- Takes a number behind a command. -/
def commandNumber? : Reader (Option Nat) := do
  let _ ← takeWhile isBlank
  let found ← number?
  endCommand
  return found

/-- Reads a command whose addresses are known, by its letter. -/
def commandFor (command : Action → Command) (hasStart hasStop : Bool) (letter : Char) :
    Reader Unit := do
  let plain (action : Action) : Reader Unit := do
    endCommand
    add (command action)
  let oneAddress : Reader Unit := do
    if hasStop then fail "command only uses one address"
  let number := (← get).commands.size
  let withText (action : String → Action) : Reader Unit := do
    match (← commandText?) with
    | some text => add (command (action text))
    | none =>
      add (command (action ""))
      modify fun reading => { reading with pending := some number }
  let branching (action : Option Nat → Action) : Reader Unit := do
    let name ← label
    let _ ← takeWhile fun c => isBlank c
    if (← peek) == some ';' || (← peek) == some '\n' then
      let _ ← next
    unless name.isEmpty do
      modify fun reading => { reading with branches := (number, name) :: reading.branches }
    add (command (action none))
  match letter with
  | '\x7b' =>
    modify fun reading => { reading with blocks := number :: reading.blocks }
    add (command (.block 0))
  | '\x7d' =>
    match (← get).blocks with
    | [] => fail "unexpected \x60\x7d'"
    | start :: blocks =>
      if hasStart then fail "\x7d doesn't want any addresses"
      endCommand
      modify fun reading => { reading with
        blocks
        commands := (reading.commands.modify start fun opening =>
          { opening with action := .block (number + 1) }).push { action := .nothing } }
  | '=' => plain .printNumber
  | 'a' => withText .append
  | 'i' => withText .insert
  | 'c' => withText .change
  | ':' =>
    if hasStart then fail ": doesn't want any addresses"
    let name ← label
    if name.isEmpty then fail "\":\" lacks a label"
    modify fun reading => { reading with labels := (name, number) :: reading.labels }
    add { action := .nothing }
  | 'b' => branching .branch
  | 't' => branching .branchIfReplaced
  | 'T' => branching .branchUnlessReplaced
  | 'd' => plain .delete
  | 'D' => plain .deleteFirstLine
  | 'F' => plain .printName
  | 'g' => plain .takeHeld
  | 'G' => plain .appendHeld
  | 'h' => plain .hold
  | 'H' => plain .holdMore
  | 'x' => plain .exchange
  | 'n' => plain .next
  | 'N' => plain .appendNext
  | 'p' => plain .print
  | 'P' => plain .printFirstLine
  | 'z' => plain .clear
  | 'l' => do
    let width ← commandNumber?
    add (command (.list width))
  | 'q' => do
    oneAddress
    let code ← commandNumber?
    add (command (.quit (code.getD 0)))
  | 'Q' => do
    oneAddress
    let code ← commandNumber?
    add (command (.quitSilently (code.getD 0)))
  | 'r' => add (command (.readFile (← fileName)))
  | 'R' => add (command (.readLine (← fileName)))
  | 'w' => add (command (.writeFile (← fileName)))
  | 'W' => add (command (.writeFirstLine (← fileName)))
  | 's' => add (command (.substitute (← substitution)))
  | 'y' => add (command (.exchangeChars (← exchange)))
  | 'v' => do
    let _ ← label
    endCommand
  | c => fail ("unknown command: \x60" ++ String.singleton c ++ "'")

/-- Whether a first address is the place in front of all lines. -/
def startsBeforeLines : Option Address → Bool
  | some (.line 0) => true
  | _ => false

/-- Reads a command, if there is one. -/
def command : Reader Unit := do
  let _ ← takeWhile fun c => isBlank c || c == '\n' || c == ';'
  match (← peek) with
  | none => return ()
  | some '#' =>
    let _ ← next
    let reading ← get
    if reading.position = 1 && reading.line = 1 && reading.commands.isEmpty
        && reading.origin matches .argument 1 | .file _ then
      if (← peek) == some 'n' then
        modify fun reading => { reading with quiet := true }
    let _ ← takeWhile (· != '\n')
  | some '+' | some '~' =>
    let _ ← next
    let _ ← number?
    fail "invalid usage of +N or ~N as first address"
  | some _ =>
    let start ← address?
    let _ ← takeWhile isBlank
    let stop ←
      if start.isSome && (← peek) == some ',' then
        let _ ← next
        match (← rangeEnd?) with
        | some stop => pure (some stop)
        | none =>
          let _ ← next
          fail "unexpected \x60,'"
      else pure none
    if startsBeforeLines start then
      match stop with
      | some (.address (.found _)) => pure ()
      | _ =>
        let _ ← nextVisible
        fail "invalid usage of line address 0"
    let _ ← takeWhile isBlank
    let negated := (← peek) == some '!'
    if negated then
      let _ ← next
      let _ ← takeWhile isBlank
      if (← peek) == some '!' then
        let _ ← next
        fail "multiple \x60!'s"
    match (← next) with
    | none | some '\n' => fail "missing command"
    | some letter =>
      commandFor (fun action => { start, stop, negated, action }) start.isSome stop.isSome letter

/-- Reads all commands of a part. The fuel bounds their number. -/
def commands : Nat → Reader Unit
  | 0 => return ()
  | fuel + 1 => do
    if (← get).rest.isEmpty then return ()
    command
    commands fuel

/-- The text of a command, which was expected in this part. -/
def pendingText : Reader Unit := do
  match (← get).pending with
  | none => return ()
  | some number =>
    let text ← wholeText
    modify fun reading => { reading with
      pending := none
      commands := reading.commands.modify number fun command =>
        { command with action := match command.action with
            | .append _ => .append text
            | .insert _ => .insert text
            | .change _ => .change text
            | action => action } }

/-- Reads a part of a script. -/
def part (origin : Origin) (text : String) : Reader Unit := do
  modify fun reading => { reading with rest := text.toList, position := 0, line := 1, origin }
  pendingText
  commands (text.length + 1)

/-- Gives branches their targets. -/
def resolve : Reader Unit := do
  let reading ← get
  unless reading.blocks.isEmpty do
    failAt reading.origin 0 0 "unmatched \x60\x7b'"
  for (number, name) in reading.branches.reverse do
    match reading.labels.reverse.lookup name with
    | none => throw { message := "can't find label for jump to \x60" ++ name ++ "'", code := 4 }
    | some target =>
      modify fun reading => { reading with
        commands := reading.commands.modify number fun command =>
          { command with action := match command.action with
              | .branch _ => .branch (some target)
              | .branchIfReplaced _ => .branchIfReplaced (some target)
              | .branchUnlessReplaced _ => .branchUnlessReplaced (some target)
              | action => action } }

end Reader

/-- Reads a script from its parts. -/
def Script.read (extended : Bool) (parts : List (Origin × String)) :
    Except ScriptFault Script := do
  let reader : Reader Unit := do
    for (origin, text) in parts do
      Reader.part origin text
    Reader.resolve
  let ((), reading) ← reader.run { extended }
  return { commands := reading.commands, quiet := reading.quiet }

end ProfileGraph.Utility.Edit
