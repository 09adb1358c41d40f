import ProfileGraph.StandIn.Shell.Field
import ProfileGraph.StandIn.Utility.Listing
import ProfileGraph.StandIn.Utility.Make.Basic

/-! Commands. A simple command is started directly; one in which a character or the
first word means something to a shell is run by the shell. -/
namespace ProfileGraph.Utility.Make
open Host

/-- The characters that mean something to a shell. -/
def shellChars : List Char := "#;\"*?[]&|<>()\x7b\x7d$^~!".toList ++ ['\x60']

/-- The commands that only a shell can run. -/
def shellWords : List String := [".", ":", "alias", "bg", "break", "case", "cd", "command",
  "continue", "eval", "exec", "exit", "export", "fc", "fg", "for", "getopts", "hash", "if", "jobs",
  "login", "logout", "read", "readonly", "return", "set", "shift", "test", "times", "trap", "type",
  "ulimit", "umask", "unalias", "unset", "wait", "while"]

/-- A command while its words are cut. -/
structure Cutting where
  done : List String := []
  word : List Char := []
  /-- The word is there even if it is empty. -/
  marked : Bool := false
  hasEquals : Bool := false
  /-- A word without an equals sign has been cut. -/
  seenPlain : Bool := false
deriving Repr

/-- Ends the word that has begun. -/
def Cutting.cut (cutting : Cutting) : Cutting :=
  if cutting.word.isEmpty && !cutting.marked then cutting
  else { done := String.ofList cutting.word.reverse :: cutting.done
         seenPlain := cutting.seenPlain || !cutting.hasEquals }

/-- Cuts a command into words. The flag tells that single quotes are open. The result
is missing if a shell is needed. -/
def cutWords : List Char → Bool → Cutting → Option Cutting
  | [], quoted, cutting => if quoted then none else some cutting.cut
  | '\'' :: rest, quoted, cutting => cutWords rest (!quoted) { cutting with marked := true }
  | c :: rest, true, cutting => cutWords rest true { cutting with word := c :: cutting.word }
  | '\\' :: '\n' :: rest, false, cutting => cutWords rest false cutting
  | '\\' :: c :: rest, false, cutting =>
    cutWords rest false { cutting with word := c :: cutting.word }
  | c :: rest, false, cutting =>
    if shellChars.contains c then none
    else if c == ' ' || c == '\t' then
      if cutting.hasEquals && !cutting.seenPlain then none else cutWords rest false cutting.cut
    else if c == '=' then
      if cutting.seenPlain then
        cutWords rest false { cutting with word := c :: cutting.word, hasEquals := true }
      else none
    else cutWords rest false { cutting with word := c :: cutting.word }

/-- The words of a command that needs no shell. -/
def directWords? (command : String) : Option (List String) :=
  match cutWords command.toList false {} with
  | none => none
  | some cutting =>
    match cutting.done.reverse with
    | first :: later => if shellWords.contains first then none else some (first :: later)
    | [] => some []

/-- Runs a command in an environment. The result is missing if there was nothing to
run. -/
def runCommand (shell flags command : String) (environment : List (String × String))
    (change : Process → Process := id) : Making (Option ExitStatus) := do
  let launcher ← read
  let direct := if shell == "/bin/sh" && flags == "-c" then directWords? command else none
  match direct with
  | some [] => return none
  | some (program :: arguments) =>
    match (← Making.job (Job.spawn launcher program arguments environment change)) with
    | .ok status => return some status
    | .error reason =>
      Making.complainAt none (program ++ ": " ++ reason.description)
      return some (.code 127)
  | none =>
    match (← Making.job
        (Job.spawn launcher shell [flags, command] environment change)) with
    | .ok status => return some status
    | .error reason =>
      Making.complainAt none (shell ++ ": " ++ reason.description)
      return some (.code 127)

/-- The output of a command. -/
def shellOutput (command : String) : Making String := do
  let machine ← Making.job get
  let (number, machine) := machine.openStream
  Making.job (set machine)
  let environment := (← Making.job read).environment
  let change (process : Process) : Process := process.withDescriptor 1 number
  let shell := match (← get).bindings.lookup "SHELL" with
    | some entry => entry.value
    | none => "/bin/sh"
  let status ← runCommand shell "-c" (String.ofList (command.toList.dropWhile isBlank))
    environment change
  let code := match status with
    | some status => status.shellCode
    | none => 0
  Making.setVariable ".SHELLSTATUS"
    { value := toString code, isRecursive := false, origin := .override }
  return Octets.ofBytes ((← Making.job get).streamBytes number)

end ProfileGraph.Utility.Make

/-! The expansion of texts in makefiles: references to variables, and functions. -/
namespace ProfileGraph.Utility.Make
open Host

/-- A piece of a text. -/
inductive Piece where
  | text (text : String)
  /-- What stands between brackets behind a dollar sign. -/
  | reference (opening : Char) (inside : List Char)
deriving Repr

/-- What is wrong with a text. -/
inductive TextFault where
  | unfinishedReference
  | unfinishedCall (name : String)
deriving Repr

/-- The text up to the bracket that closes, and the text behind it. -/
def upToClose (opening closing : Char) : Nat → List Char → Option (List Char × List Char)
  | _, [] => none
  | depth, c :: rest =>
    if c == closing then
      match depth with
      | 0 => some ([], rest)
      | depth + 1 => (upToClose opening closing depth rest).map fun (inside, rest) =>
        (c :: inside, rest)
    else
      let depth := if c == opening then depth + 1 else depth
      (upToClose opening closing depth rest).map fun (inside, rest) => (c :: inside, rest)

/-- The names of the functions, with how many arguments each needs and takes. Those
with a flag expand their arguments themselves. -/
def functions : List (String × Nat × Option Nat × Bool) := [
  ("subst", 3, some 3, false), ("patsubst", 3, some 3, false), ("strip", 0, some 1, false),
  ("findstring", 2, some 2, false), ("filter", 2, some 2, false), ("filter-out", 2, some 2, false),
  ("sort", 0, some 1, false), ("word", 2, some 2, false), ("wordlist", 3, some 3, false),
  ("words", 0, some 1, false), ("firstword", 0, some 1, false), ("lastword", 0, some 1, false),
  ("dir", 0, some 1, false), ("notdir", 0, some 1, false), ("suffix", 0, some 1, false),
  ("basename", 0, some 1, false), ("addsuffix", 2, some 2, false), ("addprefix", 2, some 2, false),
  ("join", 2, some 2, false), ("wildcard", 0, some 1, false), ("realpath", 0, some 1, false),
  ("abspath", 0, some 1, false), ("if", 2, some 3, true), ("or", 1, none, true),
  ("and", 1, none, true), ("foreach", 3, some 3, true), ("call", 1, none, false),
  ("value", 0, some 1, false), ("eval", 0, some 1, false), ("origin", 0, some 1, false),
  ("flavor", 0, some 1, false), ("shell", 0, some 1, false), ("error", 0, some 1, false),
  ("warning", 0, some 1, false), ("info", 0, some 1, false), ("file", 1, some 2, false)]

/-- The name of the function that is called between brackets, and its arguments. -/
def calledFunction? (inside : List Char) : Option (String × List Char) :=
  let name := inside.takeWhile fun c => !isBlank c
  let rest := inside.drop name.length
  let name := String.ofList name
  if rest.isEmpty || (functions.lookup name).isNone then none
  else some (name, rest.dropWhile isBlank)

/-- The pieces of a text. The fuel bounds its length. -/
def piecesOf : Nat → List Char → Except TextFault (List Piece)
  | 0, _ | _, [] => .ok []
  | _, ['$'] => .ok []
  | fuel + 1, '$' :: c :: rest =>
    if c == '$' then (piecesOf fuel rest).map (.text "$" :: ·)
    else if c == '(' || c == '\x7b' then
      match upToClose c (if c == '(' then ')' else '\x7d') 0 rest with
      | some (inside, rest) => (piecesOf fuel rest).map (.reference c inside :: ·)
      | none => match calledFunction? rest with
        | some (name, _) => .error (.unfinishedCall name)
        | none => .error .unfinishedReference
    else (piecesOf fuel rest).map (.reference '(' [c] :: ·)
  | fuel + 1, c :: rest =>
    let plain := (c :: rest).takeWhile (· != '$')
    (piecesOf fuel ((c :: rest).drop plain.length)).map (.text (String.ofList plain) :: ·)

/-- The bracket that closes what another one opens. -/
def closingFor (opening : Char) : Char := if opening == '(' then ')' else '\x7d'

/-- Cuts arguments at their commas, at most into a number of them. Commas between
brackets of the kind that is given do not count; the last text is the argument that
has begun. -/
def splitArguments (opening : Char) (most : Option Nat) :
    List Char → Nat → List Char → List (List Char)
  | [], _, begun => [begun.reverse]
  | c :: rest, depth, begun =>
    if c == ',' && depth = 0 && most != some 1 then
      begun.reverse :: splitArguments opening (most.map (· - 1)) rest 0 []
    else
      let depth :=
        if c == opening then depth + 1 else if c == closingFor opening then depth - 1 else depth
      splitArguments opening most rest depth (c :: begun)

/-- The paths for which a pattern of the shell stands. -/
def globPaths (tree : FileTree) (word : String) : List String :=
  let cells := word.toList.map fun c => Shell.Cell.mk c false
  if word.toList.any fun c => c == '*' || c == '?' || c == '[' then Shell.Glob.paths tree cells
  else if (tree.find (Octets.toText word)).isOk then [word] else []

/-- The value of a function that only looks at its arguments. -/
def plainFunction? (name : String) (arguments : List String) : Option String :=
  let first := arguments.headD ""
  let second := arguments[1]?.getD ""
  let third := arguments[2]?.getD ""
  let number (text : String) : Nat := ((trim text).toNat?).getD 0
  match name with
  | "subst" =>
    some (if first.isEmpty then third ++ second
      else String.ofList (substituteAll first.toList second.toList (third.length + 1) third.toList))
  | "patsubst" => some (unwords ((words third).map (substitutePattern first second)))
  | "strip" => some (unwords (words first))
  | "findstring" => some (if (second.splitOn first).length != 1 || first.isEmpty then first else "")
  | "filter" => some (unwords ((words second).filter (fitsOne (words first))))
  | "filter-out" => some (unwords ((words second).filter fun word => !fitsOne (words first) word))
  | "sort" => some (unwords (sorted (words first)))
  | "word" => some (((words second)[number first - 1]?).getD "")
  | "wordlist" =>
    let start := number first
    let stop := number second
    some (unwords (((words third).take stop).drop (start - 1)))
  | "words" => some (toString (words first).length)
  | "firstword" => some ((words first).headD "")
  | "lastword" => some ((words first).getLast?.getD "")
  | "dir" => some (unwords ((words first).map directoryOf))
  | "notdir" => some (unwords ((words first).map nameOf))
  | "suffix" => some (unwords (((words first).map suffixOf).filter (!·.isEmpty)))
  | "basename" => some (unwords ((words first).map baseOf))
  | "addsuffix" => some (unwords ((words second).map (· ++ first)))
  | "addprefix" => some (unwords ((words second).map (first ++ ·)))
  | "join" => some (unwords (joinWords (words first) (words second)))
  | _ => none

/-- Writes to a file or reads one, as the first argument says. -/
def fileFunction (arguments : List String) : Making String := do
  let target := trim (arguments.headD "")
  let text := (arguments[1]?).map fun text => if text.endsWith "\n" then text else text ++ "\n"
  let (access, path) :=
    if target.startsWith ">>" then (some Access.appending, trim (target.drop 2).toString)
    else if target.startsWith ">" then (some Access.writing, trim (target.drop 1).toString)
    else (none, trim (target.drop 1).toString)
  match access with
  | some access =>
    match (← Making.job (Job.openPath path access)) with
    | .ok number =>
      if let some text := text then
        let _ ← Making.job (Job.writeOpen number text)
      return ""
    | .error reason => Making.stop ("open: " ++ path ++ ": " ++ reason.description)
  | none =>
    match (← Making.job (Job.readPath path)) with
    | .ok text => return if text.endsWith "\n" then String.ofList text.toList.dropLast else text
    | .error _ => return ""

/-- The output of a command as a word list: line ends are blanks, and those at the
end are gone. -/
def outputWords (text : String) : String :=
  let kept := (text.toList.reverse.dropWhile (· == '\n')).reverse
  String.ofList (kept.map fun c => if c == '\n' then ' ' else c)

/-- The value of a name in the state, before it is expanded. -/
def rawValue (name : String) : Making String := do
  return ((← Making.find? name).map (·.value)).getD ""

/-- Complains that a number is missing where a function needs one. -/
def checkNumber (function place text : String) : Making Unit := do
  let text := trim text
  if text.isEmpty || !text.toList.all Char.isDigit then
    Making.stopExpanding ("non-numeric " ++ place ++ " argument to '" ++ function ++ "' function: '"
      ++ text ++ "'")

/-- The value of a function that looks at variables, files or the output of
programs. Its arguments are expanded. -/
def effectFunction (evaluate : String → Making Unit) (name : String) (arguments : List String) :
    Making String := do
  let first := arguments.headD ""
  match name with
  | "wildcard" =>
    let tree ← Making.job Job.tree
    return unwords ((words first).flatMap (globPaths tree))
  | "realpath" =>
    let tree ← Making.job Job.tree
    return unwords ((words first).filterMap fun path =>
      match tree.find (Octets.toText path) with
      | .ok (place, _) => some (placePath place)
      | .error _ => none)
  | "abspath" =>
    let tree ← Making.job Job.tree
    return unwords ((words first).map (namedPath tree))
  | "value" => rawValue first
  | "eval" =>
    evaluate first
    return ""
  | "origin" =>
    return match (← Making.find? first) with
      | some entry => entry.origin.description
      | none => "undefined"
  | "flavor" =>
    return match (← Making.find? first) with
      | some entry => if entry.isRecursive then "recursive" else "simple"
      | none => "undefined"
  | "shell" => return outputWords (← shellOutput first)
  | "error" =>
    let place := (← get).place
    Making.stopAt place first
  | "warning" =>
    Making.complainAt (← get).place first
    return ""
  | "info" =>
    Making.say first
    return ""
  | "file" => fileFunction arguments
  | _ => return ""

mutual

/-- A text with everything expanded. The fuel bounds how deep references lie within
one another. -/
def expandText (evaluate : String → Making Unit) : Nat → List Char → Making String
  | 0, _ => return ""
  | fuel + 1, text => do
    match piecesOf (text.length + 1) text with
    | .error .unfinishedReference => Making.stopExpanding "unterminated variable reference"
    | .error (.unfinishedCall name) =>
      Making.stopExpanding ("unterminated call to function '" ++ name ++ "': missing ')'")
    | .ok pieces => expandPieces evaluate fuel pieces

/-- The pieces of a text, put together. -/
def expandPieces (evaluate : String → Making Unit) : Nat → List Piece → Making String
  | 0, _ => return ""
  | fuel + 1, pieces => do
    let mut result := ""
    for piece in pieces do
      match piece with
      | .text text => result := result ++ text
      | .reference opening inside =>
        result := result ++ (← expandReference evaluate fuel opening inside)
    return result

/-- The value of what stands between brackets. -/
def expandReference (evaluate : String → Making Unit) : Nat → Char → List Char → Making String
  | 0, _, _ => return ""
  | fuel + 1, opening, inside => do
    match calledFunction? inside with
    | some (name, arguments) => callFunction evaluate fuel opening name arguments
    | none =>
      let inside ←
        if inside.contains '$' then do
          pure (← expandText evaluate fuel inside).toList
        else pure inside
      let name := inside.takeWhile (· != ':')
      let behind := (inside.drop name.length).drop 1
      let pattern := behind.takeWhile (· != '=')
      if name.length == inside.length || pattern.length == behind.length then
        expandVariable evaluate fuel (String.ofList inside)
      else
        let value ← expandVariable evaluate fuel (String.ofList name)
        let pattern := String.ofList pattern
        let replacement := String.ofList (behind.drop (pattern.length + 1))
        let (pattern, replacement) :=
          if (Pattern.read? pattern).isSome then (pattern, replacement)
          else ("%" ++ pattern, "%" ++ replacement)
        return unwords ((words value).map (substitutePattern pattern replacement))

/-- The expanded value of a variable. -/
def expandVariable (evaluate : String → Making Unit) : Nat → String → Making String
  | 0, _ => return ""
  | fuel + 1, name => do
    match (← Making.find? name) with
    | none => return ""
    | some entry =>
      if !entry.isRecursive then return entry.value
      else
        let expanding := (← get).expanding
        if expanding.contains name then
          Making.stopAt (entry.place <|> (← get).place) ("Recursive variable '" ++ name ++ "' references itself (eventually)")
        else
          modify fun state => { state with expanding := name :: expanding }
          let value ← expandText evaluate fuel entry.value.toList
          modify fun state => { state with expanding }
          return value

/-- The value of a function whose arguments are not expanded. -/
def callFunction (evaluate : String → Making Unit) :
    Nat → Char → String → List Char → Making String
  | 0, _, _, _ => return ""
  | fuel + 1, opening, name, text => do
    let (least, most, isLazy) := (functions.lookup name).getD (0, none, false)
    let arguments := splitArguments opening most text 0 []
    if arguments.length < least then
      Making.stopExpanding ("insufficient number of arguments (" ++ toString arguments.length
        ++ ") to function '" ++ name ++ "'")
    else if isLazy then callLazy evaluate fuel name arguments
    else
      let mut values := []
      for argument in arguments do
        values := values ++ [(← expandText evaluate fuel argument)]
      applyFunction evaluate fuel name values

/-- The value of a function whose arguments are expanded. -/
def applyFunction (evaluate : String → Making Unit) : Nat → String → List String → Making String
  | 0, _, _ => return ""
  | fuel + 1, name, values => do
    if name == "word" then checkNumber name "first" (values.headD "")
    if name == "word" && (trim (values.headD "")).toNat? == some 0 then
      Making.stopExpanding "first argument to 'word' function must be greater than 0"
    if name == "wordlist" then
      checkNumber name "first" (values.headD "")
      checkNumber name "second" (values[1]?.getD "")
    match plainFunction? name values with
    | some value => return value
    | none =>
      if name == "call" then callVariable evaluate fuel values
      else effectFunction evaluate name values

/-- The value of a function that expands its arguments itself. -/
def callLazy (evaluate : String → Making Unit) :
    Nat → String → List (List Char) → Making String
  | 0, _, _ => return ""
  | fuel + 1, name, arguments => do
    let stripped (text : List Char) : List Char := (trim (String.ofList text)).toList
    match name, arguments with
    | "if", condition :: yes :: no =>
      if (← expandText evaluate fuel (stripped condition)).isEmpty then
        match no with
        | no :: _ => expandText evaluate fuel no
        | [] => return ""
      else expandText evaluate fuel yes
    | "or", arguments =>
      for argument in arguments do
        let value ← expandText evaluate fuel (stripped argument)
        unless value.isEmpty do return value
      return ""
    | "and", arguments =>
      let mut value := ""
      for argument in arguments do
        value := (← expandText evaluate fuel (stripped argument))
        if value.isEmpty then return ""
      return value
    | "foreach", [entry, list, body] =>
      let entry := trim (← expandText evaluate fuel entry)
      let items := words (← expandText evaluate fuel list)
      let mut values := []
      for item in items do
        modify fun state => { state with
          scopes := [(entry, { value := item, isRecursive := false, origin := .automatic })]
            :: state.scopes }
        values := values ++ [(← expandText evaluate fuel body)]
        modify fun state => { state with scopes := state.scopes.drop 1 }
      return unwords values
    | _, _ => return ""

/-- The value of a variable with numbered arguments. -/
def callVariable (evaluate : String → Making Unit) : Nat → List String → Making String
  | 0, _ => return ""
  | fuel + 1, values => do
    let name := trim (values.headD "")
    let arguments := values.drop 1
    if (functions.lookup name).isSome then applyFunction evaluate fuel name arguments
    else match (← Making.find? name) with
      | none => return ""
      | some entry =>
        let numbered := (name :: arguments).zipIdx.map fun (value, number) =>
          (toString number, ({ value, isRecursive := false, origin := .automatic } : Variable))
        let unset := (List.range 10).filterMap fun number =>
          if number ≤ arguments.length then none
          else some (toString number, ({ value := "", isRecursive := false, origin := .automatic } : Variable))
        modify fun state => { state with scopes := (numbered ++ unset) :: state.scopes }
        let value ← expandText evaluate fuel entry.value.toList
        modify fun state => { state with scopes := state.scopes.drop 1 }
        return value

end

/-- How deep references may lie within one another. -/
def maxReferenceDepth : Nat := 2000

/-- A text with everything expanded. -/
def expand (evaluate : String → Making Unit) (text : String) : Making String :=
  expandText evaluate maxReferenceDepth text.toList

end ProfileGraph.Utility.Make
