import ProfileGraph.StandIn.Host.Permissions
import ProfileGraph.StandIn.RegularExpression.Reader
import ProfileGraph.StandIn.Shell.Field
import ProfileGraph.StandIn.Utility.Moment
import ProfileGraph.StandIn.Utility.Options

/-! Queries: conditions on files, and what is done with those that meet them. -/
namespace ProfileGraph.Utility.Find

/-- How a number is compared with a given one. -/
inductive Bound where
  | exactly (n : Nat)
  | more (n : Nat)
  | fewer (n : Nat)
deriving DecidableEq, Repr

namespace Bound

/-- Whether a number is within a bound. -/
def holds : Bound → Nat → Bool
  | .exactly n, m => m == n
  | .more n, m => n < m
  | .fewer n, m => m < n

/-- Reads a number with a sign that says how it is compared. -/
def read? (text : String) : Option Bound :=
  let number (digits : List Char) : Option Nat :=
    if !digits.isEmpty && digits.all Char.isDigit then (String.ofList digits).toNat? else none
  match text.toList with
  | '+' :: digits => (number digits).map .more
  | '-' :: digits => (number digits).map .fewer
  | digits => (number digits).map .exactly

end Bound

/-- How permissions are compared with given ones. -/
inductive PermissionTest where
  | exactly (bits : Nat)
  | all (bits : Nat)
  | some (bits : Nat)
deriving DecidableEq, Repr

/-- Whether a mode passes a test. -/
def PermissionTest.holds : PermissionTest → Nat → Bool
  | .exactly bits, mode => mode == bits
  | .all bits, mode => mode &&& bits == bits
  | .some bits, mode => bits == 0 || mode &&& bits != 0

/-- A condition on a file, or something that is done with it. -/
inductive Test where
  | constant (holds : Bool)
  | name (pattern : Shell.Glob) (ignoresCase : Bool)
  | path (pattern : Shell.Glob) (ignoresCase : Bool)
  | linkTarget (pattern : Shell.Glob) (ignoresCase : Bool)
  | expression (expression : RegularExpression) (ignoresCase : Bool)
  | kind (letters : List Char)
  /-- The size in a unit, rounded up. -/
  | size (unit : Nat) (bound : Bound)
  | isEmpty
  | newerThan (moment : Nat)
  /-- The age in a unit of seconds, rounded down. -/
  | age (unit : Nat) (bound : Bound)
  | permission (test : PermissionTest)
  | runnable
  | links (bound : Bound)
  | sameAs (number : Nat)
  | print (mark : String)
  | printFormat (format : String)
  | delete
  | prune
  | quit
  /-- Runs a program for each file. The flag says that it runs in the directory of the
  file. -/
  | execute (words : List String) (inPlace : Bool)
  /-- Runs a program for all files together. -/
  | executeAll (number : Nat) (words : List String)
deriving Repr

/-- A query. -/
inductive Query where
  | test (test : Test)
  | not (inner : Query)
  | and (first second : Query)
  | or (first second : Query)
  /-- The first one is asked for what it does. -/
  | list (first second : Query)
deriving Repr

/-- Whether a query does something with files that it finds. -/
def Query.acts : Query → Bool
  | .test found =>
    match found with
    | .print _ | .printFormat _ | .delete | .execute .. | .executeAll .. => true
    | _ => false
  | .not inner => inner.acts
  | .and first second | .or first second | .list first second => first.acts || second.acts

/-- Why a query cannot be read. -/
inductive Fault where
  | missingArgument (word : String)
  | invalidArgument (text word : String)
  | unknown (word : String)
  | nothingBefore (word : String)
  | nothingBehind (word : String)
  | emptyGroup
  | openGroup
  | closedGroup
  | message (text : String)
deriving DecidableEq, Repr

/-- A name between the marks that this utility puts around it. -/
def marked (text : String) : String := "\x60" ++ text ++ "'"

/-- The text for a fault. -/
def Fault.text : Fault → String
  | .missingArgument word => "missing argument to " ++ marked word
  | .invalidArgument text word => "invalid argument " ++ marked text ++ " to " ++ marked word
  | .unknown word => "unknown predicate " ++ marked word
  | .nothingBefore word =>
    "invalid expression; you have used a binary operator '" ++ word ++ "' with nothing before it."
  | .nothingBehind word => "expected an expression after '" ++ word ++ "'"
  | .emptyGroup => "invalid expression; empty parentheses are not allowed."
  | .openGroup =>
    "invalid expression; I was expecting to find a ')' somewhere but did not see one."
  | .closedGroup => "you have too many ')'"
  | .message text => text

/-- What holds for a search as a whole. -/
structure Scope where
  maxDepth : Option Nat := none
  minDepth : Nat := 0
  /-- What is in a directory comes before it. -/
  depthFirst : Bool := false
  followsLinks : Bool := false
  /-- The number of programs that run for all files together. -/
  collectors : Nat := 0
deriving Repr

/-- The words that are left, and what has been read of the search. -/
structure Reading where
  left : List String
  scope : Scope := {}
deriving Repr

/-- Reads words with faults. -/
abbrev Reader := StateT Reading (Except Fault)

/-- The pattern that a text writes. -/
def globOf (text : String) : Shell.Glob :=
  let chars := (text.replace "[^" "[!").toList
  Shell.Glob.ofCells (chars.map fun c => ⟨c, false⟩)

/-- Takes the argument of a word. -/
def argument (word : String) : Reader String := do
  match (← get).left with
  | text :: left =>
    modify fun reading => { reading with left }
    return text
  | [] => throw (.missingArgument word)

/-- Takes an argument that is a number to compare with. -/
def boundArgument (word : String) : Reader Bound := do
  let text ← argument word
  match Bound.read? text with
  | some bound => return bound
  | none => throw (.invalidArgument text word)

/-- Takes an argument that is a plain number. -/
def depthArgument (word : String) : Reader Nat := do
  let text ← argument word
  if !text.isEmpty && text.toList.all Char.isDigit then return (text.toNat?).getD 0
  else throw (.message ("Expected a positive decimal integer argument to " ++ word
    ++ ", but got " ++ quoted text))

/-- The size in bytes that a letter stands for. -/
def sizeUnit? : Char → Option Nat
  | 'c' => some 1
  | 'w' => some 2
  | 'b' => some 512
  | 'k' => some 1024
  | 'M' => some 1048576
  | 'G' => some 1073741824
  | _ => none

/-- Reads a size. -/
def sizeTest (text : String) : Except Fault Test :=
  let bad (mark : String) : Except Fault Test :=
    .error (.message ("invalid -size type " ++ marked mark))
  match text.toList.getLast? with
  | none => .error (.message "invalid null argument to -size")
  | some last =>
    let (unit, number) :=
      if last.isDigit then (some 512, text) else (sizeUnit? last, (text.dropEnd 1).toString)
    match unit, Bound.read? number with
    | some unit, some bound => .ok (.size unit bound)
    | none, _ => bad (String.singleton last)
    | some _, none => .error (.message ("Invalid argument " ++ marked text ++ " to -size"))

/-- Reads permissions. -/
def permissionTest (text : String) : Except Fault Test :=
  let (form, mode) : (Nat → PermissionTest) × String := match text.toList with
    | '-' :: rest => (.all, String.ofList rest)
    | '/' :: rest => (.some, String.ofList rest)
    | _ => (.exactly, text)
  match Host.ModeChange.read? mode with
  | some change => .ok (.permission (form (change.apply 0 false 0)))
  | none => .error (.message ("invalid mode " ++ quoted text))

/-- Reads the letters of kinds of files. -/
def kindTest (word text : String) : Except Fault Test :=
  let rec read : List Char → Except Fault (List Char)
    | [] => .error (.message ("Arguments to " ++ word ++ " should contain at least one letter"))
    | letter :: rest =>
      if !"bcdpflsD".toList.contains letter then
        .error (.message ("Unknown argument to " ++ word ++ ": " ++ String.singleton letter))
      else match rest with
        | [] => .ok [letter]
        | [','] => .error (.message ("Last file type in list argument to " ++ word
            ++ " is missing, i.e., list is ending on: ','"))
        | ',' :: more => (read more).map (letter :: ·)
        | _ => .error (.message
            ("Must separate multiple arguments to " ++ word ++ " using: ','"))
  (read text.toList).map .kind

/-- Takes the words of a program up to their end: a semicolon, or a plus sign behind a
pair of braces. -/
def programWords (word : String) : List String → List String →
    Except Fault (List String × Bool × List String)
  | [], _ => .error (.missingArgument word)
  | ";" :: _, [] => .error (.invalidArgument ";" word)
  | ";" :: left, words => .ok (words.reverse, false, left)
  | "+" :: left, "\x7b\x7d" :: words => .ok (words.reverse, true, left)
  | other :: left, words => programWords word left (other :: words)

/-- Takes a program that is run. -/
def programTest (word : String) (inPlace : Bool) : Reader Test := do
  let (words, isAll, left) ← programWords word (← get).left []
  modify fun reading => { reading with left }
  if isAll then
    if words.any fun text => (text.splitOn "\x7b\x7d").length != 1 then
      throw (.message ("Only one instance of \x7b\x7d is supported with " ++ word ++ " ... +"))
    let number := (← get).scope.collectors
    modify fun reading => { reading with
      scope := { reading.scope with collectors := number + 1 } }
    return .executeAll number words
  else return .execute words inPlace

/-- An expression in which a plus sign and a question mark count repetitions. -/
def expressionText : List Char → List Char
  | [] => []
  | '\\' :: c :: rest => '\\' :: c :: expressionText rest
  | c :: rest =>
    if c == '+' || c == '?' then '\\' :: c :: expressionText rest else c :: expressionText rest

/-- Reads an expression that stands for whole paths. -/
def expressionTest (text : String) (ignoresCase : Bool) : Except Fault Test :=
  match RegularExpression.read {} (expressionText text.toList) with
  | .ok written => .ok (.expression written.expression ignoresCase)
  | .error fault => .error (.message
      ("failed to compile regular expression " ++ quoted text ++ ": " ++ fault.message))

variable (tree : FileTree)

/-- The node of a file that a test compares with. -/
def reference (path : String) : Except Fault (Place × FileNode) :=
  match tree.find (Octets.toText path) with
  | .ok found => .ok found
  | .error reason => .error (.message (quoted path ++ ": " ++ reason.description))

/-- Reads a test that begins with a word. -/
def readTest (word : String) : Reader Test := do
  let pattern (form : Shell.Glob → Bool → Test) (ignoresCase : Bool) : Reader Test := do
    return form (globOf (← argument word)) ignoresCase
  let setScope (change : Scope → Scope) : Reader Test := do
    modify fun reading => { reading with scope := change reading.scope }
    return .constant true
  let owner (kind : String) : Reader Test := do
    let text ← argument word
    if text == "root" || text == "0" then return .constant true
    else if text.toList.all Char.isDigit then return .constant false
    else throw (.message (quoted text ++ " is not the name of " ++ kind))
  match word with
  | "-true" | "-readable" | "-writable" | "-noleaf" | "-daystart" | "-warn" | "-nowarn"
  | "-xdev" | "-mount" | "-ignore_readdir_race" | "-noignore_readdir_race" =>
    return .constant true
  | "-false" | "-nouser" | "-nogroup" => return .constant false
  | "-name" => pattern .name false
  | "-iname" => pattern .name true
  | "-path" | "-wholename" => pattern .path false
  | "-ipath" | "-iwholename" => pattern .path true
  | "-lname" => pattern .linkTarget false
  | "-ilname" => pattern .linkTarget true
  | "-regex" => expressionTest (← argument word) false
  | "-iregex" => expressionTest (← argument word) true
  | "-regextype" =>
    let _ ← argument word
    return .constant true
  | "-type" | "-xtype" => kindTest word (← argument word)
  | "-size" => sizeTest (← argument word)
  | "-empty" => return .isEmpty
  | "-newer" | "-anewer" | "-cnewer" | "-newermm" =>
    return .newerThan (← reference tree (← argument word)).2.modified
  | "-newermt" =>
    let text ← argument word
    match Moment.ofText? tree.clock text with
    | some moment => return .newerThan moment
    | none => throw (.message
        ("I cannot figure out how to interpret " ++ quoted text ++ " as a date or time"))
  | "-mtime" | "-atime" | "-ctime" => return .age 86400 (← boundArgument word)
  | "-mmin" | "-amin" | "-cmin" => return .age 60 (← boundArgument word)
  | "-perm" => permissionTest (← argument word)
  | "-executable" => return .runnable
  | "-links" => return .links (← boundArgument word)
  | "-samefile" =>
    let (place, _) ← reference tree (← argument word)
    return .sameAs ((tree.number? place).getD 0)
  | "-user" => owner "a known user"
  | "-group" => owner "an existing group"
  | "-uid" | "-gid" =>
    match (← boundArgument word) with
    | .exactly n => return .constant (n == 0)
    | .more _ => return .constant false
    | .fewer n => return .constant (0 < n)
  | "-maxdepth" =>
    let depth ← depthArgument word
    setScope fun scope => { scope with maxDepth := some depth }
  | "-mindepth" =>
    let depth ← depthArgument word
    setScope fun scope => { scope with minDepth := depth }
  | "-depth" | "-d" => setScope fun scope => { scope with depthFirst := true }
  | "-follow" => setScope fun scope => { scope with followsLinks := true }
  | "-print" => return .print "\n"
  | "-print0" => return .print "\x00"
  | "-printf" => return .printFormat (← argument word)
  | "-ls" => return .constant true
  | "-delete" =>
    modify fun reading => { reading with scope := { reading.scope with depthFirst := true } }
    return .delete
  | "-prune" => return .prune
  | "-quit" => return .quit
  | "-exec" => programTest word false
  | "-execdir" => programTest word true
  | _ => throw (.unknown word)

mutual

/-- Reads queries between commas. The fuel bounds the number of words. -/
def readList : Nat → Reader Query
  | 0 => throw .openGroup
  | fuel + 1 => do
    let first ← readEither fuel
    match (← get).left with
    | "," :: left =>
      modify fun reading => { reading with left }
      needMore ","
      return .list first (← readList fuel)
    | _ => return first

/-- Reads alternatives. -/
def readEither : Nat → Reader Query
  | 0 => throw .openGroup
  | fuel + 1 => do
    let first ← readBoth fuel
    match (← get).left with
    | word :: left =>
      if word == "-o" || word == "-or" then
        modify fun reading => { reading with left }
        needMore word
        return .or first (← readEither fuel)
      else return first
    | [] => return first

/-- Reads queries that all have to hold. -/
def readBoth : Nat → Reader Query
  | 0 => throw .openGroup
  | fuel + 1 => do
    let first ← readOne fuel
    match (← get).left with
    | [] => return first
    | word :: left =>
      if word == "-a" || word == "-and" then
        modify fun reading => { reading with left }
        needMore word
        return .and first (← readBoth fuel)
      else if ["-o", "-or", ",", ")"].contains word then return first
      else return .and first (← readBoth fuel)

/-- Reads a query without signs between parts. -/
def readOne : Nat → Reader Query
  | 0 => throw .openGroup
  | fuel + 1 => do
    match (← get).left with
    | [] => throw .openGroup
    | word :: left =>
      modify fun reading => { reading with left }
      if ["-a", "-and", "-o", "-or", ","].contains word then throw (.nothingBefore word)
      else if word == "!" || word == "-not" then
        needMore word
        return .not (← readOne fuel)
      else if word == "(" then
        match left with
        | ")" :: _ => throw .emptyGroup
        | [] => throw .openGroup
        | _ =>
          let inner ← readList fuel
          match (← get).left with
          | ")" :: left =>
            modify fun reading => { reading with left }
            return inner
          | _ => throw .openGroup
      else if word == ")" then throw .closedGroup
      else return .test (← readTest tree word)

/-- Checks that something stands behind a word. -/
def needMore (word : String) : Reader Unit := do
  if (← get).left.isEmpty then throw (.nothingBehind word)

end

/-- Reads a whole query. Files that meet a query that does nothing with them are
printed. -/
def readQuery (words : List String) (scope : Scope) : Except Fault (Query × Scope) := do
  if words.isEmpty then return (.test (.print "\n"), scope)
  let (query, reading) ← (readList tree (4 * words.length + 4)).run { left := words, scope }
  if !reading.left.isEmpty then throw .closedGroup
  return (if query.acts then query else .and query (.test (.print "\n")), reading.scope)

end ProfileGraph.Utility.Find
