import ProfileGraph.StandIn.Host.Launch
import ProfileGraph.StandIn.Utility.Find.Query
import ProfileGraph.StandIn.Utility.Listing

/-! The search for files: a walk through directories that asks a query about every file
on its way. -/
namespace ProfileGraph.Utility.Find
open Host

/-- A file on the way. -/
structure Entry where
  path : String
  /-- The path at which the search began. -/
  start : String
  place : Place
  node : FileNode
  depth : Nat
deriving Repr

/-- What a search has come to. -/
structure State where
  /-- The directory is not entered. -/
  isPruned : Bool := false
  isOver : Bool := false
  /-- Something has gone wrong. -/
  hasFailed : Bool := false
  /-- The files for programs that run for all of them, the last one first. -/
  collected : List (Nat × String) := []

/-- A step of a search, which keeps a state. -/
abbrev Searching := StateT State Job

namespace Entry

/-- The last part of the path of a file. -/
def name (entry : Entry) : String :=
  let bare := Path.withoutSlashes entry.path
  if bare == "/" then bare else (bare.splitOn "/").getLast?.getD bare

/-- The directory of the path of a file. -/
def directory (entry : Entry) : String :=
  match (Path.withoutSlashes entry.path).splitOn "/" with
  | [] | [_] => "."
  | parts => "/".intercalate parts.dropLast

/-- The path of a file behind the one at which the search began. -/
def tail (entry : Entry) : String :=
  let rest := (entry.path.drop entry.start.length).toString
  if rest.startsWith "/" then (rest.drop 1).toString else rest

end Entry

/-- Complains and notes that something has gone wrong. -/
def complain (text : String) : Searching Unit := do
  Job.complainAs text
  modify fun state => { state with hasFailed := true }

/-- Whether a pattern stands for a text. -/
def accepts (pattern : Shell.Glob) (ignoresCase : Bool) (text : String) : Bool :=
  if ignoresCase then
    let lower : Shell.Glob := pattern.map fun
      | .char c => .char c.toLower
      | part => part
    lower.accepts (text.toList.map Char.toLower)
  else pattern.accepts text.toList

/-- The text of a file for a letter of a format. -/
def formatText? (tree : FileTree) (entry : Entry) (letter : Char) : Option String :=
  match letter with
  | 'p' => some entry.path
  | 'f' => some entry.name
  | 'h' => some entry.directory
  | 'P' => some entry.tail
  | 'H' => some entry.start
  | 's' => some (toString entry.node.size)
  | 'd' => some (toString entry.depth)
  | 'm' => some (octalText 0 entry.node.mode)
  | 'M' => some (String.ofList [kindMark entry.node] ++ modeText entry.node.mode)
  | 'y' => some (String.singleton (if kindMark entry.node == '-' then 'f' else kindMark entry.node))
  | 'l' => some (match entry.node.content with
    | .link target => Octets.ofText target
    | _ => "")
  | 'u' | 'g' => some "root"
  | 'U' | 'G' => some "0"
  | 'n' => some (toString (linkCount tree entry.place entry.node))
  | 'i' => some (toString ((tree.number? entry.place).getD 0 + 1))
  | _ => none
where
  /-- The letter of the kind of a file. -/
  kindMark (node : FileNode) : Char := kindLetter node

/-- A text in a field. -/
def inField (flags : List Char) (text : String) : String :=
  let isLeft := flags.contains '-'
  let width := ((String.ofList (flags.filter Char.isDigit)).toNat?).getD 0
  let padding := String.ofList (List.replicate (width - text.length) ' ')
  if isLeft then text ++ padding else padding ++ text

/-- Writes a file in a format; the result has the complaints about it. The fuel bounds
the length. -/
def formatted (tree : FileTree) (entry : Entry) : Nat → List Char → String × List String
  | 0, _ | _, [] => ("", [])
  | fuel + 1, '%' :: '%' :: rest => put "%" (formatted tree entry fuel rest)
  | fuel + 1, '%' :: rest =>
    let flags := rest.takeWhile fun c => c.isDigit || c == '-' || c == '.'
    match rest.drop flags.length with
    | [] => ("", ["error: % at end of format string"])
    | letter :: rest =>
      match formatText? tree entry letter with
      | some text => put (inField flags text) (formatted tree entry fuel rest)
      | none =>
        let (text, complaints) := formatted tree entry fuel rest
        ("%" ++ String.singleton letter ++ text,
          ("warning: unrecognized format directive " ++ marked ("%" ++ String.singleton letter))
            :: complaints)
  | fuel + 1, '\\' :: rest =>
    match rest with
    | [] => ("\\", [])
    | 'c' :: _ => ("", [])
    | c :: later =>
      if c.isDigit then
        let digits := (rest.take 3).takeWhile fun c => '0' ≤ c && c ≤ '7'
        let value := digits.foldl (fun n c => 8 * n + (c.toNat - '0'.toNat)) 0
        put (String.singleton (Char.ofNat (value % 256)))
          (formatted tree entry fuel (rest.drop (max 1 digits.length)))
      else match [('a', "\x07"), ('b', "\x08"), ('f', "\x0c"), ('n', "\n"), ('r', "\r"),
          ('t', "\t"), ('v', "\x0b"), ('\\', "\\")].lookup c with
        | some text => put text (formatted tree entry fuel later)
        | none =>
          let (text, complaints) := formatted tree entry fuel later
          ("\\" ++ String.singleton c ++ text,
            ("warning: unrecognized escape " ++ marked ("\\" ++ String.singleton c)) :: complaints)
  | fuel + 1, c :: rest => put (String.singleton c) (formatted tree entry fuel rest)
where
  /-- Puts text in front. -/
  put (text : String) (later : String × List String) : String × List String :=
    (text ++ later.1, later.2)

/-- Runs a program with words as they are. -/
def runProgram (launcher : Launcher) (words : List String) : Searching Bool := do
  match words with
  | [] => return false
  | name :: arguments =>
    let environment := (← (read : Job Process)).environment
    match (← (Job.spawn launcher name arguments environment : Job _)) with
    | .ok status => return status.isSuccess
    | .error reason =>
      Job.complainAs (quoted name ++ ": " ++ reason.description)
      return false

/-- Removes a file. -/
def delete (entry : Entry) : Searching Bool := do
  let tree ← (Job.tree : Job FileTree)
  if entry.path == "." then return true
  else if entry.node.isDirectory && !(tree.names entry.place).isEmpty then
    complain ("cannot delete " ++ quoted entry.path ++ ": Directory not empty")
    return false
  else
    (modify fun machine => { machine with tree := machine.tree.erase entry.place } : Job Unit)
    return true

/-- Whether a file meets a test. -/
def meets (launcher : Launcher) (entry : Entry) (test : Test) : Searching Bool := do
  let tree ← (Job.tree : Job FileTree)
  match test with
  | .constant holds => return holds
  | .name pattern ignoresCase => return accepts pattern ignoresCase entry.name
  | .path pattern ignoresCase => return accepts pattern ignoresCase entry.path
  | .linkTarget pattern ignoresCase =>
    return match entry.node.content with
      | .link target => accepts pattern ignoresCase (Octets.ofText target)
      | _ => false
  | .expression expression ignoresCase =>
    let subject : Subject := { chars := entry.path.toList.toArray, ignoresCase }
    return match expression.matchAt? subject 0 with
      | some found => found.stop == entry.path.length
      | none => false
  | .kind letters =>
    return letters.contains (if kindLetter entry.node == '-' then 'f' else kindLetter entry.node)
  | .size unit bound => return bound.holds ((entry.node.size + unit - 1) / unit)
  | .isEmpty =>
    return if entry.node.isDirectory then (tree.names entry.place).isEmpty
      else entry.node.isRegular && entry.node.size == 0
  | .newerThan moment => return moment < entry.node.modified
  | .age unit bound => return bound.holds ((tree.clock - entry.node.modified) / unit)
  | .permission permission => return permission.holds entry.node.mode
  | .runnable => return entry.node.isDirectory || entry.node.mode &&& 0o111 != 0
  | .links bound => return bound.holds (linkCount tree entry.place entry.node)
  | .sameAs number => return tree.number? entry.place == some number
  | .print mark =>
    (Job.print (entry.path ++ mark) : Job Unit)
    return true
  | .printFormat format =>
    let (text, complaints) := formatted tree entry (format.length + 1) format.toList
    (Job.print text : Job Unit)
    for complaint in complaints do Job.complainAs complaint
    return true
  | .delete => delete entry
  | .prune =>
    modify fun state => { state with isPruned := true }
    return true
  | .quit =>
    modify fun state => { state with isOver := true }
    return true
  | .execute words inPlace =>
    let path := if inPlace then "./" ++ entry.name else entry.path
    let words := words.map fun word => word.replace "\x7b\x7d" path
    if inPlace then
      (modify (·.backIn entry.place.dropLast) : Job Unit)
      let holds ← runProgram launcher words
      (modify (·.backIn tree.workingDirectory) : Job Unit)
      return holds
    else runProgram launcher words
  | .executeAll number _ =>
    modify fun state => { state with collected := (number, entry.path) :: state.collected }
    return true

/-- Whether a file meets a query. -/
def asks (launcher : Launcher) (entry : Entry) : Query → Searching Bool
  | .test test => meets launcher entry test
  | .not inner => return !(← asks launcher entry inner)
  | .and first second => do
    if (← asks launcher entry first) && !(← get).isOver then asks launcher entry second
    else return false
  | .or first second => do
    if (← asks launcher entry first) || (← get).isOver then return true
    else asks launcher entry second
  | .list first second => do
    let _ ← asks launcher entry first
    asks launcher entry second

/-- Walks through a file and what is below it. The fuel bounds the depth. -/
def walk (launcher : Launcher) (query : Query) (scope : Scope) :
    Nat → String → String → Place → FileNode → Nat → Searching Unit
  | 0, _, _, _, _, _ => return ()
  | fuel + 1, start, path, place, node, depth => do
    if (← get).isOver then return
    let entry : Entry := { path, start, place, node, depth }
    let ask : Searching Unit := do
      if scope.minDepth ≤ depth then
        let _ ← asks launcher entry query
    modify fun state => { state with isPruned := false }
    unless scope.depthFirst do ask
    let isPruned := (← get).isPruned && !scope.depthFirst
    let isDeepest := match scope.maxDepth with
      | some limit => limit ≤ depth
      | none => false
    if node.isDirectory && !isPruned && !isDeepest && !(← get).isOver then
      let tree ← (Job.tree : Job FileTree)
      for name in tree.names place do
        let below := (if path.endsWith "/" then path else path ++ "/") ++ Octets.ofText name
        let here ← (Job.tree : Job FileTree)
        if let some node := here.node? (place ++ [name]) then
          let target := if scope.followsLinks then here.find (Path.ofSteps true (place ++ [name]))
            else .error .noEntry
          match target with
          | .ok (place, node) => walk launcher query scope fuel start below place node (depth + 1)
          | .error _ => walk launcher query scope fuel start below (place ++ [name]) node (depth + 1)
    if scope.depthFirst then
      unless (← get).isOver do ask

/-- The programs of a query that run for all files together. -/
def collectorsOf : Query → List (Nat × List String)
  | .test test =>
    match test with
    | .executeAll number words => [(number, words)]
    | _ => []
  | .not inner => collectorsOf inner
  | .and first second | .or first second | .list first second =>
    collectorsOf first ++ collectorsOf second

/-- How deep directories may lie within one another. -/
def maxDepth : Nat := 1000

/-- Whether a word begins a query. -/
def beginsQuery (word : String) : Bool :=
  word == "(" || word == "!" || (word.startsWith "-" && word.length != 1)

/-- Reads the options about links in front of all other words. -/
def linkOptions : Scope → List String → Scope × List String
  | scope, "-L" :: words => linkOptions { scope with followsLinks := true } words
  | scope, "-P" :: words => linkOptions { scope with followsLinks := false } words
  | scope, "-H" :: words => linkOptions scope words
  | scope, words => (scope, words)

/-- Searches below one path. -/
def searchFrom (launcher : Launcher) (query : Query) (scope : Scope) (path : String) :
    Searching Unit := do
  let tree ← (Job.tree : Job FileTree)
  match tree.find (Octets.toText path) scope.followsLinks with
  | .ok (place, node) => walk launcher query scope maxDepth path path place node 0
  | .error reason => complain (quoted path ++ ": " ++ reason.description)

/-- Searches below paths, and runs the programs that run for all files. -/
def searchAll (launcher : Launcher) (query : Query) (scope : Scope) (paths : List String) :
    Searching Unit := do
  for path in paths do searchFrom launcher query scope path
  for (number, words) in collectorsOf query do
    let found := (← get).collected.reverse.filterMap fun (other, path) =>
      if other == number then some path else none
    unless found.isEmpty do
      unless (← runProgram launcher (words ++ found)) do
        modify fun state => { state with hasFailed := true }

/-- Searches for files that meet a query. -/
def findFiles (launcher : Launcher) : Job ExitStatus := do
  let arguments := (← read).arguments
  if arguments == ["--help"] || arguments == ["--version"] || arguments == ["-help"] then
    return .code 0
  let (scope, words) := linkOptions {} arguments
  let paths := words.takeWhile (!beginsQuery ·)
  let query := words.drop paths.length
  match readQuery (← Job.tree) query scope with
  | .error fault =>
    Job.complainAs fault.text
    return .code 1
  | .ok (query, scope) =>
    let paths := if paths.isEmpty then ["."] else paths
    let ((), state) ← (searchAll launcher query scope paths).run {}
    return .code (if state.hasFailed then 1 else 0)

end ProfileGraph.Utility.Find
