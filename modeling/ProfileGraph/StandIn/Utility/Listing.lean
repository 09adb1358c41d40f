import ProfileGraph.StandIn.Host.Permissions
import ProfileGraph.StandIn.Utility.Naming

/-! The utilities that change who may use files, and whom they belong to. -/
namespace ProfileGraph.Utility
open Host

/-- The letters that show the bits of a mode. -/
def modeText (mode : Nat) : String :=
  let bit (n : Nat) (letter : Char) : Char := if mode &&& n != 0 then letter else '-'
  let runs (n special : Nat) (letter capital : Char) : Char :=
    if mode &&& special != 0 then if mode &&& n != 0 then letter else capital else bit n 'x'
  String.ofList [bit 0o400 'r', bit 0o200 'w', runs 0o100 0o4000 's' 'S', bit 0o40 'r',
    bit 0o20 'w', runs 0o10 0o2000 's' 'S', bit 4 'r', bit 2 'w', runs 1 0o1000 't' 'T']

/-- A mode in octal digits and in letters. -/
def modeWords (mode : Nat) : String := octalText 4 mode ++ " (" ++ modeText mode ++ ")"

/-- How modes are changed. -/
structure ModeOptions where
  recursive : Bool := false
  silent : Bool := false
  tells : Bool := false
  tellsChanges : Bool := false

namespace ModeOptions

/-- Changes the mode of the node at a place. -/
def changeAt (options : ModeOptions) (change : Nat → Bool → Nat → Nat) (path : String)
    (place : Place) (node : FileNode) : Job Unit := do
  let new := change (← read).umask node.isDirectory node.mode
  modify fun machine =>
    match machine.tree.number? place with
    | some number =>
      { machine with tree := machine.tree.modifyNode number fun node => { node with mode := new } }
    | none => machine
  if new != node.mode then
    if options.tells || options.tellsChanges then
      Job.print ("mode of " ++ quoted path ++ " changed from " ++ modeWords node.mode ++ " to "
        ++ modeWords new ++ "\n")
  else if options.tells then
    Job.print ("mode of " ++ quoted path ++ " retained as " ++ modeWords new ++ "\n")

/-- Changes the modes of a node and of all below it. The fuel bounds the
depth. -/
def changeBelow (options : ModeOptions) (change : Nat → Bool → Nat → Nat) :
    Nat → String → Place → FileNode → Job Unit
  | 0, _, _, _ => return ()
  | fuel + 1, path, place, node => do
    options.changeAt change path place node
    if options.recursive && node.isDirectory then
      for name in (← Job.tree).names place do
        if let some inner := (← Job.tree).node? (place ++ [name]) then
          match inner.content with
          | .link _ => pure ()
          | _ => changeBelow options change fuel (below path (Octets.ofText name)) (place ++ [name]) inner

end ModeOptions

/-- The node that a path leads to, or a complaint unless that is unwanted. -/
def accessible (silent : Bool) (path : String) : Job (Option (Place × FileNode)) := do
  match (← findNode path) with
  | .ok found => return some found
  | .error reason =>
    unless silent do
      Job.complainAs ("cannot access " ++ quoted path ++ ": " ++ reason.description)
    return none

/-- Whether an argument is a mode that starts with a dash. -/
def isDashedMode (argument : String) : Bool :=
  match argument.toList with
  | '-' :: c :: rest => (c :: rest).all "rwxXstugoa,+=-01234567".toList.contains && c != '-'
  | _ => false

/-- Changes the modes of files. -/
def changeModes : Job Nat := do
  let arguments := (← read).arguments
  let dashed := arguments.find? isDashedMode
  let rest := match dashed with
    | some mode => arguments.erase mode
    | none => arguments
  Job.within { ← read with arguments := rest } <|
    withOptions [.flag 'R' "recursive", .flag 'c' "changes", .flag 'f' "silent", .named "quiet",
        .flag 'v' "verbose", .named "reference" .required, .named "preserve-root",
        .named "no-preserve-root"] fun given => do
      let options : ModeOptions := {
        recursive := given.has "R", silent := given.has "f" || given.has "quiet"
        tells := given.has "v", tellsChanges := given.has "c" }
      let changeAll (change : Nat → Bool → Nat → Nat) (paths : List String) : Job Nat :=
        forEach paths fun path => do
          match (← accessible options.silent path) with
          | none => return false
          | some (place, node) =>
            options.changeBelow change FileTree.maxPathLength path place node
            return true
      match given.value? "reference" with
      | some reference =>
        if given.operands.isEmpty then misuse "missing operand"
        else match (← findNode reference) with
          | .ok (_, node) => changeAll (fun _ _ _ => node.mode) given.operands
          | .error reason =>
            Job.complainAs ("failed to get attributes of " ++ quoted reference ++ ": "
              ++ reason.description)
            return 1
      | none =>
        let (mode, paths) := match dashed with
          | some mode => (some mode, given.operands)
          | none => (given.operands.head?, given.operands.tail)
        match mode, paths with
        | none, _ => misuse "missing operand"
        | some mode, [] => misuse ("missing operand after " ++ quotedWord mode)
        | some mode, paths =>
          match ModeChange.read? mode with
          | none => misuse ("invalid mode: " ++ quotedWord mode)
          | some change => changeAll (fun umask => change.apply umask) paths

/-- Whether a name or a number is that of a user or a group. -/
def isKnownOwner (name : String) : Bool :=
  name.isEmpty || name == "root" || name.toList.all Char.isDigit

/-- Changes whom files belong to. All belong to one user, so that only the
arguments are checked. -/
def changeOwners (groupOnly : Bool) : Job Nat :=
  withOptions [.flag 'R' "recursive", .flag 'c' "changes", .flag 'f' "silent", .named "quiet",
      .flag 'v' "verbose", .flag 'h' "no-dereference", .named "reference" .required] fun given => do
    match given.operands with
    | [] => misuse "missing operand"
    | [owner] => misuse ("missing operand after " ++ quotedWord owner)
    | owner :: paths =>
      let (user, group) := owner.toList.span fun c => c != ':' && c != '.'
      let user := String.ofList user
      let group := String.ofList (group.drop 1)
      if groupOnly && !isKnownOwner owner then
        Job.complainAs ("invalid group: " ++ quotedWord owner)
        return 1
      else if !groupOnly && !isKnownOwner user then
        Job.complainAs ("invalid user: " ++ quotedWord owner)
        return 1
      else if !groupOnly && !isKnownOwner group then
        Job.complainAs ("invalid group: " ++ quotedWord owner)
        return 1
      else
        let silent := given.has "f" || given.has "quiet"
        forEach paths fun path => return (← accessible silent path).isSome

end ProfileGraph.Utility

/-! The utilities that tell about files and directories. -/
namespace ProfileGraph.Utility
open Host

/-- How directories are listed. -/
structure ListingOptions where
  hidden : Bool := false
  /-- The directory itself and the one above are listed, too. -/
  dots : Bool := false
  recursive : Bool := false
  /-- Directories are listed like files. -/
  plain : Bool := false
  long : Bool := false
  marks : Bool := false
  slashes : Bool := false
  reversed : Bool := false
  byTime : Bool := false
  bySize : Bool := false
  unsorted : Bool := false
  numbers : Bool := false
  commas : Bool := false
  quotes : Bool := false

/-- An entry of a listing. -/
structure Listed where
  name : String
  place : Place
  node : FileNode

/-- The number of entries that a node has. -/
def linkCount (tree : FileTree) (place : Place) (node : FileNode) : Nat :=
  if node.isDirectory then
    2 + ((tree.names place).filter fun name =>
      ((tree.node? (place ++ [name])).map (·.isDirectory)).getD false).length
  else match tree.number? place with
    | some number => (tree.entries.filter (·.2 == number)).length
    | none => 1

/-- The letter of a kind of file. -/
def kindLetter (node : FileNode) : Char :=
  match node.content with
  | .directory => 'd'
  | .link _ => 'l'
  | .device _ => 'c'
  | _ => '-'

namespace ListingOptions

/-- The order in which entries are listed. -/
def sort (options : ListingOptions) (entries : List Listed) : List Listed :=
  let byName := entries.mergeSort fun a b => a.name ≤ b.name
  let sorted :=
    if options.unsorted then entries
    else if options.byTime then byName.mergeSort fun a b => b.node.modified ≤ a.node.modified
    else if options.bySize then byName.mergeSort fun a b => b.node.size ≤ a.node.size
    else byName
  if options.reversed then sorted.reverse else sorted

/-- The name of an entry with marks. -/
def shownName (options : ListingOptions) (entry : Listed) : String :=
  let mark := match entry.node.content with
    | .directory => if options.marks || options.slashes then "/" else ""
    | .link _ => if options.marks && !options.long then "@" else ""
    | _ => if options.marks && entry.node.isExecutable then "*" else ""
  (if options.quotes then "\"" ++ entry.name ++ "\"" else entry.name) ++ mark

/-- The lines that list entries. -/
def lines (options : ListingOptions) (tree : FileTree) (entries : List Listed) : List String :=
  let width (text : Listed → String) : Nat := (entries.map (text · |>.length)).foldl max 0
  let links (entry : Listed) : String := toString (linkCount tree entry.place entry.node)
  let size (entry : Listed) : String := toString entry.node.size
  let number (entry : Listed) : String := toString ((tree.number? entry.place).getD 2)
  entries.map fun entry =>
    let start := if options.numbers then padLeft (width number) (number entry) ++ " " else ""
    if options.long then
      let target := match entry.node.content with
        | .link text => " -> " ++ Octets.ofText text
        | _ => ""
      start ++ String.singleton (kindLetter entry.node) ++ modeText entry.node.mode ++ " "
        ++ padLeft (width links) (links entry) ++ " root root " ++ padLeft (width size) (size entry)
        ++ " Jan  1 00:00 " ++ options.shownName entry ++ target
    else start ++ options.shownName entry

/-- Prints entries. -/
def print (options : ListingOptions) (entries : List Listed) : Job Unit := do
  let lines := options.lines (← Job.tree) entries
  if options.commas then
    unless lines.isEmpty do Job.print (", ".intercalate lines ++ "\n")
  else lines.forM fun line => Job.print (line ++ "\n")

/-- The entries of a directory. -/
def entriesOf (options : ListingOptions) (tree : FileTree) (place : Place) : List Listed :=
  let dots :=
    if options.dots then
      [(".", place), ("..", place.dropLast)].filterMap fun (name, place) =>
        (tree.node? place).map fun node => ⟨name, place, node⟩
    else []
  let names := (tree.names place).filter fun name =>
    options.hidden || options.dots || !name.startsWith "."
  dots ++ names.filterMap fun name =>
    (tree.node? (place ++ [name])).map fun node => ⟨Octets.ofText name, place ++ [name], node⟩

/-- Lists a directory, and those below it if that is asked for. The fuel bounds
the depth. -/
def listDirectory (options : ListingOptions) : Nat → Bool → Bool → String → Place → Job Unit
  | 0, _, _, _, _ => return ()
  | fuel + 1, titled, isFirst, path, place => do
    if titled then Job.print ((if isFirst then "" else "\n") ++ path ++ ":\n")
    let entries := options.sort (options.entriesOf (← Job.tree) place)
    if options.long then Job.print "total 0\n"
    options.print entries
    if options.recursive then
      for entry in entries do
        if entry.node.isDirectory && entry.name != "." && entry.name != ".." then
          listDirectory options fuel true false (below path entry.name) entry.place

end ListingOptions

/-- Lists files and directories. -/
def list : Job Nat :=
  withOptions ([.flag 'a' "all", .flag 'A' "almost-all", .flag 'R' "recursive", .flag 'd' "directory",
      .flag 'l', .flag 'F' "classify", .flag 'p', .flag 'r' "reverse", .flag 't', .flag 'S', .flag 'U',
      .flag 'f', .flag 'i' "inode", .flag 'm', .flag '1', .flag 'C', .flag 'x', .flag 'h' "human-readable",
      .flag 'n' "numeric-uid-gid", .flag 'g', .flag 'o', .flag 'q' "hide-control-chars",
      .flag 's' "size", .flag 'L' "dereference", .flag 'H', .flag 'k' "kibibytes", .flag 'b' "escape",
      .flag 'N' "literal", .flag 'Q' "quote-name", .flag 'B' "ignore-backups", .flag 'v', .flag 'X',
      .flag 'Z' "context", .named "color" .optional, .named "group-directories-first",
      .named "full-time", .named "sort" .required, .named "time-style" .required,
      .value 'I' "ignore", .value 'w' "width"]) (fun given => do
    let options : ListingOptions := {
      hidden := given.has "A" || given.has "f", dots := given.has "a" || given.has "f"
      recursive := given.has "R", plain := given.has "d"
      long := given.has "l" || given.has "g" || given.has "o" || given.has "n"
      marks := given.has "F", slashes := given.has "p", reversed := given.has "r"
      byTime := given.has "t", bySize := given.has "S", unsorted := given.has "U" || given.has "f"
      numbers := given.has "i", commas := given.has "m", quotes := given.has "Q" }
    let mut files : List Listed := []
    let mut directories : List (String × Place) := []
    let mut code := 0
    let operands := if given.operands.isEmpty then ["."] else given.operands
    for path in operands do
      match (← findNode path (!options.long && !options.marks || given.has "L")) with
      | .error reason =>
        match reason, (← findNode path false) with
        | .noEntry, .ok (place, node) => files := files ++ [⟨path, place, node⟩]
        | _, _ =>
          Job.complainAs ("cannot access " ++ quoted path ++ ": " ++ reason.description)
          code := 2
      | .ok (place, node) =>
        if node.isDirectory && !options.plain then directories := directories ++ [(path, place)]
        else files := files ++ [⟨path, place, node⟩]
    options.print (options.sort files)
    let titled := 1 < operands.length || options.recursive
    let sorted := directories.mergeSort fun a b => a.1 ≤ b.1
    let sorted := if options.reversed then sorted.reverse else sorted
    let mut isFirst := files.isEmpty
    for (path, place) in sorted do
      options.listDirectory FileTree.maxPathLength titled isFirst path place
      isFirst := false
    return code) 2

/-- What a letter stands for in a format that tells about a node. -/
def statText (tree : FileTree) (path : String) (place : Place) (node : FileNode) : Char → String
  | 'n' => path
  | 'N' => match node.content with
    | .link text => quoted path ++ " -> " ++ quoted (Octets.ofText text)
    | _ => quoted path
  | 's' => toString node.size
  | 'a' => octalText 1 node.mode
  | 'A' => String.singleton (kindLetter node) ++ modeText node.mode
  | 'F' => kindText node
  | 'h' => toString (linkCount tree place node)
  | 'i' => toString ((tree.number? place).getD 2)
  | 'u' | 'g' => "0"
  | 'U' | 'G' => "root"
  | 'X' | 'Y' | 'Z' => toString node.modified
  | 'b' => toString ((node.size + 511) / 512)
  | 'B' => "512"
  | c => String.ofList ['?', c]

/-- The text of a format about a node. -/
def statFormat (tree : FileTree) (path : String) (place : Place) (node : FileNode)
    (escapes : Bool) : List Char → String
  | '%' :: '%' :: rest => "%" ++ statFormat tree path place node escapes rest
  | '%' :: c :: rest =>
    statText tree path place node c ++ statFormat tree path place node escapes rest
  | '\\' :: c :: rest =>
    (if !escapes then String.ofList ['\\', c]
      else match c with
        | 'n' => "\n"
        | 't' => "\t"
        | c => String.singleton c) ++ statFormat tree path place node escapes rest
  | c :: rest => String.singleton c ++ statFormat tree path place node escapes rest
  | [] => ""

/-- Tells about files in a format. -/
def tellStatus : Job Nat :=
  withOptions [.flag 'L' "dereference", .flag 'f' "file-system", .value 'c' "format",
      .named "printf" .required, .flag 't' "terse"] fun given => do
    if given.operands.isEmpty then misuse "missing operand"
    else forEach given.operands fun path => do
      match (← findNode path (given.has "L")) with
      | .error reason =>
        Job.complainAs ("cannot statx " ++ quoted path ++ ": " ++ reason.description)
        return false
      | .ok (place, node) =>
        let tree ← Job.tree
        match given.value? "printf", given.value? "c" with
        | some format, _ => Job.print (statFormat tree path place node true format.toList)
        | none, some format =>
          Job.print (statFormat tree path place node false format.toList ++ "\n")
        | none, none =>
          Job.print ("  File: " ++ path ++ "\n  Size: " ++ toString node.size ++ "\n")
        return true

/-- The absolute path of a place. -/
def placePath (place : Place) : String := "/" ++ "/".intercalate (place.map Octets.ofText)

/-- The absolute path that a path names, step by step and without following
links. -/
def namedPath (tree : FileTree) (path : String) : String :=
  let start := if Path.isAbsolute path then [] else tree.workingDirectory
  placePath ((Path.parts (Octets.toText path)).foldl (fun steps step =>
    if step == ".." then steps.dropLast
    else if Path.isStep step then steps ++ [step] else steps) start)

/-- The path without links to which a path leads. The last part need not be
there, or none of them. -/
def resolvedPath (path : String) (mustExist mayMiss : Bool) : Job (Except OsError String) := do
  let tree ← Job.tree
  match tree.place (Octets.toText path) with
  | .error reason =>
    if mayMiss then return .ok (namedPath tree path) else return .error reason
  | .ok place =>
    if (tree.node? place).isSome then return .ok (placePath place)
    else if mustExist then return .error .noEntry
    else match tree.checkParent place with
      | .ok () => return .ok (placePath place)
      | .error reason => if mayMiss then return .ok (placePath place) else return .error reason

/-- Prints where links lead. -/
def readLinks : Job Nat :=
  withOptions [.flag 'f' "canonicalize", .flag 'e' "canonicalize-existing",
      .flag 'm' "canonicalize-missing", .flag 'n' "no-newline", .flag 'q' "quiet", .flag 's' "silent",
      .flag 'v' "verbose", .flag 'z' "zero"] fun given => do
    if given.operands.isEmpty then misuse "missing operand"
    else
      let ending :=
        if given.has "n" && given.operands.length = 1 then ""
        else if given.has "z" then "\x00" else "\n"
      forEach given.operands fun path => do
        let found : Except OsError String ←
          match given.last? ["f", "e", "m"] with
          | some key => resolvedPath path (key == "e") (key == "m")
          | none => match (← findNode path false) with
            | .ok (_, { content := .link text, .. }) => pure (.ok (Octets.ofText text))
            | .ok _ => pure (.error .invalid)
            | .error reason => pure (.error reason)
        match found with
        | .ok text =>
          Job.print (text ++ ending)
          return true
        | .error reason =>
          if given.has "v" then Job.complainAs (quotedIfNeeded path ++ ": " ++ reason.description)
          return false

/-- Prints the paths without links to which paths lead. -/
def printRealPaths : Job Nat :=
  withOptions [.flag 'e' "canonicalize-existing", .flag 'm' "canonicalize-missing", .flag 'q' "quiet",
      .flag 's' "strip", .flag 'L' "logical", .flag 'P' "physical", .flag 'z' "zero"] fun given => do
    if given.operands.isEmpty then misuse "missing operand"
    else forEach given.operands fun path => do
      match (← resolvedPath path (given.has "e") (given.has "m")) with
      | .ok text =>
        let tree ← Job.tree
        Job.print ((if given.has "s" then namedPath tree path else text) ++ "\n")
        return true
      | .error reason =>
        unless given.has "q" do
          Job.complainAs (quotedIfNeeded path ++ ": " ++ reason.description)
        return false

/-- Prints the working directory. -/
def printWorkingDirectory : Job Nat :=
  withOptions [.flag 'L' "logical", .flag 'P' "physical"] fun given => do
    unless given.operands.isEmpty do Job.complainAs "ignoring non-option arguments"
    let here := placePath (← Job.tree).workingDirectory
    let known := ((← read).valueOf? "PWD").getD here
    let isHere := match (← Job.tree).find (Octets.toText known) with
      | .ok (place, _) => placePath place == here
      | .error _ => false
    let path := if given.last? ["L", "P"] == some "L" && isHere then known else here
    Job.print (path ++ "\n")
    return 0

end ProfileGraph.Utility
