import ProfileGraph.Workspace.OsError

/-! Paths as text: how the parts of a path are separated, how a name is put
behind a directory, and which directories a path names on its way. -/
namespace ProfileGraph.Path

/-- The parts of a path between its slashes. A path that starts or ends with a
slash has an empty part there. -/
def parts (path : String) : List String :=
  (path.toList.splitOnP (· == '/')).map String.ofList

/-- Whether a path starts at the top. -/
def isAbsolute (path : String) : Bool := path.toList.head? == some '/'

/-- The path without slashes at its end. -/
def withoutSlashes (path : String) : String :=
  let kept := (path.toList.reverse.dropWhile (· == '/')).reverse
  if kept.isEmpty && isAbsolute path then "/" else String.ofList kept

/-- A name in a directory. No slash is put behind a directory that ends with
one, or in front of a name in the unnamed directory. -/
def join (directory name : String) : String :=
  if directory.isEmpty then name
  else if directory.toList.getLast? == some '/' then directory ++ name
  else directory ++ "/" ++ name

/-- Whether a part of a path leads anywhere else. -/
def isStep (part : String) : Bool := !part.isEmpty && part != "."

/-- Whether a path is a single name; what stands behind it may not lead
anywhere else. -/
def isName (path name : String) : Bool :=
  match parts path with
  | first :: later => first == name && !later.any isStep
  | [] => false

/-- The directory in which a path ends, as the steps that lead to it. -/
def parentSteps (path : String) : List String := ((parts path).filter isStep).dropLast

/-- A path made of steps. -/
def ofSteps (absolute : Bool) (steps : List String) : String :=
  (if absolute then "/" else "") ++ "/".intercalate steps

end ProfileGraph.Path

/-! File trees. An entry of a tree gives a place a node, and several places may
share one: what is written through one name of a file is seen through the
others. An operation that the operating system would refuse yields the reason
instead of a tree, and a refused operation changes nothing. -/
namespace ProfileGraph

/-- The steps from the root of a tree to one of its places. -/
abbrev Place := List String

/-- A special file. -/
inductive Device where
  /-- Takes every byte and yields none. -/
  | null
  /-- Takes every byte and yields zeros. -/
  | zero
  /-- Takes no byte and yields zeros. -/
  | full
deriving DecidableEq, Repr

/-- What a node of a file tree is. -/
inductive FileContent where
  | directory
  | regular (bytes : List UInt8)
  /-- Stands for another path. -/
  | link (target : String)
  | device (device : Device)
  /-- A program that is part of the system. -/
  | program (name : String)
deriving DecidableEq, Repr

/-- A node: its content, the bits that say who may do what with it, and when it
was last changed. -/
structure FileNode where
  content : FileContent
  mode : Nat
  modified : Nat := 0
deriving DecidableEq, Repr

/-- A tree of files. Its entries name each place at most once and refer to nodes
by their numbers. Relative paths start in the working directory, and the clock
tells one change from a later one. -/
structure FileTree where
  nodes : Array FileNode := #[]
  entries : List (Place × Nat) := []
  workingDirectory : Place := []
  clock : Nat := 0

namespace FileNode

/-- Whether a directory is meant. -/
def isDirectory (node : FileNode) : Bool := node.content == .directory

/-- Whether a node is a file with bytes. -/
def isRegular (node : FileNode) : Bool :=
  match node.content with
  | .regular _ | .program _ => true
  | _ => false

/-- Whether a node may be run by someone. -/
def isExecutable (node : FileNode) : Bool := node.isRegular && node.mode &&& 0o111 != 0

/-- The number of bytes of a node. -/
def size (node : FileNode) : Nat :=
  match node.content with
  | .regular bytes => bytes.length
  | .link target => target.utf8ByteSize
  | .directory => 4096
  | .device _ => 0
  | .program _ => 65536

end FileNode

namespace FileTree

/-- The longest name that an entry can have, in bytes. -/
def maxNameLength : Nat := 255

/-- The longest path that can be followed, in bytes. -/
def maxPathLength : Nat := 4095

/-- How many links may be followed on the way along a path. -/
def maxLinks : Nat := 40

/-- The mode of a directory that nothing else is said about. -/
def directoryMode : Nat := 0o755

/-- The number of the node at a place. -/
def number? (tree : FileTree) (place : Place) : Option Nat := tree.entries.lookup place

/-- The node at a place. The root is there always. -/
def node? (tree : FileTree) (place : Place) : Option FileNode :=
  if place.isEmpty then some ⟨.directory, directoryMode, 0⟩
  else (tree.number? place).bind (tree.nodes[·]?)

/-- What is at a place. -/
def content? (tree : FileTree) (place : Place) : Option FileContent :=
  (tree.node? place).map (·.content)

/-- Lets the clock go on. -/
def tick (tree : FileTree) : FileTree := { tree with clock := tree.clock + 1 }

/-- Gives a place the node with a number. -/
def setEntry (tree : FileTree) (place : Place) (number : Nat) : FileTree :=
  { tree with
    entries :=
      if tree.entries.any (·.1 == place) then
        tree.entries.map fun old => if old.1 == place then (place, number) else old
      else tree.entries ++ [(place, number)] }

/-- Puts a node of its own at a place, instead of one that is there. -/
def put (tree : FileTree) (place : Place) (content : FileContent) (mode : Nat) : FileTree :=
  { tree with nodes := tree.nodes.push ⟨content, mode, tree.clock⟩ }.setEntry place
    tree.nodes.size

/-- Puts a regular file at a place. -/
def putFile (tree : FileTree) (place : Place) (bytes : List UInt8) (executable : Bool) :
    FileTree :=
  tree.put place (.regular bytes) (if executable then 0o755 else 0o644)

/-- Changes a node. -/
def modifyNode (tree : FileTree) (number : Nat) (change : FileNode → FileNode) : FileTree :=
  { tree with nodes := tree.nodes.modify number change }

/-- Replaces the bytes of a regular file. -/
def setBytes (tree : FileTree) (number : Nat) (bytes : List UInt8) : FileTree :=
  tree.tick.modifyNode number fun node =>
    match node.content with
    | .regular _ => { node with content := .regular bytes, modified := tree.clock + 1 }
    | _ => node

/-- Takes away a place and all places below it. -/
def erase (tree : FileTree) (place : Place) : FileTree :=
  { tree with entries := tree.entries.filter fun old => !place.isPrefixOf old.1 }

/-- Moves a place with all places below it. -/
def move (tree : FileTree) (source target : Place) : FileTree :=
  let cleared := if source == target then tree else tree.erase target
  { cleared with
    entries := cleared.entries.map fun (place, number) =>
      if source.isPrefixOf place then (target ++ place.drop source.length, number)
      else (place, number) }

/-- The names in a directory, in their order as texts. -/
def names (tree : FileTree) (directory : Place) : List String :=
  (tree.entries.filterMap fun (place, _) =>
    if place.length == directory.length + 1 && directory.isPrefixOf place then place.getLast?
    else none).mergeSort (· ≤ ·)

/-- Follows the parts of a path. Every part but the last must lead to a
directory that exists; a link at the end is followed if that is asked for. The
fuel bounds the number of links. -/
def follow (tree : FileTree) (throughLast : Bool) (links : Nat) (here : Place)
    (parts : List String) : Except OsError Place :=
  match parts with
  | [] => .ok here
  | part :: later =>
    match tree.content? here with
    | none => .error .noEntry
    | some .directory =>
      if !Path.isStep part then follow tree throughLast links here later
      else if part == ".." then follow tree throughLast links here.dropLast later
      else if maxNameLength < part.utf8ByteSize then .error .nameTooLong
      else match tree.content? (here ++ [part]) with
        | some (.link target) =>
          if later.isEmpty && !throughLast then .ok (here ++ [part])
          else match links with
            | 0 => .error .linkLoop
            | links + 1 =>
              follow tree throughLast links (if Path.isAbsolute target then [] else here)
                (Path.parts target ++ later)
        | _ => follow tree throughLast links (here ++ [part]) later
    | some _ => .error .notDirectory
termination_by (links, parts.length)

/-- The place to which a path leads; there need not be an entry. -/
def place (tree : FileTree) (path : String) (throughLast : Bool := true) :
    Except OsError Place :=
  if path.isEmpty then .error .noEntry
  else if path.toList.contains '\x00' then .error .unexpectedNul
  else if maxPathLength < path.utf8ByteSize then .error .nameTooLong
  else tree.follow throughLast maxLinks
    (if Path.isAbsolute path then [] else tree.workingDirectory) (Path.parts path)

/-- The place and the node to which a path leads. -/
def find (tree : FileTree) (path : String) (throughLast : Bool := true) :
    Except OsError (Place × FileNode) := do
  let place ← tree.place path throughLast
  match tree.node? place with
  | some node => .ok (place, node)
  | none => .error .noEntry

/-- Whether a path leads to a node with a property. -/
def leadsTo (tree : FileTree) (path : String) (property : FileNode → Bool) : Bool :=
  match tree.find path with
  | .ok (_, node) => property node
  | .error _ => false

/-- Whether a directory is meant. -/
def isDirectory (tree : FileTree) (path : String) : Bool := tree.leadsTo path (·.isDirectory)

/-- Whether a path leads to a regular file. -/
def isFile (tree : FileTree) (path : String) : Bool := tree.leadsTo path (·.isRegular)

/-- Whether a path leads to a regular file that may be run. -/
def isExecutable (tree : FileTree) (path : String) : Bool :=
  tree.leadsTo path (·.isExecutable)

/-- The bytes of a node. A directory can be opened, but not read. -/
def contents (node : FileNode) : Except OsError (List UInt8) :=
  match node.content with
  | .directory => .error .isDirectory
  | .regular bytes => .ok bytes
  | .link _ | .device _ | .program _ => .ok []

/-- The bytes of the file that a path leads to. -/
def read (tree : FileTree) (path : String) : Except OsError (List UInt8) := do
  contents (← tree.find path).2

/-- Checks that a place without an entry can get one. -/
def checkParent (tree : FileTree) (place : Place) : Except OsError Unit :=
  match tree.content? place.dropLast with
  | some .directory => .ok ()
  | some _ => .error .notDirectory
  | none => .error .noEntry

/-- The place of a file that is made unless it is there. A path that ends with a
slash can only lead to a directory. -/
def creationPlace (tree : FileTree) (path : String) (throughLast : Bool := true) :
    Except OsError Place := do
  if path.toList.getLast? == some '/' then
    let bare := Path.withoutSlashes path
    let place ← tree.place bare
    tree.checkParent place
    throw .isDirectory
  else
    let place ← tree.place path throughLast
    if (tree.node? place).isNone then tree.checkParent place
    return place

/-- The place at which a path can be written: a file, or a place without an
entry in a directory that exists. -/
def writablePlace (tree : FileTree) (path : String) : Except OsError Place := do
  let place ← tree.creationPlace path
  match tree.content? place with
  | some .directory => .error .isDirectory
  | _ => .ok place

/-- Empties the file at a place, or makes one with the given mode. -/
def clear (tree : FileTree) (place : Place) (mode : Nat) : FileTree :=
  match tree.number? place with
  | some number => tree.setBytes number []
  | none => tree.tick.put place (.regular []) mode

/-- Writes a file with the given bytes. -/
def write (tree : FileTree) (path : String) (bytes : List UInt8) : Except OsError FileTree := do
  let place ← tree.writablePlace path
  let tree := tree.clear place 0o644
  match tree.number? place with
  | some number => return tree.setBytes number bytes
  | none => return tree

/-- Makes one directory. -/
def makeDirectory (tree : FileTree) (path : String) (mode : Nat := directoryMode) :
    Except OsError FileTree := do
  let place ← tree.place path false
  match tree.content? place with
  | some _ => .error .exists
  | none =>
    tree.checkParent place
    .ok (tree.tick.put place .directory mode)

/-- Makes a directory whose steps are given from the last to the first, after
the directory above it if that is missing. A directory that exists is left as
it is. -/
def makeDirectoriesUp (tree : FileTree) (absolute : Bool) :
    List String → Except OsError FileTree
  | [] => .ok tree
  | last :: above =>
    let path := Path.ofSteps absolute (last :: above).reverse
    let accept (tree : FileTree) : Except OsError FileTree → Except OsError FileTree
      | .error reason => if tree.isDirectory path then .ok tree else .error reason
      | made => made
    match tree.makeDirectory path with
    | .error .noEntry =>
      match makeDirectoriesUp tree absolute above with
      | .error reason => .error reason
      | .ok tree => accept tree (tree.makeDirectory path)
    | made => accept tree made

/-- Makes the directory in which a path ends, and the directories above it. -/
def makeParents (tree : FileTree) (path : String) : Except OsError FileTree :=
  tree.makeDirectoriesUp (Path.isAbsolute path) (Path.parentSteps path).reverse

/-- Makes every directory on the way to a place that is missing. -/
def putDirectories (tree : FileTree) (place : Place) : FileTree :=
  (List.range (place.length + 1)).foldl (fun tree length =>
    let above := place.take length
    if (tree.node? above).isNone then tree.put above .directory directoryMode else tree) tree

/-- The bytes that are found at a place, also behind links. -/
def bytesAt? (tree : FileTree) (place : Place) : Option (List UInt8) :=
  match tree.find (Path.ofSteps true place) with
  | .ok (_, { content := .regular bytes, .. }) => some bytes
  | _ => none

/-- The regular files with their bytes. -/
def files (tree : FileTree) : List (Place × List UInt8) :=
  tree.entries.filterMap fun (place, _) => (tree.bytesAt? place).map fun bytes => (place, bytes)

/-- The files of a tree that an earlier tree lacks or holds with other
bytes. -/
def changesSince (tree earlier : FileTree) : List (Place × List UInt8) :=
  tree.files.filter fun (place, bytes) => earlier.bytesAt? place != some bytes

/-- The path of a place below the working directory. -/
def localPath? (tree : FileTree) (place : Place) : Option String :=
  if tree.workingDirectory.isPrefixOf place then
    some (Path.ofSteps false (place.drop tree.workingDirectory.length))
  else none

end FileTree
end ProfileGraph
