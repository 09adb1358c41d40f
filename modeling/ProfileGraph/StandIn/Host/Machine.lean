import ProfileGraph.Runner.Surroundings
import ProfileGraph.Text.Bytes

/-! The part of the operating system that running programs share: the file
tree, the files that are open, and the signals on their way. An open file has
one position, which all its descriptors share. -/
namespace ProfileGraph.Host

/-- What an open file reads from and writes to. -/
inductive Channel where
  /-- A regular file, by the number of its node. -/
  | node (number : Nat)
  | directory (place : Place)
  | device (device : Device)
  /-- Bytes that are read in the order in which they were written. -/
  | stream (bytes : List UInt8)
deriving DecidableEq, Repr

/-- How a file is opened. -/
structure Access where
  reads : Bool := false
  writes : Bool := false
  /-- Puts every write behind what is there. -/
  appends : Bool := false
  /-- Makes the file if there is none. -/
  creates : Bool := false
  /-- Empties the file. -/
  clears : Bool := false
  /-- Refuses a file that is there. -/
  exclusive : Bool := false
deriving DecidableEq, Repr

namespace Access

/-- Opens a file for reading. -/
def reading : Access := { reads := true }
/-- Opens a file for writing in place of what it holds. -/
def writing : Access := { writes := true, creates := true, clears := true }
/-- Opens a file for writing behind what it holds. -/
def appending : Access := { writes := true, creates := true, appends := true }
/-- Opens a file for both, and keeps what it holds. -/
def readingAndWriting : Access := { reads := true, writes := true, creates := true }

end Access

/-- An open file. -/
structure OpenFile where
  channel : Channel
  access : Access
  position : Nat := 0
deriving DecidableEq, Repr

/-- What running programs share. -/
structure Machine where
  tree : FileTree
  opened : Array OpenFile := #[]
  /-- The number of the next process. -/
  nextProcess : Nat := 2
  /-- The signals that have been sent, each with its receiver. -/
  signals : List (Nat × Nat) := []
  /-- The processes that have not ended. -/
  running : List Nat := []
  /-- Why the running program could not write its output, if it could not. -/
  writeFault : Option OsError := none

namespace Machine

/-- Opens a channel; the result is the number of the open file. -/
def openChannel (machine : Machine) (channel : Channel) (access : Access) : Nat × Machine :=
  (machine.opened.size, { machine with opened := machine.opened.push { channel, access } })

/-- Opens a stream for reading and writing. -/
def openStream (machine : Machine) (bytes : List UInt8 := []) : Nat × Machine :=
  machine.openChannel (.stream bytes) { reads := true, writes := true }

/-- Opens the file to which a path leads, or makes one with the given mode. -/
def openPath (machine : Machine) (path : String) (access : Access) (mode : Nat) :
    Except OsError (Nat × Machine) := do
  let tree := machine.tree
  let place ←
    if access.creates then tree.creationPlace path (!access.exclusive) else tree.place path
  match tree.node? place with
  | none =>
    if !access.creates then .error .noEntry
    let tree := tree.clear place mode
    match tree.number? place with
    | some number => .ok ({ machine with tree }.openChannel (.node number) access)
    | none => .error .noEntry
  | some node =>
    if access.exclusive then .error .exists
    match node.content with
    | .directory =>
      if access.writes then .error .isDirectory
      else .ok (machine.openChannel (.directory place) access)
    | .device device => .ok (machine.openChannel (.device device) access)
    | .link _ => .error .linkLoop
    | .regular _ | .program _ =>
      match tree.number? place with
      | some number =>
        let tree := if access.clears then tree.setBytes number [] else tree
        .ok ({ machine with tree }.openChannel (.node number) access)
      | none => .error .noEntry

/-- The bytes of a channel, and whether there is no end to them. -/
def channelBytes (machine : Machine) : Channel → Except OsError (List UInt8 × Bool)
  | .node number =>
    match machine.tree.nodes[number]? with
    | some node => (FileTree.contents node).map fun bytes => (bytes, false)
    | none => .error .badDescriptor
  | .directory _ => .error .isDirectory
  | .device .null => .ok ([], false)
  | .device _ => .ok ([], true)
  | .stream bytes => .ok (bytes, false)

/-- The most bytes that are read at once from a device without end. -/
def endlessRead : Nat := 65536

/-- Reads from the position of an open file, up to a number of bytes or to the
end. -/
def readOpen (machine : Machine) (number : Nat) (limit : Option Nat) :
    Except OsError (List UInt8 × Machine) :=
  match machine.opened[number]? with
  | none => .error .badDescriptor
  | some file =>
    if !file.access.reads then .error .badDescriptor
    else do
      let (bytes, endless) ← machine.channelBytes file.channel
      let found :=
        if endless then List.replicate (limit.getD endlessRead) 0
        else match limit with
          | some count => (bytes.drop file.position).take count
          | none => bytes.drop file.position
      return (found, { machine with
        opened := machine.opened.modify number fun file =>
          { file with position := file.position + found.length } })

/-- Puts bytes over those from a position on; a gap in front of them is filled
with zeros. -/
def overlay (old : List UInt8) (position : Nat) (bytes : List UInt8) : List UInt8 :=
  old.take position ++ List.replicate (position - old.length) 0 ++ bytes
    ++ old.drop (position + bytes.length)

/-- Writes bytes at the position of an open file. -/
def writeOpen (machine : Machine) (number : Nat) (bytes : List UInt8) :
    Except OsError Machine :=
  match machine.opened[number]? with
  | none => .error .badDescriptor
  | some file =>
    if !file.access.writes then .error .badDescriptor
    else match file.channel with
      | .device .full => if bytes.isEmpty then .ok machine else .error .noSpace
      | .device _ => .ok machine
      | .directory _ => .error .badDescriptor
      | .stream old =>
        .ok { machine with
          opened := machine.opened.modify number fun file =>
            { file with channel := .stream (old ++ bytes) } }
      | .node node => do
        if bytes.isEmpty then return machine
        let (old, _) ← machine.channelBytes file.channel
        let position := if file.access.appends then old.length else file.position
        return { machine with
          tree := machine.tree.setBytes node (overlay old position bytes)
          opened := machine.opened.modify number fun file =>
            { file with position := position + bytes.length } }

/-- The bytes that were written to a stream. -/
def streamBytes (machine : Machine) (number : Nat) : List UInt8 :=
  match machine.opened[number]? with
  | some { channel := .stream bytes, .. } => bytes
  | _ => []

/-- The machine with a given working directory. -/
def backIn (machine : Machine) (directory : Place) : Machine :=
  { machine with tree := { machine.tree with workingDirectory := directory } }

/-- Numbers a new process. -/
def newProcess (machine : Machine) : Nat × Machine :=
  (machine.nextProcess, { machine with
    nextProcess := machine.nextProcess + 1
    running := machine.nextProcess :: machine.running })

/-- Strikes a process off those that are running. -/
def endProcess (machine : Machine) (process : Nat) : Machine :=
  { machine with
    running := machine.running.filter (· != process)
    signals := machine.signals.filter (·.1 != process) }

/-- The first signal on its way to a process, and the machine without it. -/
def takeSignal? (machine : Machine) (process : Nat) : Option (Nat × Machine) :=
  match machine.signals.find? (·.1 == process) with
  | some sent => some (sent.2, { machine with signals := machine.signals.erase sent })
  | none => none

end Machine
end ProfileGraph.Host
