import ProfileGraph.Program
import ProfileGraph.StandIn.Host.System

/-! The command line. The files below the working directory and those that the
arguments name are read, the program runs on them, and the files that it
changed are written. Other programs are not started: those of the stand-in are run. -/

namespace ProfileGraph.Main

/-- Whether the first bytes of a file say that it can be run. -/
def looksExecutable (bytes : List UInt8) : Bool :=
  [0x23, 0x21].isPrefixOf bytes || [0x7F, 0x45, 0x4C, 0x46].isPrefixOf bytes

/-- The place of an absolute path. -/
def placeOf (path : String) : Place := (Path.parts path).filter Path.isStep

/-- Adds the file at an absolute path to a tree, if it can be read. -/
def loadFile (tree : FileTree) (path : String) : IO FileTree := do
  try
    let bytes := (← IO.FS.readBinFile path).toList
    let place := placeOf path
    return (tree.putDirectories place.dropLast).putFile place bytes (looksExecutable bytes)
  catch _ => return tree

/-- Adds everything below the directories at the given absolute paths. -/
partial def loadDirectories (tree : FileTree) : List String → IO FileTree
  | [] => return tree
  | path :: later => do
    let entries ← (← IO.FS.realPath path).readDir
    let mut tree := tree.putDirectories (placeOf path)
    let mut inner := later
    for entry in entries do
      let below := Path.join path entry.fileName
      if ← entry.path.isDir then inner := below :: inner
      else tree ← loadFile tree below
    loadDirectories tree inner

/-- Writes a file with the directories above it. -/
def writeBack (place : Place) (bytes : List UInt8) : IO Unit := do
  IO.FS.createDirAll (Path.ofSteps true place.dropLast)
  IO.FS.writeBinFile (Path.ofSteps true place) ⟨bytes.toArray⟩

/-- Reads the standard input if the arguments ask for it. -/
def readInput (arguments : List String) : IO (List UInt8) := do
  match CommandLine.read arguments with
  | .ok { input := some path, .. } =>
    if Path.isName path "-" then return (← (← IO.getStdin).readBinToEnd).toList else return []
  | _ => return []

end ProfileGraph.Main

open ProfileGraph ProfileGraph.Main

/-- Runs the program on the files below the working directory. -/
def main (arguments : List String) : IO UInt32 := do
  let here := (← IO.currentDir).toString
  let start := { Host.systemTree with workingDirectory := placeOf here }
  let mut tree ← loadDirectories start [here]
  for argument in arguments do
    if Path.isAbsolute argument then tree ← loadFile tree argument
  let outcome := Program.run Host.surroundings arguments (← readInput arguments) tree
  for (place, bytes) in outcome.tree.changesSince tree do
    writeBack place bytes
  IO.print outcome.output
  (← IO.getStderr).write ⟨outcome.errors.toArray⟩
  return UInt32.ofNat outcome.code
