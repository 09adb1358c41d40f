import ProfileGraph.StandIn.Utility.Input

/-! Paths in the hands of utilities: the last part of a path, the part in front of
it, and where the results of an operation go that has several sources. -/
namespace ProfileGraph.Utility
open Host ProfileGraph.Path

/-- Drops characters at the end of a text. -/
def dropBack (drops : Char → Bool) (text : List Char) : List Char :=
  (text.reverse.dropWhile drops).reverse

/-- The last part of a path. -/
def lastPart (path : String) : String :=
  let kept := withoutSlashes path
  if kept == "/" then "/"
  else String.ofList (kept.toList.reverse.takeWhile (· != '/')).reverse

/-- The part of a path in front of the last one. -/
def frontPart (path : String) : String :=
  let kept := (withoutSlashes path).toList
  if !kept.contains '/' then "."
  else
    let front := dropBack (· == '/') (dropBack (· != '/') kept)
    if front.isEmpty then "/" else String.ofList front

/-- A path behind a directory. -/
def below (directory name : String) : String :=
  if directory.endsWith "/" then directory ++ name else directory ++ "/" ++ name

/-- The node at a path, and its place. -/
def findNode (path : String) (throughLast : Bool := true) : Job (Except OsError (Place × FileNode)) := do
  let tree ← Job.tree
  match tree.find (Octets.toText path) throughLast with
  | .ok (place, node) =>
    if path.endsWith "/" && !node.isDirectory then
      match (tree.find (Octets.toText path)) with
      | .ok (place, node) =>
        return if node.isDirectory then .ok (place, node) else .error .notDirectory
      | .error reason => return .error reason
    else return .ok (place, node)
  | .error reason => return .error reason

/-- Whether a path leads to a directory. -/
def isDirectory (path : String) : Job Bool := do
  return (← Job.tree).isDirectory (Octets.toText path)

/-- Whether a path leads to a link, which is not followed. -/
def isLink (path : String) : Job Bool := do
  return match (← findNode path false) with
    | .ok (_, { content := .link _, .. }) => true
    | _ => false

/-- Where the results of an operation go. -/
inductive Destination where
  | entry (path : String)
  | directory (path : String)
deriving DecidableEq, Repr

/-- The path of the result for a source. -/
def Destination.pathFor (source : String) : Destination → String
  | .entry path => path
  | .directory path => below path (lastPart source)

/-- Why a path is no directory, if it is none. -/
def directoryFault? (path : String) : Job (Option OsError) := do
  match (← findNode path) with
  | .ok (_, node) => return if node.isDirectory then none else some .notDirectory
  | .error reason => return some reason

/-- The sources of an operation and the destination, which is the last operand
or the argument of an option. Without them, the operation is refused. -/
def withDestination (given : Given) (act : List String → Destination → Job Nat) : Job Nat := do
  let operands := given.operands
  match given.value? "t" with
  | some directory =>
    if operands.isEmpty then misuse "missing file operand"
    else match (← directoryFault? directory) with
      | some reason =>
        Job.complainAs ("target directory " ++ quoted directory ++ ": " ++ reason.description)
        return 1
      | none => act operands (.directory directory)
  | none =>
    match operands with
    | [] => misuse "missing file operand"
    | [source] => misuse ("missing destination file operand after " ++ quoted source)
    | [source, target] =>
      if !given.has "T" && (← isDirectory target) then act [source] (.directory target)
      else act [source] (.entry target)
    | first :: second :: later =>
      let target := later.getLast?.getD second
      let sources := (first :: second :: later).dropLast
      if given.has "T" then
        misuse ("extra operand " ++ quoted (later.headD ""))
      else match (← directoryFault? target) with
        | some reason =>
          Job.complainAs ("target " ++ quoted target ++ ": " ++ reason.description)
          return 1
        | none => act sources (.directory target)

/-- Reads an answer to a question, which is written to the standard error. -/
def agrees (question : String) : Job Bool := do
  let _ ← Job.writeDescriptor 2 ((← read).name ++ ": " ++ question)
  let answer ← match (← openInput "-") with
    | .error _ => pure ""
    | .ok number =>
      let start ← positionOf number
      match (← Job.readOpen number) with
      | .error _ => pure ""
      | .ok text =>
        let line := text.toList.takeWhile (· != '\n')
        movePosition number (start + line.length + 1)
        pure (String.ofList line)
  return answer.startsWith "y" || answer.startsWith "Y"

/-- What kind of file a node is, in words. -/
def kindText (node : FileNode) : String :=
  match node.content with
  | .directory => "directory"
  | .link _ => "symbolic link"
  | .device _ => "character special file"
  | .regular [] => "regular empty file"
  | .regular _ | .program _ => "regular file"

/-- Prints the last parts of paths, without an ending if one is given. -/
def printLastParts : Job Nat :=
  withOptions [.flag 'a' "multiple", .value 's' "suffix", .flag 'z' "zero"] (fun given => do
    let mark := if given.has "z" then "\x00" else "\n"
    let cut (ending name : String) : String :=
      match dropEnd? name.toList ending.toList with
      | some [] | none => name
      | some kept => String.ofList kept
    let tell (ending path : String) : Job Unit := Job.print (cut ending (lastPart path) ++ mark)
    match given.operands with
    | [] => misuse "missing operand"
    | first :: later =>
      if given.has "a" || given.has "s" then
        given.operands.forM (tell ((given.value? "s").getD ""))
        return 0
      else match later with
        | [] =>
          tell "" first
          return 0
        | [ending] =>
          tell ending first
          return 0
        | _ :: extra :: _ => misuse ("extra operand " ++ quoted extra)) 1 true

/-- Prints the front parts of paths. -/
def printFrontParts : Job Nat :=
  withOptions [.flag 'z' "zero"] fun given => do
    if given.operands.isEmpty then misuse "missing operand"
    else
      let mark := if given.has "z" then "\x00" else "\n"
      given.operands.forM fun path => Job.print (frontPart path ++ mark)
      return 0

end ProfileGraph.Utility
