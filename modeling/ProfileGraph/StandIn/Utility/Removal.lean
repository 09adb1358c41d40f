import ProfileGraph.StandIn.Utility.Naming

/-! The utilities that remove files and directories. -/
namespace ProfileGraph.Utility
open Host ProfileGraph.Path

/-- How files are removed. -/
structure RemovalOptions where
  recursive : Bool := false
  emptyDirectories : Bool := false
  force : Bool := false
  asks : Bool := false
  tells : Bool := false

/-- Whether a path ends with a step that names no entry. -/
def endsInPlaceholder (path : String) : Bool :=
  let name := lastPart path
  name == "." || name == ".."

/-- Takes a place out of the tree. -/
def eraseAt (place : Place) : Job Unit :=
  modify fun machine => { machine with tree := machine.tree.erase place }

/-- Complains that a path cannot be removed. -/
def complainAboutRemoval (path : String) (reason : OsError) : Job Bool := do
  Job.complainAs ("cannot remove " ++ quoted path ++ ": " ++ reason.description)
  return false

namespace RemovalOptions

/-- Removes an entry that has nothing below it. -/
def removeEntry (options : RemovalOptions) (path : String) (place : Place) (node : FileNode) :
    Job Bool := do
  let agreed ←
    if options.asks then agrees ("remove " ++ kindText node ++ " " ++ quoted path ++ "? ")
    else pure true
  if agreed then
    eraseAt place
    if options.tells then
      Job.print ("removed " ++ (if node.isDirectory then "directory " else "") ++ quoted path ++ "\n")
  return true

/-- Removes an entry with all that is below it. The fuel bounds the depth. -/
def removeTree (options : RemovalOptions) : Nat → String → Place → FileNode → Job Bool
  | 0, _, _, _ => return false
  | fuel + 1, path, place, node => do
    let names := (← Job.tree).names place
    if !node.isDirectory || names.isEmpty then options.removeEntry path place node
    else
      let agreed ←
        if options.asks then agrees ("descend into directory " ++ quoted path ++ "? ") else pure true
      if !agreed then return true
      else
        let mut succeeded := true
        for name in names do
          if let some inner := (← Job.tree).node? (place ++ [name]) then
            unless (← removeTree options fuel (below path (Octets.ofText name)) (place ++ [name])
                inner) do
              succeeded := false
        if !succeeded then return false
        else if ((← Job.tree).names place).isEmpty then options.removeEntry path place node
        else if options.asks then
          if ← agrees ("remove directory " ++ quoted path ++ "? ") then
            complainAboutRemoval path .notEmpty
          else return true
        else return true

/-- Removes what a path leads to. -/
def removePath (options : RemovalOptions) (path : String) : Job Bool := do
  match (← findNode path false) with
  | .error reason =>
    if options.force && (reason = .noEntry || reason = .notDirectory) then return true
    else complainAboutRemoval path reason
  | .ok (place, node) =>
    if node.isDirectory then
      if options.recursive then
        if endsInPlaceholder path then
          Job.complainAs ("refusing to remove '.' or '..' directory: skipping " ++ quoted path)
          return false
        else if place.isEmpty then
          Job.complainAs "it is dangerous to operate recursively on '/'"
          Job.complainAs "use --no-preserve-root to override this failsafe"
          return false
        else if path.endsWith "/" && (← isLink (withoutSlashes path)) then
          for name in (← Job.tree).names place do
            if let some inner := (← Job.tree).node? (place ++ [name]) then
              let _ ← options.removeTree FileTree.maxPathLength (below path (Octets.ofText name))
                (place ++ [name]) inner
          complainAboutRemoval path .notDirectory
        else options.removeTree FileTree.maxPathLength path place node
      else if options.emptyDirectories then
        if ((← Job.tree).names place).isEmpty then options.removeEntry path place node
        else complainAboutRemoval path .notEmpty
      else complainAboutRemoval path .isDirectory
    else options.removeEntry path place node

end RemovalOptions

/-- Removes files. -/
def removeFiles : Job Nat :=
  withOptions [.flag 'r' "recursive", .flag 'R', .flag 'd' "dir", .flag 'f' "force", .flag 'i',
      .flag 'I', .named "interactive" .optional, .flag 'v' "verbose", .named "preserve-root" .optional,
      .named "no-preserve-root", .named "one-file-system"] fun given => do
    let force := given.last? ["f", "i"] == some "f"
    let options : RemovalOptions := {
      recursive := given.has "r" || given.has "R"
      emptyDirectories := given.has "d"
      force
      asks := given.last? ["f", "i"] == some "i"
      tells := given.has "v" }
    if given.operands.isEmpty && !force then misuse "missing operand"
    else forEach given.operands options.removePath

/-- Removes an empty directory, or tells why it cannot be removed. -/
def removeEmptyDirectory (path : String) : Job (Except OsError Unit) := do
  match (← findNode path false) with
  | .error reason => return .error reason
  | .ok (place, node) =>
    if !node.isDirectory then return .error .notDirectory
    else if lastPart path == "." then return .error .invalid
    else if !((← Job.tree).names place).isEmpty then return .error .notEmpty
    else
      eraseAt place
      return .ok ()

/-- The directories above a path that it names, the nearest first. The fuel
bounds their number. -/
def namedParents : Nat → String → List String
  | 0, _ => []
  | fuel + 1, path =>
    let path := withoutSlashes path
    if path.toList.contains '/' then
      let front := frontPart path
      if front == "/" then [] else front :: namedParents fuel front
    else []

/-- Removes empty directories. -/
def removeDirectories : Job Nat :=
  withOptions [.flag 'p' "parents", .flag 'v' "verbose", .named "ignore-fail-on-non-empty"]
      fun given => do
    if given.operands.isEmpty then misuse "missing operand"
    else
      let rec removeAll : List (String × Bool) → Job Bool
        | [] => return true
        | (path, isParent) :: later => do
          if given.has "v" then Job.print ((← read).name ++ ": removing directory, " ++ quoted path ++ "\n")
          match (← removeEmptyDirectory path) with
          | .ok () => removeAll later
          | .error reason =>
            if reason = .notEmpty && given.has "ignore-fail-on-non-empty" then return true
            else
              Job.complainAs ("failed to remove " ++ (if isParent then "directory " else "")
                ++ quoted path ++ ": " ++ reason.description)
              return false
      forEach given.operands fun path =>
        let parents := if given.has "p" then namedParents path.length path else []
        removeAll ((path, false) :: parents.map fun parent => (parent, true))

/-- Removes a single file. -/
def unlinkFile : Job Nat :=
  withOptions [] fun given => do
    match given.operands with
    | [] => misuse "missing operand"
    | [path] =>
      let refuse (reason : OsError) : Job Nat := do
        Job.complainAs ("cannot unlink " ++ quoted path ++ ": " ++ reason.description)
        return 1
      match (← findNode path false) with
      | .error reason => refuse reason
      | .ok (place, node) =>
        if node.isDirectory then refuse .isDirectory
        else
          eraseAt place
          return 0
    | _ :: extra :: _ => misuse ("extra operand " ++ quoted extra)

end ProfileGraph.Utility
