import ProfileGraph.StandIn.Host.Permissions
import ProfileGraph.StandIn.Utility.Creation

/-! The utilities that copy, move and install files. -/
namespace ProfileGraph.Utility
open Host ProfileGraph.Path

/-- How files are copied or moved. -/
structure CopyOptions where
  recursive : Bool := false
  /-- Links are copied as links. -/
  keepsLinks : Bool := false
  force : Bool := false
  /-- Files that are there stay. -/
  keepsOld : Bool := false
  asks : Bool := false
  /-- Only files that are newer replace others. -/
  updates : Bool := false
  keepsAttributes : Bool := false
  /-- Makes links instead of copies. -/
  linking : Option Bool := none
  tells : Bool := false
  /-- What is put behind the name of a file that is replaced, if it is kept. -/
  backup : Option String := none
  /-- The copy that lies in its own source, and the complaint about that. -/
  loop : Option (Place × String) := none

/-- Tells what became of a file. -/
def CopyOptions.tell (options : CopyOptions) (word source target : String) : Job Unit := do
  if options.tells then Job.print (word ++ quoted source ++ " -> " ++ quoted target ++ "\n")

/-- Whether the file at a target is left alone, which may have been asked for. -/
def CopyOptions.skips (options : CopyOptions) (target : String) (source old : FileNode) :
    Job Bool := do
  if options.keepsOld then return true
  else if options.updates && source.modified ≤ old.modified then return true
  else if options.asks then return !(← agrees ("overwrite " ++ quoted target ++ "? "))
  else return false

/-- Complains about an operation on files. -/
def refuseWith (text : String) : Job Bool := do
  Job.complainAs text
  return false

/-- Gives the node at a place the mode and the age of another one. -/
def copyAttributes (place : Place) (source : FileNode) : Job Unit :=
  modify fun machine =>
    match machine.tree.number? place with
    | some number =>
      { machine with tree := machine.tree.modifyNode number fun node =>
          { node with mode := source.mode, modified := source.modified } }
    | none => machine

/-- The content that a copy of a node gets. -/
def copiedContent (node : FileNode) : FileContent :=
  match node.content with
  | .program name => .program name
  | .regular bytes => .regular bytes
  | _ => .regular []

/-- Writes the content of a node to a path. A file that is there keeps its
mode. -/
def CopyOptions.copyContent (options : CopyOptions) (source : FileNode) (mode : Nat)
    (target : String) : Job Bool := do
  let refuse (reason : OsError) : Job Bool :=
    let reason := if reason = .isDirectory then OsError.notDirectory else reason
    refuseWith ("cannot create regular file " ++ quoted target ++ ": " ++ reason.description)
  match (← Job.tree).writablePlace (Octets.toText target) with
  | .error reason => refuse reason
  | .ok place =>
    modify fun machine =>
      let tree := machine.tree.clear place mode
      { machine with tree := match tree.number? place with
          | some number => tree.modifyNode number fun node =>
            match node.content with
            | .regular _ | .program _ => { node with content := copiedContent source }
            | _ => node
          | none => tree }
    if options.keepsAttributes then copyAttributes place source
    return true

/-- Makes the directory into which another one is copied, unless it is there. -/
def CopyOptions.copyDirectory (target : String) (mode : Nat) : Job (Except OsError Unit) := do
  if ← isDirectory target then return .ok ()
  else makeOne (withoutSlashes target) mode

namespace CopyOptions

/-- Copies what is at a place to a path. The fuel bounds the depth. -/
def copyNode (options : CopyOptions) :
    Nat → String → Place → FileNode → String → Job Bool
  | 0, _, _, _, _ => return false
  | fuel + 1, source, place, node, target => do
    let allowed := node.mode &&& (0o777 ^^^ (← read).umask)
    let old ← findNode target (!options.keepsLinks)
    if node.isDirectory && !options.recursive then
      refuseWith ("-r not specified; omitting directory " ++ quoted source)
    else match old, node.content with
      | .ok (oldPlace, oldNode), content =>
        if (← Job.tree).number? oldPlace == (← Job.tree).number? place then
          if node.isDirectory then
            refuseWith ("cannot copy a directory, " ++ quoted source ++ ", into itself, "
              ++ quoted target)
          else refuseWith (quoted source ++ " and " ++ quoted target ++ " are the same file")
        else if content == .directory then
          if !oldNode.isDirectory then
            refuseWith ("cannot overwrite non-directory " ++ quoted target ++ " with directory "
              ++ quoted source)
          else copyInside fuel source place node target
        else if oldNode.isDirectory then
          refuseWith ("cannot overwrite directory " ++ quoted target ++ " with non-directory")
        else if ← options.skips target node oldNode then return true
        else
          if let some ending := options.backup then keepBackup target ending
          copyFile allowed source node target
      | .error reason, .directory =>
        match (← copyDirectory target (allowed ||| 0o700)) with
          | .error _ =>
            refuseWith ("cannot create directory " ++ quoted target ++ ": " ++ reason.description)
          | .ok () =>
            options.tell "" source target
            copyInside fuel source place node target
      | .error _, _ => copyFile allowed source node target
where
  /-- Copies a file, or makes a link instead. -/
  copyFile (allowed : Nat) (source : String) (node : FileNode) (target : String) : Job Bool := do
    let dangles := match (← findNode target false), (← findNode target) with
      | .ok (_, { content := .link _, .. }), .error _ => true
      | _, _ => false
    let copied ← match options.linking, node.content with
      | some symbolic, _ => LinkOptions.make { symbolic, force := options.force } source target
      | none, .link text =>
        if options.keepsLinks then
          if let .ok (place, _) ← findNode target false then
            modify fun machine => { machine with tree := machine.tree.erase place }
          match (← makeSymbolic (Octets.ofText text) target) with
          | .ok () => pure true
          | .error reason =>
            refuseWith ("cannot create symbolic link " ++ quoted target ++ ": "
              ++ reason.description)
        else options.copyContent node allowed target
      | none, _ =>
        if dangles then
          refuseWith ("not writing through dangling symlink " ++ quoted target)
        else options.copyContent node allowed target
    if copied then options.tell "" source target
    return copied
  /-- Copies what is in a directory. -/
  copyInside (fuel : Nat) (source : String) (place : Place) (node : FileNode) (target : String) :
      Job Bool := do
    let mut succeeded := true
    for name in (← Job.tree).names place do
      if let some (top, complaint) := options.loop then
        if top == place ++ [name] then
          Job.complainAs complaint
          succeeded := false
          continue
      if let some inner := (← Job.tree).node? (place ++ [name]) then
        let name' := Octets.ofText name
        unless (← copyNode options fuel (below source name') (place ++ [name]) inner
            (below target name')) do
          succeeded := false
    if options.keepsAttributes then
      if let .ok (place, _) ← findNode target then copyAttributes place node
    return succeeded

/-- Copies what a path leads to. -/
def copyPath (options : CopyOptions) (source target : String) : Job Bool := do
  match (← findNode source (!options.keepsLinks)) with
  | .error reason => refuseWith ("cannot stat " ++ quoted source ++ ": " ++ reason.description)
  | .ok (place, node) =>
    let loop := match (← Job.tree).place (Octets.toText target) with
      | .ok inner =>
        if node.isDirectory && place.isPrefixOf inner && place != inner then
          some (inner, "cannot copy a directory, " ++ quoted source ++ ", into itself, "
            ++ quoted target)
        else none
      | .error _ => none
    { options with loop }.copyNode FileTree.maxPathLength source place node target

/-- Copies what a path leads to under the same path in a directory. -/
def copyBelow (options : CopyOptions) (source directory : String) : Job Bool := do
  for front in (leadingPaths source).dropLast do
    let path := below directory front
    match (← findNode front), (← findNode path) with
    | .ok (_, node), .error _ =>
      let _ ← makeOne path (node.mode &&& (0o777 ^^^ (← read).umask))
      if options.tells then Job.print (front ++ " -> " ++ path ++ "\n")
    | _, _ => pure ()
  options.copyPath source (below directory source)

/-- Why a place cannot be moved to another one that has an entry, if it cannot. -/
def moveFault? (tree : FileTree) (source target : String) (place oldPlace : Place)
    (node old : FileNode) : Option String :=
  if tree.number? place == tree.number? oldPlace then
    some (quoted source ++ " and " ++ quoted target ++ " are the same file")
  else if node.isDirectory && !old.isDirectory then
    some ("cannot overwrite non-directory " ++ quoted target ++ " with directory "
      ++ quoted source)
  else if !node.isDirectory && old.isDirectory then
    some ("cannot overwrite directory " ++ quoted target ++ " with non-directory")
  else if node.isDirectory && place.isPrefixOf oldPlace then
    some ("cannot move " ++ quoted source ++ " to a subdirectory of itself, " ++ quoted target)
  else if old.isDirectory && !(tree.names oldPlace).isEmpty then
    some ("cannot overwrite " ++ quoted target ++ ": " ++ OsError.notEmpty.description)
  else none

/-- Moves what a path leads to. -/
def movePath (options : CopyOptions) (source target : String) : Job Bool := do
  match (← findNode source false) with
  | .error reason => refuseWith ("cannot stat " ++ quoted source ++ ": " ++ reason.description)
  | .ok (place, node) =>
    let tree ← Job.tree
    let isFixed := lastPart source == "." || lastPart source == ".."
    let cannotMove (reason : OsError) : Job Bool :=
      refuseWith ("cannot move " ++ quoted source ++ " to " ++ quoted target ++ ": "
        ++ reason.description)
    let moveTo (newPlace : Place) : Job Bool := do
      modify fun machine => { machine with tree := machine.tree.move place newPlace }
      options.tell "renamed " source target
      return true
    if isFixed then cannotMove .busy
    else match (← findNode (withoutSlashes target) false) with
    | .ok (oldPlace, old) =>
      if target.endsWith "/" && !old.isDirectory then cannotMove .notDirectory
      else match moveFault? tree source target place oldPlace node old with
        | some complaint => refuseWith complaint
        | none =>
          if ← options.skips target node old then return true
          else
            if let some ending := options.backup then keepBackup target ending
            moveTo oldPlace
    | .error _ =>
      let found := do
        let newPlace ← tree.place (Octets.toText (withoutSlashes target)) false
        tree.checkParent newPlace
        return newPlace
      match found with
      | .error reason => cannotMove reason
      | .ok newPlace =>
        if target.endsWith "/" && !node.isDirectory then cannotMove .notDirectory
        else if node.isDirectory && place.isPrefixOf newPlace then
          refuseWith ("cannot move " ++ quoted source ++ " to a subdirectory of itself, "
            ++ quoted target)
        else moveTo newPlace

end CopyOptions

/-- The options that utilities for copies and moves share. -/
def destinationForms : List OptionForm :=
  [.flag 'f' "force", .flag 'i' "interactive", .flag 'n' "no-clobber", .flag 'v' "verbose",
    .value 't' "target-directory", .flag 'T' "no-target-directory", .flag 'u',
    .named "update" .optional, .flag 'b', .named "backup" .optional, .value 'S' "suffix",
    .named "strip-trailing-slashes", .flag 'Z']

/-- The part of the options that utilities for copies and moves share. -/
def CopyOptions.ofGiven (given : Given) : CopyOptions where
  force := given.has "f"
  keepsOld := given.last? ["f", "i", "n"] == some "n"
  asks := given.last? ["f", "i", "n"] == some "i"
  updates := given.has "u" || given.has "update"
  tells := given.has "v"
  backup := backupEnding? given

/-- Copies files. -/
def copyFiles : Job Nat :=
  withOptions (destinationForms ++ [.flag 'r' "recursive", .flag 'R', .flag 'a' "archive",
      .flag 'p', .named "preserve" .optional, .named "no-preserve" .required, .flag 'd',
      .flag 'L' "dereference", .flag 'P' "no-dereference", .flag 'H', .flag 'l' "link",
      .flag 's' "symbolic-link", .flag 'x' "one-file-system", .named "remove-destination",
      .named "reflink" .optional, .named "sparse" .required, .named "parents",
      .named "attributes-only"]) fun given => do
    let recursive := given.has "r" || given.has "R" || given.has "a"
    let links := match given.last? ["L", "P", "d", "a", "H"] with
      | some "L" | some "H" => false
      | some _ => true
      | none => recursive
    let options := { CopyOptions.ofGiven given with
      recursive
      keepsLinks := links
      keepsAttributes := given.has "a" || given.has "p" || given.has "preserve"
      linking := if given.has "s" then some true else if given.has "l" then some false else none }
    withDestination given fun sources destination =>
      forEach sources fun source =>
        match destination with
        | .directory directory =>
          if given.has "parents" then options.copyBelow source directory
          else options.copyPath source (destination.pathFor source)
        | .entry path => options.copyPath source path

/-- Moves files. -/
def moveFiles : Job Nat :=
  withOptions destinationForms fun given => do
    let options := CopyOptions.ofGiven given
    withDestination given fun sources destination =>
      forEach sources fun source => options.movePath source (destination.pathFor source)

/-- Installs a file: copies it anew and gives it a mode. -/
def installOne (options : CopyOptions) (mode : Nat) (source target : String) : Job Bool := do
  match (← findNode source) with
  | .error reason => refuseWith ("cannot stat " ++ quoted source ++ ": " ++ reason.description)
  | .ok (place, node) =>
    if node.isDirectory then refuseWith ("omitting directory " ++ quoted source)
    else
      let old ← findNode target
      let tree ← Job.tree
      match old with
      | .ok (oldPlace, oldNode) =>
        if oldNode.isDirectory then
          return (← refuseWith ("cannot overwrite directory " ++ quoted target
            ++ " with non-directory"))
        if tree.number? oldPlace == tree.number? place then
          return (← refuseWith (quoted source ++ " and " ++ quoted target
            ++ " are the same file"))
        modify fun machine => { machine with tree := machine.tree.erase oldPlace }
      | .error _ => pure ()
      if ← options.copyContent node 0o600 target then
        if let .ok (place, _) ← findNode target then
          modify fun machine =>
            match machine.tree.number? place with
            | some number =>
              { machine with tree := machine.tree.modifyNode number fun node => { node with mode } }
            | none => machine
        options.tell "" source target
        return true
      else return false

/-- Installs files or makes directories. -/
def install : Job Nat :=
  withOptions [.flag 'b', .flag 'c', .flag 'C' "compare", .flag 'd' "directory", .flag 'D',
      .value 'g' "group", .value 'm' "mode", .value 'o' "owner", .flag 'p' "preserve-timestamps",
      .flag 's' "strip", .value 'S' "suffix", .value 't' "target-directory",
      .flag 'T' "no-target-directory", .flag 'v' "verbose"] fun given => do
    let text := given.value? "m"
    match text.map ModeChange.read? with
    | some none =>
      Job.complainAs ("invalid mode " ++ quotedWord (text.getD ""))
      return 1
    | change =>
      let mode := match change.join with
        | some change => change.apply 0 false 0
        | none => 0o755
      let options : CopyOptions := { tells := given.has "v" }
      let makeFor (path : String) : Job Unit := do
        if given.has "D" then
          let _ ← makeAll 0o755 0o755 (fun _ => return ()) (leadingPaths path)
      if given.has "d" then
        if given.operands.isEmpty then misuse "missing file operand"
        else
          let tells (path : String) : Job Unit := do
            if given.has "v" then
              Job.print ((← read).name ++ ": creating directory " ++ quoted path ++ "\n")
          forEach given.operands fun path => makeAll mode 0o755 tells (leadingPaths path)
      else
        if let some directory := given.value? "t" then makeFor directory
        withDestination given fun sources destination =>
          forEach sources fun source => do
            let target := destination.pathFor source
            makeFor (frontPart target)
            installOne options mode source target

end ProfileGraph.Utility
