import ProfileGraph.StandIn.Host.Permissions
import ProfileGraph.StandIn.Utility.Naming
import ProfileGraph.StandIn.Utility.Moment

/-! The utilities that make files, directories and links, and that change when
files were changed. -/
namespace ProfileGraph.Utility
open Host ProfileGraph.Path

/-- Reads a mode in its written form, or refuses it. -/
def withMode (text : Option String) (standard : Nat) (act : Nat → Job Nat) : Job Nat := do
  match text with
  | none => act standard
  | some text =>
    match ModeChange.read? text with
    | some change => act (change.apply (← read).umask true standard)
    | none =>
      Job.complainAs ("invalid mode " ++ quotedWord text)
      return 1

/-- Makes a directory. -/
def makeOne (path : String) (mode : Nat) : Job (Except OsError Unit) :=
  Job.changeTree fun tree => tree.makeDirectory (Octets.toText path) mode

/-- Makes a directory and those above it that are missing, given its leading
paths. -/
def makeAll (mode standard : Nat) (tells : String → Job Unit) : List String → Job Bool
  | [] => return true
  | path :: later => do
    let isLast := later.isEmpty
    match (← makeOne path (if isLast then mode else standard)) with
    | .ok () =>
      tells path
      makeAll mode standard tells later
    | .error reason =>
      if ← isDirectory path then makeAll mode standard tells later
      else
        let reason := if reason = .exists && !isLast then OsError.notDirectory else reason
        Job.complainAs ("cannot create directory " ++ quoted path ++ ": " ++ reason.description)
        return false

/-- The paths on the way along a path, itself last. -/
def leadingPaths (path : String) : List String :=
  let path := withoutSlashes path
  (namedAbove path.length path).reverse ++ [path]
where
  /-- The paths above a path, the nearest first. The fuel bounds their number. -/
  namedAbove : Nat → String → List String
    | 0, _ => []
    | fuel + 1, path =>
      if path.toList.contains '/' then
        let front := frontPart path
        if front == "/" then [] else front :: namedAbove fuel front
      else []

/-- Makes directories. -/
def makeDirectories : Job Nat :=
  withOptions [.flag 'p' "parents", .flag 'v' "verbose", .value 'm' "mode", .flag 'Z'] fun given => do
    if given.operands.isEmpty then misuse "missing operand"
    else
      let standard := 0o777 &&& (0o777 ^^^ (← read).umask)
      let tells (path : String) : Job Unit := do
        if given.has "v" then
          Job.print ((← read).name ++ ": created directory " ++ quoted path ++ "\n")
      withMode (given.value? "m") standard fun mode =>
        forEach given.operands fun path => do
          if given.has "p" then makeAll mode (standard ||| 0o300) tells (leadingPaths path)
          else match (← makeOne path mode) with
            | .ok () =>
              tells path
              return true
            | .error reason =>
              Job.complainAs ("cannot create directory " ++ quoted path ++ ": "
                ++ reason.description)
              return false

/-- Sets when the file at a path was changed. -/
def setModified (path : String) (modified : Nat) : Job (Except OsError Unit) := do
  match (← findNode path) with
  | .error reason => return .error reason
  | .ok (place, _) =>
    Job.changeTree fun tree =>
      match tree.number? place with
      | some number => .ok (tree.modifyNode number fun node => { node with modified })
      | none => .ok tree

/-- Makes a file, unless it is there, and sets when it was changed. -/
def touchPath (makes : Bool) (modified : Nat) (path : String) : Job Bool := do
  if path == "-" then return true
  else
    let complain (reason : OsError) : Job Bool := do
      Job.complainAs ("cannot touch " ++ quoted path ++ ": " ++ reason.description)
      return false
    match (← setModified path modified) with
    | .ok () => return true
    | .error reason =>
      if !makes then if reason = .noEntry then return true else complain reason
      else match (← Job.openPath path { writes := true, creates := true }) with
        | .error .isDirectory =>
          Job.complainAs ("setting times of " ++ quoted path ++ ": " ++ reason.description)
          return false
        | .error reason => complain reason
        | .ok _ =>
          let _ ← setModified path modified
          return true

/-- Changes when files were changed. -/
def touch : Job Nat :=
  withOptions [.flag 'a', .flag 'c' "no-create", .value 'd' "date", .flag 'f', .flag 'h' "no-dereference",
      .flag 'm', .value 'r' "reference", .value 't', .named "time" .required] fun given => do
    modify fun machine => { machine with tree := machine.tree.tick }
    let now := (← Job.tree).clock
    let act (modified : Nat) : Job Nat := do
      if given.operands.isEmpty then misuse "missing file operand"
      else forEach given.operands (touchPath (!given.has "c") modified)
    match given.value? "r", given.value? "d", given.value? "t" with
    | some reference, _, _ =>
      match (← findNode reference) with
      | .ok (_, node) => act node.modified
      | .error reason =>
        Job.complainAs ("failed to get attributes of " ++ quoted reference ++ ": "
          ++ reason.description)
        return 1
    | none, some text, _ =>
      match Moment.ofText? now text with
      | some moment => act moment
      | none =>
        Job.complainAs ("invalid date format " ++ quotedWord text)
        return 1
    | none, none, some text =>
      match Moment.ofDigits? text with
      | some moment => act moment
      | none =>
        Job.complainAs ("invalid date format " ++ quotedWord text)
        return 1
    | none, none, none => act now

/-- How links are made. -/
structure LinkOptions where
  symbolic : Bool := false
  force : Bool := false
  /-- What is put behind the name of an entry that is replaced, if it is kept. -/
  backup : Option String := none
  tells : Bool := false

/-- Makes an entry at a path that is a symbolic link. -/
def makeSymbolic (target path : String) : Job (Except OsError Unit) :=
  Job.changeTree fun tree => do
    let place ← tree.place (Octets.toText path) false
    if (tree.node? place).isSome then throw .exists
    tree.checkParent place
    if path.endsWith "/" then throw .noEntry
    return tree.tick.put place (.link (Octets.toText target)) 0o777

/-- Makes an entry at a path for a node that has one. -/
def makeHard (source : Place) (path : String) : Job (Except OsError Unit) :=
  Job.changeTree fun tree => do
    let place ← tree.place (Octets.toText path) false
    if (tree.node? place).isSome then throw .exists
    tree.checkParent place
    match tree.number? source with
    | some number => return tree.setEntry place number
    | none => throw .noEntry

/-- The place of the file that a link is to lead to, and whether that is a
directory. A symbolic link may lead nowhere. -/
def LinkOptions.source (options : LinkOptions) (target : String) :
    Job (Except OsError (Place × Bool)) := do
  if options.symbolic then return .ok ([], false)
  else match (← findNode target false) with
    | .ok (place, node) => return .ok (place, node.isDirectory)
    | .error reason => return .error reason

/-- Gives an entry another name by putting a text behind the one it has. -/
def keepBackup (path ending : String) : Job Unit := do
  if let .ok (place, node) ← findNode path false then
    unless node.isDirectory do
      match place.getLast? with
      | some name =>
        modify fun machine => { machine with
          tree := machine.tree.move place (place.dropLast ++ [name ++ Octets.toText ending]) }
      | none => return ()

/-- What is put behind the names of entries that are replaced, if they are
kept. -/
def backupEnding? (given : Given) : Option String :=
  if given.has "b" || given.has "backup" || given.has "S" then
    if given.value? "backup" == some "none" || given.value? "backup" == some "off" then none
    else some ((given.value? "S").getD "~")
  else none

/-- Makes a link. -/
def LinkOptions.make (options : LinkOptions) (target path : String) : Job Bool := do
  let kind := if options.symbolic then "symbolic" else "hard"
  match (← options.source target) with
  | .error reason =>
    Job.complainAs ("failed to access " ++ quoted target ++ ": " ++ reason.description)
    return false
  | .ok (_, true) =>
    Job.complainAs (quotedIfNeeded target ++ ": hard link not allowed for directory")
    return false
  | .ok (source, false) =>
    if let some ending := options.backup then keepBackup path ending
    if options.force then
      if let .ok (place, node) ← findNode path false then
        unless node.isDirectory do
          modify fun machine => { machine with tree := machine.tree.erase place }
    match (← if options.symbolic then makeSymbolic target path else makeHard source path) with
    | .ok () =>
      if options.tells then
        Job.print (quoted path ++ (if options.symbolic then " -> " else " => ") ++ quoted target
          ++ "\n")
      return true
    | .error reason =>
      Job.complainAs ("failed to create " ++ kind ++ " link " ++ quoted path ++ ": "
        ++ reason.description)
      return false

/-- Makes links. -/
def makeLinks : Job Nat :=
  withOptions [.flag 's' "symbolic", .flag 'f' "force", .flag 'n' "no-dereference", .flag 'v' "verbose",
      .flag 'T' "no-target-directory", .value 't' "target-directory", .flag 'i' "interactive",
      .flag 'L' "logical", .flag 'P' "physical", .flag 'r' "relative", .flag 'b', .named "backup" .optional, .value 'S' "suffix"] fun given => do
    let options : LinkOptions :=
      { symbolic := given.has "s", force := given.has "f", tells := given.has "v"
        backup := backupEnding? given }
    let makeEach (targets : List String) (destination : Destination) : Job Nat :=
      forEach targets fun target => options.make target (destination.pathFor target)
    match given.operands with
    | [target] =>
      if given.has "t" then withDestination given makeEach
      else if given.has "T" then
        misuse ("missing destination file operand after " ++ quoted target)
      else makeEach [target] (.directory ".")
    | [target, path] =>
      if given.has "n" && (← isLink path) then makeEach [target] (.entry path)
      else withDestination given makeEach
    | _ => withDestination given makeEach

/-- Makes one entry for a file that has one. -/
def linkFile : Job Nat :=
  withOptions [] fun given => do
    match given.operands with
    | [target, path] =>
      let refuse (reason : OsError) : Job Nat := do
        Job.complainAs ("cannot create link " ++ quoted path ++ " to " ++ quoted target ++ ": "
          ++ reason.description)
        return 1
      match (← findNode target false) with
      | .error reason => refuse reason
      | .ok (place, node) =>
        if node.isDirectory then refuse .notPermitted
        else match (← makeHard place path) with
          | .ok () => return 0
          | .error reason => refuse reason
    | [] => misuse "missing operand"
    | [target] => misuse ("missing operand after " ++ quoted target)
    | _ :: _ :: extra :: _ => misuse ("extra operand " ++ quoted extra)

/-- A text with a part replaced by letters that make a new name. The fuel bounds
the number of names that are tried. -/
def freshName (tree : FileTree) (front ending : String) (width : Nat) : Nat → Nat → Option String
  | 0, _ => none
  | fuel + 1, n =>
    let digits := Nat.toDigits 16 (n + 0xa3b7c5)
    let letters := (List.replicate (width - digits.length) 'x' ++ digits).take width
    let path := front ++ String.ofList letters ++ ending
    if (tree.find (Octets.toText path) false).isOk then freshName tree front ending width fuel (n + 1)
    else some path

/-- Makes a file or a directory with a new name. -/
def makeTemporary : Job Nat :=
  withOptions [.flag 'd' "directory", .flag 'q' "quiet", .flag 'u' "dry-run", .flag 't',
      .value 'p' "tmpdir", .named "suffix" .required] fun given => do
    let template := given.operands.headD "tmp.XXXXXXXXXX"
    let directory :=
      if given.has "p" || given.has "t" || given.operands.isEmpty then
        some ((given.value? "p").getD "/tmp")
      else none
    let whole := match directory with
      | some directory => below directory template
      | none => template
    let text := whole.toList
    let behind := (text.reverse.takeWhile (· != 'X')).reverse
    let front := text.take (text.length - behind.length)
    let marks := front.reverse.takeWhile (· == 'X')
    let refuse (message : String) : Job Nat := do
      unless given.has "q" do Job.complainAs message
      return 1
    if marks.length < 3 then refuse ("too few X's in template " ++ quotedWord template)
    else
      let front := String.ofList (front.take (front.length - marks.length))
      let ending := String.ofList behind ++ (given.value? "suffix").getD ""
      match freshName (← Job.tree) front ending marks.length 1000 0 with
      | none => refuse "failed to create file"
      | some path =>
        let made ←
          if given.has "u" then pure (.ok ())
          else if given.has "d" then makeOne path 0o700
          else do
            match (← Job.openPath path { writes := true, creates := true, exclusive := true }) with
            | .ok _ => pure (.ok ())
            | .error reason => pure (.error reason)
        match made with
        | .ok () =>
          Job.print (path ++ "\n")
          return 0
        | .error reason =>
          refuse ("failed to create " ++ (if given.has "d" then "directory" else "file")
            ++ " via template " ++ quoted whole ++ ": " ++ reason.description)

/-- How the size of a file is changed. -/
def newSize? (old : Nat) (text : String) : Option Nat :=
  match text.toList with
  | '+' :: rest => (count? (String.ofList rest)).map (old + ·)
  | '-' :: rest => (count? (String.ofList rest)).map (old - ·)
  | '<' :: rest => (count? (String.ofList rest)).map (min old)
  | '>' :: rest => (count? (String.ofList rest)).map (max old)
  | '/' :: rest => (count? (String.ofList rest)).map fun n => if n = 0 then old else old / n * n
  | '%' :: rest => (count? (String.ofList rest)).map fun n =>
    if n = 0 then old else (old + n - 1) / n * n
  | _ => count? text

/-- Cuts files or extends them. -/
def truncateFiles : Job Nat :=
  withOptions [.value 's' "size", .value 'r' "reference", .flag 'c' "no-create", .flag 'o' "io-blocks"]
      fun given => do
    match given.value? "s", given.value? "r" with
    | none, none => misuse "you must specify either '--size' or '--reference'"
    | size, reference =>
      if given.operands.isEmpty then misuse "missing file operand"
      else
        let base ← match reference with
          | none => pure none
          | some path => match (← findNode path) with
            | .ok (_, node) => pure (some node.size)
            | .error _ => pure (some 0)
        let text := size.getD "+0"
        if (newSize? 0 text).isNone then
          Job.complainAs ("Invalid number: " ++ quotedWord text)
          return 1
        else forEach given.operands fun path => do
          let isThere := (← findNode path).isOk
          if given.has "c" && !isThere then return true
          else match (← Job.openPath path { writes := true, creates := true }) with
            | .error reason =>
              Job.complainAs ("cannot open " ++ quoted path ++ " for writing: " ++ reason.description)
              return false
            | .ok _ =>
              match (← findNode path) with
              | .ok (place, { content := .regular bytes, .. }) =>
                let size := (newSize? (base.getD bytes.length) text).getD 0
                let new := bytes.take size ++ List.replicate (size - bytes.length) 0
                let _ ← Job.changeTree fun tree =>
                  match tree.number? place with
                  | some number => .ok (tree.setBytes number new)
                  | none => .ok tree
                return true
              | _ => return true

end ProfileGraph.Utility
