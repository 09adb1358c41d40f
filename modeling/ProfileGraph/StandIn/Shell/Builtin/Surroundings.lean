import ProfileGraph.StandIn.Host.Permissions
import ProfileGraph.StandIn.Shell.Builtin.Basic

/-! The commands of a shell for its working directory, the modes and sizes of the
files that it makes, and the meaning of the names of commands. -/
namespace ProfileGraph.Shell.Builtin
open Host

/-- The path of a directory without steps to the directory above. -/
def joinedPath (directory path : String) : String :=
  let start := if Path.isAbsolute path then [] else Path.parts directory
  let steps := (start ++ Path.parts path).foldl (fun steps step =>
    if step == ".." then steps.dropLast
    else if step.isEmpty || step == "." then steps
    else steps ++ [step]) []
  "/" ++ "/".intercalate steps

/-- The path of the working directory without links. -/
def physicalDirectory : Act String := do
  return "/" ++ "/".intercalate ((← get).machine.tree.workingDirectory.map Octets.ofText)

/-- Goes to a directory, if that is possible. -/
def enter (physically : Bool) (path : String) : Act Bool := do
  let session ← Act.session
  let reached := if physically then path else joinedPath session.directory path
  let state ← get
  match state.machine.tree.find (Octets.toText reached) with
  | .error _ => return false
  | .ok (place, node) =>
    if !node.isDirectory then return false
    else
      set { state with machine := state.machine.backIn place }
      let reached ← if physically then physicalDirectory else pure reached
      Act.assign "OLDPWD" session.directory true
      Act.assign "PWD" reached true
      Act.modifySession fun session => { session with directory := reached }
      return true

/-- The paths at which a directory is looked for, each with a flag that tells
whether the path is to be printed. -/
def directoryPaths (session : Session) (path : String) : List (String × Bool) :=
  let isExplicit := match path.toList with
    | '/' :: _ | ['.'] | '.' :: '/' :: _ | ['.', '.'] | '.' :: '.' :: '/' :: _ => true
    | _ => false
  let directories := match (session.bindings.lookup "CDPATH").bind (·.value) with
    | some text => (text.toList.splitOnP (· == ':')).map String.ofList
    | none => []
  if isExplicit then []
  else directories.map fun directory =>
    if directory.isEmpty then (path, false) else (directory ++ "/" ++ path, true)

/-- Whether the last of the options of a directory is the one for paths without
links. -/
def isPhysical (found : List (Char × String)) : Bool := (found.getLast?.map (·.1)) == some 'P'

/-- Changes the working directory. -/
def changeDirectory : Builtin := fun arguments => do
  let (found, targets) ← options "LP" arguments
  let session ← Act.session
  let value (name : String) : String :=
    ((session.bindings.lookup name).bind (·.value)).getD ""
  let (target, prints) := match targets with
    | [] => (value "HOME", false)
    | "-" :: _ => (value "OLDPWD", true)
    | target :: _ => (target, false)
  let path := if target.isEmpty then "." else target
  let tree := (← get).machine.tree
  let (path, prints) := match (directoryPaths session path).find? fun (candidate, _) =>
      tree.isDirectory (Octets.toText candidate) with
    | some (candidate, prefixed) => (candidate, prints || prefixed)
    | none => (path, prints)
  if ← enter (isPhysical found) path then
    if prints then write ((← Act.session).directory ++ "\n")
    return 0
  else Act.failWith ("can't cd to " ++ target)

/-- Prints the working directory. -/
def printDirectory : Builtin := fun arguments => do
  let (found, _) ← options "LP" arguments
  let path ← if isPhysical found then physicalDirectory else pure (← Act.session).directory
  write (path ++ "\n")
  return 0

/-- The bits of a mode of a class of users, in letters. -/
def modeLetters (bits : Nat) : String :=
  (if bits &&& 4 != 0 then "r" else "") ++ (if bits &&& 2 != 0 then "w" else "")
    ++ (if bits &&& 1 != 0 then "x" else "")

/-- Four octal digits of a number. -/
def fourOctal (n : Nat) : String :=
  let digits := Nat.toDigits 8 n
  String.ofList (List.replicate (4 - digits.length) '0' ++ digits)

/-- Sets or prints the bits that new files do not get. -/
def umask : Builtin := fun arguments => do
  let (found, modes) ← options "S" arguments
  let mask := (← Act.session).umask
  let allowed := 0o777 ^^^ (mask &&& 0o777)
  match modes with
  | [] =>
    write (if found.isEmpty then fourOctal mask ++ "\n"
      else "u=" ++ modeLetters (allowed >>> 6) ++ ",g=" ++ modeLetters ((allowed >>> 3) &&& 7)
        ++ ",o=" ++ modeLetters (allowed &&& 7) ++ "\n")
    return 0
  | text :: _ =>
    let startsWithDigit := (text.toList.head?.map Char.isDigit).getD false
    let new ← match ModeChange.read? text with
      | some change =>
        if startsWithDigit then pure (change.apply 0 false 0 &&& 0o777)
        else pure (0o777 ^^^ (change.apply 0 false allowed &&& 0o777))
      | none =>
        if startsWithDigit then refuseNumber text
        else Act.failWith ("Illegal mode: " ++ text)
    Act.modifySession fun session => { session with umask := new }
    return 0

/-- The limits that a process has, by their letters: the name, and the value that
holds unless it is changed. -/
def limitTable : List (Char × String × String) := [
  ('t', "time(seconds)", "unlimited"), ('f', "file(blocks)", "unlimited"),
  ('d', "data(kbytes)", "unlimited"), ('s', "stack(kbytes)", "8192"),
  ('c', "coredump(blocks)", "0"), ('m', "memory(kbytes)", "unlimited"),
  ('l', "locked memory(kbytes)", "8192"), ('p', "process", "unlimited"),
  ('n', "nofiles", "1048576"), ('v', "vmemory(kbytes)", "unlimited"),
  ('w', "locks", "unlimited"), ('r', "rtprio", "0")]

/-- The value of a limit. -/
def limitValue (session : Session) (letter : Char) : String :=
  (session.limits.lookup letter).getD
    (((limitTable.find? (·.1 == letter)).map (·.2.2)).getD "unlimited")

/-- Sets or prints limits. -/
def limit : Builtin := fun arguments => do
  let (found, values) ← options "HSatfdscmlpnvwr" arguments
  let session ← Act.session
  let letter := ((found.filter fun (c, _) => c != 'H' && c != 'S').getLast?.map (·.1)).getD 'f'
  match values with
  | _ :: _ :: _ => Act.failWith "too many arguments"
  | [value] =>
    if letter == 'a' then Act.failWith "too many arguments"
    if value != "unlimited" && !(value.toList.all Char.isDigit) then Act.failWith "bad number"
    Act.modifySession fun session =>
      { session with limits := (letter, value) :: session.limits.filter (·.1 != letter) }
  | [] =>
    if letter == 'a' then
      write (String.join (limitTable.map fun (letter, name, _) =>
        name ++ String.ofList (List.replicate (20 - name.length) ' ') ++ " "
          ++ limitValue session letter ++ "\n"))
    else write (limitValue session letter ++ "\n")
  return 0

/-- The line that defines an alias. -/
def aliasLine (name text : String) : String := name ++ "=" ++ quoted text ++ "\n"

/-- Sets aliases or prints them. -/
def setAliases : Builtin := fun arguments => do
  if arguments.isEmpty then
    write (String.join ((← Act.session).aliases.map fun (name, text) => aliasLine name text))
  let mut status := 0
  for argument in arguments do
    let start := argument.toList.take 1
    let (name, value) := splitAssignment (String.ofList (argument.toList.drop 1))
    let name := String.ofList start ++ name
    match value with
    | some text =>
      Act.modifySession fun session =>
        { session with aliases := Act.setEntry session.aliases name text }
    | none =>
      match (← Act.session).aliases.lookup name with
      | some text => write (aliasLine name text)
      | none =>
        Act.note ("alias: " ++ name ++ " not found")
        status := 1
  return status

/-- Takes aliases away. -/
def removeAliases : Builtin := fun arguments => do
  let (found, names) ← options "a" arguments
  if !found.isEmpty then
    Act.modifySession fun session => { session with aliases := [] }
    return 0
  else
    let mut status := 0
    for name in names do
      if ((← Act.session).aliases.lookup name).isNone then
        Act.note ("unalias: " ++ name ++ " not found")
        status := 1
      Act.modifySession fun session =>
        { session with aliases := session.aliases.filter (·.1 != name) }
    return status

/-- Forgets where programs were found, looks programs up, or lists those that
were found. -/
def trackPrograms : Builtin := fun arguments => do
  let (found, names) ← options "r" arguments
  if !found.isEmpty then
    Act.modifySession fun session => { session with tracked := [] }
    return 0
  else if names.isEmpty then
    write (String.join ((← Act.session).tracked.map fun (_, path) => path ++ "\n"))
    return 0
  else
    let mut status := 0
    for name in names do
      match (← findProgram name none) with
      | .ok _ => pure ()
      | .error _ =>
        Act.complain (name ++ ": not found")
        status := 1
    return status

/-- What the name of a command means. -/
inductive Meaning where
  | keyword
  | abbreviation (text : String)
  | definition
  | builtin (special : Bool)
  | program (path : String) (tracked : Bool)
deriving Repr

/-- The meaning of the name of a command, if it has one. Where programs are
looked for may be given. -/
def meaning? (isBuiltin : String → Bool) (name : String) (path : Option String) :
    Act (Option Meaning) := do
  let session ← Act.session
  let trackedPath := if path.isNone then session.tracked.lookup name else none
  if keywords.contains name then return some .keyword
  else if let some text := session.aliases.lookup name then return some (.abbreviation text)
  else if (session.functions.lookup name).isSome then return some .definition
  else if isBuiltin name then return some (.builtin (specialCommands.contains name))
  else if let some path := trackedPath then return some (.program path true)
  else if name.toList.contains '/' then
    let isThere := ((← get).machine.tree.find (Octets.toText name)).isOk
    return if isThere then some (.program name false) else none
  else match (← findProgram name path) with
    | .ok path => return some (.program path false)
    | .error _ => return none

/-- A sentence about the meaning of a name. -/
def Meaning.sentence (name : String) : Option Meaning → String
  | none => name ++ ": not found\n"
  | some .keyword => name ++ " is a shell keyword\n"
  | some (.abbreviation text) => name ++ " is an alias for " ++ text ++ "\n"
  | some .definition => name ++ " is a shell function\n"
  | some (.builtin true) => name ++ " is a special shell builtin\n"
  | some (.builtin false) => name ++ " is a shell builtin\n"
  | some (.program path tracked) =>
    name ++ " is" ++ (if tracked then " a tracked alias for" else "") ++ " " ++ path ++ "\n"

/-- The meaning of a name in a word or a command. -/
def Meaning.brief (name : String) : Option Meaning → String
  | none => ""
  | some (.abbreviation text) => "alias " ++ aliasLine name text
  | some (.program path _) => path ++ "\n"
  | some _ => name ++ "\n"

/-- Tells what names mean. -/
def tellMeanings (isBuiltin : String → Bool) : Builtin := fun names => do
  let mut status := 0
  for name in names do
    let found ← meaning? isBuiltin name none
    write (Meaning.sentence name found)
    if found.isNone then status := 127
  return status

/-- Tells what a name means, if the options ask for that. -/
def tellMeaning (isBuiltin : String → Bool) : Builtin := fun arguments => do
  let (found, names) ← options "pvV" arguments
  let path := if found.any (·.1 == 'p') then some standardPath else none
  let verbose := found.any (·.1 == 'V')
  match names with
  | name :: _ =>
    if !verbose && !found.any (·.1 == 'v') then return 0
    else
      let meaning ← meaning? isBuiltin name path
      write (if verbose then Meaning.sentence name meaning else Meaning.brief name meaning)
      return if meaning.isNone then 127 else 0
  | [] => return 0

end ProfileGraph.Shell.Builtin
