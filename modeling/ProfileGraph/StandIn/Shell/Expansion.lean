import ProfileGraph.StandIn.Shell.Arithmetic
import ProfileGraph.StandIn.Shell.Field
import ProfileGraph.StandIn.Shell.Reader
import ProfileGraph.StandIn.Shell.State

/-! The expansion of words: parameters, substitutions, expressions and home
directories are replaced by what they stand for. How the output of a command is
captured is a parameter, as the commands of a word are run elsewhere. -/
namespace ProfileGraph.Shell

/-- The letters of the options that are set, the last one first. -/
def Options.letters (options : Options) : String :=
  String.ofList ([('e', options.exitOnError), ('f', options.noGlob), ('I', options.ignoreEof),
    ('i', options.interactive), ('m', options.monitor), ('n', options.noExec),
    ('s', options.readsInput), ('x', options.trace), ('v', options.verbose),
    ('V', options.viEditor), ('E', options.emacsEditor), ('C', options.noClobber),
    ('a', options.exportAll), ('b', options.notify), ('u', options.noUnset),
    ('p', options.privileged)].reverse.filterMap fun (letter, isSet) =>
      if isSet then some letter else none)

/-- Where a word stands, as far as its expansion depends on that. -/
structure WordPlace where
  /-- The word may become several fields. -/
  splits : Bool := false
  /-- The word belongs to another one, so that its plain text is cut, too. -/
  inner : Bool := false
  /-- A tilde may stand for a home directory. -/
  tildes : Bool := true
  /-- A tilde may do so behind each colon. -/
  isAssignment : Bool := false

namespace Session

/-- The separators of fields. -/
def separators (session : Session) : String :=
  match session.bindings.lookup "IFS" with
  | some { value := some separators, .. } => separators
  | _ => defaultSeparators

/-- All arguments in one text. -/
def joinedArguments (session : Session) : String :=
  let separator := String.ofList (session.separators.toList.take 1)
  separator.intercalate session.arguments

/-- The arguments with marked gaps between them. -/
def markedArguments (session : Session) : String :=
  (String.singleton Piece.gapMark).intercalate session.arguments

/-- The value of a parameter. `keepsGaps` says that arguments are not joined. -/
def parameter? (session : Session) (keepsGaps : Bool) (name : String) : Option String :=
  match name with
  | "@" | "*" => some (if keepsGaps then session.markedArguments else session.joinedArguments)
  | "#" => some (toString session.arguments.length)
  | "?" => some (toString session.status)
  | "-" => some session.options.letters
  | "$" => some (toString session.mainProcess)
  | "!" => session.lastBackground.map toString
  | "0" => some session.name
  | name =>
    match name.toNat? with
    | some 0 => some session.name
    | some n => session.arguments[n - 1]?
    | none => (session.bindings.lookup name).bind (·.value)

/-- The home directory of a user, or of the user of the shell. -/
def home? (session : Session) (user : String) : Option String :=
  if user.isEmpty then (session.bindings.lookup "HOME").bind (·.value)
  else if user == "root" then some "/root"
  else none

end Session

/-- A part of a literal text, whose tilde in front stands for a home directory
if the name behind it ends within the word. -/
def tildePieces (session : Session) (splits ends : Bool) (text : String) : List Piece :=
  match text.toList with
  | '~' :: rest =>
    let user := rest.takeWhile (· != '/')
    if user.length == rest.length && !ends then [.text text false splits]
    else match session.home? (String.ofList user) with
      | some home =>
        [.text home true false, .text (String.ofList (rest.drop user.length)) false splits]
      | none => [.text text false splits]
  | _ => [.text text false splits]

/-- The pieces of a literal text. `starts` and `ends` say whether the word does
so with the text. -/
def literalPieces (session : Session) (place : WordPlace) (starts ends : Bool) (text : String) :
    List Piece :=
  let splits := place.splits && place.inner
  if !place.tildes then [.text text false splits]
  else if place.isAssignment then
    let parts := (text.toList.splitOnP (· == ':')).map String.ofList
    let pieces := parts.mapIdx fun n part =>
      if n == 0 && !starts then [Piece.text part false splits]
      else tildePieces session splits (ends || n + 1 < parts.length) part
    [Piece.text ":" false splits].intercalate pieces
  else if starts then tildePieces session splits ends text
  else [.text text false splits]

/-- How the output of a command is captured. -/
abbrev Capture := Command → Act String

/-- The complaint about a parameter without a value. -/
def missingComplaint (name : String) (orEmpty : Bool) (word : String) : String :=
  if word.isEmpty then name ++ ": parameter not set" ++ if orEmpty then " or null" else ""
  else name ++ ": " ++ word

/-- Gives a parameter a value, if it can have one. -/
def assignParameter (name value : String) : Act Unit := do
  if isName name then Act.assign name value
  else Act.failWith (name ++ ": bad variable name")

/-- The number that a variable holds. -/
def numericValue (name : String) : Act Int64 := do
  let text := ((← Act.valueOf? name).getD "")
  match Arithmetic.number? text with
  | some n => return n
  | none => Act.failWith ("Illegal number: " ++ text)

/-- The value of an expression. -/
def evaluate (text : String) : Act Int64 := do
  let refuse (fault : Arithmetic.Fault) : Act Int64 :=
    Act.failWith ("arithmetic expression: " ++ fault.message ++ ": \"" ++ text ++ "\"")
  match Arithmetic.Expression.read text with
  | .error fault => refuse fault
  | .ok expression =>
    expression.eval {
      value := numericValue
      assign := fun name n => Act.assign name (toString n.toInt)
      fail := refuse }

/-- Drops the line ends at the end of a text. -/
def dropLineEnds (text : String) : String :=
  String.ofList (text.toList.reverse.dropWhile (· == '\n')).reverse

/-- Whether a parameter counts as missing. -/
def isMissing (orEmpty : Bool) : Option String → Bool
  | none => true
  | some value => orEmpty && value.isEmpty

/-- What an unset parameter stands for, unless that is forbidden. -/
def valueOrComplaint (name : String) (value : Option String) : Act String := do
  match value with
  | some value => return value
  | none =>
    if (← Act.session).options.noUnset then Act.failWith (missingComplaint name false "")
    else return ""

mutual

/-- The pieces to which a part of a word expands. `starts` and `ends` say
whether the word does so with the part. -/
def Fragment.expand (capture : Capture) (place : WordPlace) (starts ends : Bool) :
    Fragment → Act (List Piece)
  | .literal true text => return [.text text true false]
  | .literal false text => return literalPieces (← Act.session) place starts ends text
  | .quote => return [.quote]
  | .substitution quoted body => do
    let output ← capture body
    return [.text (dropLineEnds output) quoted (place.splits && !quoted)]
  | .arithmetic quoted expression => do
    let text := String.join
      ((← expandParts capture { tildes := false } true expression).map Piece.plain)
    let value ← evaluate text
    return [.text (toString value.toInt) quoted (place.splits && !quoted)]
  | .parameter quoted name operation word => do
    let keepsGaps := place.splits && !(quoted && name == "*")
    let found := (← Act.session).parameter? keepsGaps name
    let isEmptyList := (name == "@" || name == "*") && (← Act.session).arguments.isEmpty
    let pieces (value : String) : List Piece :=
      if quoted && isEmptyList && name == "@" then []
      else Piece.ofMarked quoted (place.splits && !quoted) value
    let inner : WordPlace := { place with inner := !quoted, tildes := !quoted, isAssignment := false }
    match operation with
    | .bad => Act.failWith "Bad substitution"
    | .value => return pieces (← valueOrComplaint name found)
    | .length =>
      let joined := (← Act.session).parameter? false name
      return [.text (toString (← valueOrComplaint name joined).length) quoted
        (place.splits && !quoted)]
    | .default orEmpty =>
      if isMissing orEmpty found then expandParts capture inner true word
      else return pieces (found.getD "")
    | .alternative orEmpty =>
      if isMissing orEmpty found then return []
      else expandParts capture inner true word
    | .assign orEmpty =>
      if isMissing orEmpty found then
        let value := String.join
          ((← expandParts capture { tildes := !quoted } true word).map Piece.plain)
        assignParameter name value
        return pieces value
      else return pieces (found.getD "")
    | .require orEmpty =>
      if isMissing orEmpty found then
        let text := String.join
          ((← expandParts capture { tildes := !quoted } true word).map Piece.plain)
        Act.failWith (missingComplaint name orEmpty (if word.isEmpty then "" else text))
      else return pieces (found.getD "")
    | .trimStart longest =>
      let value ← valueOrComplaint name found
      let cells := (← expandParts capture {} true word).flatMap Piece.cells
      return pieces (String.ofList ((Glob.ofCells cells).trimStart longest value.toList))
    | .trimEnd longest =>
      let value ← valueOrComplaint name found
      let cells := (← expandParts capture {} true word).flatMap Piece.cells
      return pieces (String.ofList ((Glob.ofCells cells).trimEnd longest value.toList))

/-- The pieces to which the parts of a word expand. -/
def expandParts (capture : Capture) (place : WordPlace) (starts : Bool) :
    List Fragment → Act (List Piece)
  | [] => return []
  | .quote :: .parameter true "@" .value [] :: .quote :: later => do
    let session ← Act.session
    let first :=
      if session.arguments.isEmpty then []
      else if place.splits then .quote :: Piece.ofMarked true false session.markedArguments
      else [.text session.joinedArguments true false]
    return first ++ (← expandParts capture place false later)
  | fragment :: later => do
    let first ← fragment.expand capture place starts later.isEmpty
    return first ++ (← expandParts capture place false later)

end

namespace Word

/-- The text to which a word expands where one text is wanted. -/
def text (capture : Capture) (word : Word) (isAssignment : Bool := false) : Act String := do
  return String.join ((← expandParts capture { isAssignment } true word).map Piece.plain)

/-- The text of a document in the script. -/
def documentText (capture : Capture) (word : Word) : Act String := do
  return String.join ((← expandParts capture { tildes := false } true word).map Piece.plain)

/-- The pattern that a word writes. -/
def pattern (capture : Capture) (word : Word) : Act Glob := do
  return Glob.ofCells ((← expandParts capture {} true word).flatMap Piece.cells)

/-- The fields to which a word expands; a field that is a pattern becomes the
paths for which it stands. -/
def fields (capture : Capture) (word : Word) : Act (List String) := do
  let pieces ← expandParts capture { splits := true } true word
  let session ← Act.session
  let tree := (← get).machine.tree
  return (fieldsOf session.separators pieces).flatMap fun field =>
    let paths := if session.options.noGlob then [] else Glob.paths tree field
    if paths.isEmpty then [fieldText field] else paths

end Word
end ProfileGraph.Shell

/-! Redirections. All targets are expanded first; then files are opened in the
order in which they are written, and the first one that fails keeps the command
from running. -/
namespace ProfileGraph.Shell
open Host

/-- A redirection with its target. -/
inductive Target where
  | path (descriptor : Nat) (mode : RedirectionMode) (path : String)
  | copyOf (descriptor source : Nat)
  | closed (descriptor : Nat)
  | text (descriptor : Nat) (text : String)
deriving Repr

/-- The descriptor that is redirected. -/
def Target.descriptor : Target → Nat
  | .path descriptor .. | .copyOf descriptor _ | .closed descriptor | .text descriptor _ =>
    descriptor

/-- Finds out the target of a redirection. -/
def Redirection.target (capture : Capture) : Redirection → Act Target
  | .file descriptor mode word => return .path descriptor mode (← Word.text capture word)
  | .copy descriptor word => do
    let text ← Word.text capture word
    match text.toList with
    | ['-'] => return .closed descriptor
    | [c] =>
      if c.isDigit then return .copyOf descriptor (c.toNat - '0'.toNat)
      else Act.failWith ("Syntax error: " ++ SyntaxFault.badDescriptor.message)
    | _ => Act.failWith ("Syntax error: " ++ SyntaxFault.badDescriptor.message)
  | .document descriptor number => do
    let word := ((← Act.session).documents.lookup number).getD []
    return .text descriptor (← Word.documentText capture word)

/-- The reason why a path cannot be opened or made, as a shell gives it. -/
def openFault (missing : String) : OsError → String
  | .noEntry | .notDirectory => missing
  | reason => reason.description

namespace RedirectionMode

/-- How a file is opened for a redirection. -/
def access : RedirectionMode → Access
  | .input => .reading
  | .output | .overwrite => .writing
  | .append => .appending
  | .inputAndOutput => .readingAndWriting

/-- The complaint about a path that cannot be opened. -/
def complaint (mode : RedirectionMode) (path : String) (reason : OsError) : String :=
  match mode with
  | .input => "cannot open " ++ path ++ ": " ++ openFault "No such file" reason
  | _ => "cannot create " ++ path ++ ": " ++ openFault "Directory nonexistent" reason

end RedirectionMode

/-- Gives a descriptor an open file, or none. -/
def setDescriptor (descriptor : Nat) (number : Option Nat) : Act Unit :=
  Act.modifySession fun session =>
    let others := session.descriptors.filter (·.1 != descriptor)
    { session with
      descriptors := match number with
        | some number => (descriptor, number) :: others
        | none => others }

/-- Whether an output redirection must not replace what is at a path. -/
def isGuarded (mode : RedirectionMode) (path : String) : Act Bool := do
  if mode == .output && (← Act.session).options.noClobber then
    return match (← Act.job (Job.node path)) with
      | .ok node => node.isRegular
      | .error _ => false
  else return false

/-- Opens the target of one redirection, or says why that is not possible. -/
def Target.open : Target → Act (Option String)
  | .path descriptor mode file => do
    if ← isGuarded mode file then return some (mode.complaint file .exists)
    match (← Act.job (Job.openPath file mode.access)) with
    | .ok number =>
      setDescriptor descriptor (some number)
      return none
    | .error reason => return some (mode.complaint file reason)
  | .copyOf descriptor source => do
    match (← Act.session).descriptors.lookup source with
    | some number =>
      setDescriptor descriptor (some number)
      return none
    | none => return some (toString source ++ ": " ++ OsError.badDescriptor.description)
  | .closed descriptor => do
    setDescriptor descriptor none
    return none
  | .text descriptor content => do
    let state ← get
    let (number, machine) := state.machine.openStream (Octets.toBytes content)
    set { state with machine }
    setDescriptor descriptor (some number)
    return none

/-- Opens targets one after the other up to the first one that fails. -/
def openTargets : List Target → Act (Option String)
  | [] => return none
  | target :: later => do
    match (← target.open) with
    | some complaint => return some complaint
    | none => openTargets later

/-- The open files of the descriptors that targets replace. -/
def replaced (session : Session) (targets : List Target) : List (Nat × Option Nat) :=
  targets.map fun target => (target.descriptor, session.descriptors.lookup target.descriptor)

/-- Gives descriptors their earlier open files. -/
def restore (old : List (Nat × Option Nat)) : Act Unit :=
  old.reverse.forM fun (descriptor, number) => setDescriptor descriptor number

/-- Does something behind redirections, which end with it unless they are to
stay. A redirection that fails takes its place, and the result tells so. -/
def redirected (targets : List Target) (stays : Bool) (act : Act Unit) : Act Bool := do
  let old := replaced (← Act.session) targets
  match (← openTargets targets) with
  | some complaint =>
    Act.complain complaint
    restore old
    Act.setStatus 2
    return false
  | none =>
    if stays then act else Act.andFinally act (restore old)
    return true

end ProfileGraph.Shell
