import ProfileGraph.StandIn.Shell.Builtin.Basic

/-! The commands of a shell that act on its variables, options and arguments. -/
namespace ProfileGraph.Shell.Builtin
open Host

/-- The lines that list the variables with a property, in the order of their
names. -/
def listing (session : Session) (start : String) (property : Variable → Bool) : String :=
  let found := (session.bindings.filter (property ·.2)).mergeSort (·.1 ≤ ·.1)
  String.join (found.map fun (name, v) =>
    start ++ name ++ (match v.value with
      | some value => "=" ++ quoted value
      | none => "") ++ "\n")

/-- Marks variables, which may get values, or lists those that are marked. -/
def marking (name : String) (isMarked : Variable → Bool) (change : Variable → Variable) :
    Builtin := fun arguments => do
  let (found, names) ← options "p" arguments
  if !found.isEmpty || names.isEmpty then
    write (listing (← Act.session) (name ++ " ") isMarked)
  else
    for argument in names do
      let (name, value) := splitAssignment argument
      let name ← variableName name
      if let some value := value then Act.assign name value
      Act.mark name change
  return 0

/-- Hands variables on to the programs that are started. -/
def exportVariables : Builtin :=
  marking "export" (·.exported) fun v => { v with exported := true }

/-- Makes variables keep their values. -/
def protectVariables : Builtin :=
  marking "readonly" (·.isReadOnly) fun v => { v with isReadOnly := true }

/-- Takes variables or functions away. -/
def unset : Builtin := fun arguments => do
  let (found, names) ← options "vf" arguments
  for name in names do
    if (found.getLast?.map (·.1)) == some 'f' then
      Act.modifySession fun session =>
        { session with functions := session.functions.filter (·.1 != name) }
    else Act.unset (← variableName name)
  return 0

/-- Makes variables local to the function that runs. A dash stands for the
options. -/
def makeLocal : Builtin := fun arguments => do
  if (← Act.session).locals.isEmpty then Act.failWith "not in a function"
  for argument in arguments do
    if argument == "-" then
      Act.modifySession fun session =>
        { session with savedOptions := match session.savedOptions with
            | none :: outer => some session.options :: outer
            | saved => saved }
    else
      let (name, value) := splitAssignment argument
      let name ← variableName name
      Act.makeLocal name
      match value with
      | some value => Act.assign name value
      | none =>
        if ((← Act.session).bindings.lookup name).isNone then Act.mark name id
  return 0

/-- Drops arguments of the shell from the front. -/
def shift : Builtin := fun arguments => do
  let count ← match arguments with
    | [] => pure 1
    | text :: _ => number text
  let session ← Act.session
  if session.arguments.length < count then Act.failWith "can't shift that many"
  Act.modifySession fun session =>
    { session with arguments := session.arguments.drop count, optionPosition := {} }
  return 0

/-- The options with their letters and names, in the order in which they are
listed. An option may have no letter. -/
def optionTable : List (String × Option Char × (Options → Bool) × (Bool → Options → Options)) := [
  ("errexit", some 'e', (·.exitOnError), fun b o => { o with exitOnError := b }),
  ("noglob", some 'f', (·.noGlob), fun b o => { o with noGlob := b }),
  ("ignoreeof", some 'I', (·.ignoreEof), fun b o => { o with ignoreEof := b }),
  ("interactive", some 'i', (·.interactive), fun b o => { o with interactive := b }),
  ("monitor", some 'm', (·.monitor), fun b o => { o with monitor := b }),
  ("noexec", some 'n', (·.noExec), fun b o => { o with noExec := b }),
  ("stdin", some 's', (·.readsInput), fun b o => { o with readsInput := b }),
  ("xtrace", some 'x', (·.trace), fun b o => { o with trace := b }),
  ("verbose", some 'v', (·.verbose), fun b o => { o with verbose := b }),
  ("vi", some 'V', (·.viEditor), fun b o =>
    { o with viEditor := b, emacsEditor := o.emacsEditor && !b }),
  ("emacs", some 'E', (·.emacsEditor), fun b o =>
    { o with emacsEditor := b, viEditor := o.viEditor && !b }),
  ("noclobber", some 'C', (·.noClobber), fun b o => { o with noClobber := b }),
  ("allexport", some 'a', (·.exportAll), fun b o => { o with exportAll := b }),
  ("notify", some 'b', (·.notify), fun b o => { o with notify := b }),
  ("nounset", some 'u', (·.noUnset), fun b o => { o with noUnset := b }),
  ("privileged", some 'p', (·.privileged), fun b o => { o with privileged := b }),
  ("nolog", none, (·.noLog), fun b o => { o with noLog := b }),
  ("debug", none, (·.debug), fun b o => { o with debug := b })]

/-- The options that have been read in front of arguments. -/
structure OptionReading where
  options : Options
  /-- A script follows the options. -/
  takesScript : Bool := false
  /-- The option that lists all options, as commands or as a table. -/
  lists : List Bool := []

/-- Sets options by the letters of one argument. The arguments behind it are
given, as a name may follow a letter. -/
def setLetters (starting on : Bool) (reading : OptionReading) :
    List Char → List String → Except String (OptionReading × List String)
  | [], arguments => .ok (reading, arguments)
  | 'o' :: letters, arguments =>
    match arguments with
    | [] => setLetters starting on { reading with lists := reading.lists ++ [on] } letters []
    | name :: arguments =>
      match optionTable.find? (·.1 == name) with
      | some (_, _, _, change) =>
        setLetters starting on { reading with options := change on reading.options } letters
          arguments
      | none => .error ("Illegal option " ++ (if on then "-" else "+") ++ "o " ++ name)
  | letter :: letters, arguments =>
    if starting && letter == 'c' then
      setLetters starting on { reading with takesScript := true } letters arguments
    else if starting && letter == 'l' then setLetters starting on reading letters arguments
    else match optionTable.find? (·.2.1 == some letter) with
      | some (_, _, _, change) =>
        setLetters starting on { reading with options := change on reading.options } letters
          arguments
      | none => .error ("Illegal option -" ++ String.singleton letter)

/-- Sets options by the arguments in front. The result tells as well whether
arguments for the shell follow, which two dashes say even if there are none.
The fuel bounds the number of arguments. -/
def setByArguments (starting : Bool) (reading : OptionReading) :
    Nat → List String → Except String (OptionReading × Bool × List String)
  | 0, arguments => .ok (reading, !arguments.isEmpty, arguments)
  | _, [] => .ok (reading, false, [])
  | fuel + 1, argument :: arguments =>
    match argument.toList with
    | ['-'] =>
      let options := if starting then reading.options
        else { reading.options with trace := false, verbose := false }
      .ok ({ reading with options }, !arguments.isEmpty, arguments)
    | ['-', '-'] => .ok (reading, true, arguments)
    | '-' :: letters => do
      let (reading, arguments) ← setLetters starting true reading letters arguments
      setByArguments starting reading fuel arguments
    | '+' :: letters => do
      let (reading, arguments) ← setLetters starting false reading letters arguments
      setByArguments starting reading fuel arguments
    | _ => .ok (reading, true, argument :: arguments)

/-- The list of all options, as a table or as commands that set them. -/
def optionListing (options : Options) (asTable : Bool) : String :=
  let lines := optionTable.map fun (name, _, isSet, _) =>
    if asTable then
      name ++ String.ofList (List.replicate (16 - name.length) ' ')
        ++ (if isSet options then "on" else "off")
    else "set " ++ (if isSet options then "-o " else "+o ") ++ name
  (if asTable then "Current option settings\n" else "") ++ "\n".intercalate lines ++ "\n"

/-- Sets options and arguments, or lists the variables. -/
def setOptions : Builtin := fun arguments => do
  if arguments.isEmpty then
    write (listing (← Act.session) "" (·.value.isSome))
    return 0
  let session ← Act.session
  match setByArguments false { options := session.options } (arguments.length + 1) arguments with
  | .error complaint => Act.failWith complaint
  | .ok (reading, replaces, arguments) =>
    for asTable in reading.lists do write (optionListing reading.options asTable)
    if reading.options.monitor && !session.options.monitor then
      Act.complain "can't access tty; job control turned off"
    Act.modifySession fun session =>
      { session with options := { reading.options with monitor := false } }
    if replaces then
      Act.modifySession fun session => { session with arguments, optionPosition := {} }
    return 0

/-- The parts of a line that are read into variables. -/
def splitLine (separators : List Char) : Nat → List Cell → List String
  | 0, _ => []
  | count + 1, cells =>
    let separates (cell : Cell) : Bool := !cell.quoted && separators.contains cell.char
    let isBlank (cell : Cell) : Bool :=
      separates cell && Cutting.isBlankSeparator cell.char
    let cells := cells.dropWhile isBlank
    let field := cells.takeWhile (!separates ·)
    let rest := cells.drop field.length
    let behind := rest.dropWhile isBlank
    let behind := match behind with
      | cell :: later => if separates cell then later.dropWhile isBlank else behind
      | [] => []
    match count with
    | 0 =>
      if behind.isEmpty then [fieldText field]
      else [fieldText (cells.reverse.dropWhile isBlank).reverse]
    | count =>
      if cells.isEmpty then [] else fieldText field :: splitLine separators count behind

/-- Reads the characters of a line from the standard input, one at a time. A
backslash protects the character behind it unless the line is raw. The flag of
the result tells whether the line has an end. The fuel bounds the number of
characters. -/
def readLine (raw : Bool) : Nat → Act (List Cell × Bool)
  | 0 => return ([], false)
  | fuel + 1 => do
    let next : Act (Option Char) := do
      match (← Act.job (Job.readDescriptor 0 (some 1))) with
      | .ok text => return text.toList.head?
      | .error _ => return none
    match (← next) with
    | none => return ([], false)
    | some '\n' => return ([], true)
    | some '\x00' => readLine raw fuel
    | some '\\' =>
      if raw then
        let (later, ended) ← readLine raw fuel
        return (⟨'\\', false⟩ :: later, ended)
      else match (← next) with
        | none => return ([], false)
        | some '\n' => readLine raw fuel
        | some c =>
          let (later, ended) ← readLine raw fuel
          return (⟨c, true⟩ :: later, ended)
    | some c =>
      let (later, ended) ← readLine raw fuel
      return (⟨c, false⟩ :: later, ended)

/-- The most characters that a line can have. -/
def maxLineLength : Nat := Nat.pow 2 20

/-- Reads a line into variables. -/
def readVariables : Builtin := fun arguments => do
  let (found, names) ← options "p:r" arguments
  if names.isEmpty then Act.failWith "arg count"
  let (cells, ended) ← readLine (found.any (·.1 == 'r')) maxLineLength
  let separators := (← Act.session).separators.toList
  let fields := splitLine separators names.length cells
  for (name, n) in names.zipIdx do
    Act.assign (← variableName name) (fields[n]?.getD "")
  return if ended then 0 else 1

/-- An option that was found among arguments. -/
structure FoundOption where
  letter : Char
  /-- The letters behind it in its argument. -/
  rest : List Char
  /-- The number of the argument that follows. -/
  index : Nat

/-- The next option among arguments, if there is one; else the number of the
first argument that is none. -/
def nextOption (position : OptionPosition) (arguments : List String) :
    Except Nat FoundOption :=
  match position.letters.map String.toList with
  | some (letter :: rest) => .ok ⟨letter, rest, position.index⟩
  | _ =>
    match (arguments.drop (position.index - 1)).head?.map String.toList with
    | some ['-', '-'] => .error (position.index + 1)
    | some ('-' :: letter :: rest) => .ok ⟨letter, rest, position.index + 1⟩
    | _ => .error position.index

/-- Reads the next option of a list into variables. -/
def readOption : Builtin := fun given => do
  let (_, given) ← options "" given
  match given with
  | known :: name :: arguments =>
    let session ← Act.session
    let arguments := if arguments.isEmpty then session.arguments else arguments
    let position := session.optionPosition
    let position := if arguments.length + 1 < position.index then {} else position
    let finish (letter : Char) (position : OptionPosition) (status : Nat) : Act Nat := do
      Act.assign "OPTIND" (toString position.index)
      Act.modifySession fun session => { session with optionPosition := position }
      Act.assign (← variableName name) (String.singleton letter)
      return status
    match nextOption position arguments with
    | .error index => finish '?' ⟨index, none⟩ 1
    | .ok ⟨letter, rest, index⟩ =>
      let isQuiet := known.startsWith ":"
      let onwards : OptionPosition :=
        ⟨index, if rest.isEmpty then none else some (String.ofList rest)⟩
      let complain (text : String) (quietly : Char) (position : OptionPosition) : Act Nat := do
        if isQuiet then
          Act.assign "OPTARG" (String.singleton letter)
          finish quietly position 0
        else
          Act.note text
          Act.unset "OPTARG"
          finish '?' position 0
      match known.toList.dropWhile (· != letter) with
      | _ :: ':' :: _ =>
        if !rest.isEmpty then
          Act.assign "OPTARG" (String.ofList rest)
          finish letter ⟨index, none⟩ 0
        else match arguments[index - 1]? with
          | none =>
            complain ("No arg for -" ++ String.singleton letter ++ " option") ':' ⟨index, none⟩
          | some argument =>
            Act.assign "OPTARG" argument
            finish letter ⟨index + 1, none⟩ 0
      | _ :: _ =>
        Act.assign "OPTARG" ""
        finish letter onwards 0
      | [] => complain ("Illegal option -" ++ String.singleton letter) '?' onwards
  | _ => Act.failWith "Usage: getopts optstring var [arg...]"

end ProfileGraph.Shell.Builtin
