import ProfileGraph.StandIn.Utility.Make.Basic
import ProfileGraph.StandIn.Utility.Make.Update
import ProfileGraph.StandIn.Utility.Options

/-! The options of a run. They are handed on to runs that commands start. -/
namespace ProfileGraph.Utility.Make
open Host

/-- How a run can be used. -/
def usage : List String := [
  "Usage: make [options] [target] ...",
  "Options:",
  "  -b, -m                      Ignored for compatibility.",
  "  -B, --always-make           Unconditionally make all targets.",
  "  -C DIRECTORY, --directory=DIRECTORY",
  "                              Change to DIRECTORY before doing anything.",
  "  -d                          Print lots of debugging information.",
  "  --debug[=FLAGS]             Print various types of debugging information.",
  "  -e, --environment-overrides",
  "                              Environment variables override makefiles.",
  "  -E STRING, --eval=STRING    Evaluate STRING as a makefile statement.",
  "  -f FILE, --file=FILE, --makefile=FILE",
  "                              Read FILE as a makefile.",
  "  -h, --help                  Print this message and exit.",
  "  -i, --ignore-errors         Ignore errors from recipes.",
  "  -I DIRECTORY, --include-dir=DIRECTORY",
  "                              Search DIRECTORY for included makefiles.",
  "  -j [N], --jobs[=N]          Allow N jobs at once; infinite jobs with no arg.",
  "  -k, --keep-going            Keep going when some targets can't be made.",
  "  -l [N], --load-average[=N], --max-load[=N]",
  "                              Don't start multiple jobs unless load is below N.",
  "  -L, --check-symlink-times   Use the latest mtime between symlinks and target.",
  "  -n, --just-print, --dry-run, --recon",
  "                              Don't actually run any recipe; just print them.",
  "  -o FILE, --old-file=FILE, --assume-old=FILE",
  "                              Consider FILE to be very old and don't remake it.",
  "  -O[TYPE], --output-sync[=TYPE]",
  "                              Synchronize output of parallel jobs by TYPE.",
  "  -p, --print-data-base       Print make's internal database.",
  "  -q, --question              Run no recipe; exit status says if up to date.",
  "  -r, --no-builtin-rules      Disable the built-in implicit rules.",
  "  -R, --no-builtin-variables  Disable the built-in variable settings.",
  "  -s, --silent, --quiet       Don't echo recipes.",
  "  --no-silent                 Echo recipes (disable --silent mode).",
  "  -S, --no-keep-going, --stop",
  "                              Turns off -k.",
  "  -t, --touch                 Touch targets instead of remaking them.",
  "  --trace                     Print tracing information.",
  "  -v, --version               Print the version number of make and exit.",
  "  -w, --print-directory       Print the current directory.",
  "  --no-print-directory        Turn off -w, even if it was turned on implicitly.",
  "  -W FILE, --what-if=FILE, --new-file=FILE, --assume-new=FILE",
  "                              Consider FILE to be infinitely new.",
  "  --warn-undefined-variables  Warn when an undefined variable is referenced.",
  "",
  "This program built for x86_64-pc-linux-gnu",
  "Report bugs to <bug-make@gnu.org>"]

/-- The options. -/
def optionForms : List OptionForm := [
  .flag 'b', .flag 'm',
  .flag 'B' (some "always-make"), .flag 'd', .flag 'e' (some "environment-overrides"),
  .flag 'h' (some "help"), .flag 'i' (some "ignore-errors"), .flag 'k' (some "keep-going"),
  .flag 'L' (some "check-symlink-times"), .flag 'n' (some "just-print"),
  .flag 'p' (some "print-data-base"), .flag 'q' (some "question"),
  .flag 'r' (some "no-builtin-rules"), .flag 'R' (some "no-builtin-variables"),
  .flag 's' (some "silent"), .flag 'S' (some "no-keep-going"), .flag 't' (some "touch"),
  .flag 'v' (some "version"), .flag 'w' (some "print-directory"),
  .value 'C' (some "directory"), .value 'E' (some "eval"), .value 'f' (some "file"),
  .value 'I' (some "include-dir"),
  ⟨some 'j', some "jobs", .optional⟩, ⟨some 'l', some "load-average", .optional⟩,
  .value 'o' (some "old-file"), ⟨some 'O', some "output-sync", .optional⟩,
  .value 'W' (some "what-if"),
  .named "debug" .optional, .named "jobserver-auth" .required, .named "trace",
  .named "no-print-directory", .named "no-silent", .named "warn-undefined-variables",
  .flag 's' (some "quiet"), .flag 'S' (some "stop"), .value 'W' (some "new-file"),
  .value 'W' (some "assume-new"), .value 'o' (some "assume-old"),
  ⟨some 'l', some "max-load", .optional⟩, .flag 'n' (some "dry-run"),
  .flag 'n' (some "recon"), .value 'f' (some "makefile")]

/-- Joins an option for a number with a number that stands apart from it. -/
def joinNumbers : List String → List String
  | [] => []
  | [argument] => [argument]
  | argument :: next :: rest =>
    let isShort := argument.startsWith "-" && !argument.startsWith "--"
    let takes := isShort && (argument.endsWith "j" || argument.endsWith "l")
    if takes && !next.isEmpty && next.toList.all Char.isDigit then
      (argument ++ next) :: joinNumbers rest
    else argument :: joinNumbers (next :: rest)

/-- The letters of the options that are handed on, in their order. -/
def handedOnLetters (given : Given) (settings : Settings) : String :=
  let flags := [
    ('B', settings.alwaysMakes), ('e', settings.environmentWins), ('i', settings.ignoresFailures),
    ('k', settings.keepsGoing), ('L', given.has "L"), ('n', settings.onlyPrints),
    ('p', given.has "p"), ('q', settings.onlyAsks), ('r', settings.noBuiltInRules),
    ('R', given.has "R"), ('s', settings.silent), ('t', settings.onlyTouches),
    ('w', settings.printsDirectory)]
  String.ofList ((flags.filter (·.2)).map (·.1))

/-- The words of the options that are handed on. -/
def handedOnWords (given : Given) : List String :=
  let withValue (letter : String) : List String := (given.values letter).map ("-" ++ letter ++ ·)
  let jobs := if given.has "j" then
      match given.value? "j" with
      | some number => if number == "1" then ["-j1"] else ["-j" ++ number, "--jobserver-auth=3,4"]
      | none => ["-j"]
    else []
  let sync := if given.has "O" then ["-O" ++ (given.value? "O").getD "target"] else []
  let load := if given.has "l" then ["-l" ++ (given.value? "l").getD ""] else []
  let names := ["trace", "no-print-directory", "warn-undefined-variables"].filterMap fun name =>
    if given.has name then some ("--" ++ name) else none
  withValue "I" ++ jobs ++ load ++ sync ++ names

/-- The settings that options make. -/
def settingsOf (given : Given) (level : Nat) : Settings :=
  let keeps := given.last? ["k", "S"] == some "k"
  let silent := given.last? ["s", "no-silent"] == some "s"
  let settings : Settings := {
    alwaysMakes := given.has "B"
    environmentWins := given.has "e"
    ignoresFailures := given.has "i"
    keepsGoing := keeps
    onlyPrints := given.has "n"
    onlyAsks := given.has "q"
    onlyTouches := given.has "t"
    silent
    noBuiltInRules := given.has "r" || given.has "R"
    printsDirectory := !given.has "no-print-directory"
      && (given.has "w" || (!silent && (given.has "C" || 0 < level)))
    includeDirectories := given.values "I" }
  { settings with
    handedOn := " ".intercalate (handedOnLetters given settings :: handedOnWords given) }

/-- The words of a text in which backslashes protect blanks. The fuel bounds the
length. -/
def protectedWords : Nat → List Char → List Char → List String
  | 0, _, word | _, [], word => if word.isEmpty then [] else [String.ofList word.reverse]
  | fuel + 1, '\\' :: c :: rest, word => protectedWords fuel rest (c :: word)
  | fuel + 1, c :: rest, word =>
    if isBlank c then
      (if word.isEmpty then [] else [String.ofList word.reverse]) ++ protectedWords fuel rest []
    else protectedWords fuel rest (c :: word)

/-- The arguments that the options handed on by another run stand for. -/
def argumentsFrom (handedOn : String) : List String :=
  match protectedWords (handedOn.length + 1) handedOn.toList [] with
  | first :: rest =>
    if first.startsWith "-" || first.toList.contains '=' then first :: rest
    else ("-" ++ first) :: rest
  | [] => []

/-- A value as it is handed on. -/
def protectedValue (text : String) : String :=
  String.ofList (text.toList.flatMap fun c =>
    if c == '$' then ['$', '$'] else if isBlank c || c == '\\' then ['\\', c] else [c])

/-- The sign of an operator. -/
def Operator.sign : Operator → String
  | .recursive => "="
  | .simple => ":="
  | .conditional => "?="
  | .append => "+="
  | .shell => "!="

end ProfileGraph.Utility.Make

/-! A run: the makefiles are read and brought up to date themselves, and then the goals
are. The run starts again if a makefile was made anew. -/
namespace ProfileGraph.Utility.Make
open Host

/-- The variables that are known from the start. -/
def standardVariables : List (String × String) := [
  ("AR", "ar"), ("ARFLAGS", "rv"), ("AS", "as"), ("CC", "cc"), ("CXX", "g++"),
  ("CPP", "$(CC) -E"), ("FC", "f77"), ("LD", "ld"), ("LEX", "lex"), ("YACC", "yacc"),
  ("PC", "pc"), ("RM", "rm -f"), ("TEX", "tex"), ("MAKEINFO", "makeinfo"), ("LINT", "lint"),
  ("OUTPUT_OPTION", "-o $@"),
  ("COMPILE.c", "$(CC) $(CFLAGS) $(CPPFLAGS) $(TARGET_ARCH) -c"),
  ("COMPILE.cc", "$(CXX) $(CXXFLAGS) $(CPPFLAGS) $(TARGET_ARCH) -c"),
  ("COMPILE.C", "$(COMPILE.cc)"), ("COMPILE.cpp", "$(COMPILE.cc)"),
  ("COMPILE.s", "$(AS) $(ASFLAGS) $(TARGET_MACH)"),
  ("COMPILE.S", "$(CC) $(ASFLAGS) $(CPPFLAGS) $(TARGET_MACH) -c"),
  ("LINK.o", "$(CC) $(LDFLAGS) $(TARGET_ARCH)"),
  ("LINK.c", "$(CC) $(CFLAGS) $(CPPFLAGS) $(LDFLAGS) $(TARGET_ARCH)"),
  ("LINK.cc", "$(CXX) $(CXXFLAGS) $(CPPFLAGS) $(LDFLAGS) $(TARGET_ARCH)"),
  ("LINK.C", "$(LINK.cc)"), ("LINK.cpp", "$(LINK.cc)"),
  ("LINK.s", "$(CC) $(ASFLAGS) $(LDFLAGS) $(TARGET_MACH)"),
  ("LINK.S", "$(CC) $(ASFLAGS) $(CPPFLAGS) $(LDFLAGS) $(TARGET_MACH)"),
  ("YACC.y", "$(YACC) $(YFLAGS)"), ("LEX.l", "$(LEX) $(LFLAGS) -t"),
  (".LIBPATTERNS", "lib%.so lib%.a")]

/-- The variables that tell of the program itself. -/
def ownVariables (name : String) : List (String × String) := [
  ("SHELL", "/bin/sh"), (".SHELLFLAGS", "-c"), ("MAKE_COMMAND", name), ("MAKE", "$(MAKE_COMMAND)"),
  ("MAKE_VERSION", "4.3"), ("MAKE_HOST", "x86_64-pc-linux-gnu"), ("MAKEFILES", ""),
  ("SUFFIXES", unwords standardSuffixes),
  (".FEATURES", unwords ["target-specific", "order-only", "second-expansion", "else-if",
    "shortest-stem", "undefine", "oneshell", "nocomment", "grouped-target", "extra-prereqs",
    "archives", "jobserver", "output-sync", "check-symlink", "load"])]

/-- The names under which a makefile is looked for. -/
def makefileNames : List String := ["GNUmakefile", "makefile", "Makefile"]

/-- What a run is asked for: its options, its goals, and variables that are set. -/
structure Wish where
  given : Given
  goals : List String
  settings : List String
deriving Repr

/-- Gives a variable a value that nothing but an argument gives. -/
def setFromArgument (text : String) : Making Unit := do
  if let some (name, operator, value) := definition? text then
    let name := trim (← expand evaluateText name)
    let old := (← get).bindings.lookup name
    let given ← assignedValue evaluateText { name, operator, value } old
    if let some (value, isRecursive) := given then
      Making.setVariable name { value, isRecursive, origin := .commandLine }

/-- Sets the variables that are there before anything is read. -/
def setVariables (wish : Wish) : Making Unit := do
  let process ← Making.job read
  let settings := (← get).settings
  let standard := if wish.given.has "R" then [] else standardVariables
  for (name, value) in standard ++ ownVariables process.name do
    Making.setVariable name { value, origin := .standard }
  for (name, entry) in partVariables do
    modify fun state => { state with bindings := (name, entry) :: state.bindings }
  let outer := if settings.environmentWins then Origin.environmentOverride else .environment
  for (name, value) in process.environment do
    unless ["SHELL", "MAKEFLAGS", "MFLAGS", "MAKELEVEL", "MAKEOVERRIDES"].contains name do
      Making.setVariable name { value, origin := outer, exported := some true }
  let tree ← Making.job Job.tree
  Making.setVariable "CURDIR" { value := placePath tree.workingDirectory, isRecursive := false }
  Making.setVariable ".DEFAULT_GOAL" { value := "", isRecursive := false }
  Making.setVariable "MAKELEVEL"
    { value := toString (← get).level, origin := .environment, exported := some true }
  Making.setVariable "MAKECMDGOALS"
    { value := unwords wish.goals, isRecursive := false, origin := .standard }
  for text in wish.settings do setFromArgument text
  let overrides := unwords (wish.settings.reverse.filterMap fun text =>
    (definition? text).map fun (name, operator, value) =>
      protectedValue (name ++ operator.sign ++ value))
  unless overrides.isEmpty do
    Making.setVariable "MAKEOVERRIDES"
      { value := overrides, isRecursive := false, exported := some true }
  let flags := settings.handedOn
  let all := if overrides.isEmpty then flags else flags ++ " -- " ++ overrides
  Making.setVariable "MAKEFLAGS" { value := all, isRecursive := false, exported := some true }
  let short := if flags.isEmpty then "" else if flags.startsWith " " then (flags.drop 1).toString
    else "-" ++ flags
  Making.setVariable "MFLAGS" { value := short, isRecursive := false, exported := some true }

/-- Reads a makefile that was asked for. -/
def readSource (path : String) (isOptional : Bool) : Making Unit := do
  let found ←
    if path == "-" then Making.job (Job.readDescriptor 0) else Making.job (Job.readPath path)
  match found with
  | .ok text =>
    modify fun state => { state with
      sources := { path, place := none, fault := none, isOptional } :: state.sources }
    readText maxReadDepth path none text
  | .error reason =>
    modify fun state => { state with
      sources := { path, place := none, fault := some reason, isOptional } :: state.sources }

/-- Reads the makefiles. -/
def readSources (given : Given) : Making Unit := do
  modify fun state => { state with suffixes := standardSuffixes }
  let listed := (← Making.find? "MAKEFILES").map (·.value)
  for path in words (listed.getD "") do readSource path true
  for text in given.values "E" do evaluateText text
  match given.values "f" with
  | [] =>
    let tree ← Making.job Job.tree
    if let some path := makefileNames.find? fun path => (tree.find path).isOk then
      readSource path false
  | paths => for path in paths do readSource path false
  unless (← get).settings.noBuiltInRules do
    for (name, lines) in standardSuffixRules do
      let known := ((← Making.target? name).bind (·.rule.recipe)).isSome
      if (← get).suffixes != [] && !known then
        Making.modifyTarget name fun target =>
          { target with rule := { target.rule with recipe := some { place := none, lines } } }
  completePatterns

/-- Brings the makefiles up to date. The result tells whether one of them was made. -/
def remakeSources : Making Bool := do
  let settings := (← get).settings
  let sources := (← get).sources
  modify fun state => { state with
    remakesSources := true
    settings := { settings with
      onlyPrints := false, onlyAsks := false, onlyTouches := false } }
  let mut isRemade := false
  for source in sources do
    let target ← Making.target? source.path
    let isAlwaysMade := match target with
      | some target => target.ownRules.any fun rule =>
        rule.prerequisites.isEmpty && rule.recipe.isSome
      | none => false
    unless isAlwaysMade || source.path == "-" do
      let stamp (tree : FileTree) : Option Nat :=
        (tree.find (Octets.toText source.path)).toOption.map fun (_, node) => node.modified
      let before := stamp (← Making.job Job.tree)
      let outcome ← update maxChain 0 none source.path
      let after := stamp (← Making.job Job.tree)
      if outcome == .failed && !source.isOptional then
        Making.complainAt none ("Failed to remake makefile '" ++ source.path ++ "'.")
      if after.isSome && after != before then isRemade := true
  modify fun state => { state with
    remakesSources := false
    settings
    outcomes := state.outcomes.filter (·.2 == .done) }
  return isRemade

/-- The goals of a run. -/
def chooseGoals (wish : Wish) : Making (List String) := do
  if !wish.goals.isEmpty then
    return wish.goals.map fun name => String.ofList (plainName name.toList)
  else
    match words (← expand evaluateText "$(.DEFAULT_GOAL)") with
    | [] =>
      if (← get).sources.all (·.isOptional) then
        Making.stop "No targets specified and no makefile found"
      else Making.stop "No targets"
    | [goal] => return [goal]
    | _ => Making.stop ".DEFAULT_GOAL contains more than one target"

/-- Goes into the directories that options name. -/
def enterDirectories (given : Given) : Making Unit := do
  for path in given.values "C" do
    if path.isEmpty then Making.stop "empty string invalid as file name"
    let tree ← Making.job Job.tree
    match tree.find (Octets.toText path) with
    | .ok (place, node) =>
      if node.isDirectory then Making.job (modify (·.backIn place))
      else Making.stop (path ++ ": " ++ OsError.notDirectory.description)
    | .error reason => Making.stop (path ++ ": " ++ reason.description)

/-- Marks the files that options call new or old. -/
def markFiles (given : Given) : Making Unit := do
  for path in given.values "o" do
    setAge path (some .ancient)
    note path .done
  for path in given.values "W" do setAge path (some .fresh)

/-- Does what a run is for. The fuel bounds how often it starts again. -/
def runFrom (wish : Wish) : Nat → State → Making Outcome
  | 0, _ => return .failed
  | fuel + 1, start => do
    let hasSpoken := (← get).hasSpoken
    set { start with hasSpoken }
    setVariables wish
    readSources wish.given
    markFiles wish.given
    if (← remakeSources) then
      removeIntermediates []
      runFrom wish fuel start
    else
      let goals ← chooseGoals wish
      let mut outcome := Outcome.done
      for goal in goals do
        let new ← updateGoal goal
        outcome := outcome.worse new
        if new != .done && !(← get).settings.keepsGoing then break
      return outcome

/-- How often a run starts again. -/
def maxRestarts : Nat := 20

/-- Does a run and says how it ended. -/
def runAll (wish : Wish) : Making Nat := do
  enterDirectories wish.given
  if wish.goals.contains "" then Making.stop "empty string invalid as file name"
  let start ← get
  let outcome ← runFrom wish maxRestarts start
  return match outcome with
    | .done => 0
    | .wanting => 1
    | .failed => Making.stopCode

/-- Says that the run leaves its directory, if it has said that it came there. -/
def farewell : Making Unit := do
  let state ← get
  if state.hasSpoken && state.settings.printsDirectory then
    let tree ← Making.job Job.tree
    Making.job (Job.print (state.name ++ ": Leaving directory '"
      ++ placePath tree.workingDirectory ++ "'\n"))

/-- Complains about the use of the program. -/
def misuseText (name text : String) : Job Nat := do
  unless text.isEmpty do Job.complain (name ++ ": " ++ text)
  for line in usage do Job.complain line
  return Making.stopCode

/-- Brings targets up to date, as makefiles say. -/
def makeTargets : Program := fun launcher => do
  let process ← read
  let level := ((process.valueOf? "MAKELEVEL").bind (·.toNat?)).getD 0
  let name := nameOf process.name ++ if level = 0 then "" else "[" ++ toString level ++ "]"
  let inherited := argumentsFrom ((process.valueOf? "MAKEFLAGS").getD "")
  match Given.read optionForms false inherited,
      Given.read optionForms false (joinNumbers process.arguments) with
  | .error fault, _ | _, .error fault => return .code (← misuseText name fault.message)
  | .ok outer, .ok own =>
    let given : Given := { own with options := outer.options ++ own.options }
    let badCount := (given.values "j").any fun text =>
      (text.toNat?).getD 0 == 0 || !text.toList.all Char.isDigit
    if badCount then
      return .code (← misuseText name "the '-j' option requires a positive integer argument")
    else if given.has "h" || given.has "help" then
      for line in usage do Job.print (line ++ "\n")
      return .code 0
    else if given.has "v" || given.has "version" then
      Job.print "GNU Make 4.3\nBuilt for x86_64-pc-linux-gnu\n"
      return .code 0
    else
      let isSetting (text : String) : Bool := (definition? text).isSome
      let wish : Wish := {
        given
        goals := own.operands.filter (!isSetting ·)
        settings := (outer.operands ++ own.operands).filter isSetting }
      let start : State := { settings := settingsOf given level, name, level }
      let ended ← ((runAll wish).run launcher).run.run start
      let (code, state) := match ended with
        | (.ok code, state) => (code, state)
        | (.error code, state) => (code, state)
      let _ ← (((do removeIntermediates wish.goals; farewell) : Making Unit).run launcher).run.run state
      return .code code

end ProfileGraph.Utility.Make
