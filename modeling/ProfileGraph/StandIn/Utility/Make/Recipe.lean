import ProfileGraph.StandIn.Utility.Make.Reader

/-! Rules for patterns, and how one is found for a target without commands. A rule
serves if everything that it needs is there or known, or can be made by other rules
for patterns. The closest fit is tried first. -/
namespace ProfileGraph.Utility.Make
open Host

/-- The suffixes that are known from the start. -/
def standardSuffixes : List String := [".out", ".a", ".ln", ".o", ".c", ".cc", ".C", ".cpp", ".p",
  ".f", ".F", ".m", ".r", ".y", ".l", ".ym", ".yl", ".s", ".S", ".mod", ".sym", ".def", ".h",
  ".info", ".dvi", ".tex", ".texinfo", ".texi", ".txinfo", ".w", ".ch", ".web", ".sh", ".elc", ".el"]

/-- The rules for suffixes that are known from the start. -/
def standardSuffixRules : List (String × List String) := [
  (".o", ["$(LINK.o) $^ $(LOADLIBES) $(LDLIBS) -o $@"]),
  (".c", ["$(LINK.c) $^ $(LOADLIBES) $(LDLIBS) -o $@"]),
  (".cc", ["$(LINK.cc) $^ $(LOADLIBES) $(LDLIBS) -o $@"]),
  (".C", ["$(LINK.C) $^ $(LOADLIBES) $(LDLIBS) -o $@"]),
  (".cpp", ["$(LINK.cpp) $^ $(LOADLIBES) $(LDLIBS) -o $@"]),
  (".s", ["$(LINK.s) $^ $(LOADLIBES) $(LDLIBS) -o $@"]),
  (".S", ["$(LINK.S) $^ $(LOADLIBES) $(LDLIBS) -o $@"]),
  (".sh", ["cat $< >$@ ", "chmod a+x $@"]),
  (".s.o", ["$(COMPILE.s) -o $@ $<"]),
  (".S.o", ["$(COMPILE.S) -o $@ $<"]),
  (".c.o", ["$(COMPILE.c) $(OUTPUT_OPTION) $<"]),
  (".cc.o", ["$(COMPILE.cc) $(OUTPUT_OPTION) $<"]),
  (".C.o", ["$(COMPILE.C) $(OUTPUT_OPTION) $<"]),
  (".cpp.o", ["$(COMPILE.cpp) $(OUTPUT_OPTION) $<"]),
  (".y.c", ["$(YACC.y) $< ", "mv -f y.tab.c $@"]),
  (".l.c", ["@$(RM) $@ ", "$(LEX.l) $< > $@"])]

/-- The rules for patterns that are known from the start. -/
def standardPatterns : List PatternRule := [
  { targets := [⟨[], ".out".toList⟩], prerequisites := ["%"], orderOnly := []
    recipe := some ⟨none, ["@rm -f $@", "cp $< $@"]⟩, isTerminal := false }]

/-- The rules for patterns that rules for suffixes stand for. A suffix itself is a rule
that makes nothing, but keeps rules for all names away. -/
def suffixPatterns (targets : List Target) (suffixes : List String) : List PatternRule :=
  let recipe? (name : String) : Option Recipe :=
    (targets.find? (·.name == name)).bind (·.rule.recipe)
  let rule (target : String) (needed : List String) (recipe : Option Recipe) : PatternRule :=
    { targets := [⟨[], target.toList⟩], prerequisites := needed, orderOnly := [], recipe }
  suffixes.flatMap fun source =>
    let needed := ["%" ++ source]
    rule source [] none ::
      ((recipe? source).map fun recipe => rule "" needed (some recipe)).toList
      ++ suffixes.filterMap fun target =>
        if source == target then none
        else (recipe? (source ++ target)).map fun recipe => rule target needed (some recipe)

/-- How a target fits a rule. -/
structure Fit where
  /-- The number of the rule. -/
  number : Nat
  rule : PatternRule
  /-- The pattern of the rule that the target fits. -/
  pattern : Pattern
  stem : List Char
  /-- The directory of the target, if the pattern speaks of names only. -/
  directory : List Char
deriving Repr

namespace Pattern

/-- Whether a pattern stands for all names. -/
def fitsAll (pattern : Pattern) : Bool := pattern.front.isEmpty && pattern.back.isEmpty

/-- How a target fits a pattern: the directory that is left out, and the stem. -/
def fit? (pattern : Pattern) (name : List Char) : Option (List Char × List Char) :=
  let directory := (name.reverse.dropWhile (· != '/')).reverse
  let isNameOnly := !directory.isEmpty && !(pattern.front ++ pattern.back).contains '/'
  let directory := if isNameOnly then directory else []
  match pattern.stem? (name.drop directory.length) with
  | some stem => if directory.isEmpty && stem.isEmpty then none else some (directory, stem)
  | none => none

end Pattern

/-- The fits of a target, the closest one first. A rule for all names is no way to
make something that another rule needs, and none for a target that some other rule
fits. -/
def fits (rules : List (Nat × PatternRule)) (isInner : Bool) (name : String) : List Fit :=
  let found := rules.flatMap fun (number, rule) =>
    if rule.recipe.isNone && !(rule.prerequisites ++ rule.orderOnly).isEmpty then []
    else rule.targets.filterMap fun pattern =>
      if isInner && pattern.fitsAll && !rule.isTerminal then none
      else (pattern.fit? name.toList).map fun (directory, stem) =>
        ({ number, rule, pattern, stem, directory } : Fit)
  let isSpecific := found.any (!·.pattern.fitsAll)
  let useful := found.filter fun fit =>
    fit.rule.recipe.isSome
      && (fit.rule.isTerminal || !isSpecific || !fit.rule.targets.any Pattern.fitsAll)
  useful.mergeSort fun a b =>
    a.stem.length + a.directory.length ≤ b.stem.length + b.directory.length

/-- A way to make a target. -/
structure Finding where
  rule : PatternRule
  stem : String
  prerequisites : List String
  orderOnly : List String
  siblings : List String
deriving Repr

namespace Fit

/-- A word of a rule for a target that fits it. -/
def word (fit : Fit) (text : String) : String :=
  match Pattern.read? text with
  | some pattern => String.ofList fit.directory ++ pattern.fill fit.stem
  | none => text

/-- The way to make a target that a fit is. -/
def finding (fit : Fit) : Finding :=
  let stem := fit.directory ++ fit.stem
  { rule := fit.rule
    stem := String.ofList stem
    prerequisites := fit.rule.prerequisites.map fit.word
    orderOnly := fit.rule.orderOnly.map fit.word
    siblings := (fit.rule.targets.filter (· != fit.pattern)).map (·.fill stem) }

end Fit

/-- Looks for a way to make a target. The result also has the ways to make what is
missing. `isKnown` says what needs no way. The fuel bounds the number of rules. -/
def search (isKnown : String → Bool) : Nat → List (Nat × PatternRule) → Bool → String →
    Option (Finding × List (String × Finding))
  | 0, _, _, _ => none
  | fuel + 1, rules, isInner, name =>
    let fits := fits rules isInner name
    let direct := fits.findSome? fun fit =>
      let finding := fit.finding
      if (finding.prerequisites ++ finding.orderOnly).all isKnown then some (finding, [])
      else none
    match direct with
    | some found => some found
    | none => fits.findSome? fun fit =>
      if fit.rule.isTerminal then none
      else
        let finding := fit.finding
        let others := rules.filter (·.1 != fit.number)
        let ways := (finding.prerequisites ++ finding.orderOnly).mapM fun needed =>
          if isKnown needed then some []
          else (search isKnown fuel others true needed).map fun (way, inner) =>
            inner ++ [(needed, way)]
        ways.map fun ways => (finding, ways.flatten)

/-- Where a file is that is not where its name says. -/
def elsewhere? (tree : FileTree) (paths : List (String × List String)) (general : List String)
    (name : String) : Option String :=
  let special := paths.flatMap fun (pattern, directories) =>
    if fitsOne [pattern] name then directories else []
  if name.startsWith "/" then none
  else (special ++ general).findSome? fun directory =>
    let path := directory ++ "/" ++ name
    if (tree.find (Octets.toText path)).isOk then some path else none

/-- Looks for a file that is not where its name says. -/
def foundElsewhere : Making (String → Option String) := do
  let general := directoriesIn (← expand evaluateText "$(VPATH)")
  let tree ← Making.job Job.tree
  return elsewhere? tree (← get).searchPaths general

/-- Whether a name stands in a makefile. -/
def isMentioned (targets : List Target) (name : String) : Bool :=
  targets.any fun target => target.name == name
    || (target.rule :: target.ownRules).any fun rule =>
      rule.prerequisites.contains name || rule.orderOnly.contains name

/-- Makes a way to make a target its rule. -/
def adopt (name : String) (finding : Finding) : Making Unit := do
  Making.modifyTarget name fun target =>
    { target with
      isTarget := true
      siblings := finding.siblings
      rule := { target.rule with
        prerequisites := finding.prerequisites ++ target.rule.prerequisites
        orderOnly := finding.orderOnly ++ target.rule.orderOnly
        recipe := finding.rule.recipe
        stem := some finding.stem } }
  if finding.rule.isTerminal then
    modify fun state => { state with searched := finding.prerequisites ++ state.searched }

/-- Looks for a rule for a target without commands. -/
def findRule (name : String) : Making Unit := do
  let state ← get
  unless state.searched.contains name do
    let tree ← Making.job Job.tree
    let own := match state.targets.find? (·.name == name) with
      | some target => target.rule.prerequisites ++ target.rule.orderOnly
      | none => []
    let findElsewhere ← foundElsewhere
    let isKnown (needed : String) : Bool :=
      own.contains needed || isMentioned state.targets needed
        || (tree.find (Octets.toText needed)).isOk || (findElsewhere needed).isSome
    let rules := state.patterns.zipIdx.map fun (rule, number) => (number, rule)
    match search isKnown (rules.length + 1) rules false name with
    | some (finding, inner) =>
      adopt name finding
      for (needed, way) in inner do
        adopt needed way
        modify fun state => { state with
          searched := needed :: state.searched
          intermediates := state.intermediates ++ [needed] }
    | none => pure ()
    modify fun state => { state with searched := name :: state.searched }

/-- Puts the rules that are known from the start behind those that were read. -/
def completePatterns : Making Unit := do
  modify fun state =>
    let standard := if state.settings.noBuiltInRules then [] else standardPatterns
    { state with patterns := state.patterns ++ suffixPatterns state.targets state.suffixes ++ standard }

end ProfileGraph.Utility.Make

/-! How the commands of a rule are run. All of them are expanded before the first one
is run; each is written to the output unless it is marked as silent, and the first
one that fails ends the rule unless failures are ignored. -/
namespace ProfileGraph.Utility.Make
open Host

/-- Something that a target needs. -/
structure Need where
  name : String
  /-- It must be there first, but may be newer. -/
  isOrderOnly : Bool
  /-- It is newer than the target, or was made. -/
  isChanged : Bool := false
deriving Repr

/-- The names in their order, each once. -/
def distinct (names : List String) : List String :=
  names.foldl (fun seen name => if seen.contains name then seen else seen ++ [name]) []

/-- The variables that tell commands of the target and of what it needs. -/
def automaticScope (name stem first : String) (needs : List Need) (always : Bool) :
    List (String × Variable) :=
  let normal := needs.filter (!·.isOrderOnly)
  let all := distinct (normal.map (·.name))
  let changed := distinct ((normal.filter fun need => need.isChanged || always).map (·.name))
  let ordered := distinct ((needs.filter (·.isOrderOnly)).map (·.name))
  let values := [
    ("@", name), ("<", first), ("*", stem), ("%", ""),
    ("^", unwords all), ("+", unwords (normal.map (·.name))), ("?", unwords changed),
    ("|", unwords (ordered.filter (!all.contains ·)))]
  values.map fun (name, value) => (name, { value, isRecursive := false, origin := .automatic })

/-- The variables that are the directories and the names in other ones. -/
def partVariables : List (String × Variable) :=
  ["@", "%", "*", "<", "?", "^", "+"].flatMap fun name =>
    [(name ++ "D", { value := "$(patsubst %/,%,$(dir $" ++ name ++ "))", origin := .automatic }),
      (name ++ "F", { value := "$(notdir $" ++ name ++ ")", origin := .automatic })]

/-- The stem of a target for which no rule gives one. -/
def stemBySuffix (suffixes : List String) (name : String) : String :=
  match suffixes.find? fun suffix => name.endsWith suffix && suffix.length < name.length with
  | some suffix => (name.dropEnd suffix.length).toString
  | none => ""

/-- Whether a variable can be handed on to a program. -/
def isExportable (name : String) : Bool :=
  match name.toList with
  | first :: rest =>
    (first.isAlpha || first == '_') && rest.all fun c => c.isAlphanum || c == '_'
  | [] => false

/-- Whether a variable is handed on to programs. -/
def isHandedOn (exportsAll : Bool) (name : String) (entry : Variable) (general : Option Variable) :
    Bool :=
  match entry.exported <|> general.bind (·.exported) with
  | some exported => exported
  | none =>
    match entry.origin with
    | .standard | .automatic => false
    | .commandLine | .environment | .environmentOverride => isExportable name
    | .file | .override => exportsAll && isExportable name

/-- The environment in which commands are run. -/
def commandEnvironment : Making (List (String × String)) := do
  let state ← get
  let inner := (state.scopes.flatMap fun scope => scope.map (·.1))
  let names := distinct (inner ++ state.bindings.map (·.1))
  let inherited := (← Making.job read).environment
  let mut environment := []
  for name in names do
    if name != "SHELL" && name != "MAKELEVEL" then
      if let some entry := (← Making.find? name) then
        if isHandedOn state.exportsAll name entry (state.bindings.lookup name) then
          let isPlain := entry.origin = .environment || entry.origin = .environmentOverride
          let value ←
            if entry.isRecursive && !isPlain then expand evaluateText entry.value
            else pure entry.value
          environment := environment ++ [(name, value)]
  let shell := (inherited.lookup "SHELL").map fun value => ("SHELL", value)
  return environment ++ shell.toList ++ [("MAKELEVEL", toString (state.level + 1))]

/-- What the marks in front of a command say. -/
structure Marks where
  isSilent : Bool := false
  ignoresFailure : Bool := false
  /-- The command is run even if commands are only printed. -/
  isAlwaysRun : Bool := false
deriving Repr

/-- Takes the marks off a command. -/
def takeMarks : Marks → List Char → Marks × List Char
  | marks, '@' :: rest => takeMarks { marks with isSilent := true } rest
  | marks, '-' :: rest => takeMarks { marks with ignoresFailure := true } rest
  | marks, '+' :: rest => takeMarks { marks with isAlwaysRun := true } rest
  | marks, ' ' :: rest | marks, '\t' :: rest => takeMarks marks rest
  | marks, text => (marks, text)

/-- Whether a command runs this program again. -/
def runsAgain (line : String) : Bool :=
  (line.splitOn "$(MAKE)").length != 1 || (line.splitOn "$\x7bMAKE\x7d").length != 1

/-- The commands that an expanded line holds. A backslash protects the end of a
line. -/
def splitCommands : List Char → List Char → List (List Char)
  | [], command => [command.reverse]
  | '\\' :: '\n' :: rest, command => splitCommands rest ('\n' :: '\\' :: command)
  | '\n' :: rest, command => command.reverse :: splitCommands rest []
  | c :: rest, command => splitCommands rest (c :: command)

/-- Whether a recipe has nothing to run. -/
def Recipe.isEmpty (recipe : Recipe) : Bool :=
  recipe.lines.all fun line => line.toList.all fun c => isBlank c || "-@+".toList.contains c

/-- The place of a command of a recipe, as messages name it. -/
def Recipe.placeName (recipe : Recipe) (index : Nat) : String :=
  match recipe.place with
  | some place => place.file ++ ":" ++ toString (place.line + index)
  | none => "<builtin>"

/-- What went wrong with a command. -/
def failureText : ExitStatus → String
  | .code code => "Error " ++ toString code
  | .signal number => Signal.describe number

/-- Whether commands are not printed. -/
def isSilent : Making Bool := do
  let names ← Making.special? ".SILENT"
  return (← get).settings.silent || names == some []

/-- Whether failures of commands are ignored. -/
def ignoresFailures : Making Bool := do
  let names ← Making.special? ".IGNORE"
  return (← get).settings.ignoresFailures || names == some []

/-- Removes a target that commands have left half made. -/
def deleteTarget (name : String) (before : Age) : Making Unit := do
  let tree ← Making.job Job.tree
  let precious := ((← Making.special? ".PRECIOUS").getD []).contains name
  unless precious || (← Making.isPhony name) do
    match tree.find (Octets.toText name) with
    | .ok (place, node) =>
      if node.isRegular && before != .changed node.modified then
        Making.complainAt none ("*** Deleting file '" ++ name ++ "'")
        Making.job (modify fun machine => { machine with tree := machine.tree.erase place })
    | .error _ => pure ()

/-- The lines of a recipe with everything expanded, each with its number. -/
def expandedLines (recipe : Recipe) (isOne : Bool) : Making (List (Nat × String × Bool)) := do
  let lines := if isOne then ["\n".intercalate recipe.lines] else recipe.lines
  let old := (← get).place
  let mut expanded := []
  for (line, index) in lines.zipIdx do
    let place := recipe.place.map fun place => { place with line := place.line + index }
    modify fun state => { state with place }
    let text ← expand evaluateText line
    expanded := expanded ++ [(index, text, runsAgain line)]
  modify fun state => { state with place := old }
  return expanded

/-- Runs a command of a recipe and says how it ended. -/
def runLine (command : String) (environment : List (String × String)) : Making ExitStatus := do
  Making.announce
  let shell ← expand evaluateText "$(SHELL)"
  let flags ← expand evaluateText "$(.SHELLFLAGS)"
  return (← runCommand (if shell.isEmpty then "/bin/sh" else shell) flags command
    environment).getD (.code 0)

/-- Deals with a command that failed. The result says that the rule has failed. -/
def handleFailure (name : String) (recipe : Recipe) (index : Nat) (status : ExitStatus)
    (isIgnored : Bool) (before : Age) (isOptional : Bool) : Making Bool := do
  let text := "[" ++ recipe.placeName index ++ ": " ++ name ++ "] " ++ failureText status
  if isIgnored then
    unless (← isSilent) do Making.complainAt none (text ++ " (ignored)")
    return false
  else
    unless isOptional do Making.complainAt none ("*** " ++ text)
    let isSignal := match status with
      | .signal _ => true
      | .code _ => false
    if isSignal || (← Making.special? ".DELETE_ON_ERROR").isSome then deleteTarget name before
    unless isOptional || (← get).settings.keepsGoing do throw Making.stopCode
    return true

/-- Runs the commands of a recipe. -/
def runRecipe (name : String) (recipe : Recipe) (before : Age) (isOptional : Bool) :
    Making Outcome := do
  let settings := (← get).settings
  let isOne := (← Making.special? ".ONESHELL").isSome
  let lines ← expandedLines recipe isOne
  let silentNames := (← Making.special? ".SILENT").getD []
  let ignoredNames := (← Making.special? ".IGNORE").getD []
  let isAllSilent := (← isSilent) || silentNames.contains name
  let isAllIgnored := (← ignoresFailures) || ignoredNames.contains name
  let mut environment : Option (List (String × String)) := none
  for (index, text, runsAgain) in lines do
    let (outer, _) := takeMarks { isAlwaysRun := runsAgain }
      ((recipe.lines[index]?).getD "").toList
    let pieces := if isOne then [text.toList] else splitCommands text.toList []
    for piece in pieces do
      let (marks, command) := takeMarks outer piece
      let command := String.ofList command
      unless (trim command).isEmpty do
        let isRun := marks.isAlwaysRun || !(settings.onlyPrints || settings.onlyTouches)
        if settings.onlyAsks && !marks.isAlwaysRun then return .wanting
        unless settings.onlyTouches && !marks.isAlwaysRun do
          if settings.onlyPrints || !(marks.isSilent || isAllSilent) then Making.say command
          modify fun state => { state with commandCount := state.commandCount + 1 }
        if isRun then
          let given ← match environment with
            | some given => pure given
            | none => commandEnvironment
          environment := some given
          let status ← runLine command given
          unless status.isSuccess do
            if settings.onlyAsks && status == .code 1 then return .wanting
            let isIgnored := marks.ignoresFailure || isAllIgnored
            if (← handleFailure name recipe index status isIgnored before isOptional) then
              return .failed
  return .done

end ProfileGraph.Utility.Make
