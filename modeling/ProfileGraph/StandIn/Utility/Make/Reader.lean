import ProfileGraph.StandIn.Utility.Make.Lines

/-! Reading makefiles. What a line says takes effect at once; a rule is finished by
the first line that does not belong to it. -/
namespace ProfileGraph.Utility.Make
open Host

/-- A condition around lines. -/
structure Condition where
  /-- Its lines are read. -/
  isActive : Bool
  /-- One of its branches has been read. -/
  isDone : Bool
  hasElse : Bool := false
deriving Repr

/-- A rule whose commands are read. -/
structure PendingRule where
  place : Place
  targets : List String
  isDouble : Bool
  pattern : Option String := none
  prerequisites : List String
  orderOnly : List String
  commands : List String := []
  /-- The place of the first command. -/
  recipePlace : Option Place := none
deriving Repr

/-- A variable whose lines are read. -/
structure Defining where
  assignment : Assignment
  place : Place
  lines : List String := []
  /-- How many definitions have begun in it. -/
  depth : Nat := 0
  isIgnored : Bool := false
deriving Repr

/-- What has been read of a makefile. -/
structure Reading where
  pending : Option PendingRule := none
  /-- Commands belong to a rule without targets. -/
  skipsCommands : Bool := false
  conditions : List Condition := []
  defining : Option Defining := none
deriving Repr

/-- Whether lines are passed over. -/
def Reading.isIgnoring (reading : Reading) : Bool := reading.conditions.any (!·.isActive)

/-- What reading depends on: how a text is read that was put together. -/
abbrev Evaluate := String → Making Unit

/-- The name of a target without needless steps in front. -/
def plainName : List Char → List Char
  | '.' :: '/' :: rest =>
    if (rest.dropWhile (· == '/')).isEmpty then '.' :: '/' :: rest
    else plainName (rest.dropWhile (· == '/'))
  | text => text
termination_by text => text.length
decreasing_by
  have := (List.dropWhile_suffix (p := (· == '/')) (l := rest)).length_le
  simp only [List.length_cons]
  omega

/-- The names of files that words stand for. -/
def fileNames (text : String) : Making (List String) := do
  let tree ← Making.job Job.tree
  return (words text).flatMap fun word =>
    let name := String.ofList (plainName word.toList)
    if name.toList.any fun c => c == '*' || c == '?' || c == '[' then
      match globPaths tree name with
      | [] => [name]
      | paths => paths
    else [name]

/-- Sets options that a variable gives. -/
def takeFlags (value : String) : Making Unit := do
  for word in words value do
    let letters := if word.startsWith "--" then "" else if word.startsWith "-" then (word.drop 1).toString
      else ""
    let has (letter : Char) (name : String) : Bool := letters.toList.contains letter || word == name
    modify fun state => { state with
      settings := { state.settings with
        silent := state.settings.silent || has 's' "--silent" || word == "--quiet"
        keepsGoing := state.settings.keepsGoing || has 'k' "--keep-going"
        ignoresFailures := state.settings.ignoresFailures || has 'i' "--ignore-errors"
        noBuiltInRules := state.settings.noBuiltInRules || has 'r' "--no-builtin-rules"
        printsDirectory := state.settings.printsDirectory && word != "--no-print-directory" } }

/-- The value that an assignment gives a variable whose old value is known. -/
def assignedValue (evaluate : Evaluate) (assignment : Assignment) (old : Option Variable) :
    Making (Option (String × Bool)) := do
  match assignment.operator with
  | .recursive => return some (assignment.value, true)
  | .simple => return some (← expand evaluate assignment.value, false)
  | .conditional => return if old.isSome then none else some (assignment.value, true)
  | .append =>
    match old with
    | none => return some (assignment.value, true)
    | some old =>
      let value ←
        if old.isRecursive then pure assignment.value else expand evaluate assignment.value
      let whole := if old.value.isEmpty then value else old.value ++ " " ++ value
      return some (whole, old.isRecursive)
  | .shell =>
    let command ← expand evaluate assignment.value
    return some (outputWords (← shellOutput command), true)

/-- Does what an assignment says. -/
def assign (evaluate : Evaluate) (assignment : Assignment) : Making Unit := do
  let name := trim (← expand evaluate assignment.name)
  if name.isEmpty then Making.stop "empty variable name"
  let old := (← get).bindings.lookup name
  let origin := if assignment.isOverride then Origin.override else .file
  match (← assignedValue evaluate assignment old) with
  | none =>
    if assignment.exported.isSome then
      if let some old := old then
        Making.setVariable name { old with exported := assignment.exported }
  | some (value, isRecursive) =>
    let place := (← get).place
    Making.setVariable name
      { value, isRecursive, origin, exported := assignment.exported, place }
  if name == ".RECIPEPREFIX" then
    let value := ((← get).bindings.lookup name).map (·.value)
    modify fun state => { state with recipeMark := ((value.getD "").toList.head?).getD '\t' }
  if name == "MAKEFLAGS" then
    takeFlags (((← get).bindings.lookup name).map (·.value) |>.getD "")

/-- Takes over a rule for patterns. -/
def addPatternRule (rule : PendingRule) (recipe : Option Recipe) : Making Unit := do
  let patterns := rule.targets.filterMap Pattern.read?
  if patterns.length != rule.targets.length then
    Making.stopAt rule.place "mixed implicit and normal rules: deprecated syntax"
  let isSame (old : PatternRule) : Bool :=
    old.targets == patterns && old.prerequisites == rule.prerequisites
  modify fun state =>
    if recipe.isNone && rule.prerequisites.isEmpty then
      { state with patterns := state.patterns.filter fun old => !(old.targets == patterns) }
    else
      { state with
        patterns := state.patterns.filter (!isSame ·) ++ [{
          targets := patterns, prerequisites := rule.prerequisites, orderOnly := rule.orderOnly
          recipe, isTerminal := rule.isDouble }] }

/-- Warns that commands replace others. -/
def warnAboutRecipes (name : String) (old new : Recipe) : Making Unit := do
  if old.place.isSome then
    Making.complainAt new.place ("warning: overriding recipe for target '" ++ name ++ "'")
    Making.complainAt old.place ("warning: ignoring old recipe for target '" ++ name ++ "'")

/-- Takes over a rule for a target. -/
def addTargetRule (pending : PendingRule) (recipe : Option Recipe) (name : String) :
    Making Unit := do
  let old ← Making.target? name
  let mut stem := none
  let mut prerequisites := pending.prerequisites
  let mut orderOnly := pending.orderOnly
  if let some text := pending.pattern then
    match (Pattern.read? text).bind (·.stem? name.toList) with
    | none =>
      Making.complainAt pending.place ("target '" ++ name ++ "' doesn't match the target pattern")
    | some found =>
      stem := some (String.ofList found)
      prerequisites := prerequisites.map fun word => fillStem word found
      orderOnly := orderOnly.map fun word => fillStem word found
  let rule : Rule := { prerequisites, orderOnly, recipe, stem }
  if pending.isDouble then
    if let some old := old then
      if old.isTarget && old.ownRules.isEmpty then
        Making.stopAt pending.place ("target file '" ++ name ++ "' has both : and :: entries")
    Making.modifyTarget name fun target =>
      { target with isTarget := true, ownRules := target.ownRules ++ [rule] }
  else
    if let some old := old then
      if !old.ownRules.isEmpty then
        Making.stopAt pending.place ("target file '" ++ name ++ "' has both : and :: entries")
      if let (some first, some second) := (old.rule.recipe, recipe) then
        warnAboutRecipes name first second
    Making.modifyTarget name fun target =>
      let before := target.rule
      let (prerequisites, orderOnly) :=
        if recipe.isSome then
          (prerequisites ++ before.prerequisites, orderOnly ++ before.orderOnly)
        else (before.prerequisites ++ prerequisites, before.orderOnly ++ orderOnly)
      { target with
        isTarget := true
        rule := { prerequisites, orderOnly, recipe := recipe <|> before.recipe
                  stem := stem <|> before.stem } }

/-- Finishes the rule whose commands were read. -/
def finishRule (reading : Reading) : Making Reading := do
  match reading.pending with
  | none => return reading
  | some pending =>
    let recipe := pending.recipePlace.map fun place => ({ place := some place, lines := pending.commands } : Recipe)
    let first := pending.targets.headD ""
    if pending.pattern.isNone && (Pattern.read? first).isSome then addPatternRule pending recipe
    else
      for name in pending.targets do
        if pending.pattern.isNone && (Pattern.read? name).isSome then
          Making.stopAt pending.place "mixed implicit and normal rules: deprecated syntax"
        if name == ".SUFFIXES" then
          modify fun state => { state with
            suffixes := if pending.prerequisites.isEmpty then []
              else state.suffixes ++ pending.prerequisites }
        addTargetRule pending recipe name
    return { reading with pending := none }

/-- Takes the first target as the goal, unless there is one or it is no candidate. -/
def proposeGoal (names : List String) : Making Unit := do
  for name in names do
    let goal := (((← get).bindings.lookup ".DEFAULT_GOAL").map (·.value)).getD ""
    let suffixes := (← get).suffixes
    let isSuffixRule := suffixes.any fun a => a == name || suffixes.any fun b => a ++ b == name
    let isCandidate := (!name.startsWith "." || name.toList.contains '/') && !isSuffixRule
      && (Pattern.read? name).isNone
    if goal.isEmpty && isCandidate then
      Making.setVariable ".DEFAULT_GOAL" { value := name, isRecursive := false }

/-- Reads the part of a rule behind its targets. -/
def ruleBehindTargets (evaluate : Evaluate) (place : Place) (targets : List String)
    (rest : String) (command : Option String) : Making PendingRule := do
  let (isDouble, rest) :=
    if rest.startsWith ":" then (true, (rest.drop 1).toString) else (false, rest)
  let expanded ← expand evaluate rest
  let (expanded, command) := match command with
    | some command => (expanded, some command)
    | none =>
      let front := expanded.toList.takeWhile (· != ';')
      if front.length == expanded.length then (expanded, none)
      else (String.ofList front, some (String.ofList (expanded.toList.drop (front.length + 1))))
  let (front, back) := splitAt (· == ':') (expanded.length + 1) expanded.toList
  let (pattern, needs) ←
    if back.isEmpty then pure (none, expanded)
    else match words (String.ofList front) with
      | [] => Making.stop "missing target pattern"
      | [pattern] =>
        if (Pattern.read? pattern).isNone then Making.stop "target pattern contains no '%'"
        else pure (some pattern, String.ofList (back.drop 1))
      | _ => Making.stop "multiple target patterns"
  let needed := needs.toList.takeWhile (· != '|')
  let ordered := (needs.toList.drop (needed.length + 1)).map fun c => if c == '|' then ' ' else c
  return {
    place, targets, isDouble, pattern
    prerequisites := (← fileNames (String.ofList needed))
    orderOnly := (← fileNames (String.ofList ordered))
    commands := (command.map trimFront).toList
    recipePlace := command.map fun _ => place }

/-- Keeps a value for some targets. -/
def assignFor (evaluate : Evaluate) (targets : List String) (assignment : Assignment) :
    Making Unit := do
  let name ← expand evaluate assignment.name
  let assignment ←
    if assignment.operator = .simple then
      pure { assignment with name, value := (← expand evaluate assignment.value) }
    else pure { assignment with name }
  for target in targets do
    match Pattern.read? target with
    | some pattern =>
      modify fun state => { state with
        patternAssignments := state.patternAssignments ++ [(pattern, assignment)] }
    | none =>
      Making.modifyTarget target fun target =>
        { target with assignments := target.assignments ++ [assignment] }

/-- Reads a line that is to be a rule. -/
def readRule (evaluate : Evaluate) (place : Place) (line : String) (reading : Reading) :
    Making Reading := do
  let reading ← finishRule reading
  let (head, back) := splitAt (fun c => c == ';' || c == '#') (line.length + 1) line.toList
  let command := match back with
    | ';' :: rest => some (String.ofList rest)
    | _ => none
  let head := trim (collapsed (String.ofList head))
  if head.isEmpty then Making.stop "missing rule before recipe"
  let (front, behind) := splitAt (· == ':') (head.length + 1) head.toList
  let (targets, rest) ←
    if behind.isEmpty then do
      let expanded ← expand evaluate head
      let (front, behind) := splitAt (· == ':') (expanded.length + 1) expanded.toList
      if behind.isEmpty then
        if (trim expanded).isEmpty then return reading
        else if (← get).recipeMark == '\t' && line.startsWith "        " then
          Making.stop "missing separator (did you mean TAB instead of 8 spaces?)"
        else Making.stop "missing separator"
      else pure (String.ofList front, String.ofList ((behind.drop 1).flatMap fun c =>
        if c == '$' then ['$', '$'] else [c]))
    else pure (← expand evaluate (String.ofList front), String.ofList (behind.drop 1))
  let targets ← fileNames targets
  if targets.isEmpty then return { reading with skipsCommands := true }
  else
    let isDouble := rest.startsWith ":"
    let behindColons := if isDouble then (rest.drop 1).toString else rest
    match variableLine? behindColons with
    | some (.assignment assignment) =>
      let value := match command with
        | some command => assignment.value ++ ";" ++ command
        | none => assignment.value
      assignFor evaluate targets { assignment with value }
      return { reading with skipsCommands := false }
    | _ =>
      proposeGoal targets
      let pending ← ruleBehindTargets evaluate place targets rest command
      return { reading with pending := some pending, skipsCommands := false }

/-- Whether a condition holds. -/
def holds (evaluate : Evaluate) (word rest : String) : Making Bool := do
  if word == "ifdef" || word == "ifndef" then
    let name := trim (← expand evaluate rest)
    let isSet := !((((← Making.find? name).map (·.value)).getD "").isEmpty)
    return isSet == (word == "ifdef")
  else match comparedSides? rest with
    | none => Making.stop "invalid syntax in conditional"
    | some (first, second) =>
      let same := (← expand evaluate first) == (← expand evaluate second)
      return same == (word == "ifeq")

/-- The words that begin conditions. -/
def conditionWords : List String := ["ifeq", "ifneq", "ifdef", "ifndef"]

/-- Reads a line about conditions, if it is one. -/
def readCondition? (evaluate : Evaluate) (line : String) (reading : Reading) :
    Making (Option Reading) := do
  let (word, rest) := firstWord line
  let word' := if conditionWords.any fun known => word.startsWith (known ++ "(") then
      (conditionWords.find? fun known => word.startsWith (known ++ "(")).getD word
    else word
  if word' != word then
    Making.stop "missing separator (ifeq/ifneq must be followed by whitespace)"
  if conditionWords.contains word then
    if reading.isIgnoring then
      return some { reading with
        conditions := { isActive := false, isDone := true } :: reading.conditions }
    else
      let isActive ← holds evaluate word rest
      return some { reading with
        conditions := { isActive, isDone := isActive } :: reading.conditions }
  else if word == "else" then
    match reading.conditions with
    | [] => Making.stop "extraneous 'else'"
    | condition :: outer =>
      if condition.hasElse then Making.stop "only one 'else' per conditional"
      else
        let (second, rest) := firstWord rest
        let isOutside := outer.any (!·.isActive)
        if conditionWords.contains second then
          let isActive ←
            if condition.isDone || isOutside then pure false else holds evaluate second rest
          return some { reading with
            conditions := { isActive, isDone := condition.isDone || isActive } :: outer }
        else
          return some { reading with
            conditions := { isActive := !condition.isDone, isDone := true, hasElse := true }
              :: outer }
  else if word == "endif" then
    match reading.conditions with
    | [] => Making.stop "extraneous 'endif'"
    | _ :: outer => return some { reading with conditions := outer }
  else return none

/-- Reads a line of a definition. -/
def readDefining (evaluate : Evaluate) (defining : Defining) (line : String) (reading : Reading) :
    Making Reading := do
  let (word, _) := firstWord (collapsed line)
  let isCommand := line.toList.head? == some (← get).recipeMark
  let keep (depth : Nat) : Reading :=
    { reading with defining := some { defining with lines := line :: defining.lines, depth } }
  if isCommand then return keep defining.depth
  else if word == "define" then return keep (defining.depth + 1)
  else if word == "endef" || word.startsWith "endef#" then
    match defining.depth with
    | depth + 1 => return keep depth
    | 0 =>
      unless defining.isIgnored do
        let value := "\n".intercalate defining.lines.reverse
        assign evaluate { defining.assignment with value }
      return { reading with defining := none }
  else return keep defining.depth

/-- Says whether programs are given variables. -/
def exportAll (evaluate : Evaluate) (isExported : Bool) (rest : String) : Making Unit := do
  match words (← expand evaluate rest) with
  | [] => modify fun state => { state with exportsAll := isExported }
  | names =>
    for name in names do
      modify fun state =>
        if (state.bindings.lookup name).isSome then
          { state with bindings := state.bindings.map fun (other, entry) =>
              if other == name then (other, { entry with exported := some isExported })
              else (other, entry) }
        else
          { state with bindings :=
              (name, { value := "", origin := .standard, exported := some isExported })
                :: state.bindings }

/-- Where an included file is looked for if it is not found where it should be. -/
def includePaths (directories : List String) (name : String) : List String :=
  if name.startsWith "/" then [name]
  else name :: directories.map fun directory => directory ++ "/" ++ name

/-- Reads other makefiles. -/
def readIncluded (readFile : String → String → Making Unit) (evaluate : Evaluate)
    (isNeeded : Bool) (rest : String) : Making Unit := do
  let names ← fileNames (← expand evaluate rest)
  let place := (← get).place
  for name in names do
    let candidates := includePaths (← get).settings.includeDirectories name
    let tree ← Making.job Job.tree
    match candidates.find? fun path => (tree.find (Octets.toText path)).isOk with
    | none => note name place (some .noEntry)
    | some path =>
      match (← Making.job (Job.readPath path)) with
      | .ok text =>
        note path place none
        readFile path text
      | .error reason => note path place (some reason)
  modify fun state => { state with place }
where
  /-- Notes that a makefile was asked for. -/
  note (path : String) (place : Option Place) (fault : Option OsError) : Making Unit :=
    modify fun state => { state with
      sources := { path, place, fault, isOptional := !isNeeded } :: state.sources }

/-- The directories in a list. -/
def directoriesIn (text : String) : List String :=
  (text.toList.splitOnP fun c => c == ':' || isBlank c).filterMap fun part =>
    if part.isEmpty then none else some (String.ofList part)

/-- Says where files are looked for that fit a word. -/
def setSearchPath (texts : List String) : Making Unit :=
  modify fun state => { state with
    searchPaths := match texts with
      | [] => []
      | [pattern] => state.searchPaths.filter (·.1 != pattern)
      | pattern :: directories =>
        state.searchPaths ++ [(pattern, directories.flatMap directoriesIn)] }

/-- Reads a line. -/
def readLine (readFile : String → String → Making Unit) (evaluate : Evaluate) (place : Place)
    (line : String) (reading : Reading) : Making Reading := do
  modify fun state => { state with place := some place }
  match reading.defining with
  | some defining => readDefining evaluate defining line reading
  | none =>
    let mark := (← get).recipeMark
    let isCommand := line.toList.head? == some mark
    if isCommand && reading.skipsCommands then return reading
    else match isCommand, reading.pending with
      | true, some pending =>
        if reading.isIgnoring then return reading
        else
          let command := (line.drop 1).toString.replace ("\n" ++ String.singleton mark) "\n"
          return { reading with
            pending := some { pending with
              commands := pending.commands ++ [command]
              recipePlace := pending.recipePlace <|> some place } }
      | _, _ =>
        let whole := collapsed line
        let bare := trimFront (String.ofList (withoutComment (whole.length + 1) whole.toList))
        if bare.isEmpty then return reading
        else match variableLine? bare with
          | some found => readVariable found reading
          | none =>
            match (← readCondition? evaluate bare reading) with
            | some reading => return reading
            | none =>
              if reading.isIgnoring then return reading
              else readStatement bare isCommand reading
where
  /-- Reads a line about a variable. -/
  readVariable (found : VariableLine) (reading : Reading) : Making Reading := do
    let reading ← finishRule reading
    let reading := { reading with skipsCommands := false }
    match found with
    | .multiline assignment =>
      return { reading with
        defining := some { assignment, place, isIgnored := reading.isIgnoring } }
    | .assignment assignment =>
      unless reading.isIgnoring do assign evaluate assignment
      return reading
    | .removal name =>
      unless reading.isIgnoring do
        let name ← expand evaluate name
        modify fun state => { state with bindings := state.bindings.filter (·.1 != name) }
      return reading
  /-- Reads a line that is neither about a variable nor a condition. -/
  readStatement (bare : String) (isCommand : Bool) (reading : Reading) : Making Reading := do
    let (word, rest) := firstWord bare
    match word with
    | "export" | "unexport" =>
      let reading ← finishRule reading
      exportAll evaluate (word == "export") rest
      return reading
    | "vpath" =>
      let reading ← finishRule reading
      setSearchPath (words (← expand evaluate rest))
      return { reading with skipsCommands := false }
    | "include" | "-include" | "sinclude" =>
      let reading ← finishRule reading
      readIncluded readFile evaluate (word == "include") rest
      return { reading with skipsCommands := false }
    | _ =>
      if isCommand then Making.stop "recipe commences before first target"
      else readRule evaluate place line reading

/-- Reads a makefile. The fuel bounds how deep makefiles lie within one another. `at?`
is the place of a text that was put together. -/
def readText : Nat → String → Option Place → String → Making Unit
  | 0, _, _, _ => return ()
  | fuel + 1, file, at?, text => do
    let evaluate (text : String) : Making Unit := do
      let place := (← get).place
      readText fuel ((place.map (·.file)).getD file) (place <|> some ⟨file, 1⟩) text
      modify fun state => { state with place }
    let readFile (file text : String) : Making Unit := readText fuel file none text
    if at?.isNone then
      let old := (((← get).bindings.lookup "MAKEFILE_LIST").map (·.value)).getD ""
      Making.setVariable "MAKEFILE_LIST"
        { value := if old.isEmpty then file else old ++ " " ++ file, isRecursive := false }
    let mut reading : Reading := {}
    let first := match at? with
      | some place => place.line
      | none => 1
    let mut last := first
    for (line, text) in logicalLines first text do
      reading := (← readLine readFile evaluate ⟨file, line⟩ text reading)
      last := line
    let lineCount := (text.toList.filter (· == '\n')).length
    modify fun state => { state with place := some ⟨file, if at?.isSome then last else lineCount + 1⟩ }
    reading := (← finishRule reading)
    if let some defining := reading.defining then
      Making.stopAt defining.place "missing 'endef', unterminated 'define'"
    unless reading.conditions.isEmpty do Making.stop "missing 'endif'"
    modify fun state => { state with place := none }

/-- How deep makefiles may lie within one another. -/
def maxReadDepth : Nat := 60

/-- Reads a text that was put together when commands are run. -/
def evaluateText : Evaluate := fun text => do
  let place := (← get).place
  readText maxReadDepth ((place.map (·.file)).getD "") (place <|> some ⟨"", 1⟩) text
  modify fun state => { state with place }

end ProfileGraph.Utility.Make
