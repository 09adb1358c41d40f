import ProfileGraph.StandIn.Utility.Make.Recipe

/-! How targets are brought up to date. What a target needs comes first; the target is
made if it is missing, or if something that it needs is missing or newer. Files that
are only made on the way to others are made if those have to be. -/
namespace ProfileGraph.Utility.Make
open Host

/-- When a target was changed. -/
def ageOf (name : String) : Making Age := do
  match (← get).ages.lookup name with
  | some age => return age
  | none =>
    let isPhony ← Making.isPhony name
    let tree ← Making.job Job.tree
    let ageAt (path : String) : Age := match tree.find (Octets.toText path) with
      | .ok (_, node) => if isPhony then .missing else .changed node.modified
      | .error _ => .missing
    let findElsewhere ← foundElsewhere
    let other := if isPhony || ageAt name != .missing then none else findElsewhere name
    if let some path := other then
      modify fun state => { state with elsewhere := (name, path) :: state.elsewhere }
    let age := ageAt (other.getD name)
    modify fun state => { state with ages := (name, age) :: state.ages }
    return age

/-- Sets when a target was changed, or that this has to be looked up again. -/
def setAge (name : String) (age : Option Age) : Making Unit :=
  modify fun state => { state with
    ages := (age.map fun age => (name, age)).toList ++ state.ages.filter (·.1 != name) }

/-- Whether a file is only made on the way to others. -/
def isIntermediate (name : String) : Making Bool := do
  let named := ((← Making.special? ".INTERMEDIATE").getD [])
    ++ ((← Making.special? ".SECONDARY").getD [])
  return (← get).intermediates.contains name || named.contains name

/-- Notes what became of a target. -/
def note (name : String) (outcome : Outcome) : Making Unit :=
  modify fun state => { state with outcomes := (name, outcome) :: state.outcomes }

/-- Says that no rule makes a target. -/
def complainNoRule (name : String) (parent : Option String) : Making Unit := do
  let state ← get
  if let some source := state.sources.find? fun source => source.path == name then
    if let some fault := source.fault then
      Making.complainAt source.place (name ++ ": " ++ fault.description)
  let needer := match parent with
    | some parent => ", needed by '" ++ parent ++ "'"
    | none => ""
  let text := "No rule to make target '" ++ name ++ "'" ++ needer
  if state.settings.keepsGoing then Making.complainAt none ("*** " ++ text ++ ".")
  else Making.stopAt none text

/-- Marks a target as being looked at. -/
def enter (name : String) : Making Unit :=
  modify fun state => { state with active := name :: state.active }

/-- Marks a target as no longer being looked at. -/
def leave (name : String) : Making Unit :=
  modify fun state => { state with active := state.active.filter (· != name) }

/-- The rule of a target with a number, or the rule of one that has none. -/
def ruleOf (name : String) (number : Nat) : Making (Target × Rule) := do
  let target := ((← Making.target? name).getD { name, isTarget := false })
  return (target, if target.ownRules.isEmpty then target.rule
    else (target.ownRules[number]?).getD {})

/-- Takes something off what a target needs. -/
def dropNeed (name needed : String) : Making Unit := do
  Making.complainAt none ("Circular " ++ name ++ " <- " ++ needed ++ " dependency dropped.")
  let without (rule : Rule) : Rule :=
    { rule with
      prerequisites := rule.prerequisites.filter (· != needed)
      orderOnly := rule.orderOnly.filter (· != needed) }
  Making.modifyTarget name fun target =>
    { target with rule := without target.rule, ownRules := target.ownRules.map without }

/-- What a rule needs. -/
def Rule.needs (rule : Rule) : List Need :=
  rule.prerequisites.map (fun name => { name, isOrderOnly := false })
    ++ rule.orderOnly.map fun name => { name, isOrderOnly := true }

/-- The assignments that a target brings along, those of closer patterns behind those of
wider ones. -/
def assignmentsFor (name : String) : Making (List Assignment) := do
  let state ← get
  let fitting := state.patternAssignments.filter fun (pattern, _) =>
    (pattern.stem? name.toList).isSome
  let sorted := fitting.mergeSort fun (a, _) (b, _) =>
    a.front.length + a.back.length ≤ b.front.length + b.back.length
  let own := match state.targets.find? (·.name == name) with
    | some target => target.assignments
    | none => []
  return sorted.map (·.2) ++ own

/-- The variables that a target brings along. -/
def scopeFor (name : String) : Making (List (String × Variable)) := do
  let mut scope : List (String × Variable) := []
  let assignments ← assignmentsFor name
  for assignment in assignments do
    let general := (← get).bindings.lookup assignment.name
    let isFixed := match general with
      | some entry => !assignment.isOverride && Origin.environmentOverride.rank ≤ entry.origin.rank
        && entry.origin != Origin.override
      | none => false
    unless isFixed do
      let old ← match scope.lookup assignment.name with
        | some entry => pure (some entry)
        | none => Making.find? assignment.name
      let outer := (← get).scopes
      modify fun state => { state with scopes := scope :: outer }
      let given ←
        if assignment.operator = Operator.simple then pure (some (assignment.value, false))
        else assignedValue evaluateText assignment old
      modify fun state => { state with scopes := outer }
      if let some (value, isRecursive) := given then
        let origin := if assignment.isOverride then Origin.override else .file
        let entry : Variable := { value, isRecursive, origin, exported := assignment.exported }
        scope := (assignment.name, entry) :: scope.filter (·.1 != assignment.name)
  return scope

/-- The recipe for a target that has none. -/
def findRecipe (name : String) : Making Unit := do
  let (target, rule) ← ruleOf name 0
  if target.ownRules.isEmpty && rule.recipe.isNone && !(← Making.isPhony name) then findRule name
  let (target, rule) ← ruleOf name 0
  if rule.recipe.isNone && !target.isTarget then
    if let some standby := (← Making.target? ".DEFAULT") then
      if standby.rule.recipe.isSome then
        Making.modifyTarget name fun target =>
          { target with rule := { target.rule with recipe := standby.rule.recipe } }

/-- Runs the commands of a rule for a target. -/
def make (name : String) (rule : Rule) (recipe : Recipe) (needs : List Need) (isOptional : Bool) :
    Making Outcome := do
  modify fun state => { state with elsewhere := state.elsewhere.filter (·.1 != name) }
  let state ← get
  let needs := needs.map fun need =>
    { need with name := (state.elsewhere.lookup need.name).getD need.name }
  let isPhony ← Making.isPhony name
  let runsAgain := recipe.lines.any runsAgain
  let before ← ageOf name
  let outcome ←
    if recipe.isEmpty then pure Outcome.done
    else if state.settings.onlyTouches && !runsAgain then
      unless isPhony do
        unless (← isSilent) do Making.say ("touch " ++ name)
        modify fun state => { state with commandCount := state.commandCount + 1 }
        match (← Making.job (Job.openPath name { writes := true, creates := true })) with
        | .ok number =>
          let text := Octets.ofBytes ((← Making.job get).tree.read (Octets.toText name) |>.toOption.getD [])
          let _ ← Making.job (Job.writeOpen number text)
        | .error reason =>
          Making.complainAt none ("touch: open: " ++ name ++ ": " ++ reason.description)
      pure .done
    else
      let isStandby := ((← Making.target? ".DEFAULT").bind (·.rule.recipe)).map (·.place)
        == some recipe.place && recipe.place.isSome
      let first := match needs.find? (!·.isOrderOnly) with
        | some need => need.name
        | none => if isStandby then name else ""
      let stem := rule.stem.getD (stemBySuffix state.suffixes name)
      let scope := automaticScope name stem first needs state.settings.alwaysMakes
      modify fun state => { state with scopes := scope :: state.scopes }
      let outcome ← runRecipe name recipe before isOptional
      modify fun state => { state with scopes := state.scopes.drop 1 }
      pure outcome
  let settings := (← get).settings
  let isPretended := (settings.onlyPrints || settings.onlyAsks)
    && !recipe.isEmpty && !recipe.lines.all Make.runsAgain
  unless isPhony do setAge name (if isPretended then some .fresh else none)
  return outcome

mutual

/-- Brings a target up to date. The fuel bounds how long chains of needs are. -/
def update : Nat → Nat → Option String → String → Making Outcome
  | 0, _, _, _ => return .failed
  | fuel + 1, depth, parent, name => do
    match (← get).outcomes.lookup name with
    | some outcome => return outcome
    | none =>
      let scope ← scopeFor name
      modify fun state => { state with scopes := scope :: state.scopes }
      let (target, _) ← ruleOf name 0
      let mut outcome := Outcome.done
      for number in List.range (max 1 target.ownRules.length) do
        let new ← updateRule fuel depth parent name number
        outcome := outcome.worse new
        if new != .done && !(← get).settings.keepsGoing then break
      modify fun state => { state with scopes := state.scopes.drop 1 }
      note name outcome
      let siblings := ((← ruleOf name 0).1).siblings
      for sibling in siblings do
        note sibling outcome
        setAge sibling none
      return outcome

/-- Brings a target up to date by one of its rules. -/
def updateRule : Nat → Nat → Option String → String → Nat → Making Outcome
  | 0, _, _, _, _ => return .failed
  | fuel + 1, depth, parent, name, number => do
    enter name
    let settings := (← get).settings
    let age ← ageOf name
    let isMissing := age == .missing
    findRecipe name
    let (target, rule) ← ruleOf name number
    let mut mustMake := isMissing
    let mut outcome := Outcome.done
    let mut needs : List Need := []
    for need in rule.needs do
      let before ← ageOf need.name
      if (← get).active.contains need.name then dropNeed name need.name
      else
        let (new, wants) ← check fuel (depth + 1) name need.name age mustMake
        outcome := outcome.worse new
        unless need.isOrderOnly do mustMake := wants
        if outcome != .done && !settings.keepsGoing then break
        let after ← ageOf need.name
        needs := needs ++ [{ need with isChanged := after != before || before == .missing }]
    if (outcome == .done || settings.keepsGoing) && (mustMake || settings.alwaysMakes) then
      let mut looked : List Need := []
      for need in needs do
        if (← isIntermediate need.name) then
          let before ← ageOf need.name
          let new ← update fuel (depth + 1) (some name) need.name
          outcome := outcome.worse new
          let after ← ageOf need.name
          looked := looked ++ [{ need with isChanged := after != before }]
        else looked := looked ++ [need]
      needs := looked
    leave name
    if outcome != .done then
      if depth = 0 && settings.keepsGoing && !settings.onlyPrints && !settings.onlyAsks then
        Making.complainAt none ("Target '" ++ name ++ "' not remade because of errors.")
      return outcome
    else
      let depsChanged := needs.any fun need => !need.isOrderOnly && need.isChanged
      let mut marked : List Need := []
      for need in needs do
        let needAge ← ageOf need.name
        if !need.isOrderOnly && needAge == .missing && !(← isIntermediate need.name) then
          mustMake := true
        marked := marked ++
          [{ need with isChanged := need.isChanged || isMissing || needAge.isNewer age }]
      let isOwn := !target.ownRules.isEmpty
      if isOwn && needs.isEmpty then mustMake := true
      else if !isMissing && target.isTarget && !depsChanged && rule.recipe.isNone
          && !settings.alwaysMakes then
        mustMake := false
      else if rule.recipe.isSome && settings.alwaysMakes then mustMake := true
      if !mustMake then return .done
      else
        let state ← get
        let isOptional := state.remakesSources
          && state.sources.any fun source => source.path == name && source.isOptional
        match rule.recipe with
        | some recipe => make name rule recipe marked isOptional
        | none =>
          if target.isTarget || (← Making.isPhony name) then return .done
          else
            unless isOptional do complainNoRule name parent
            return .failed

/-- Looks at something that a target needs, whose age is known. The result tells also
whether the target has to be made. -/
def check : Nat → Nat → String → String → Age → Bool → Making (Outcome × Bool)
  | 0, _, _, _, _, mustMake => return (.failed, mustMake)
  | fuel + 1, depth, parent, name, age, mustMake => do
    enter name
    let isPhony ← Making.isPhony name
    let result ←
      if isPhony || !(← isIntermediate name) then do
        leave name
        let outcome ← update fuel depth (some parent) name
        let needAge ← ageOf name
        pure (outcome, mustMake || needAge == .missing || needAge.isNewer age)
      else do
        findRecipe name
        let needAge ← ageOf name
        if needAge != .missing && needAge.isNewer age then pure (Outcome.done, true)
        else
          let (_, rule) ← ruleOf name 0
          let keepsGoing := (← get).settings.keepsGoing
          let mut outcome := Outcome.done
          let mut mustMake := mustMake
          for need in rule.needs do
            if (← get).active.contains need.name then dropNeed name need.name
            else if outcome == .done || keepsGoing then
              let (new, wants) ← check fuel (depth + 1) name need.name age mustMake
              outcome := outcome.worse new
              unless need.isOrderOnly do mustMake := wants
          pure (outcome, mustMake)
    leave name
    return result

end

/-- How long chains of needs may be. -/
def maxChain : Nat := 3000

/-- Brings a goal up to date and says so if there was nothing to do. -/
def updateGoal (name : String) : Making Outcome := do
  let count := (← get).commandCount
  let outcome ← update maxChain 0 none name
  if outcome == .done && (← get).commandCount == count && !(← isSilent)
      && !(← get).settings.onlyAsks then
    let (_, rule) ← ruleOf name 0
    let start := (← get).name
    if rule.recipe.isNone || (← Making.isPhony name) then
      Making.say (start ++ ": Nothing to be done for '" ++ name ++ "'.")
    else Making.say (start ++ ": '" ++ name ++ "' is up to date.")
  return outcome

/-- Removes the files that were only made on the way to others. -/
def removeIntermediates (goals : List String) : Making Unit := do
  let state ← get
  let named := ((← Making.special? ".INTERMEDIATE").getD [])
  let secondary ← Making.special? ".SECONDARY"
  let precious ← Making.special? ".PRECIOUS"
  unless secondary == some [] || state.settings.onlyAsks do
    let kept := secondary.getD [] ++ precious.getD [] ++ goals
    let mut removed := []
    for name in distinct (state.intermediates ++ named) do
      let isMade := (state.outcomes.lookup name).isSome
      if isMade && !kept.contains name then
        let tree ← Making.job Job.tree
        match tree.find (Octets.toText name) with
        | .ok (place, _) =>
          unless state.settings.onlyPrints do
            Making.job (modify fun machine => { machine with tree := machine.tree.erase place })
          removed := removed ++ [name]
        | .error _ => if state.settings.onlyPrints then removed := removed ++ [name]
    unless removed.isEmpty do
      unless (← isSilent) do Making.say ("rm " ++ unwords removed)

end ProfileGraph.Utility.Make
