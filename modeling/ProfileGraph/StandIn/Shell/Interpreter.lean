import ProfileGraph.StandIn.Shell.Builtin.Control

/-! The interpreter of a shell: how each kind of command is run, given how the
commands within it are run. -/
namespace ProfileGraph.Shell
open Host

namespace Interpreter

/-- Notes the line of the command that is run. -/
def enterLine (line : Nat) : Act Unit := Act.modifySession fun session => { session with line }

/-- Ends the shell if a command failed and that is what failures do. -/
def checkFailure (mode : Mode) : Act Unit := do
  let session ← Act.session
  if !mode.tested && session.options.exitOnError && session.status != 0 then throw .exits

/-- Whether the last command succeeded. -/
def succeeded : Act Bool := return (← Act.session).status == 0

/-- Expands words up to the first one that yields a field. -/
def firstFields (capture : Capture) : List Word → Act (List String × List Word)
  | [] => return ([], [])
  | word :: later => do
    let fields ← Word.fields capture word
    if fields.isEmpty then firstFields capture later else return (fields, later)

/-- Expands the words behind the name of a command. -/
def laterFields (capture : Capture) (takesAssignments : Bool) (words : List Word) :
    Act (List String) := do
  let fields ← words.mapM fun word => do
    match if takesAssignments then CommandReader.assignment? word else none with
    | some (name, value) => return [name ++ "=" ++ (← Word.text capture value true)]
    | none => Word.fields capture word
  return fields.flatten

/-- The words of a simple command while its name is looked for. -/
structure CommandWords where
  /-- The fields in front of the name that say how it is looked up. -/
  passed : List String := []
  fields : List String
  words : List Word
  /-- Functions are not meant by the name. -/
  skipsFunctions : Bool := false
  /-- Where programs are looked for. -/
  path : Option String := none
  /-- The first name that was found is that of a special builtin command. -/
  special : Bool := false

/-- The fields from the second one on; if there is none, more words are
expanded. -/
def CommandWords.next (capture : Capture) (found : CommandWords) : Act CommandWords := do
  match found.fields with
  | first :: second :: later =>
    return { found with passed := found.passed ++ [first], fields := second :: later }
  | fields =>
    let (more, words) ← firstFields capture found.words
    return { found with passed := found.passed ++ fields, fields := more, words }

/-- Passes over the options behind the name that asks for a command. The flag
tells whether a command follows; other options than the one for the standard
path make that name a command of its own. The fuel bounds the number of
options. -/
def passOptions (capture : Capture) : Nat → CommandWords → Act (CommandWords × Bool)
  | 0, found => return (found, false)
  | fuel + 1, found => do
    let found ← found.next capture
    match found.fields with
    | [] => return (found, false)
    | field :: _ =>
      match field.toList with
      | ['-', '-'] =>
        let found ← found.next capture
        return (found, !found.fields.isEmpty)
      | '-' :: c :: letters =>
        if (c :: letters).all (· == 'p') then
          passOptions capture fuel { found with path := some standardPath }
        else return (found, false)
      | _ => return (found, true)

/-- Looks for the name of a simple command behind names that only ask for a
command. The fuel bounds their number. -/
def findName (capture : Capture) (isFirst : Bool) : Nat → CommandWords → Act CommandWords
  | 0, found => return found
  | fuel + 1, found => do
    let name := found.fields.headD ""
    let isFunction := !found.skipsFunctions && ((← Act.session).functions.lookup name).isSome
    let found :=
      if isFirst && !isFunction && specialCommands.contains name then
        { found with special := true }
      else found
    if isFunction || name != "command" then return found
    else
      let bound := found.words.length + found.fields.length + 1
      let (later, follows) ← passOptions capture bound found
      if follows then findName capture false fuel { later with skipsFunctions := true }
      else
        return { found with
          fields := later.passed.drop found.passed.length ++ later.fields
          words := later.words }

/-- Writes a command to the standard error as it was before redirections. -/
def traceCommand (capture : Capture) (channel : Option Nat) (assignments fields : List String) :
    Act Unit := do
  if (← Act.session).options.trace then
    let start := ((← Act.valueOf? "PS4").getD "")
    let fuel := 4 * start.length + 64
    let commands := CommandReader.substituted CommandReader.maxSubstitutionDepth fuel
    let reading := WordReader.parts commands fuel { double := true, document := true } []
    let start ← match reading.run { text := start.toList } with
      | .ok (word, _) => Word.documentText capture word
      | .error _ => pure start
    if let some number := channel then
      let _ ← Act.job (Job.writeOpen number (start ++ " ".intercalate (assignments ++ fields) ++ "\n"))

/-- Runs the assignments of a simple command. -/
def assign (capture : Capture) (inScope exported : Bool) :
    List (String × Word) → Act (List String)
  | [] => return []
  | (name, word) :: later => do
    let value ← Word.text capture word true
    if inScope then
      Act.makeLocal name
      Act.assign name value true
    else Act.assign name value exported
    return (name ++ "=" ++ value) :: (← assign capture inScope exported later)

/-- Calls a function. -/
def call (runtime : Runtime) (mode : Mode) (function : Definition) (arguments : List String) :
    Act Unit := do
  let outer ← Act.session
  Act.modifySession fun session =>
    { session with arguments, loopDepth := 0, optionPosition := {} }
  let leave : Act Unit :=
    Act.modifySession fun session =>
      { session with
        arguments := outer.arguments, loopDepth := outer.loopDepth
        optionPosition := outer.optionPosition }
  Act.andFinally (do
    match (← Act.outcome (runtime.run { tested := mode.tested } function.body)) with
    | none | some .returns => return ()
    | some flow => throw flow) leave

/-- Runs the program with a name. -/
def runNamed (runtime : Runtime) (mode : Mode) (found : CommandWords) (name : String)
    (arguments : List String) : Act Unit := do
  let session ← Act.session
  let tracked := if found.path.isNone then session.tracked.lookup name else none
  let tree := (← get).machine.tree
  let place ← match tracked.filter fun path => tree.isFile (Octets.toText path) with
    | some path => pure (.ok path)
    | none => findProgram name found.path
  match place with
  | .error reason =>
    complainAboutStart name reason
    Act.setStatus 127
  | .ok path =>
    if found.path.isNone && !name.toList.contains '/' then
      Act.modifySession fun session =>
        { session with tracked := Act.setEntry session.tracked name path }
    runProgram runtime mode path name arguments

/-- Runs a builtin command. An error in it ends the shell only if the command is
special. -/
def runBuiltin (builtin : Builtin) (special : Bool) (name : String) (arguments : List String) :
    Act Unit := do
  match (← Act.outcome (Builtin.run builtin name arguments)) with
  | none => return ()
  | some .fails => if special then throw .fails
  | some flow => throw flow

/-- Runs a simple command whose name has been found. -/
def runFound (runtime : Runtime) (mode : Mode) (capture : Capture) (found : CommandWords)
    (assignments : List (String × Word)) (redirections : List Redirection) : Act Unit := do
  let session ← Act.session
  let name := found.fields.headD ""
  let function? :=
    if found.skipsFunctions then none else session.functions.lookup name
  let isBuiltin := function?.isNone && Builtin.isName name
  let later ← laterFields capture (isBuiltin && Builtin.takesAssignments name) found.words
  let fields := found.fields ++ later
  let inScope := !found.fields.isEmpty && !found.special
  let isReplacing := isBuiltin && name == "exec"
  if inScope then Act.openScope
  let close : Act Unit := if inScope then Act.closeScope else return ()
  Act.andFinally (do
    let targets ← redirections.mapM (Redirection.target capture)
    let channel := (← Act.session).descriptors.lookup 2
    let ran ← redirected targets isReplacing do
      let texts ← assign capture inScope (isReplacing && 1 < fields.length) assignments
      traceCommand capture channel texts (found.passed ++ fields)
      match fields with
      | [] =>
        Act.setStatus (← Act.session).substitutionStatus
      | name :: arguments =>
        match function? with
        | some function => call runtime mode function arguments
        | none =>
          match (if isBuiltin then Builtin.find? runtime mode name else none) with
          | some builtin => runBuiltin builtin found.special name arguments
          | none => runNamed runtime mode found name arguments
    if !ran && found.special then throw .fails) close

/-- Runs a simple command. -/
def runSimple (runtime : Runtime) (mode : Mode) (assignments : List (String × Word))
    (words : List Word) (redirections : List Redirection) : Act Unit := do
  let capture := capture runtime
  Act.modifySession fun session => { session with substitutionStatus := 0 }
  let (fields, words) ← firstFields capture words
  let found ← findName capture true (words.length + fields.length + 1) { fields, words }
  runFound runtime mode capture found assignments redirections
  checkSignals runtime

/-- Runs a command behind its redirections. -/
def runGroup (runtime : Runtime) (mode : Mode) (body : Command)
    (redirections : List Redirection) : Act Unit := do
  let targets ← redirections.mapM (Redirection.target (capture runtime))
  let _ ← redirected targets false (runtime.run { tested := mode.tested } body)

/-- Opens redirections for the rest of the shell. -/
def redirectForGood (targets : List Target) : Act Unit := do
  match (← openTargets targets) with
  | none => return ()
  | some complaint => Act.failWith complaint

/-- Runs a command in a copy of the shell. If nothing follows, no copy is
needed. -/
def runSubshell (runtime : Runtime) (mode : Mode) (body : Command)
    (redirections : List Redirection) : Act Unit := do
  let targets ← redirections.mapM (Redirection.target (capture runtime))
  if mode.final && (← Act.session).traps.all (·.2.isEmpty) then
    redirectForGood targets
    runtime.run mode body
  else
    let status ← inCopy runtime id do
      redirectForGood targets
      runtime.run { tested := mode.tested, final := true } body
    takeStatus runtime status

/-- Prepares a command that is not waited for. Its input is empty. -/
def startInBackground (body : Command) : Act Unit := do
  let input ← Act.job (Job.openPath "/dev/null" .reading)
  let state ← get
  let (number, machine) := state.machine.newProcess
  let session := state.session.copy number
  let others := session.descriptors.filter (·.1 != 0)
  let descriptors := match input with
    | .ok input => (0, input) :: others
    | .error _ => others
  let job : BackgroundJob := {
    process := number, command := body, session := { session with descriptors }
    directory := machine.tree.workingDirectory }
  set { state with
    machine
    session := { state.session with lastBackground := some number, status := 0 }
    jobs := state.jobs ++ [job] }

/-- Runs the commands of a pipeline, each in a copy of the shell, and yields the
exit status of the last one. -/
def runParts (runtime : Runtime) (mode : Mode) : Option Nat → List Command → Act ExitStatus
  | _, [] => return .code 0
  | input, part :: later => do
    let state ← get
    let (output, machine) := state.machine.openStream
    set { state with machine }
    let ends : Descriptors :=
      (input.map fun number => (0, number)).toList
        ++ if later.isEmpty then [] else [(1, output)]
    let change (session : Session) : Session :=
      { session with
        descriptors := ends ++ session.descriptors.filter fun (descriptor, _) =>
          (ends.lookup descriptor).isNone }
    let status ← inCopy runtime change
      (runtime.run { tested := mode.tested, final := true } part)
    if later.isEmpty then return status
    else runParts runtime mode (some output) later

/-- How a loop goes on behind one of its commands. -/
inductive LoopStep where
  | goesOn
  /-- The loop ends. -/
  | ends

/-- Runs a command of a loop, and tells whether the loop goes on. -/
def runInLoop (act : Act Unit) : Act LoopStep := do
  match (← Act.outcome act) with
  | none => return .goesOn
  | some (.breaks 1) => return .ends
  | some (.breaks n) => throw (.breaks (n - 1))
  | some (.continues 1) => return .goesOn
  | some (.continues n) => throw (.continues (n - 1))
  | some flow => throw flow

/-- Does something one loop further in. -/
def inLoop (act : Act Unit) : Act Unit := do
  let change (n : Nat → Nat) : Act Unit :=
    Act.modifySession fun session => { session with loopDepth := n session.loopDepth }
  change (· + 1)
  Act.andFinally act (change (· - 1))

/-- The most rounds of a loop that has no other end. -/
def maxRounds : Nat := Nat.pow 10 7

/-- Runs a body as long as a test asks for it; the exit code is that of the body
in the last round. The fuel bounds the number of rounds. -/
def runRounds (runtime : Runtime) (mode : Mode) (untilSuccess : Bool) (test body : Command)
    (status : Nat) : Nat → Act Unit
  | 0 => return ()
  | fuel + 1 => do
    let tested ← Act.outcome (runtime.run { tested := true } test)
    let asked ← match tested with
      | none => pure ((← succeeded) != untilSuccess)
      | some (.continues 1) => pure true
      | some (.breaks 1) => pure false
      | some (.breaks n) => throw (.breaks (n - 1))
      | some (.continues n) => throw (.continues (n - 1))
      | some flow => throw flow
    if !asked then Act.setStatus status
    else if tested.isSome then runRounds runtime mode untilSuccess test body status fuel
    else
      match (← runInLoop (runtime.run { tested := mode.tested } body)) with
      | .ends => return ()
      | .goesOn =>
        runRounds runtime mode untilSuccess test body (← Act.session).status fuel

/-- Runs a body for each of some values of a variable. -/
def runForEach (runtime : Runtime) (mode : Mode) (name : String) (body : Command) :
    List String → Act Unit
  | [] => return ()
  | value :: later => do
    Act.assign name value
    match (← runInLoop (runtime.run { tested := mode.tested } body)) with
    | .ends => return ()
    | .goesOn => runForEach runtime mode name body later

/-- Whether one of some patterns stands for a text. -/
def anyAccepts (capture : Capture) (text : String) : List Word → Act Bool
  | [] => return false
  | word :: later => do
    if (← Word.pattern capture word).accepts text.toList then return true
    else anyAccepts capture text later

/-- Runs the first case with a pattern that stands for a text. -/
def runCase (runtime : Runtime) (mode : Mode) (text : String) :
    List (List Word × Command) → Act Unit
  | [] => Act.setStatus 0
  | (patterns, body) :: later => do
    if ← anyAccepts (capture runtime) text patterns then runtime.run mode body
    else runCase runtime mode text later

/-- Runs a simple command. Where a failure ends the shell, it does so also within
a function that the command would leave. -/
def runChecked (mode : Mode) (act : Act Unit) : Act Unit := do
  match (← Act.outcome act) with
  | none => checkFailure mode
  | some .returns =>
    checkFailure mode
    throw .returns
  | some flow => throw flow

/-- Runs a command. -/
def step (runtime : Runtime) (mode : Mode) : Command → Act Unit
  | .empty => Act.setStatus 0
  | .simple line assignments words redirections => do
    enterLine line
    runChecked mode (runSimple runtime mode assignments words redirections)
  | .group _ body [] => runtime.run mode body
  | .group line body redirections => do
    enterLine line
    runGroup runtime mode body redirections
  | .subshell line body redirections => do
    enterLine line
    runSubshell runtime mode body redirections
    checkFailure mode
  | .background line body redirections => do
    enterLine line
    startInBackground (.group line body redirections)
  | .pipeline parts true => startInBackground (.pipeline parts false)
  | .pipeline parts false => do
    takeStatus runtime (← runParts runtime mode none parts)
    checkFailure mode
  | .negation body => do
    runtime.run { tested := true } body
    Act.setStatus (if ← succeeded then 1 else 0)
  | .sequence left right => do
    runtime.run { tested := mode.tested } left
    runtime.run mode right
  | .both left right => do
    runtime.run { tested := true } left
    if ← succeeded then runtime.run mode right
  | .either left right => do
    runtime.run { tested := true } left
    unless ← succeeded do runtime.run mode right
  | .conditional test yes no => do
    runtime.run { tested := true } test
    if ← succeeded then runtime.run mode yes else runtime.run mode no
  | .loop untilSuccess test body =>
    inLoop (runRounds runtime mode untilSuccess test body 0 maxRounds)
  | .forEach line name words body => do
    enterLine line
    let fields ← laterFields (capture runtime) false words
    if fields.isEmpty then Act.setStatus 0
    inLoop (runForEach runtime mode name body fields)
  | .choice line word cases => do
    enterLine line
    let text ← Word.text (capture runtime) word
    runCase runtime mode text cases
  | .definition line name body => do
    Act.modifySession fun session =>
      { session with
        functions := Act.setEntry session.functions name ⟨line, body⟩
        status := 0 }

/-- How deep commands may lie within one another when they run. A shell that
goes deeper runs out of memory. -/
def maxDepth : Nat := 1500

/-- Runs a command up to a depth. -/
def runWithin (launch : Launcher) : Nat → Mode → Command → Act Unit
  | 0, _, _ => throw (.dies 11)
  | depth + 1, mode, command => step { launch, run := runWithin launch depth } mode command

/-- What commands are run with, given how programs are started. -/
def runtime (launch : Launcher) : Runtime := { launch, run := runWithin launch maxDepth }

end Interpreter
end ProfileGraph.Shell
