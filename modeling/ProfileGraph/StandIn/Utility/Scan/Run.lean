import ProfileGraph.StandIn.Utility.Scan.Fields

/-! How programs run. Expressions have values, and statements say how the ones behind
them go on. -/
namespace ProfileGraph.Utility.Scan
open Host

/-- How things go on behind a statement. -/
inductive Flow where
  | on
  /-- The loop is left. -/
  | left
  /-- The next round of the loop begins. -/
  | repeated
  /-- The function returns a value. -/
  | gaveBack (value : Value)

/-- A part of a replacement: a text, or what was matched. -/
inductive ReplacementPart where
  | char (c : Char)
  | matched

/-- The parts of a replacement. A backslash protects the sign for what was matched. -/
def replacementParts : List Char → List ReplacementPart
  | [] => []
  | '\\' :: '\\' :: '\\' :: '&' :: rest => .char '\\' :: .char '&' :: replacementParts rest
  | '\\' :: '\\' :: '&' :: rest => .char '\\' :: .matched :: replacementParts rest
  | '\\' :: '&' :: rest => .char '&' :: replacementParts rest
  | '&' :: rest => .matched :: replacementParts rest
  | c :: rest => .char c :: replacementParts rest

/-- What takes the place of a match. -/
def replacementFor (parts : List ReplacementPart) (found : List Char) : List Char :=
  parts.flatMap fun part => match part with
    | .char c => [c]
    | .matched => found

/-- Replaces matches from a position on: the new text, and how many matches there were. An
empty match does not count directly behind another one, which `lastStop` tells. The fuel
bounds the number of steps, and `most` the number of matches. -/
def replaceFrom (pattern : RegularExpression) (parts : List ReplacementPart) (subject : Subject) :
    Nat → Nat → Nat → Option Nat → List Char × Nat
  | 0, _, position, _ => (subject.chars.toList.drop position, 0)
  | fuel + 1, most, position, lastStop =>
    let rest := subject.chars.toList.drop position
    if most = 0 then (rest, 0)
    else match pattern.matchFrom? subject position with
      | none => (rest, 0)
      | some found =>
        let front := rest.take (found.start - position)
        if found.stop = found.start then
          let next := rest.drop (found.start - position)
          let isCounted := lastStop != some found.start
          let put := if isCounted then replacementFor parts [] else []
          let count := if isCounted then 1 else 0
          match next with
          | [] => (front ++ put, count)
          | c :: _ =>
            let (later, more) :=
              replaceFrom pattern parts subject fuel (most - count) (found.start + 1) none
            (front ++ put ++ c :: later, more + count)
        else
          let text := (subject.chars.extract found.start found.stop).toList
          let (later, more) :=
            replaceFrom pattern parts subject fuel (most - 1) found.stop (some found.stop)
          (front ++ replacementFor parts text ++ later, more + 1)

/-- The part of a text that begins at a position, from one on. A position in front of the
text lengthens the part. -/
def partOf (text : List Char) (position : Binary64) (length : Option Binary64) : List Char :=
  let start := (wholePart? position).getD 0
  match length with
  | none => text.drop (start - 1).toNat
  | some length =>
    let count : Int := match length with
      | .infinity negative => if negative then 0 else text.length
      | length => (wholePart? length).getD 0
    let count := if start < 0 then count - start else count
    (text.drop (start - 1).toNat).take count.toNat

/-- Where a text first stands in another one, from one on, or zero. -/
def indexIn (text part : List Char) : Nat :=
  match (List.range (text.length + 1)).find? fun start => part.isPrefixOf (text.drop start) with
  | some start => start + 1
  | none => 0

namespace Running

/-- The subject of a match. -/
def subjectOf (text : String) : Subject := { chars := text.toList.toArray }

/-- The key that a value is. -/
def keyOf (value : Value) : Running Key := do
  match value with
  | .number x =>
    match plainWhole? x with
    | some n => return .number n
    | none => return .name (← text value)
  | value => return .name (← text value)

/-- The record as a target. -/
def wholeRecord : Expression := .field (.number (.ofNat 0))

/-- The value that is kept in a place. -/
def kept (place : Place) : Running Value := do
  match place with
  | .scalar name =>
    match (← cell name) with
    | .value value => return value
    | .table _ => return .absent
  | .element table key =>
    let (value, changed) := (← tableAt table).get key
    setTable table changed
    return value
  | .field index => field index
  | .nowhere => return .absent

/-- Keeps a value in a place. -/
def keep (place : Place) (value : Value) : Running Unit := do
  match place with
  | .scalar name => setVariable name value
  | .element table key => setTable table ((← tableAt table).set key value)
  | .field index => setField index value
  | .nowhere => return

/-- Keeps a record that was read in a place, and says whether one was read. -/
def keepRead (found : Option (Option String)) (place : Place) : Running Value := do
  match found with
  | none => return .ofInt (-1)
  | some none => return .ofNat 0
  | some (some record) =>
    keep place (.input record)
    return .ofNat 1

/-- Prints values with separators between them. -/
def printValues (values : List Value) : Running String := do
  let format := (← valueOf "OFMT").toText "%.6g"
  let texts ← match values with
    | [] => pure [← text (← get).record]
    | values => pure (values.map (·.toText format))
  return (← textOf "OFS").intercalate texts ++ (← textOf "ORS")

/-- Writes values in a format: what was written, and the fault that ended it. -/
def formatted (user : String) (values : List Value) : Running (String × Option String) := do
  match values with
  | [] => return ("", none)
  | format :: values =>
    let format ← text format
    let numbers := (← valueOf "CONVFMT").toText "%.6g"
    let found := layOutAll (·.toText numbers) (format.length + 1) 1 format.toList values
    return (String.ofList found.text, found.fault.map (·.message user format))

mutual

/-- The value of an expression. The fuel bounds the number of steps. -/
def evaluate : Nat → Expression → Running Value
  | 0, _ => fail "program limit exceeded"
  | fuel + 1, expression => do
    match expression with
    | .number x => return .number x
    | .text found => return .text found
    | .pattern pattern =>
      let record ← text (← get).record
      return .ofBool (pattern.isFoundIn (subjectOf record))
    | .name name =>
      match (← cell name) with
      | .value value => return value
      | .table _ => return .absent
    | .element table subscripts =>
      let number ← tableNumber table
      let key ← key fuel subscripts
      let (value, table) := (← tableAt number).get key
      setTable number table
      return value
    | .field index => field (← fieldNumber (← evaluate fuel index))
    | .group inner => evaluate fuel inner
    | .list _ => return .absent
    | .assign target value =>
      let place ← placeOf fuel target
      let value ← evaluate fuel value
      keep place value
      return value
    | .change operation target value =>
      let place ← placeOf fuel target
      let value := (← evaluate fuel value).toNumber
      let old := (← kept place).toNumber
      let new := Value.number (operation.apply old value)
      keep place new
      return new
    | .step isBefore amount target =>
      let place ← placeOf fuel target
      let old := (← kept place).toNumber
      let new := old + .ofInt amount
      keep place (.number new)
      return .number (if isBefore then old else new)
    | .choose condition yes no =>
      if (← evaluate fuel condition).holds then evaluate fuel yes else evaluate fuel no
    | .or first second =>
      if (← evaluate fuel first).holds then return .ofBool true
      else return .ofBool (← evaluate fuel second).holds
    | .and first second =>
      if (← evaluate fuel first).holds then return .ofBool (← evaluate fuel second).holds
      else return .ofBool false
    | .not inner => return .ofBool !(← evaluate fuel inner).holds
    | .negate inner => return .number (-(← evaluate fuel inner).toNumber)
    | .plain inner => return .number (← evaluate fuel inner).toNumber
    | .has subscripts table =>
      let key ← key fuel subscripts
      let number ← tableNumber table
      let (found, table) := (← tableAt number).find key false
      setTable number table
      return .ofBool found.isSome
    | .fits negated subject pattern =>
      let subject ← text (← evaluate fuel subject)
      let pattern ← patternOf fuel pattern
      return .ofBool (pattern.isFoundIn (subjectOf subject) != negated)
    | .compare order first second =>
      let first ← evaluate fuel first
      let second ← evaluate fuel second
      return .ofBool (order.holds first second (← text first) (← text second))
    | .join first second =>
      let first ← text (← evaluate fuel first)
      let second ← text (← evaluate fuel second)
      return .text (first ++ second)
    | .calculate operation first second =>
      let first := (← evaluate fuel first).toNumber
      let second := (← evaluate fuel second).toNumber
      return .number (operation.apply first second)
    | .builtin function arguments => callBuiltin fuel function arguments
    | .call name arguments => call fuel name arguments
    | .readMain target =>
      let place ← placeOf fuel (target.getD wholeRecord)
      let found ← takeMain 100000
      keepRead (some found) place
    | .readFile target path =>
      let place ← placeOf fuel (target.getD wholeRecord)
      let path ← text (← evaluate fuel path)
      keepRead (← takeFrom false path) place
    | .readCommand target command =>
      let command ← text (← evaluate fuel command)
      let place ← placeOf fuel (target.getD wholeRecord)
      keepRead (← takeFrom true command) place

/-- The place that a target is. -/
def placeOf : Nat → Expression → Running Place
  | 0, _ => return .nowhere
  | fuel + 1, target => do
    match target with
    | .name name => return .scalar name
    | .element table subscripts =>
      let number ← tableNumber table
      return .element number (← key fuel subscripts)
    | .field index => return .field (← fieldNumber (← evaluate fuel index))
    | .group inner => placeOf fuel inner
    | _ => return .nowhere

/-- The key that subscripts make. -/
def key : Nat → List Expression → Running Key
  | 0, _ => return .name ""
  | fuel + 1, subscripts => do
    match subscripts with
    | [subscript] => keyOf (← evaluate fuel subscript)
    | subscripts =>
      let texts ← (← evaluateAll fuel subscripts).mapM text
      return .name ((← textOf "SUBSEP").intercalate texts)

/-- The values of expressions. -/
def evaluateAll : Nat → List Expression → Running (List Value)
  | 0, _ | _, [] => return []
  | fuel + 1, first :: later => do
    let value ← evaluate fuel first
    return value :: (← evaluateAll fuel later)

/-- The regular expression that an expression stands for. -/
def patternOf : Nat → Expression → Running RegularExpression
  | 0, _ => return .empty
  | fuel + 1, expression => do
    match expression with
    | .pattern pattern => return pattern
    | expression => patternIn (← text (← evaluate fuel expression))

/-- The value of a function that every program knows. -/
def callBuiltin : Nat → Builtin → List Expression → Running Value
  | 0, _, _ => return .absent
  | fuel + 1, function, arguments => do
    match function, arguments with
    | .length, [] => return .ofNat (← text (← get).record).length
    | .length, [.name name] =>
      match (← cell name) with
      | .table number => return .ofNat (← tableAt number).values.length
      | .value value => return .ofNat (← text value).length
    | .split, source :: .name table :: separator =>
      let source ← text (← evaluate fuel source)
      let separator ← match separator with
        | [.pattern pattern] => pure (Separator.pattern pattern)
        | [separator] => separatorIn (← text (← evaluate fuel separator))
        | _ => separatorIn (← textOf "FS")
      let parts := separator.cut source
      setTable (← tableNumber table) (Table.ofRow (parts.map Value.input))
      return .ofNat parts.length
    | .substitute, pattern :: replacement :: target =>
      replace fuel 1 pattern replacement (target.headD wholeRecord)
    | .substituteAll, pattern :: replacement :: target =>
      replace fuel (Nat.pow 10 9) pattern replacement (target.headD wholeRecord)
    | .find, [subject, pattern] =>
      let subject ← text (← evaluate fuel subject)
      let pattern ← patternOf fuel pattern
      let (start, length) : Nat × Int := match pattern.matchFrom? (subjectOf subject) 0 with
        | some found => (found.start + 1, found.stop - found.start)
        | none => (0, -1)
      setCell "RSTART" (.value (.ofNat start))
      setCell "RLENGTH" (.value (.ofInt length))
      return .ofNat start
    | .format, arguments =>
      let (found, fault) ← formatted "sprintf" (← evaluateAll fuel arguments)
      match fault with
      | some message => failRunning message
      | none => return .text found
    | .flush, arguments =>
      let names ← (← evaluateAll fuel arguments).mapM text
      flushAll
      let outputs := (← get).outputs
      return .ofInt (if names.all fun name => (outputs.lookup name).isSome then 0 else -1)
    | function, arguments =>
      let values ← evaluateAll fuel arguments
      let first := values.headD .absent
      match function with
      | .length => return .ofNat (← text first).length
      | .part =>
        let source ← text first
        let position := (values[1]?.getD Value.absent).toNumber
        let length := values[2]?.map (·.toNumber)
        return .text (String.ofList (partOf source.toList position length))
      | .index =>
        let source ← text first
        let part ← text (values[1]?.getD Value.absent)
        return .ofNat (indexIn source.toList part.toList)
      | .lower => return .text ((← text first).map Char.toLower)
      | .upper => return .text ((← text first).map Char.toUpper)
      | .run =>
        flushAll
        return .ofNat (codeOf (← runCommand (← text first) id))
      | .close => return .ofInt (← close (← text first))
      | .angle =>
        return .number (angleOf first.toNumber (values[1]?.getD Value.absent).toNumber)
      | .seed =>
        let old := (← get).seed
        modify fun state => { state with seed := first }
        return old
      | .random | .now => return .ofNat 0
      | function => return .number (functionValue function first.toNumber)

/-- Replaces matches in a target, and returns how many there were. -/
def replace : Nat → Nat → Expression → Expression → Expression → Running Value
  | 0, _, _, _, _ => return .absent
  | fuel + 1, most, pattern, replacement, target => do
    let pattern ← patternOf fuel pattern
    let replacement ← text (← evaluate fuel replacement)
    let place ← placeOf fuel target
    let old ← text (← kept place)
    let (new, count) := replaceFrom pattern (replacementParts replacement.toList) (subjectOf old)
      (2 * old.length + 2) most 0 none
    if 0 < count then keep place (.text (String.ofList new))
    return .ofNat count

/-- Calls a function of the program. A bare name that was never set is handed over as a
table, which the function may use. -/
def call : Nat → String → List Expression → Running Value
  | 0, _, _ => fail "function call nesting too deep"
  | fuel + 1, name, arguments => do
    match (← read).functions.find? (·.name == name) with
    | none => fail ("function " ++ name ++ " never defined")
    | some function =>
      let cells ← handOver fuel arguments
      let missing := function.parameterCount - cells.length
      let outer := (← get).parameters
      modify fun state => { state with
        parameters := (cells ++ List.replicate missing (Cell.value .absent)).toArray }
      let flow ← execute fuel function.body
      modify fun state => { state with parameters := outer }
      return match flow with
        | .gaveBack value => value
        | _ => .absent

/-- What arguments hand over to a function. -/
def handOver : Nat → List Expression → Running (List Cell)
  | 0, _ | _, [] => return []
  | fuel + 1, first :: later => do
    let found ← match first with
      | .name name =>
        match (← cell name) with
        | .value .absent =>
          let number ← tableNumber name
          pure (.table number)
        | found => pure found
      | expression =>
        let value ← evaluate fuel expression
        pure (.value value)
    return found :: (← handOver fuel later)

/-- Where something is printed to. -/
def outputOf : Nat → Option (Direction × Expression) → Running (Option (Direction × String))
  | 0, _ | _, none => return none
  | fuel + 1, some (direction, expression) => do
    let name ← text (← evaluate fuel expression)
    return some (direction, name)

/-- Executes a statement. The fuel bounds the number of steps. -/
def execute : Nat → Statement → Running Flow
  | 0, _ => fail "program limit exceeded"
  | fuel + 1, statement => do
    match statement with
    | .evaluate expression =>
      let _ ← evaluate fuel expression
      return .on
    | .print items output =>
      let text ← printValues (← evaluateAll fuel items)
      write (← outputOf fuel output) text
      return .on
    | .printFormatted items output =>
      let (text, fault) ← formatted "printf" (← evaluateAll fuel items)
      write (← outputOf fuel output) text
      match fault with
      | some message => failRunning message
      | none => return .on
    | .block statements => executeAll fuel statements
    | .choose condition yes no =>
      if (← evaluate fuel condition).holds then execute fuel yes
      else match no with
        | some no => execute fuel no
        | none => return .on
    | .whileHolds condition body => loop fuel (some condition) none body
    | .doWhile body condition =>
      match (← execute fuel body) with
      | .left => return .on
      | .gaveBack value => return .gaveBack value
      | _ => loop fuel (some condition) none body
    | .count start condition step body =>
      if let some start := start then
        let _ ← evaluate fuel start
      loop fuel condition step body
    | .forKeys key table body =>
      let number ← tableNumber table
      let (names, table) := (← tableAt number).list
      setTable number table
      forAll fuel key names body
    | .leaveLoop => return .left
    | .repeatLoop => return .repeated
    | .next => throw .next
    | .nextFile => throw .nextFile
    | .exit code =>
      match code with
      | none => throw (.exit none)
      | some code =>
        let n := (wholePart? (← evaluate fuel code).toNumber).getD 0
        throw (.exit (some (n % 256).toNat))
    | .giveBack value =>
      match value with
      | none => return .gaveBack .absent
      | some value => return .gaveBack (← evaluate fuel value)
    | .erase table subscripts =>
      let number ← tableNumber table
      let key ← key fuel subscripts
      setTable number ((← tableAt number).erase key)
      return .on
    | .clear table =>
      setTable (← tableNumber table) {}
      return .on

/-- Executes statements one after the other. -/
def executeAll : Nat → List Statement → Running Flow
  | 0, _ | _, [] => return .on
  | fuel + 1, first :: later => do
    match (← execute fuel first) with
    | .on => executeAll fuel later
    | flow => return flow

/-- Goes through rounds of a loop as long as its condition holds. -/
def loop : Nat → Option Expression → Option Expression → Statement → Running Flow
  | 0, _, _, _ => fail "program limit exceeded"
  | fuel + 1, condition, step, body => do
    let holds ← match condition with
      | none => pure true
      | some condition => do
        let value ← evaluate fuel condition
        pure value.holds
    if !holds then return .on
    else match (← execute fuel body) with
      | .left => return .on
      | .gaveBack value => return .gaveBack value
      | _ =>
        if let some step := step then
          let _ ← evaluate fuel step
        loop fuel condition step body

/-- Goes through a loop once for each key of a table. -/
def forAll : Nat → Name → List String → Statement → Running Flow
  | 0, _, _, _ => fail "program limit exceeded"
  | fuel + 1, key, names, body => do
    match names with
    | [] => return .on
    | name :: later =>
      setVariable key (.text name)
      match (← execute fuel body) with
      | .left => return .on
      | .gaveBack value => return .gaveBack value
      | _ => forAll fuel key later body

end

/-- The number of steps after which a program is stopped. -/
def maxSteps : Nat := Nat.pow 10 9

/-- Whether something is done for the record. -/
def isChosen (condition : Condition) : Running Bool := do
  match condition with
  | .all => return true
  | .holds expression => return (← evaluate maxSteps expression).holds
  | .range number first last =>
    let isOpen := (← get).openRanges.contains number
    let begins ← if isOpen then pure true else do
      let value ← evaluate maxSteps first
      pure value.holds
    if !begins then return false
    else
      let ends := (← evaluate maxSteps last).holds
      modify fun state => { state with
        openRanges :=
          if ends then state.openRanges.filter (· != number)
          else if isOpen then state.openRanges
          else number :: state.openRanges }
      return true

/-- Does what is to be done for the record. -/
def useRules : List (Condition × Statement) → Running Unit
  | [] => return
  | (condition, action) :: later => do
    if (← isChosen condition) then
      let _ ← execute maxSteps action
    useRules later

/-- Does what is to be done for all records. The fuel bounds their number. -/
def useRecords (rules : List (Condition × Statement)) : Nat → Running Unit
  | 0 => return
  | fuel + 1 => do
    match (← takeMain 100000) with
    | none => return
    | some record =>
      setRecord (.input record)
      try useRules rules
      catch halt =>
        match halt with
        | .next => pure ()
        | .nextFile => modify fun state => { state with main := none }
        | halt => throw halt
      useRecords rules fuel

end Running
end ProfileGraph.Utility.Scan
