import ProfileGraph.StandIn.Utility.Scan.State
import ProfileGraph.StandIn.Utility.Scan.Tokenizer

/-! Records and fields. A text is cut into records, and a record into fields, at
characters or at the matches of a regular expression; blanks cut into words. -/
namespace ProfileGraph.Utility.Scan

/-- What lies between fields. -/
inductive Separator where
  | gaps
  /-- Every character is a field. -/
  | nothing
  | char (c : Char)
  | pattern (pattern : RegularExpression)

/-- The separator that a text denotes, if it is no regular expression. -/
def plainSeparator? (text : String) : Option Separator :=
  match text.toList with
  | [] => some .nothing
  | [' '] => some .gaps
  | [c] => some (.char c)
  | _ => none

/-- The words of a text between gaps. -/
def wordsOf (text : List Char) : List String :=
  ((text.splitOnP isGap).filter (!·.isEmpty)).map String.ofList

/-- Cuts a text at the matches of a regular expression that are not empty, from a
position on. The fuel bounds the number of matches. -/
def cutAt (pattern : RegularExpression) (subject : Subject) :
    Nat → Nat → Nat → List String
  | 0, start, _ => [String.ofList (subject.chars.toList.drop start)]
  | fuel + 1, start, position =>
    match pattern.matchFrom? subject position with
    | none => [String.ofList (subject.chars.toList.drop start)]
    | some found =>
      if found.stop = found.start then
        if found.stop < subject.chars.size then cutAt pattern subject fuel start (found.stop + 1)
        else [String.ofList (subject.chars.toList.drop start)]
      else
        String.ofList (subject.chars.extract start found.start).toList
          :: cutAt pattern subject fuel found.stop found.stop

/-- The parts of a text between separators. -/
def Separator.cut (separator : Separator) (text : String) : List String :=
  if text.isEmpty then []
  else match separator with
    | .gaps => wordsOf text.toList
    | .nothing => text.toList.map String.singleton
    | .char c => (text.toList.splitOnP (· == c)).map String.ofList
    | .pattern found => cutAt found { chars := text.toList.toArray } (text.length + 1) 0 0

/-- Takes a record from the front of a text: the record and the rest. The result is
missing if the text is empty. -/
def takeUntil (mark : Char) (text : List Char) : Option (List Char × List Char) :=
  if text.isEmpty then none
  else
    let (record, rest) := text.span (· != mark)
    some (record, rest.drop 1)

/-- Takes lines up to one that is empty. -/
def takeParagraph (text : List Char) : Option (List Char × List Char) :=
  let text := text.dropWhile (· == '\n')
  if text.isEmpty then none else some (go text [])
where
  /-- Takes lines behind others, which are given backwards. -/
  go : List Char → List Char → List Char × List Char
    | [], before => ((before.dropWhile (· == '\n')).reverse, [])
    | '\n' :: '\n' :: rest, before => (before.reverse, rest.dropWhile (· == '\n'))
    | c :: rest, before => go rest (c :: before)

/-- Takes a text up to a match of a regular expression. -/
def takeToMatch (pattern : RegularExpression) (text : List Char) :
    Option (List Char × List Char) :=
  if text.isEmpty then none
  else
    let subject : Subject := { chars := text.toArray }
    let first? := (List.range text.length).findSome? fun start =>
      (pattern.matchAt? subject start).filter fun found => found.start < found.stop
    match first? with
    | some found => some (text.take found.start, text.drop found.stop)
    | none => some (text, [])

namespace Running

/-- The separator that a text denotes. -/
def separatorIn (text : String) : Running Separator := do
  match plainSeparator? text with
  | some separator => return separator
  | none => return .pattern (← patternIn text)

/-- Sets the number of fields. -/
def setCount (count : Nat) : Running Unit := setCell "NF" (.value (.ofNat count))

/-- Takes a value as the record and cuts it into fields. -/
def setRecord (value : Value) : Running Unit := do
  let text ← text value
  let parts := (← separatorIn (← textOf "FS")).cut text
  modify fun state => { state with
    record := value
    fields := (parts.map Value.input).toArray }
  setCount parts.length

/-- Joins the fields to the record. -/
def joinFields : Running Unit := do
  let between ← textOf "OFS"
  let texts ← (← get).fields.toList.mapM text
  modify fun state => { state with record := .input (between.intercalate texts) }

/-- Changes how many fields there are. -/
def resizeFields (count : Nat) : Running Unit := do
  let fields := (← get).fields
  let missing := count - fields.size
  modify fun state => { state with
    fields := fields.extract 0 count ++ Array.replicate missing Value.absent }
  setCount count

/-- The number of the field that a value denotes. -/
def fieldNumber (value : Value) : Running Nat := do
  match wholePart? value.toNumber with
  | some n =>
    if n < 0 then failRunning ("negative field index $" ++ toString n) else return n.toNat
  | none => return 0

/-- The value of a field. -/
def field (index : Nat) : Running Value := do
  if index = 0 then return (← get).record
  else return ((← get).fields[index - 1]?).getD .absent

/-- Gives a value to a field. -/
def setField (index : Nat) (value : Value) : Running Unit := do
  if index = 0 then setRecord value
  else
    if (← get).fields.size < index then resizeFields index
    modify fun state => { state with fields := state.fields.set! (index - 1) value }
    joinFields

/-- Gives a value to a variable. A new number of fields makes a new record. -/
def setVariable (name : Name) (value : Value) : Running Unit := do
  setName name (.value value)
  if name = .global "NF" then
    match wholePart? value.toNumber with
    | some n =>
      if n < 0 then failRunning "negative value assigned to NF"
      resizeFields n.toNat
      joinFields
    | none => pure ()

/-- Takes a record from a source. -/
def takeRecord (source : Source) : Running (Option (String × Source)) := do
  let mark ← textOf "RS"
  let found ← match mark.toList with
    | [] => pure (takeParagraph source.text)
    | [c] => pure (takeUntil c source.text)
    | _ => pure (takeToMatch (← patternIn mark) source.text)
  return found.map fun (record, rest) => (String.ofList record, { source with text := rest })

/-- Adds one to a variable that counts. -/
def countUp (name : String) : Running Unit := do
  setCell name (.value (.number ((← valueOf name).toNumber + .ofNat 1)))

/-- The variable and its text that an argument gives, if it sets a variable. -/
def setting? (argument : String) : Option (String × String) :=
  let (name, rest) := argument.toList.span Tokenizer.isNameChar
  match name, rest with
  | first :: _, '=' :: value =>
    if first.isDigit then none else some (String.ofList name, String.ofList value)
  | _, _ => none

/-- The text with its escapes resolved. The fuel bounds its length. -/
def unescaped : Nat → List Char → List Char
  | 0, text => text
  | _, [] => []
  | fuel + 1, '\\' :: rest =>
    match Pattern.escape? rest with
    | some (c, rest) => c :: unescaped fuel rest
    | none => '\\' :: unescaped fuel rest
  | fuel + 1, c :: rest => c :: unescaped fuel rest

/-- Sets the variable that an argument sets. -/
def applySetting (name text : String) : Running Unit := do
  let value := String.ofList (unescaped (text.length + 1) text.toList)
  setVariable (.global name) (.input value)

/-- Opens an input that an argument names. -/
def openMain (path : String) : Running Source := do
  setCell "FNR" (.value (.ofNat 0))
  match (← job (readInput path)) with
  | .ok text => return { text := text.toList }
  | .error reason => fail ("cannot open \"" ++ path ++ "\" (" ++ reason.description ++ ")")

/-- Opens the next input that the arguments name. The fuel bounds their number. -/
def nextMain : Nat → Running (Option Source)
  | 0 => return none
  | fuel + 1 => do
    let state ← get
    let count := (wholePart? (← valueOf "ARGC").toNumber).getD 0
    if count ≤ state.nextArgument then
      if state.hasInput then return none
      else
        set { state with hasInput := true }
        let source ← openMain "-"
        setCell "FILENAME" (.value (.text "-"))
        return some source
    else
      set { state with nextArgument := state.nextArgument + 1 }
      let arguments ← tableAt (← tableNumber (.global "ARGV"))
      let argument ← text (((arguments.find (.number state.nextArgument) false).1).getD .absent)
      if argument.isEmpty then nextMain fuel
      else match setting? argument with
        | some (name, value) =>
          applySetting name value
          nextMain fuel
        | none =>
          modify fun state => { state with hasInput := true }
          let source ← openMain argument
          setCell "FILENAME" (.value (.text argument))
          return some source

/-- Takes the next record of the input. The fuel bounds the number of inputs. -/
def takeMain : Nat → Running (Option String)
  | 0 => return none
  | fuel + 1 => do
    let state ← get
    if state.isAtEnd then return none
    match state.main with
    | none =>
      match (← nextMain 100000) with
      | none =>
        modify fun state => { state with isAtEnd := true }
        return none
      | some source =>
        modify fun state => { state with main := some source }
        takeMain fuel
    | some source =>
      match (← takeRecord source) with
      | none =>
        modify fun state => { state with main := none }
        takeMain fuel
      | some (record, source) =>
        modify fun state => { state with main := some source }
        countUp "NR"
        countUp "FNR"
        return some record

/-- The source with a name, which is opened if it is not open. -/
def sourceFor (isCommand : Bool) (name : String) : Running (Option Source) := do
  match (← get).sources.lookup name with
  | some source => return some source
  | none =>
    if isCommand then
      flushAll
      let (number, machine) := (← job get).openStream
      job (set machine)
      let status ← runCommand name fun process => process.withDescriptor 1 number
      let bytes := (← job get).streamBytes number
      return some { text := (Octets.ofBytes bytes).toList, code := some (codeOf status) }
    else
      match (← job (readInput name)) with
      | .ok text => return some { text := text.toList }
      | .error _ => return none

/-- Takes a record from the source with a name. The outer result is missing if there is no
such source, and the inner one at its end. -/
def takeFrom (isCommand : Bool) (name : String) : Running (Option (Option String)) := do
  match (← sourceFor isCommand name) with
  | none => return none
  | some source =>
    let found ← takeRecord source
    let left := match found with
      | some (_, left) => left
      | none => source
    modify fun state => { state with
      sources := (name, left) :: state.sources.filter (·.1 != name) }
    return some (found.map (·.1))

/-- Closes the files and commands with a name. The result is the code of a command, or
less than zero if nothing had the name. -/
def close (name : String) : Running Int := do
  let state ← get
  let closed ← match state.outputs.lookup name with
    | some output =>
      if output.file.isNone then flushAll
      let code ← closeOutput name output
      pure (some code)
    | none => pure none
  match state.sources.lookup name with
  | some source =>
    modify fun state => { state with sources := state.sources.filter (·.1 != name) }
    return source.code.getD 0
  | none => return match closed with
    | some code => code
    | none => -1

end Running
end ProfileGraph.Utility.Scan
