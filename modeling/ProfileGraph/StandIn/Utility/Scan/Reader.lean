import ProfileGraph.StandIn.Utility.Scan.Tokenizer

/-! How programs are read. Operators bind more closely from level to level: choices,
alternatives, conjunctions, the search for keys, matches, comparisons, texts that are
joined, sums, products, signs, powers, and steps. -/
namespace ProfileGraph.Utility.Scan

/-- What a name was used as. -/
inductive Use where
  | scalar
  | table
deriving DecidableEq, Repr

/-- What has been read, and where reading goes on. -/
structure Reading where
  rest : List Placed
  /-- The parameters of the function that is read. -/
  parameters : List (String × Option Use) := []
  /-- What the names of the program were used as. -/
  uses : List (String × Use) := []
  /-- The functions that are known, with the numbers of their parameters. -/
  functions : List (String × Nat) := []
  /-- The functions that were called, with the numbers of arguments. -/
  calls : List (String × Nat × Nat) := []
  ranges : Nat := 0
  /-- How many parentheses are open. -/
  depth : Nat := 0
  isInLoop : Bool := false
  isInFunction : Bool := false
  /-- The rule is used for records. -/
  isInRecord : Bool := false

/-- Reads with faults, each in a line. -/
abbrev Reader := StateT Reading (Except (Nat × Fault))

namespace Reader

/-- The next token. -/
def peek : Reader Token := do
  match (← get).rest with
  | next :: _ => return next.token
  | [] => return .stop

/-- The line of the next token. -/
def line : Reader Nat := do
  match (← get).rest with
  | next :: _ => return next.line
  | [] => return 1

/-- Goes on behind the next token. -/
def advance : Reader Unit := modify fun reading => { reading with rest := reading.rest.tail }

/-- Refuses the text with a fault in the line of the next token. -/
def fail {α : Type} (fault : Fault) : Reader α := do throw (← line, fault)

/-- Refuses the next token. -/
def refuse {α : Type} : Reader α := do
  let token ← peek
  let isOpen := 0 < (← get).depth
  match token with
  | .stop => fail .unclosedBrace
  | .lineEnd => fail (if isOpen then .unclosedParenthesis "end of line" else .unexpected "end of line")
  | .sign "\x7d" => fail (if isOpen then .unclosedParenthesis "\x7d" else .unexpected "\x7d")
  | token => fail (.unexpected token.spelling)

/-- Whether the next token is a sign. -/
def isSign (sign : String) : Reader Bool := return (← peek) == .sign sign

/-- Goes on behind a sign, if it comes next. -/
def skipSign (sign : String) : Reader Bool := do
  if (← isSign sign) then
    advance
    return true
  else return false

/-- Goes on behind a sign, which must come next. -/
def expectSign (sign : String) : Reader Unit := do
  unless (← skipSign sign) do refuse

/-- Goes on behind an opening parenthesis. -/
def openParenthesis : Reader Unit := do
  expectSign "("
  modify fun reading => { reading with depth := reading.depth + 1 }

/-- Goes on behind a closing parenthesis. -/
def closeParenthesis : Reader Unit := do
  expectSign ")"
  modify fun reading => { reading with depth := reading.depth - 1 }

/-- Goes on behind the end of a line, if it comes next. The tokens hold no two ends of
lines in a row. -/
def skipLineEnds : Reader Unit := do
  if (← peek) == .lineEnd then advance

/-- The variable with a name, which is used in a way. -/
def nameFor (use : Option Use) (name : String) : Reader Name := do
  let reading ← get
  let clash : Use → Fault
    | .table => .tableAsVariable name
    | .scalar => .variableAsTable name
  match reading.parameters.findIdx? (·.1 == name) with
  | some index =>
    let known := ((reading.parameters[index]?).map (·.2)).getD none
    match use, known with
    | some use, some old =>
      unless use == old do
        fail (if old == .table then .parameterAsVariable name else .parameterAsTable name)
    | some use, none =>
      set { reading with parameters := reading.parameters.set index (name, some use) }
    | none, _ => pure ()
    return .parameter index
  | none =>
    match use, reading.uses.lookup name with
    | some use, some old => unless use == old do fail (clash old)
    | some use, none => set { reading with uses := (name, use) :: reading.uses }
    | none, _ => pure ()
    return .global name

/-- Reads the text of a regular expression. -/
def patternOf (text : String) : Reader RegularExpression := do
  match Pattern.read text with
  | .ok pattern => return pattern
  | .error fault => fail (.badPattern fault text)

/-- The sign between two values that are compared. -/
def order? : Token → Option Order
  | .sign "<" => some .less
  | .sign "<=" => some .lessOrEqual
  | .sign "==" => some .equal
  | .sign "!=" => some .different
  | .sign ">" => some .greater
  | .sign ">=" => some .greaterOrEqual
  | _ => none

/-- The sign that changes a target. -/
def change? : Token → Option (Option Operation)
  | .sign "=" => some none
  | .sign "+=" => some (some .plus)
  | .sign "-=" => some (some .minus)
  | .sign "*=" => some (some .times)
  | .sign "/=" => some (some .over)
  | .sign "%=" => some (some .modulo)
  | .sign "^=" => some (some .power)
  | _ => none

/-- Whether a token can begin a value that is joined to the one in front of it. -/
def startsValue : Token → Bool
  | .number _ | .text _ | .pattern _ | .name _ | .callee _ | .builtin .. => true
  | .keyword word => word == "getline"
  | .sign sign => ["(", "!", "$", "++", "--"].contains sign
  | _ => false

/-- Whether a token ends what is printed. -/
def endsPrinting : Token → Bool
  | .lineEnd | .stop => true
  | .sign sign => [";", "\x7d", ">", ">>", "|"].contains sign
  | _ => false

/-- How many arguments a function takes. -/
def argumentCounts : Builtin → Nat × Nat
  | .length => (0, 1)
  | .part => (2, 3)
  | .index | .angle => (2, 2)
  | .split => (2, 3)
  | .substitute | .substituteAll => (2, 3)
  | .find => (2, 2)
  | .format => (1, 1000)
  | .flush | .seed => (0, 1)
  | .random | .now => (0, 0)
  | _ => (1, 1)

mutual

/-- Reads an expression. `isPrinted` says that a sign for greater values ends it. The
fuel bounds the number of steps. -/
def expression : Nat → Bool → Reader Expression
  | 0, _ => refuse
  | fuel + 1, isPrinted => do
    let condition ← alternatives fuel isPrinted
    if (← skipSign "?") then
      let yes ← expression fuel isPrinted
      expectSign ":"
      return .choose condition yes (← expression fuel isPrinted)
    else return condition

/-- Reads conditions one of which must hold. -/
def alternatives : Nat → Bool → Reader Expression
  | 0, _ => refuse
  | fuel + 1, isPrinted => do moreAlternatives fuel isPrinted (← conjunctions fuel isPrinted)

/-- Reads further conditions behind a first one, one of which must hold. -/
def moreAlternatives : Nat → Bool → Expression → Reader Expression
  | 0, _, _ => refuse
  | fuel + 1, isPrinted, first => do
    if (← skipSign "||") then
      moreAlternatives fuel isPrinted (.or first (← conjunctions fuel isPrinted))
    else return first

/-- Reads conditions that must all hold. -/
def conjunctions : Nat → Bool → Reader Expression
  | 0, _ => refuse
  | fuel + 1, isPrinted => do moreConjunctions fuel isPrinted (← memberships fuel isPrinted)

/-- Reads further conditions behind a first one that must all hold. -/
def moreConjunctions : Nat → Bool → Expression → Reader Expression
  | 0, _, _ => refuse
  | fuel + 1, isPrinted, first => do
    if (← skipSign "&&") then
      moreConjunctions fuel isPrinted (.and first (← memberships fuel isPrinted))
    else return first

/-- Reads a value, and the tables that it is looked up in. -/
def memberships : Nat → Bool → Reader Expression
  | 0, _ => refuse
  | fuel + 1, isPrinted => do moreMemberships fuel (← fittings fuel isPrinted)

/-- Reads the tables that a value is looked up in. -/
def moreMemberships : Nat → Expression → Reader Expression
  | 0, _ => refuse
  | fuel + 1, first => do
    if (← peek) == .keyword "in" then
      advance
      moreMemberships fuel (.has [first] (← tableName))
    else return first

/-- Reads a value, and the patterns that it is matched with. -/
def fittings : Nat → Bool → Reader Expression
  | 0, _ => refuse
  | fuel + 1, isPrinted => do moreFittings fuel isPrinted (← comparisons fuel isPrinted)

/-- Reads the patterns that a value is matched with. -/
def moreFittings : Nat → Bool → Expression → Reader Expression
  | 0, _, _ => refuse
  | fuel + 1, isPrinted, first => do
    if (← skipSign "~") then
      moreFittings fuel isPrinted (.fits false first (← comparisons fuel isPrinted))
    else if (← skipSign "!~") then
      moreFittings fuel isPrinted (.fits true first (← comparisons fuel isPrinted))
    else return first

/-- Reads values that are compared. -/
def comparisons : Nat → Bool → Reader Expression
  | 0, _ => refuse
  | fuel + 1, isPrinted => do moreComparisons fuel isPrinted (← assignments fuel isPrinted)

/-- Reads the values that a first one is compared with. -/
def moreComparisons : Nat → Bool → Expression → Reader Expression
  | 0, _, _ => refuse
  | fuel + 1, isPrinted, first => do
    match order? (← peek) with
    | none => return first
    | some order =>
      if isPrinted && order == .greater then return first
      else
        advance
        moreComparisons fuel isPrinted (.compare order first (← assignments fuel isPrinted))

/-- Reads texts that are joined, or an assignment to a target. -/
def assignments : Nat → Bool → Reader Expression
  | 0, _ => refuse
  | fuel + 1, isPrinted => do
    let first ← joined fuel isPrinted
    match change? (← peek) with
    | none => return first
    | some operation =>
      unless first.isTarget do refuse
      if let .name name := first then useAsVariable name
      advance
      let value ← expression fuel isPrinted
      return match operation with
        | none => .assign first value
        | some operation => .change operation first value

/-- Reads values that stand beside each other, which joins their texts. -/
def joined : Nat → Bool → Reader Expression
  | 0, _ => refuse
  | fuel + 1, isPrinted => do moreJoined fuel isPrinted (← sums fuel isPrinted)

/-- Reads the values that stand behind a first one. -/
def moreJoined : Nat → Bool → Expression → Reader Expression
  | 0, _, _ => refuse
  | fuel + 1, isPrinted, first => do
    if startsValue (← peek) then
      moreJoined fuel isPrinted (.join first (← sums fuel isPrinted))
    else return first

/-- Reads values that are added or subtracted. -/
def sums : Nat → Bool → Reader Expression
  | 0, _ => refuse
  | fuel + 1, isPrinted => do moreSums fuel isPrinted (← products fuel isPrinted)

/-- Reads what is added to a first value or subtracted from it. -/
def moreSums : Nat → Bool → Expression → Reader Expression
  | 0, _, _ => refuse
  | fuel + 1, isPrinted, first => do
    if (← skipSign "+") then
      moreSums fuel isPrinted (.calculate .plus first (← products fuel isPrinted))
    else if (← skipSign "-") then
      moreSums fuel isPrinted (.calculate .minus first (← products fuel isPrinted))
    else return first

/-- Reads values that are multiplied or divided. -/
def products : Nat → Bool → Reader Expression
  | 0, _ => refuse
  | fuel + 1, isPrinted => do moreProducts fuel isPrinted (← signed fuel isPrinted)

/-- Reads what a first value is multiplied with or divided by. -/
def moreProducts : Nat → Bool → Expression → Reader Expression
  | 0, _, _ => refuse
  | fuel + 1, isPrinted, first => do
    if (← skipSign "*") then
      moreProducts fuel isPrinted (.calculate .times first (← signed fuel isPrinted))
    else if (← skipSign "/") then
      moreProducts fuel isPrinted (.calculate .over first (← signed fuel isPrinted))
    else if (← skipSign "%") then
      moreProducts fuel isPrinted (.calculate .modulo first (← signed fuel isPrinted))
    else return first

/-- Reads a value behind its signs. -/
def signed : Nat → Bool → Reader Expression
  | 0, _ => refuse
  | fuel + 1, isPrinted => do
    if (← skipSign "!") then return .not (← signed fuel isPrinted)
    else if (← skipSign "-") then return .negate (← signed fuel isPrinted)
    else if (← skipSign "+") then return .plain (← signed fuel isPrinted)
    else piped fuel isPrinted (← powers fuel isPrinted)

/-- Reads what takes records from a command. -/
def piped : Nat → Bool → Expression → Reader Expression
  | 0, _, _ => refuse
  | fuel + 1, isPrinted, first => do
    if !isPrinted && (← isSign "|") then
      advance
      unless (← peek) == .keyword "getline" do refuse
      advance
      piped fuel isPrinted (.readCommand (← target? fuel) first)
    else return first

/-- Reads a power, which groups to the right. -/
def powers : Nat → Bool → Reader Expression
  | 0, _ => refuse
  | fuel + 1, isPrinted => do
    let base ← stepped fuel
    if (← skipSign "^") then
      let token ← peek
      let exponent ←
        if token == .sign "-" || token == .sign "+" || token == .sign "!" then
          signed fuel isPrinted
        else powers fuel isPrinted
      return .calculate .power base exponent
    else return base

/-- Reads a value, and a step behind it if it is a target. -/
def stepped : Nat → Reader Expression
  | 0 => refuse
  | fuel + 1 => do
    let value ← operand fuel
    if !value.isTarget then return value
    else if (← isSign "++") then
      if let .name name := value then useAsVariable name
      advance
      return .step true 1 value
    else if (← isSign "--") then
      if let .name name := value then useAsVariable name
      advance
      return .step true (-1) value
    else
      if let .name name := value then useAsVariable name
      return value

/-- Notes that a name is used as a variable. -/
def useAsVariable (name : Name) : Reader Unit := do
  match name with
  | .global name => let _ ← nameFor (some .scalar) name
  | .parameter index =>
    if let some (name, _) := (← get).parameters[index]? then
      let _ ← nameFor (some .scalar) name

/-- Reads the name of a table. -/
def tableName : Reader Name := do
  match (← peek) with
  | .name name =>
    let found ← nameFor (some .table) name
    advance
    return found
  | _ => refuse

/-- Reads a target, if one comes next. -/
def target? : Nat → Reader (Option Expression)
  | 0 => refuse
  | fuel + 1 => do
    match (← peek) with
    | .name _ | .sign "$" =>
      let value ← operand fuel
      if let .name name := value then useAsVariable name
      return some value
    | _ => return none

/-- Reads expressions between commas. -/
def items : Nat → Bool → Reader (List Expression)
  | 0, _ => refuse
  | fuel + 1, isPrinted => do
    let first ← expression fuel isPrinted
    if (← skipSign ",") then return first :: (← items fuel isPrinted)
    else return [first]

/-- Reads the arguments of a function of the program. A bare name may be a table. -/
def arguments : Nat → Reader (List Expression)
  | 0 => refuse
  | fuel + 1 => do
    let first ← match (← get).rest with
      | ⟨.name name, _⟩ :: ⟨.sign sign, _⟩ :: _ =>
        if sign == "," || sign == ")" then
          let found ← nameFor none name
          advance
          pure (.name found)
        else expression fuel false
      | _ => expression fuel false
    if (← skipSign ",") then return first :: (← arguments fuel) else return [first]

/-- Reads the arguments of a function that every program knows. -/
def builtinCall : Nat → String → Builtin → Reader Expression
  | 0, _, _ => refuse
  | fuel + 1, name, function => do
    if function = .length && !(← isSign "(") then return .builtin .length []
    openParenthesis
    let given ←
      if (← isSign ")") then pure []
      else match function with
        | .length => arguments fuel
        | .split =>
          let text ← expression fuel false
          expectSign ","
          let table ← tableName
          let separator ←
            if (← skipSign ",") then pure [← expression fuel false] else pure []
          pure (text :: .name table :: separator)
        | _ => items fuel false
    let (least, most) := argumentCounts function
    unless least ≤ given.length && given.length ≤ most do fail (.argumentCount name)
    closeParenthesis
    return .builtin function given

/-- Reads a value. -/
def operand : Nat → Reader Expression
  | 0 => refuse
  | fuel + 1 => do
    match (← peek) with
    | .number x =>
      advance
      return .number x
    | .text text =>
      advance
      return .text text
    | .pattern text =>
      let pattern ← patternOf text
      advance
      return .pattern pattern
    | .builtin name function =>
      advance
      builtinCall fuel name function
    | .callee name =>
      advance
      called fuel name
    | .name name =>
      if ((← get).functions.lookup name).isSome && !(← get).parameters.any (·.1 == name) then
        advance
        called fuel name
      else
        match (← get).rest with
        | _ :: ⟨.sign "[", _⟩ :: _ =>
          let table ← nameFor (some .table) name
          advance
          advance
          let subscripts ← items fuel false
          expectSign "]"
          return .element table subscripts
        | _ =>
          let found ← nameFor none name
          advance
          return .name found
    | .sign "$" =>
      advance
      fieldIndex fuel
    | .sign "++" =>
      advance
      return .step false 1 (← steppedTarget fuel)
    | .sign "--" =>
      advance
      return .step false (-1) (← steppedTarget fuel)
    | .sign "(" => grouped fuel
    | .sign "-" =>
      advance
      return .negate (← signed fuel false)
    | .sign "+" =>
      advance
      return .plain (← signed fuel false)
    | .sign "!" =>
      advance
      return .not (← signed fuel false)
    | .keyword "getline" =>
      advance
      let target ← target? fuel
      if (← skipSign "<") then return .readFile target (← powers fuel false)
      else return .readMain target
    | _ => refuse

/-- Reads the number of a field. -/
def fieldIndex : Nat → Reader Expression
  | 0 => refuse
  | fuel + 1 => do
    let index ← operand fuel
    if let .name name := index then useAsVariable name
    return .field index

/-- Reads a target behind a step. -/
def steppedTarget : Nat → Reader Expression
  | 0 => refuse
  | fuel + 1 => do
    match (← target? fuel) with
    | some target => return target
    | none => refuse

/-- Reads the call of a function of the program. -/
def called : Nat → String → Reader Expression
  | 0, _ => refuse
  | fuel + 1, name => do
    let line ← line
    openParenthesis
    let given ← if (← isSign ")") then pure [] else arguments fuel
    closeParenthesis
    modify fun reading => { reading with calls := reading.calls ++ [(name, given.length, line)] }
    return .call name given

/-- Reads what stands in parentheses. -/
def grouped : Nat → Reader Expression
  | 0 => refuse
  | fuel + 1 => do
    openParenthesis
    let inner ← items fuel false
    closeParenthesis
    match inner with
    | [inner] => return .group inner
    | inner =>
      let token ← peek
      if token == .keyword "in" then
        advance
        return .has inner (← tableName)
      else if endsPrinting token then return .list inner
      else refuse

end

/-- Reads where something is printed to. -/
def output? (fuel : Nat) : Reader (Option (Direction × Expression)) := do
  let direction : Option Direction ← match (← peek) with
    | .sign ">" => pure (some .replacing)
    | .sign ">>" => pure (some .appending)
    | .sign "|" => pure (some .piping)
    | _ => pure none
  match direction with
  | none => return none
  | some direction =>
    advance
    return some (direction, ← expression fuel false)

/-- Reads the end of a statement. A closing brace ends it, too. -/
def endStatement : Reader Unit := do
  match (← peek) with
  | .lineEnd | .sign ";" => advance
  | .sign "\x7d" =>
    if 0 < (← get).depth then refuse
  | _ => refuse

/-- Reads what is printed, and where to. -/
def printed (fuel : Nat) : Reader (List Expression × Option (Direction × Expression)) := do
  let found ← if endsPrinting (← peek) then pure [] else items fuel true
  let output ← output? fuel
  endStatement
  return match found with
    | [.list inner] => (inner, output)
    | [.group inner] => ([inner], output)
    | found => (found, output)

/-- Reads in a loop. -/
def inLoop {α : Type} (act : Reader α) : Reader α := do
  let outer := (← get).isInLoop
  modify fun reading => { reading with isInLoop := true }
  let found ← act
  modify fun reading => { reading with isInLoop := outer }
  return found

/-- Reads a condition in parentheses. -/
def condition (fuel : Nat) : Reader Expression := do
  openParenthesis
  let found ← expression fuel false
  closeParenthesis
  return found

/-- Reads an expression unless a sign comes next, and goes on behind the sign. -/
def partBefore (fuel : Nat) (sign : String) : Reader (Option Expression) := do
  if (← skipSign sign) then return none
  else
    let found ← expression fuel false
    expectSign sign
    return some found

mutual

/-- Reads a statement. The fuel bounds the number of steps. -/
def statement : Nat → Reader Statement
  | 0 => refuse
  | fuel + 1 => do
    match (← peek) with
    | .sign "\x7b" => return .block (← block fuel)
    | .sign ";" | .lineEnd =>
      advance
      return .block []
    | .keyword "if" =>
      advance
      let test ← condition fuel
      skipLineEnds
      let yes ← statement fuel
      if (← peek) == .keyword "else" then
        advance
        return .choose test yes (some (← statement fuel))
      else return .choose test yes none
    | .keyword "while" =>
      advance
      let test ← condition fuel
      skipLineEnds
      return .whileHolds test (← inLoop (statement fuel))
    | .keyword "do" =>
      advance
      let body ← inLoop (statement fuel)
      unless (← peek) == .keyword "while" do refuse
      advance
      let test ← condition fuel
      endStatement
      return .doWhile body test
    | .keyword "for" =>
      advance
      counted fuel
    | .keyword "print" =>
      advance
      let (found, output) ← printed fuel
      return .print found output
    | .keyword "printf" =>
      advance
      let line ← line
      let (found, output) ← printed fuel
      if found.isEmpty then throw (line, .noArguments "printf")
      return .printFormatted found output
    | .keyword "break" =>
      unless (← get).isInLoop do fail (.outsideLoop "break")
      advance
      endStatement
      return .leaveLoop
    | .keyword "continue" =>
      unless (← get).isInLoop do fail (.outsideLoop "continue")
      advance
      endStatement
      return .repeatLoop
    | .keyword "next" =>
      unless (← get).isInRecord do fail (.improper "next")
      advance
      endStatement
      return .next
    | .keyword "nextfile" =>
      unless (← get).isInRecord do fail (.improper "nextfile")
      advance
      endStatement
      return .nextFile
    | .keyword "exit" =>
      advance
      let code ← optionalValue fuel
      return .exit code
    | .keyword "return" =>
      unless (← get).isInFunction do fail .outsideFunction
      advance
      let value ← optionalValue fuel
      return .giveBack value
    | .keyword "delete" =>
      advance
      let table ← tableName
      let subscripts ←
        if (← skipSign "[") then
          let found ← items fuel false
          expectSign "]"
          pure (some found)
        else pure none
      endStatement
      return match subscripts with
        | some subscripts => .erase table subscripts
        | none => .clear table
    | _ =>
      let found ← expression fuel false
      endStatement
      return .evaluate found

/-- Reads an expression in front of the end of a statement, if there is one. -/
def optionalValue : Nat → Reader (Option Expression)
  | 0 => refuse
  | fuel + 1 => do
    let token ← peek
    let found ←
      if token == .lineEnd || token == .sign ";" || token == .sign "\x7d" then pure none
      else do
        let value ← expression fuel false
        pure (some value)
    endStatement
    return found

/-- Reads a loop that counts, or that goes through the keys of a table. -/
def counted : Nat → Reader Statement
  | 0 => refuse
  | fuel + 1 => do
    openParenthesis
    match (← get).rest with
    | ⟨.name key, _⟩ :: ⟨.keyword "in", _⟩ :: ⟨.name _, _⟩ :: ⟨.sign ")", _⟩ :: _ =>
      let key ← nameFor (some .scalar) key
      advance
      advance
      let table ← tableName
      closeParenthesis
      skipLineEnds
      return .forKeys key table (← inLoop (statement fuel))
    | _ =>
      let start ← partBefore fuel ";"
      let test ← partBefore fuel ";"
      let step ←
        if (← isSign ")") then pure none
        else do
          let step ← expression fuel false
          pure (some step)
      closeParenthesis
      skipLineEnds
      return .count start test step (← inLoop (statement fuel))

/-- Reads statements in braces. -/
def block : Nat → Reader (List Statement)
  | 0 => refuse
  | fuel + 1 => do
    expectSign "\x7b"
    statements fuel

/-- Reads statements up to the closing brace. -/
def statements : Nat → Reader (List Statement)
  | 0 => refuse
  | fuel + 1 => do
    if (← skipSign "\x7d") then return []
    else
      let first ← statement fuel
      return first :: (← statements fuel)

end

/-- Reads the parameters of a function up to the closing parenthesis. The fuel bounds their
number. -/
def parameters : Nat → Reader (List String)
  | 0 => refuse
  | fuel + 1 => do
    match (← peek) with
    | .name name =>
      advance
      if (← skipSign ",") then
        let later ← parameters fuel
        if later.contains name then fail (.repeatedParameter name)
        return name :: later
      else return [name]
    | _ => refuse

/-- Reads a function behind its keyword. -/
def function (fuel : Nat) : Reader Function := do
  let name ← match (← peek) with
    | .callee name | .name name => pure name
    | _ => refuse
  advance
  openParenthesis
  let names ← if (← isSign ")") then pure [] else parameters fuel
  closeParenthesis
  skipLineEnds
  modify fun reading => { reading with
    parameters := names.map fun name => (name, none)
    functions := (name, names.length) :: reading.functions
    isInFunction := true
    isInRecord := false }
  let body ← block fuel
  modify fun reading => { reading with parameters := [], isInFunction := false }
  return { name, parameterCount := names.length, body := .block body }

/-- Reads what is done for records: a block, or nothing if they are printed. -/
def action (fuel : Nat) : Reader Statement := do
  if (← isSign "\x7b") then
    modify fun reading => { reading with isInRecord := true }
    let found ← block fuel
    modify fun reading => { reading with isInRecord := false }
    return .block found
  else
    endStatement
    return .print [] none

/-- Reads a part of a program behind what has been read. The fuel bounds the number of
parts. -/
def rules (fuel : Nat) : Nat → Script → Reader Script
  | 0, script => return script
  | count + 1, script => do
    let goOn (script : Script) : Reader Script := do
      let _ ← skipSign ";"
      rules fuel count script
    match (← peek) with
    | .stop => return script
    | .lineEnd =>
      advance
      rules fuel count script
    | .keyword "BEGIN" =>
      advance
      let found ← block fuel
      goOn { script with before := script.before ++ [.block found] }
    | .keyword "END" =>
      advance
      let found ← block fuel
      goOn { script with after := script.after ++ [.block found] }
    | .keyword "function" =>
      advance
      let found ← function fuel
      goOn { script with functions := script.functions ++ [found] }
    | .sign "\x7b" =>
      let found ← action fuel
      goOn { script with rules := script.rules ++ [(.all, found)] }
    | _ =>
      let first ← expression fuel false
      let condition ←
        if (← skipSign ",") then
          let last ← expression fuel false
          let number := (← get).ranges
          modify fun reading => { reading with ranges := number + 1 }
          pure (.range number first last)
        else pure (.holds first)
      let isBlock ← isSign "\x7b"
      let found ← action fuel
      let script := { script with rules := script.rules ++ [(condition, found)] }
      if isBlock then goOn script else rules fuel count script

/-- Checks the calls of functions. -/
def checkCalls (functions : List Function) (lastLine : Nat) :
    List (String × Nat × Nat) → Except (Nat × Fault) Unit
  | [] => .ok ()
  | (name, count, line) :: later =>
    match functions.find? (·.name == name) with
    | none => .error (lastLine, .unknownFunction name)
    | some function =>
      if function.parameterCount < count then .error (line, .tooManyArguments name)
      else checkCalls functions lastLine later

/-- Reads a program. -/
def script (text : String) : Except (Nat × Fault) Script := do
  let tokens ← Tokenizer.all text
  let fuel := 64 * tokens.length + 64
  let (found, reading) ← (rules fuel (tokens.length + 1) {}).run { rest := tokens }
  checkCalls found.functions ((tokens.getLast?.map (·.line)).getD 1) reading.calls
  return found

end Reader
end ProfileGraph.Utility.Scan
