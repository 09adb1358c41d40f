import ProfileGraph.StandIn.RegularExpression.Basic
import ProfileGraph.StandIn.Utility.Scan.Value

/-! The regular expressions of scanning programs. Backslashes protect characters or
stand for bytes by their numbers, in brackets as well as outside of them. -/
namespace ProfileGraph.Utility.Scan.Pattern

/-- Why a text is no regular expression. -/
inductive Fault where
  | missingOperand
  | unclosedGroup
  | badBracket
  | badInterval
  | repeatedStart
deriving DecidableEq, Repr

/-- The text for a fault. -/
def Fault.message : Fault → String
  | .missingOperand => "missing operand"
  | .unclosedGroup => "missing ')'"
  | .badBracket => "bad class -- [], [^] or ["
  | .badInterval => "bad interval expression"
  | .repeatedStart => "syntax error ^* or ^+"

/-- The character that a letter behind a backslash stands for. -/
def escapedLetter? : Char → Option Char
  | 'a' => some '\x07'
  | 'b' => some '\x08'
  | 'f' => some '\x0c'
  | 'n' => some '\n'
  | 'r' => some '\r'
  | 't' => some '\t'
  | 'v' => some '\x0b'
  | '"' => some '"'
  | '\\' => some '\\'
  | _ => none

/-- The character that a text behind a backslash stands for, and what stands behind
that. The result is missing if the backslash has no meaning. -/
def escape? (text : List Char) : Option (Char × List Char) :=
  match text with
  | [] => none
  | 'x' :: rest =>
    match (rest.take 2).takeWhile fun c => (hexDigit? c).isSome with
    | [] => none
    | digits =>
      let n := digits.foldl (fun n c => 16 * n + (hexDigit? c).getD 0) 0
      some (Char.ofNat n, rest.drop digits.length)
  | c :: rest =>
    if Shell.isOctalDigit c then
      let (digits, rest) := Shell.spanOctal 3 text
      some (Shell.octalChar digits, rest)
    else (escapedLetter? c).map fun found => (found, rest)

/-- The character that a backslash protects, and what stands behind it. -/
def protectedChar (text : List Char) : Char × List Char :=
  match escape? text, text with
  | some found, _ => found
  | none, c :: rest => (c, rest)
  | none, [] => ('\\', [])

/-- Reads with faults. -/
abbrev Reader := StateT (List Char) (Except Fault)

/-- Reads the name of a kind of characters behind its mark. -/
def kindName? (text : List Char) : Option (String × List Char) :=
  let name := text.takeWhile Char.isAlpha
  match text.drop name.length with
  | ':' :: ']' :: rest => some (String.ofList name, rest)
  | _ => none

/-- Reads a character in brackets, with its escapes. -/
def bracketChar? : List Char → Option (Char × List Char)
  | [] => none
  | '\\' :: rest => some (protectedChar rest)
  | c :: rest => some (c, rest)

/-- Reads what brackets hold. The fuel bounds the number of items. -/
def bracketItems : Nat → Bool → List Char → Except Fault (List BracketItem × List Char)
  | 0, _, _ => .error .badBracket
  | fuel + 1, isFirst, text => do
    let goOn (items : List BracketItem) (rest : List Char) :
        Except Fault (List BracketItem × List Char) := do
      let (later, rest) ← bracketItems fuel false rest
      return (items ++ later, rest)
    match text with
    | '[' :: ':' :: rest =>
      match kindName? rest with
      | some (name, rest) =>
        if (charClass? name).isSome then goOn [.kind name] rest else throw .badBracket
      | none => goOn [.range '[' '['] (':' :: rest)
    | ']' :: rest => if isFirst then goOn [.range ']' ']'] rest else return ([], rest)
    | text =>
      match bracketChar? text with
      | none => throw .badBracket
      | some (first, '-' :: rest) =>
        if rest.head? == some ']' then goOn [.range first first] ('-' :: rest)
        else match bracketChar? rest with
          | none => throw .badBracket
          | some (last, behind) =>
            if first ≤ last then goOn [.range first last] behind
            else goOn [.range first first, .range '-' '-'] rest
      | some (c, rest) => goOn [.range c c] rest

/-- Reads brackets behind the opening one. -/
def bracket : Reader RegularExpression := do
  let text ← get
  let (negated, text) := match text with
    | '^' :: rest => (true, rest)
    | text => (false, text)
  let (items, rest) ← bracketItems (text.length + 1) true text
  set rest
  return .bracket { negated, items }

/-- Reads a count behind its opening mark. The result is missing if the mark stands for
itself. -/
def interval? (text : List Char) : Except Fault (Option (Nat × Option Nat × List Char)) :=
  let (least, rest) := Decimal.spanDigits text
  let lower := Decimal.natOfDigits least
  match rest with
  | '\x7d' :: rest =>
    if least.isEmpty then .ok none else .ok (some (lower, some lower, rest))
  | ',' :: rest =>
    let (most, rest) := Decimal.spanDigits rest
    match rest with
    | '\x7d' :: rest =>
      if most.isEmpty then .ok (some (lower, none, rest))
      else
        let upper := Decimal.natOfDigits most
        if upper < lower then .error .badInterval else .ok (some (lower, some upper, rest))
    | _ => .ok none
  | _ => .ok none

/-- Reads the repetitions behind an expression. The fuel bounds their number. -/
def repeats : Nat → RegularExpression → Reader RegularExpression
  | 0, inner => return inner
  | fuel + 1, inner => do
    match (← get) with
    | '*' :: rest =>
      set rest
      repeats fuel (.repeated inner 0 none)
    | '+' :: rest =>
      set rest
      repeats fuel (.repeated inner 1 none)
    | '?' :: rest =>
      set rest
      repeats fuel (.repeated inner 0 (some 1))
    | '\x7b' :: rest =>
      match (← interval? rest) with
      | some (least, most, rest) =>
        set rest
        repeats fuel (.repeated inner least most)
      | none => return inner
    | _ => return inner

mutual

/-- Reads alternatives, in a group or at the top. The fuel bounds the number of steps. -/
def alternatives : Nat → Bool → Reader RegularExpression
  | 0, _ => throw .missingOperand
  | fuel + 1, inGroup => do
    let first ← branch fuel inGroup none
    match (← get) with
    | '|' :: rest =>
      set rest
      return .either first (← alternatives fuel inGroup)
    | _ => return first

/-- Reads what stands between two bars, behind what has been read of it. -/
def branch : Nat → Bool → Option RegularExpression → Reader RegularExpression
  | 0, _, _ => throw .missingOperand
  | fuel + 1, inGroup, before => do
    let text ← get
    let isEnd := match text with
      | [] | '|' :: _ => true
      | ')' :: _ => inGroup
      | _ => false
    if isEnd then
      match before with
      | some before => return before
      | none => throw .missingOperand
    else
      let next ← item fuel
      let whole := match before with
        | some before => .both before next
        | none => next
      branch fuel inGroup (some whole)

/-- Reads a character, or what stands for some, with its repetitions. -/
def item : Nat → Reader RegularExpression
  | 0 => throw .missingOperand
  | fuel + 1 => do
    let text ← get
    set text.tail
    let withRepeats (inner : RegularExpression) : Reader RegularExpression := do
      repeats ((← get).length + 1) inner
    match text with
    | [] => throw .missingOperand
    | '*' :: _ | '+' :: _ | '?' :: _ => throw .missingOperand
    | '^' :: '*' :: _ | '^' :: '+' :: _ => throw .repeatedStart
    | '^' :: _ => return .edge .textStart
    | '$' :: _ => withRepeats (.edge .textEnd)
    | '.' :: _ => withRepeats .any
    | '[' :: _ => withRepeats (← bracket)
    | '(' :: _ =>
      let inner ← alternatives fuel true
      match (← get) with
      | ')' :: rest =>
        set rest
        withRepeats inner
      | _ => throw .unclosedGroup
    | '\\' :: rest =>
      let (c, rest) := protectedChar rest
      set rest
      withRepeats (.char c)
    | c :: _ => withRepeats (.char c)

end

/-- Reads a regular expression. -/
def read (text : String) : Except Fault RegularExpression :=
  if text.isEmpty then .ok .empty
  else ((alternatives (4 * text.length + 8) false).run text.toList).map (·.1)

end ProfileGraph.Utility.Scan.Pattern

/-! Scanning programs. A program is a list of rules, each of which says for which
records something is done, and of functions. -/
namespace ProfileGraph.Utility.Scan

/-- A variable: one of the program, or a parameter of the function by its number. -/
inductive Name where
  | global (name : String)
  | parameter (index : Nat)
deriving DecidableEq, Repr

/-- A sign between two numbers. -/
inductive Operation where
  | plus
  | minus
  | times
  | over
  | modulo
  | power
deriving DecidableEq, Repr

/-- What a command or a file is read or written as. -/
inductive Direction where
  | replacing
  | appending
  | piping
deriving DecidableEq, Repr

/-- A function that every program knows. -/
inductive Builtin where
  | length
  | part
  | index
  | split
  | substitute
  | substituteAll
  | find
  | format
  | lower
  | upper
  | run
  | close
  | flush
  | truncate
  | root
  | exponential
  | logarithm
  | sine
  | cosine
  | angle
  | random
  | seed
  | now
deriving DecidableEq, Repr

/-- An expression. -/
inductive Expression where
  | number (x : Binary64)
  | text (text : String)
  | pattern (pattern : RegularExpression)
  | name (name : Name)
  | element (table : Name) (subscripts : List Expression)
  | field (index : Expression)
  /-- An expression in parentheses. -/
  | group (inner : Expression)
  /-- Expressions in parentheses. -/
  | list (items : List Expression)
  | assign (target value : Expression)
  | change (operation : Operation) (target value : Expression)
  /-- Adds a number to a target; the value is the one before that or after it. -/
  | step (before : Bool) (amount : Int) (target : Expression)
  | choose (condition yes no : Expression)
  | or (first second : Expression)
  | and (first second : Expression)
  | not (inner : Expression)
  | negate (inner : Expression)
  | plain (inner : Expression)
  | has (subscripts : List Expression) (table : Name)
  | fits (negated : Bool) (subject pattern : Expression)
  | compare (order : Order) (first second : Expression)
  | join (first second : Expression)
  | calculate (operation : Operation) (first second : Expression)
  | builtin (function : Builtin) (arguments : List Expression)
  | call (function : String) (arguments : List Expression)
  /-- Reads a record from the input, into a target if there is one. -/
  | readMain (target : Option Expression)
  | readFile (target : Option Expression) (path : Expression)
  | readCommand (target : Option Expression) (command : Expression)

namespace Expression

instance : Inhabited Expression := ⟨.text ""⟩

/-- Whether something can be assigned to an expression. -/
def isTarget : Expression → Bool
  | .name _ | .element .. | .field _ => true
  | _ => false

end Expression

/-- A statement. -/
inductive Statement where
  | evaluate (expression : Expression)
  | print (items : List Expression) (output : Option (Direction × Expression))
  | printFormatted (items : List Expression) (output : Option (Direction × Expression))
  | block (statements : List Statement)
  | choose (condition : Expression) (yes : Statement) (no : Option Statement)
  | whileHolds (condition : Expression) (body : Statement)
  | doWhile (body : Statement) (condition : Expression)
  | count (start condition step : Option Expression) (body : Statement)
  | forKeys (key : Name) (table : Name) (body : Statement)
  | leaveLoop
  | repeatLoop
  | next
  | nextFile
  | exit (code : Option Expression)
  | giveBack (value : Option Expression)
  | erase (table : Name) (subscripts : List Expression)
  | clear (table : Name)

instance : Inhabited Statement := ⟨.block []⟩

/-- The records for which something is done. -/
inductive Condition where
  | all
  | holds (expression : Expression)
  /-- From a record on, up to another one. The number tells ranges apart. -/
  | range (number : Nat) (first last : Expression)

/-- A function of a program. -/
structure Function where
  name : String
  parameterCount : Nat
  body : Statement

/-- A program. -/
structure Script where
  before : List Statement := []
  rules : List (Condition × Statement) := []
  after : List Statement := []
  functions : List Function := []

end ProfileGraph.Utility.Scan
