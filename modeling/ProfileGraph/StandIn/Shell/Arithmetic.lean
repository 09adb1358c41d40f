/-! Arithmetic expressions of a shell: whole numbers of 64 bits, variables, and
the operators of such numbers. -/
namespace ProfileGraph.Shell.Arithmetic

/-- The operators with two operands that are both evaluated. -/
inductive Operator where
  | multiply
  | divide
  | remainder
  | add
  | subtract
  | shiftLeft
  | shiftRight
  | less
  | lessOrEqual
  | greater
  | greaterOrEqual
  | equal
  | notEqual
  | bitAnd
  | bitXor
  | bitOr
deriving DecidableEq, Repr

/-- An expression over whole numbers of 64 bits. -/
inductive Expression where
  | number (n : Int64)
  | name (name : String)
  | negated (operand : Expression)
  | inverted (operand : Expression)
  | complemented (operand : Expression)
  | binary (operator : Operator) (left right : Expression)
  | both (left right : Expression)
  | either (left right : Expression)
  | choice (test yes no : Expression)
  | assignment (name : String) (operator : Option Operator) (value : Expression)
deriving Repr

/-- Why an expression has no value. -/
inductive Fault where
  | noOperand
  | noEnd
  | noColon
  | noParenthesis
  | divisionByZero
deriving DecidableEq, Repr

/-- The text for a fault. -/
def Fault.message : Fault → String
  | .noOperand => "expecting primary"
  | .noEnd => "expecting EOF"
  | .noColon => "expecting ':'"
  | .noParenthesis => "expecting ')'"
  | .divisionByZero => "division by zero"

/-- A piece of the text of an expression. -/
inductive Token where
  | number (n : Int64)
  | name (name : String)
  | operator (text : String)
  /-- A character that begins no token. -/
  | other
  | endOfText
deriving DecidableEq, Repr

/-- The operators, a longer one in front of those with which it begins. -/
def operatorTexts : List String :=
  ["<<=", ">>=", "==", "!=", "<=", ">=", "<<", ">>", "&&", "||", "*=", "/=", "%=", "+=", "-=",
    "&=", "|=", "^=", "=", "<", ">", "!", "&", "|", "(", ")", "*", "/", "%", "+", "-", "~", "^",
    "?", ":"]

/-- The value of a digit. -/
def digitValue (c : Char) : Nat :=
  if c.isDigit then c.toNat - '0'.toNat
  else if 'a' ≤ c && c ≤ 'z' then c.toNat - 'a'.toNat + 10
  else if 'A' ≤ c && c ≤ 'Z' then c.toNat - 'A'.toNat + 10
  else 36

/-- The number that digits of a base denote. -/
def natOfDigits (base : Nat) (digits : List Char) : Nat :=
  digits.foldl (fun n c => base * n + digitValue c) 0

/-- Splits the digits of a number off a text, with their base. A zero in front
means base eight, and a zero with an x base sixteen. -/
def splitNumber (text : List Char) : Nat × List Char × List Char :=
  let take (base : Nat) (text : List Char) :=
    (base, text.span fun c => digitValue c < base)
  match text with
  | '0' :: x :: c :: rest =>
    if (x == 'x' || x == 'X') && digitValue c < 16 then take 16 (c :: rest)
    else take 8 text
  | '0' :: _ => take 8 text
  | text => take 10 text

/-- The largest number. -/
def maxNumber : Nat := Nat.pow 2 63 - 1

/-- Reads the token at the front of a text. Numbers beyond the largest one
count as that. -/
def nextToken (text : List Char) : Token × List Char :=
  match text.dropWhile fun c => c == ' ' || c == '\t' || c == '\n' with
  | [] => (.endOfText, [])
  | c :: rest =>
    if c.isDigit then
      let (base, digits, rest) := splitNumber (c :: rest)
      (.number (Int64.ofNat (min (natOfDigits base digits) maxNumber)), rest)
    else if c.isAlpha || c == '_' then
      let (name, rest) := (c :: rest).span fun c => c.isAlphanum || c == '_'
      (.name (String.ofList name), rest)
    else match operatorTexts.find? fun text => text.toList.isPrefixOf (c :: rest) with
      | some text => (.operator text, (c :: rest).drop text.length)
      | none => (.other, rest)

/-- The tokens of a text. The fuel bounds their number. -/
def tokensOf : Nat → List Char → List Token
  | 0, _ => []
  | fuel + 1, text =>
    match nextToken text with
    | (.endOfText, _) => []
    | (token, rest) => token :: tokensOf fuel rest

/-- The binary operators, each with its rank; a lower rank binds closer. -/
def binaryOperator? : Token → Option (Operator × Nat)
  | .operator "*" => some (.multiply, 0)
  | .operator "/" => some (.divide, 0)
  | .operator "%" => some (.remainder, 0)
  | .operator "+" => some (.add, 1)
  | .operator "-" => some (.subtract, 1)
  | .operator "<<" => some (.shiftLeft, 2)
  | .operator ">>" => some (.shiftRight, 2)
  | .operator "<" => some (.less, 3)
  | .operator "<=" => some (.lessOrEqual, 3)
  | .operator ">" => some (.greater, 3)
  | .operator ">=" => some (.greaterOrEqual, 3)
  | .operator "==" => some (.equal, 4)
  | .operator "!=" => some (.notEqual, 4)
  | .operator "&" => some (.bitAnd, 5)
  | .operator "^" => some (.bitXor, 6)
  | .operator "|" => some (.bitOr, 7)
  | _ => none

/-- The highest rank of a binary operator. -/
def maxRank : Nat := 7

/-- The operators of assignments. -/
def assignmentOperator? : Token → Option (Option Operator)
  | .operator "=" => some none
  | .operator "*=" => some (some .multiply)
  | .operator "/=" => some (some .divide)
  | .operator "%=" => some (some .remainder)
  | .operator "+=" => some (some .add)
  | .operator "-=" => some (some .subtract)
  | .operator "<<=" => some (some .shiftLeft)
  | .operator ">>=" => some (some .shiftRight)
  | .operator "&=" => some (some .bitAnd)
  | .operator "^=" => some (some .bitXor)
  | .operator "|=" => some (some .bitOr)
  | _ => none

/-- A reader of the front of a list of tokens. -/
abbrev Reading := StateT (List Token) (Except Fault)

/-- The next token. -/
def peek : Reading Token := return (← get).headD .endOfText

/-- Goes on behind the next token. -/
def skip : Reading Unit := modify List.tail

mutual

/-- Reads an assignment or a choice. -/
def readAssignment : Nat → Reading Expression
  | 0 => throw .noOperand
  | fuel + 1 => do
    match (← get) with
    | .name name :: next :: rest =>
      match assignmentOperator? next with
      | some operator =>
        set rest
        return .assignment name operator (← readAssignment fuel)
      | none => readChoice fuel
    | _ => readChoice fuel

/-- Reads a choice between two expressions, or a condition alone. -/
def readChoice : Nat → Reading Expression
  | 0 => throw .noOperand
  | fuel + 1 => do
    let test ← readDisjunction fuel
    if (← peek) = .operator "?" then
      skip
      let yes ← readAssignment fuel
      if (← peek) = .operator ":" then
        skip
        return .choice test yes (← readChoice fuel)
      else throw .noColon
    else return test

/-- Reads values one of which must hold. The fuel bounds the number of steps. -/
def readDisjunction : Nat → Reading Expression
  | 0 => throw .noOperand
  | fuel + 1 => do
    let left ← readConjunction fuel
    if (← peek) = .operator "||" then
      skip
      return .either left (← readDisjunction fuel)
    else return left

/-- Reads values that must all hold. The fuel bounds the number of steps. -/
def readConjunction : Nat → Reading Expression
  | 0 => throw .noOperand
  | fuel + 1 => do
    let left ← readBinaries maxRank fuel
    if (← peek) = .operator "&&" then
      skip
      return .both left (← readConjunction fuel)
    else return left

/-- Reads operands between operators up to a rank. -/
def readBinaries (rank : Nat) : Nat → Reading Expression
  | 0 => throw .noOperand
  | fuel + 1 => do readMoreBinaries rank (← readOperand fuel) fuel

/-- Reads operators up to a rank, with their operands, behind an operand. -/
def readMoreBinaries (rank : Nat) (left : Expression) : Nat → Reading Expression
  | 0 => throw .noOperand
  | fuel + 1 => do
    match binaryOperator? (← peek) with
    | none => return left
    | some (operator, found) =>
      if rank < found then return left
      else
        skip
        let first ← readOperand fuel
        let right ← if found = 0 then pure first else readMoreBinaries (found - 1) first fuel
        readMoreBinaries rank (.binary operator left right) fuel

/-- Reads an operand with the signs in front of it. -/
def readOperand : Nat → Reading Expression
  | 0 => throw .noOperand
  | fuel + 1 => do
    let token ← peek
    skip
    match token with
    | .number n => return .number n
    | .name name => return .name name
    | .operator "(" =>
      let inner ← readAssignment fuel
      if (← peek) = .operator ")" then
        skip
        return inner
      else throw .noParenthesis
    | .operator "+" => readOperand fuel
    | .operator "-" => return .negated (← readOperand fuel)
    | .operator "!" => return .inverted (← readOperand fuel)
    | .operator "~" => return .complemented (← readOperand fuel)
    | _ => throw .noOperand

end

/-- Reads an expression. -/
def Expression.read (text : String) : Except Fault Expression := do
  let tokens := tokensOf (text.length + 1) text.toList
  let (expression, rest) ← (readAssignment (8 * tokens.length + 8)).run tokens
  if rest.isEmpty then return expression else throw .noEnd

/-- The number for a truth value. -/
def ofBool (holds : Bool) : Int64 := if holds then 1 else 0

/-- The value of an operator on two numbers. -/
def Operator.apply (left right : Int64) : Operator → Except Fault Int64
  | .multiply => return left * right
  | .divide => if right == 0 then throw .divisionByZero else return left / right
  | .remainder => if right == 0 then throw .divisionByZero else return left % right
  | .add => return left + right
  | .subtract => return left - right
  | .shiftLeft => return left <<< (right &&& 63)
  | .shiftRight => return left >>> (right &&& 63)
  | .less => return ofBool (left < right)
  | .lessOrEqual => return ofBool (left ≤ right)
  | .greater => return ofBool (right < left)
  | .greaterOrEqual => return ofBool (right ≤ left)
  | .equal => return ofBool (left == right)
  | .notEqual => return ofBool (left != right)
  | .bitAnd => return left &&& right
  | .bitXor => return left ^^^ right
  | .bitOr => return left ||| right

/-- What an expression needs to be evaluated. -/
structure Setting (m : Type → Type) where
  /-- The value of a variable. -/
  value : String → m Int64
  assign : String → Int64 → m Unit
  fail : Fault → m Int64

/-- The value of an expression. -/
def Expression.eval {m : Type → Type} [Monad m] (setting : Setting m) : Expression → m Int64
  | .number n => return n
  | .name key => setting.value key
  | .negated operand => return -(← operand.eval setting)
  | .inverted operand => return ofBool ((← operand.eval setting) == 0)
  | .complemented operand => return ~~~(← operand.eval setting)
  | .binary operator left right => do
    let left ← left.eval setting
    let right ← right.eval setting
    match operator.apply left right with
    | .ok n => return n
    | .error fault => setting.fail fault
  | .both left right => do
    if (← left.eval setting) == 0 then return 0
    else return ofBool ((← right.eval setting) != 0)
  | .either left right => do
    if (← left.eval setting) == 0 then return ofBool ((← right.eval setting) != 0)
    else return 1
  | .choice test yes no => do
    if (← test.eval setting) == 0 then no.eval setting else yes.eval setting
  | .assignment key operator value => do
    let value ← value.eval setting
    let new ← match operator with
      | none => pure value
      | some operator =>
        match operator.apply (← setting.value key) value with
        | .ok n => pure n
        | .error fault => setting.fail fault
    setting.assign key new
    return new

/-- The number that a text denotes. The empty text denotes zero. -/
def number? (text : String) : Option Int64 :=
  let isSpace (c : Char) : Bool := c == ' ' || ('\t' ≤ c && c ≤ '\r')
  let (negative, digits) := match text.toList.dropWhile isSpace with
    | '-' :: rest => (true, rest)
    | '+' :: rest => (false, rest)
    | rest => (false, rest)
  let (base, found, rest) := splitNumber digits
  let n := natOfDigits base found
  if text.isEmpty then some 0
  else if found.isEmpty || !rest.all isSpace then none
  else if negative then
    if n ≤ maxNumber + 1 then some (Int64.ofInt (-(n : Int))) else none
  else if n ≤ maxNumber then some (Int64.ofNat n) else none

end ProfileGraph.Shell.Arithmetic
