import ProfileGraph.StandIn.RegularExpression.Reader
import ProfileGraph.StandIn.Utility.Options

/-! The utility that evaluates expressions. Its arguments are numbers, texts and signs
between them; an expression is evaluated as far as it has been read. -/
namespace ProfileGraph.Utility.Expression
open Host

/-- A value. -/
inductive Value where
  | number (n : Int)
  | text (text : String)
deriving DecidableEq, Repr

namespace Value

/-- The number that a text writes. -/
def integer? (text : String) : Option Int :=
  let (negative, digits) := match text.toList with
    | '-' :: digits => (true, digits)
    | digits => (false, digits)
  if digits.isEmpty || !digits.all Char.isDigit then none
  else
    let n : Nat := digits.foldl (fun n c => 10 * n + (c.toNat - '0'.toNat)) 0
    some (if negative then -(n : Int) else n)

/-- The number that a value is. -/
def number? : Value → Option Int
  | .number n => some n
  | .text found => integer? found

/-- The text of a value. -/
def toText : Value → String
  | .number n => toString n
  | .text found => found

/-- Whether a value counts as false: a zero or nothing at all. -/
def isNull : Value → Bool
  | .number n => n == 0
  | .text found =>
    let digits := match found.toList with
      | '-' :: digits => digits
      | digits => digits
    found.isEmpty || (!digits.isEmpty && digits.all (· == '0'))

/-- The number of a truth value. -/
def ofBool (holds : Bool) : Value := .number (if holds then 1 else 0)

end Value

/-- Why an expression has no value. -/
inductive Fault where
  | missingOperand
  | missingAfter (word : String)
  | unexpected (word : String)
  | unexpectedClosing
  | notClosed (word : String)
  | noNumber
  | divisionByZero
  | noPattern (fault : RegularExpression.Fault)
deriving Repr

/-- The text for a fault. -/
def Fault.message : Fault → String
  | .missingOperand => "missing operand"
  | .missingAfter word => "syntax error: missing argument after " ++ quoted word
  | .unexpected word => "syntax error: unexpected argument " ++ quoted word
  | .unexpectedClosing => "syntax error: unexpected ')'"
  | .notClosed word => "syntax error: expecting ')' after " ++ quoted word
  | .noNumber => "non-integer argument"
  | .divisionByZero => "division by zero"
  | .noPattern fault => fault.message

/-- The words that are left, and the word in front of them. -/
structure Reading where
  left : List String
  last : String := ""
deriving Repr

/-- Reads words with faults. -/
abbrev Reader := StateT Reading (Except Fault)

/-- Takes the next word. -/
def next : Reader String := do
  match (← get).left with
  | word :: left =>
    set ({ left, last := word } : Reading)
    return word
  | [] => throw (.missingAfter (← get).last)

/-- Takes the next word if it is one of some signs. -/
def sign? (signs : List String) : Reader (Option String) := do
  match (← get).left with
  | word :: _ => if signs.contains word then return some (← next) else return none
  | [] => return none

/-- The numbers that two values are. -/
def numbers (first second : Value) : Reader (Int × Int) := do
  match first.number?, second.number? with
  | some a, some b => return (a, b)
  | _, _ => throw .noNumber

/-- Compares two values, as numbers if both are numbers. -/
def compare (sign : String) (first second : Value) : Value :=
  let (isLess, isEqual) := match first.number?, second.number? with
    | some a, some b => (decide (a < b), a == b)
    | _, _ => (decide (first.toText < second.toText), first.toText == second.toText)
  .ofBool <| match sign with
    | "<" => isLess
    | "<=" => isLess || isEqual
    | "=" | "==" => isEqual
    | "!=" => !isEqual
    | ">=" => !isLess
    | _ => !isLess && !isEqual

/-- Does what a sign between two numbers says. -/
def calculate (sign : String) (first second : Value) : Reader Value := do
  let (a, b) ← numbers first second
  match sign with
  | "+" => return .number (a + b)
  | "-" => return .number (a - b)
  | "*" => return .number (a * b)
  | sign =>
    if b == 0 then throw .divisionByZero
    else return .number (if sign == "/" then a.tdiv b else a.tmod b)

/-- Matches a text from its start on. The value is what the first group holds, or the
number of characters if there is no group. -/
def matchText (text pattern : String) : Reader Value := do
  match RegularExpression.read {} pattern.toList with
  | .error fault => throw (.noPattern fault)
  | .ok written =>
    let subject : Subject := { chars := text.toList.toArray }
    let found := written.expression.matchAt? subject 0
    if written.groups == 0 then
      return .number (match found with
        | some found => found.stop
        | none => 0)
    else return .text (match found.bind (·.group? 1) with
      | some (start, stop) => String.ofList ((text.toList.drop start).take (stop - start))
      | none => "")

/-- The part of a text that starts at a position and is as long as said. -/
def partOf (text : String) (position length : Value) : Value :=
  match position.number?, length.number? with
  | some position, some length =>
    if position ≤ 0 || length ≤ 0 then .text ""
    else .text (String.ofList ((text.toList.drop (position.toNat - 1)).take length.toNat))
  | _, _ => .text ""

/-- Where the first of some characters stands in a text, from one on. -/
def indexOf (text chars : String) : Value :=
  match text.toList.findIdx? chars.toList.contains with
  | some index => .number (index + 1)
  | none => .number 0

/-- The signs between operands, from those that bind least on. -/
def levels : List (List String) := [["|"], ["&"], ["<", "<=", "=", "==", "!=", ">=", ">"],
  ["+", "-"], ["*", "/", "%"], [":"]]

mutual

/-- Reads operands with signs of a level between them. `isLive` says that the value is
wanted; the fuel bounds the number of steps. -/
def level : Nat → Nat → Bool → Reader Value
  | 0, _, _ => throw .missingOperand
  | fuel + 1, depth, isLive => do
    match levels[depth]? with
    | none => word fuel isLive
    | some signs =>
      let first ← level fuel (depth + 1) isLive
      more fuel depth signs isLive first

/-- Reads further operands behind a value. -/
def more : Nat → Nat → List String → Bool → Value → Reader Value
  | 0, _, _, _, value => return value
  | fuel + 1, depth, signs, isLive, value => do
    match (← sign? signs) with
    | none => return value
    | some sign =>
      let wants := match sign with
        | "|" => isLive && value.isNull
        | "&" => isLive && !value.isNull
        | _ => isLive
      let second ← level fuel (depth + 1) wants
      let result ← match sign with
        | "|" =>
          if value.isNull then pure (if second.isNull then Value.number 0 else second)
          else pure value
        | "&" =>
          pure (if value.isNull || second.isNull then Value.number 0 else value)
        | ":" => if isLive then matchText value.toText second.toText else pure value
        | sign =>
          if !isLive then pure value
          else if depth == 2 then pure (compare sign value second)
          else calculate sign value second
      more fuel depth signs isLive result

/-- Reads an operand. -/
def word : Nat → Bool → Reader Value
  | 0, _ => throw .missingOperand
  | fuel + 1, isLive => do
    let first ← next
    match first with
    | "+" => return .text (← next)
    | "length" => return .number (← word fuel isLive).toText.length
    | "match" =>
      let text ← word fuel isLive
      let pattern ← word fuel isLive
      if isLive then matchText text.toText pattern.toText else return text
    | "index" =>
      let text ← word fuel isLive
      let chars ← word fuel isLive
      return indexOf text.toText chars.toText
    | "substr" =>
      let text ← word fuel isLive
      let position ← word fuel isLive
      let length ← word fuel isLive
      return partOf text.toText position length
    | "(" =>
      let value ← level fuel 0 isLive
      let last := (← get).last
      match (← get).left with
      | ")" :: _ =>
        let _ ← next
        return value
      | _ => throw (.notClosed last)
    | ")" => throw .unexpectedClosing
    | text => return .text text

end

/-- The value of an expression. -/
def evaluate (words : List String) : Except Fault Value := do
  if words.isEmpty then throw .missingOperand
  let (value, reading) ← (level (16 * words.length + 16) 0 true).run { left := words }
  match reading.left with
  | [] => return value
  | extra :: _ => throw (.unexpected extra)

/-- Prints the value of an expression. -/
def printValue : Job Nat := do
  let arguments := (← read).arguments
  if arguments == ["--help"] || arguments == ["--version"] then return 0
  let words := if arguments.head? == some "--" then arguments.tail else arguments
  match evaluate words with
  | .ok value =>
    Job.print (value.toText ++ "\n")
    return if value.isNull then 1 else 0
  | .error .missingOperand => misuse "missing operand" 2
  | .error fault =>
    Job.complainAs fault.message
    return 2

end ProfileGraph.Utility.Expression
