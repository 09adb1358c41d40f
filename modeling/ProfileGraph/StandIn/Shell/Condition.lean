import ProfileGraph.StandIn.Host.Process

/-! The conditions that the test command of a shell checks. What a word means in
a condition depends on the words behind it: a sign with nothing to act upon is
a plain word. -/
namespace ProfileGraph.Shell.Condition
open Host

/-- The signs in front of one word. -/
def unarySigns : List String :=
  ["-r", "-w", "-x", "-e", "-f", "-d", "-c", "-b", "-p", "-u", "-g", "-k", "-s", "-t", "-z", "-n",
    "-h", "-O", "-G", "-L", "-S"]

/-- The signs between two words. -/
def binarySigns : List String :=
  ["=", "!=", "<", ">", "-eq", "-ne", "-ge", "-gt", "-le", "-lt", "-nt", "-ot", "-ef"]

/-- What a word is in a condition. -/
inductive Role where
  | nothing
  | operand
  | unary (sign : String)
  | binary (sign : String)
  | negation
  | conjunction
  | disjunction
  | opening
  | closing
deriving DecidableEq, Repr

/-- The role of the first of the words that are left. -/
def role (words : List String) : Role :=
  match words with
  | [] => .nothing
  | word :: later =>
    if unarySigns.contains word then
      match later with
      | [] => .operand
      | [_] => .unary word
      | next :: _ => if binarySigns.contains next then .operand else .unary word
    else if binarySigns.contains word then .binary word
    else if word == "!" then .negation
    else if word == "-a" then .conjunction
    else if word == "-o" then .disjunction
    else if word == "(" && !later.isEmpty then .opening
    else if word == ")" then .closing
    else .operand

/-- The whole number that a word denotes. -/
def integer? (word : String) : Option Int :=
  let isSpace (c : Char) : Bool := c == ' ' || ('\t' ≤ c && c ≤ '\r')
  let (negative, digits) := match word.toList.dropWhile isSpace with
    | '-' :: rest => (true, rest)
    | '+' :: rest => (false, rest)
    | rest => (false, rest)
  let found := digits.takeWhile Char.isDigit
  let n := found.foldl (fun n c => 10 * n + (c.toNat - '0'.toNat)) 0
  if found.isEmpty || !(digits.drop found.length).all isSpace then none
  else if negative then if n ≤ Nat.pow 2 63 then some (-(n : Int)) else none
  else if n < Nat.pow 2 63 then some n else none

/-- Why a condition cannot be checked. -/
inductive Fault where
  | noNumber (word : String)
  | unexpected (word : String)
  | noArgument (sign : String)
  | notClosed
deriving DecidableEq, Repr

/-- What a shell says about a fault. -/
def Fault.message : Fault → String
  | .noNumber word => "Illegal number: " ++ word
  | .unexpected word => word ++ ": unexpected operator"
  | .noArgument sign => sign ++ ": argument expected"
  | .notClosed => "closing paren expected"

/-- Something that is checked while words are left; a fault ends it. -/
abbrev Check := StateT (List String) (Except Fault)

/-- The whole number that a word must be. -/
def number (word : String) : Check Int :=
  match integer? word with
  | some n => return n
  | none => throw (.noNumber word)

variable (tree : FileTree)

/-- Whether a path leads to a node with a property. -/
def leadsTo (path : String) (property : FileNode → Bool) : Bool :=
  tree.leadsTo (Octets.toText path) property

/-- A condition on a word or on the file that it names. -/
def unary (sign word : String) : Check Bool :=
  match sign with
  | "-n" => return !word.isEmpty
  | "-z" => return word.isEmpty
  | "-t" => do
    let _ ← number word
    return false
  | "-e" | "-r" | "-w" | "-O" | "-G" => return leadsTo tree word fun _ => true
  | "-f" => return leadsTo tree word (·.isRegular)
  | "-d" => return leadsTo tree word (·.isDirectory)
  | "-x" => return leadsTo tree word fun node => node.isDirectory || node.mode &&& 0o111 != 0
  | "-s" => return leadsTo tree word (0 < ·.size)
  | "-u" => return leadsTo tree word (·.mode &&& 0o4000 != 0)
  | "-g" => return leadsTo tree word (·.mode &&& 0o2000 != 0)
  | "-k" => return leadsTo tree word (·.mode &&& 0o1000 != 0)
  | "-c" => return leadsTo tree word fun node =>
    match node.content with
    | .device _ => true
    | _ => false
  | "-h" | "-L" => return match tree.find (Octets.toText word) false with
    | .ok (_, node) => match node.content with
      | .link _ => true
      | _ => false
    | .error _ => false
  | _ => return false

/-- The nodes to which two paths lead, if both lead to one. -/
def bothNodes (left right : String) (relation : Place × FileNode → Place × FileNode → Bool) :
    Bool :=
  match tree.find (Octets.toText left), tree.find (Octets.toText right) with
  | .ok left, .ok right => relation left right
  | _, _ => false

/-- A condition on two words. -/
def binary (left sign right : String) : Check Bool := do
  let compare (relation : Int → Int → Bool) : Check Bool :=
    return relation (← number left) (← number right)
  match sign with
  | "=" => return left == right
  | "!=" => return left != right
  | "<" => return left < right
  | ">" => return right < left
  | "-eq" => compare (· == ·)
  | "-ne" => compare (· != ·)
  | "-ge" => compare (· ≥ ·)
  | "-gt" => compare (· > ·)
  | "-le" => compare (· ≤ ·)
  | "-lt" => compare (· < ·)
  | "-nt" => return bothNodes tree left right fun a b => b.2.modified < a.2.modified
  | "-ot" => return bothNodes tree left right fun a b => a.2.modified < b.2.modified
  | _ => return bothNodes tree left right fun a b => tree.number? a.1 == tree.number? b.1

/-- Passes over a word. -/
def skip : Check Unit := modify List.tail

/-- The word that comes next. -/
def next : Check String := return (← get).headD ""

mutual

/-- Checks alternatives. It ends at the last word that belongs to them. -/
def disjunction : Nat → Check Bool
  | 0 => return false
  | fuel + 1 => do
    let first ← conjunction fuel
    if role (← get).tail = .disjunction then
      skip
      skip
      let later ← disjunction fuel
      return first || later
    else return first

/-- Reads conditions that must all hold. The fuel bounds the number of steps. -/
def conjunction : Nat → Check Bool
  | 0 => return false
  | fuel + 1 => do
    let first ← negation fuel
    if role (← get).tail = .conjunction then
      skip
      skip
      let later ← conjunction fuel
      return first && later
    else return first

/-- Reads a condition behind signs that turn it round. -/
def negation : Nat → Check Bool
  | 0 => return false
  | fuel + 1 => do
    if role (← get) = .negation then
      if (← get).length = 1 then return true
      else
        skip
        return !(← negation fuel)
    else primary fuel

/-- Reads a single condition, or one in parentheses. -/
def primary : Nat → Check Bool
  | 0 => return false
  | fuel + 1 => do
    let words ← get
    match role words with
    | .nothing => return false
    | .opening =>
      skip
      if role (← get) = .closing then return false
      else
        let holds ← disjunction fuel
        skip
        if role (← get) = .closing then return holds else throw .notClosed
    | .unary sign =>
      skip
      unary tree sign (← next)
    | _ =>
      match words with
      | word :: sign :: rest =>
        if binarySigns.contains sign then
          skip
          skip
          match rest with
          | [] => throw (.noArgument sign)
          | right :: _ => binary tree word sign right
        else return !word.isEmpty
      | words => return !(words.headD "").isEmpty

end

/-- Refuses words behind a condition. -/
def refuseRest (holds : Bool) : Check Bool := do
  match (← get) with
  | word :: _ :: _ => throw (.unexpected word)
  | _ => return holds

/-- Checks the condition that words state. Three words around a sign are always
a condition on two words. -/
def check (words : List String) : Except Fault Bool :=
  let fuel := 4 * words.length + 8
  let whole (words : List String) : Except Fault Bool :=
    ((do refuseRest (← disjunction tree fuel) : Check Bool).run words).map (·.1)
  match words with
  | [] => .ok false
  | [left, sign, right] =>
    if binarySigns.contains sign then ((binary tree left sign right).run []).map (·.1)
    else if left == "(" && right == ")" then whole [sign]
    else whole words
  | ["(", first, second, ")"] => whole [first, second]
  | words => whole words

end ProfileGraph.Shell.Condition
