import ProfileGraph.StandIn.Utility.Make.Expansion

/-! The lines of makefiles: how lines are continued, where comments start, and how
assignments and conditions are written. -/
namespace ProfileGraph.Utility.Make

/-- Whether a line is continued: an odd number of backslashes stands at its end. -/
def isContinued (line : List Char) : Bool :=
  (line.reverse.takeWhile (· == '\\')).length % 2 == 1

/-- Puts continued lines together. Each line comes with the number of its first
part; the parts stay apart by their line ends. -/
def joinLines : Nat → List String → List (Nat × String)
  | _, [] => []
  | number, line :: later =>
    let rest := joinLines (number + 1) later
    if isContinued line.toList then
      match rest with
      | (_, next) :: rest => (number, line ++ "\n" ++ next) :: rest
      | [] => [(number, line)]
    else (number, line) :: rest

/-- The lines of a text. -/
def logicalLines (first : Nat) (text : String) : List (Nat × String) :=
  let lines := (text.toList.splitOnP (· == '\n')).map String.ofList
  joinLines first (if lines.getLast? == some "" then lines.dropLast else lines)

/-- A line in which a continuation, with the blanks around it, is a single blank. The
fuel bounds the length. -/
def collapse : Nat → List Char → List Char
  | 0, text => text
  | _, [] => []
  | fuel + 1, '\\' :: '\\' :: rest => '\\' :: '\\' :: collapse fuel rest
  | fuel + 1, c :: rest =>
    match c, rest with
    | '\\', '\n' :: behind => ' ' :: collapse fuel (behind.dropWhile isBlank)
    | c, rest =>
      if isSpace c && (rest.dropWhile isSpace).take 2 == ['\\', '\n'] then
        collapse fuel (rest.dropWhile isSpace)
      else c :: collapse fuel rest

/-- A line with its continuations collapsed. -/
def collapsed (line : String) : String :=
  String.ofList (collapse (line.length + 1) line.toList)

/-- The line up to its comment. A backslash protects the mark of a comment. The fuel
bounds the length. -/
def withoutComment : Nat → List Char → List Char
  | 0, text => text
  | _, [] => []
  | fuel + 1, '\\' :: '#' :: rest => '#' :: withoutComment fuel rest
  | fuel + 1, c :: rest => if c == '#' then [] else c :: withoutComment fuel rest

/-- The length of a reference at the front of a text, with its dollar sign. -/
def referenceLength (text : List Char) : Nat :=
  match text with
  | '$' :: c :: rest =>
    if c == '(' || c == '\x7b' then
      match upToClose c (closingFor c) 0 rest with
      | some (inside, _) => inside.length + 3
      | none => 2
    else 2
  | _ => 1

/-- The text in front of the first of some characters that stands outside of
references, and the text from there on. The fuel bounds the length. -/
def splitAt (isMark : Char → Bool) : Nat → List Char → List Char × List Char
  | 0, text => ([], text)
  | _, [] => ([], [])
  | fuel + 1, '\\' :: c :: rest =>
    if isMark c then
      let (front, back) := splitAt isMark fuel rest
      (c :: front, back)
    else
      let (front, back) := splitAt isMark fuel (c :: rest)
      ('\\' :: front, back)
  | fuel + 1, '$' :: rest =>
    let length := referenceLength ('$' :: rest)
    let (front, back) := splitAt isMark fuel (('$' :: rest).drop length)
    (('$' :: rest).take length ++ front, back)
  | fuel + 1, c :: rest =>
    if isMark c then ([], c :: rest)
    else
      let (front, back) := splitAt isMark fuel rest
      (c :: front, back)

/-- The operator at the front of a text, and the text behind it. -/
def operator? : List Char → Option (Operator × List Char)
  | '=' :: rest => some (.recursive, rest)
  | ':' :: '=' :: rest => some (.simple, rest)
  | ':' :: ':' :: '=' :: rest => some (.simple, rest)
  | '?' :: '=' :: rest => some (.conditional, rest)
  | '+' :: '=' :: rest => some (.append, rest)
  | '!' :: '=' :: rest => some (.shell, rest)
  | _ => none

/-- Reads an assignment: the name so far, the operator and the value. The fuel bounds
the length. -/
def definitionFrom : Nat → List Char → List Char → Option (String × Operator × String)
  | 0, _, _ | _, _, [] => none
  | fuel + 1, name, text@(c :: rest) =>
    let finish (name : List Char) (operator : Operator) (value : List Char) :=
      some (String.ofList name.reverse, operator, String.ofList (value.dropWhile isBlank))
    if c == '#' then none
    else if c == '$' then
      let length := referenceLength text
      definitionFrom fuel ((text.take length).reverse ++ name) (text.drop length)
    else if isSpace c then
      match operator? (text.dropWhile isSpace) with
      | some (operator, value) => finish name operator value
      | none => none
    else match operator? text with
      | some (operator, value) => finish name operator value
      | none => if c == ':' then none else definitionFrom fuel (c :: name) rest

/-- The assignment that a text writes without any word in front. -/
def definition? (text : String) : Option (String × Operator × String) :=
  definitionFrom (text.length + 1) [] (text.toList.dropWhile isBlank)

/-- What a line about a variable says. -/
inductive VariableLine where
  | assignment (assignment : Assignment)
  /-- The value stands in the lines that follow. -/
  | multiline (assignment : Assignment)
  | removal (name : String)
deriving Repr

/-- The first word of a text, and the text behind it. -/
def firstWord (text : String) : String × String :=
  let text := text.toList.dropWhile isBlank
  let word := text.takeWhile fun c => !isBlank c
  (String.ofList word, String.ofList ((text.drop word.length).dropWhile isBlank))

/-- Reads a line about a variable, with the words in front of it that were read. The
fuel bounds their number. -/
def variableLineFrom : Nat → Assignment → String → Option VariableLine
  | 0, _, _ => none
  | fuel + 1, found, text =>
    match definition? text with
    | some (name, operator, value) => some (.assignment { found with name, operator, value })
    | none =>
      let (word, rest) := firstWord text
      match word with
      | "export" => variableLineFrom fuel { found with exported := some true } rest
      | "override" => variableLineFrom fuel { found with isOverride := true } rest
      | "private" => variableLineFrom fuel found rest
      | "define" =>
        match definition? rest with
        | some (name, operator, _) => some (.multiline { found with name, operator })
        | none => some (.multiline { found with name := trim rest, operator := .recursive })
      | "undefine" => some (.removal (trim rest))
      | _ => none

/-- The line about a variable that a text writes. -/
def variableLine? (text : String) : Option VariableLine :=
  variableLineFrom 10 { name := "", operator := .recursive, value := "" } text

/-- The two sides that a condition compares. -/
def comparedSides? (text : String) : Option (String × String) :=
  match (trimFront text).toList with
  | '(' :: rest =>
    let (first, back) := upToComma 0 rest
    match back with
    | ',' :: back =>
      (upToClose '(' ')' 0 (back.dropWhile isBlank)).map fun (second, _) =>
        (String.ofList (first.reverse.dropWhile isBlank).reverse, String.ofList second)
    | _ => none
  | c :: rest =>
    if c == '"' || c == '\'' then
      let first := rest.takeWhile (· != c)
      match ((rest.drop first.length).drop 1).dropWhile isBlank with
      | d :: behind =>
        if (d == '"' || d == '\'') && behind.contains d then
          some (String.ofList first, String.ofList (behind.takeWhile (· != d)))
        else none
      | [] => none
    else none
  | [] => none
where
  /-- The text up to a comma outside of brackets. -/
  upToComma : Nat → List Char → List Char × List Char
    | _, [] => ([], [])
    | depth, c :: rest =>
      if c == ',' && depth = 0 then ([], c :: rest)
      else
        let depth := if c == '(' then depth + 1 else if c == ')' then depth - 1 else depth
        let (front, back) := upToComma depth rest
        (c :: front, back)

end ProfileGraph.Utility.Make
