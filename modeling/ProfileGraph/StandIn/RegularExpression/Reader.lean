import ProfileGraph.StandIn.RegularExpression.Basic

/-! The written forms of regular expressions. In the basic form groups, counts
and alternatives are marked by backslashes, in the extended form by bare
characters. -/
namespace ProfileGraph.RegularExpression

/-- How expressions are written. -/
structure Dialect where
  extended : Bool := false
  /-- A repetition must have something to repeat, and a group that is closed must
  be open. -/
  strict : Bool := false
deriving DecidableEq, Repr

/-- Why a text is no regular expression. -/
inductive Fault where
  | unclosedGroup
  | unopenedGroup
  | unclosedBracket
  | missingBracket
  | nothingRepeated
  | badCount
  | unclosedCount
  | badRange
  | badBack
  | endsInBackslash
  | unknownKind
  | unknownElement
  | bareKind
  | tooBig
deriving DecidableEq, Repr

/-- The text for a fault. -/
def Fault.message : Fault → String
  | .unclosedGroup => "Unmatched ( or \\("
  | .unopenedGroup => "Unmatched ) or \\)"
  | .unclosedBracket => "Unmatched [, [^, [:, [., or [="
  | .missingBracket => "Invalid regular expression"
  | .nothingRepeated => "Invalid preceding regular expression"
  | .badCount => "Invalid content of \\\x7b\\\x7d"
  | .unclosedCount => "Unmatched \\\x7b"
  | .badRange => "Invalid range end"
  | .badBack => "Invalid back reference"
  | .endsInBackslash => "Trailing backslash"
  | .unknownKind => "Invalid character class name"
  | .unknownElement => "Invalid collation character"
  | .bareKind => "character class syntax is [[:space:]], not [:space:]"
  | .tooBig => "Regular expression too big"

/-- A token of an expression. -/
inductive Token where
  | char (c : Char)
  | any
  | openBracket
  | edge (edge : Edge)
  | back (number : Nat)
  | set (bracket : Bracket)
  | openGroup
  | closeGroup
  | bar
  | star
  | plus
  | question
  | openCount
  | closeCount
  | lastBackslash
deriving DecidableEq, Repr

/-- The characters of words. -/
def wordItems : List BracketItem := [.kind "alnum", .range '_' '_']

/-- The token that a backslash and a character make. -/
def escapedToken (dialect : Dialect) (c : Char) : Token :=
  let marked (token : Token) : Token := if dialect.extended then .char c else token
  match c with
  | '|' => marked .bar
  | '(' => marked .openGroup
  | ')' => marked .closeGroup
  | '\x7b' => marked .openCount
  | '\x7d' => marked .closeCount
  | '+' => marked .plus
  | '?' => marked .question
  | '<' => .edge .wordStart
  | '>' => .edge .wordEnd
  | 'b' => .edge .wordEdge
  | 'B' => .edge .noWordEdge
  | '\x60' => .edge .textStart
  | '\'' => .edge .textEnd
  | 'w' => .set { items := wordItems }
  | 'W' => .set { negated := true, items := wordItems }
  | 's' => .set { items := [.kind "space"] }
  | 'S' => .set { negated := true, items := [.kind "space"] }
  | c => if '1' ≤ c && c ≤ '9' then .back (c.toNat - '0'.toNat) else .char c

/-- The token that a bare character makes. `caretHere` says that a caret stands
where a line can start. -/
def bareToken (dialect : Dialect) (caretHere : Bool) (c : Char) (rest : List Char) : Token :=
  let marked (token : Token) : Token := if dialect.extended then token else .char c
  match c with
  | '|' => marked .bar
  | '(' => marked .openGroup
  | ')' => marked .closeGroup
  | '\x7b' => marked .openCount
  | '\x7d' => marked .closeCount
  | '+' => marked .plus
  | '?' => marked .question
  | '*' => .star
  | '[' => .openBracket
  | '.' => .any
  | '^' => if dialect.extended || caretHere then .edge .lineStart else .char c
  | '$' =>
    let isLast := match rest with
      | [] => true
      | '\\' :: d :: _ => !dialect.extended && (d == ')' || d == '|')
      | _ => false
    if dialect.extended || isLast then .edge .lineEnd else .char c
  | c => .char c

/-- What has been read of an expression: the text that is left, whether anything
has been read, how many groups were opened, and which ones were closed. -/
structure Reading where
  rest : List Char
  atStart : Bool := true
  opened : Nat := 0
  closed : List Nat := []
  /-- The marks of repetition that had nothing to repeat. -/
  idle : List String := []

/-- Reads with faults. -/
abbrev Reader := StateT Reading (Except Fault)

namespace Reader

/-- The next token and what stands behind it. -/
def peek (dialect : Dialect) (caretHere : Bool := false) : Reader (Option (Token × List Char)) := do
  let reading ← get
  match reading.rest with
  | [] => return none
  | ['\\'] => return some (.lastBackslash, [])
  | '\\' :: c :: rest => return some (escapedToken dialect c, rest)
  | c :: rest => return some (bareToken dialect (caretHere || reading.atStart) c rest, rest)

/-- Goes on behind a token. -/
def advance (rest : List Char) : Reader Unit :=
  modify fun reading => { reading with rest, atStart := false }

/-- Reads the name between marks in brackets, such as the colons of a kind of
characters. The fuel bounds its length. -/
def markedName (mark : Char) : Nat → List Char → Except Fault (List Char × List Char)
  | 0, _ | _, [] => .error .unclosedBracket
  | fuel + 1, c :: rest =>
    if c == mark && rest.head? == some ']' then .ok ([], rest.drop 1)
    else do
      let (name, rest) ← markedName mark fuel rest
      return (c :: name, rest)

/-- Reads one end of a range in brackets, or a kind of characters. -/
def bracketElement (text : List Char) : Except Fault (BracketItem × List Char) :=
  match text with
  | [] => .error .unclosedBracket
  | '[' :: ':' :: rest => do
    let (name, rest) ← markedName ':' (rest.length + 1) rest
    let name := String.ofList name
    if (charClass? name).isSome then return (.kind name, rest) else throw .unknownKind
  | '[' :: '=' :: rest => single '=' rest
  | '[' :: '.' :: rest => single '.' rest
  | c :: rest => .ok (.range c c, rest)
where
  /-- Reads a single character between marks. -/
  single (mark : Char) (rest : List Char) : Except Fault (BracketItem × List Char) := do
    match (← markedName mark (rest.length + 1) rest) with
    | ([c], rest) => return (.range c c, rest)
    | _ => throw .unknownElement

/-- Reads what brackets hold. The fuel bounds the number of items. -/
def bracketItems : Nat → Bool → List Char → Except Fault (List BracketItem × List Char)
  | 0, _, _ => .error .unclosedBracket
  | fuel + 1, isFirst, text =>
    match text with
    | [] => .error .unclosedBracket
    | ']' :: rest => if isFirst then item fuel isFirst text else .ok ([], rest)
    | _ => item fuel isFirst text
where
  /-- Reads an item and those behind it. -/
  item (fuel : Nat) (isFirst : Bool) (text : List Char) :
      Except Fault (List BracketItem × List Char) := do
    if !isFirst && text.head? == some '-' && text[1]? != some ']' then throw .badRange
    let (start, rest) ← bracketElement text
    match start, rest with
    | .range first _, '-' :: next :: behind =>
      if next == ']' then
        let (items, rest) ← bracketItems fuel false rest
        return (start :: items, rest)
      else
        match (← bracketElement (next :: behind)) with
        | (.range last _, rest) =>
          if last < first then throw .badRange
          let (items, rest) ← bracketItems fuel false rest
          return (.range first last :: items, rest)
        | _ => throw .badRange
    | _, _ =>
      let (items, rest) ← bracketItems fuel false rest
      return (start :: items, rest)

/-- Whether brackets hold what was meant to stand in two pairs of them. -/
def isBareKind (text : List Char) : Bool :=
  match text with
  | ':' :: rest =>
    let inner := rest.takeWhile (· != ']')
    rest.length != inner.length && 0 < inner.length && inner.getLast? == some ':'
  | _ => false

/-- Reads brackets, up to the closing one. -/
def bracket (text : List Char) : Except Fault (Bracket × List Char) := do
  if isBareKind text then throw .bareKind
  let (negated, text) := match text with
    | '^' :: rest => (true, rest)
    | text => (false, text)
  if text.isEmpty then throw .missingBracket
  let (items, rest) ← bracketItems (text.length + 1) true text
  return ({ negated, items }, rest)

/-- How often an expression can be repeated. -/
def maxCount : Nat := 32767

/-- What stands where a number is expected in a count. -/
inductive CountPart where
  | absent
  | number (n : Nat)
  | wrong
  | unclosed
deriving DecidableEq, Repr

/-- Reads a part of a count, up to its end or a comma; the flag tells that it
was a comma. -/
def countPart (dialect : Dialect) (text : List Char) : CountPart × Bool × List Char :=
  let inner := text.takeWhile fun c => c != ',' && c != '\x7d' && (dialect.extended || c != '\\')
  let rest := text.drop inner.length
  let part : CountPart :=
    if inner.isEmpty then .absent
    else if inner.all Char.isDigit then .number ((String.ofList inner).toNat?.getD 0) else .wrong
  match rest with
  | ',' :: rest => (part, true, rest)
  | '\\' :: '\x7d' :: rest => (part, false, rest)
  | '\x7d' :: rest => if dialect.extended then (part, false, rest) else (.wrong, false, rest)
  | [] => (.unclosed, false, [])
  | _ :: rest => (.wrong, false, rest)

/-- Reads a count behind its opening mark. The result is missing if the mark
stands for itself. -/
def count? (dialect : Dialect) (text : List Char) :
    Except Fault (Option (Nat × Option Nat × List Char)) :=
  let giveUp (fault : Fault) : Except Fault (Option (Nat × Option Nat × List Char)) :=
    if dialect.extended && !dialect.strict then .ok none else .error fault
  let accept (least : Nat) (most : Option Nat) (rest : List Char) :
      Except Fault (Option (Nat × Option Nat × List Char)) :=
    if most.any (· < least) then .error .badCount
    else if maxCount < most.getD least then .error .tooBig
    else .ok (some (least, most, rest))
  let upTo (least : Nat) (rest : List Char) :
      Except Fault (Option (Nat × Option Nat × List Char)) :=
    match countPart dialect rest with
    | (.absent, false, rest) => accept least none rest
    | (.number most, false, rest) => accept least (some most) rest
    | (.unclosed, _, _) => giveUp .unclosedCount
    | (.wrong, _, _) => giveUp .badCount
    | _ => .error .badCount
  match countPart dialect text with
  | (.absent, false, _) => .error .badCount
  | (.absent, true, rest) => upTo 0 rest
  | (.number n, false, rest) => accept n (some n) rest
  | (.number n, true, rest) => upTo n rest
  | (.unclosed, _, _) => giveUp .unclosedCount
  | (.wrong, _, _) => giveUp .badCount

/-- Reads the repetitions behind an expression. The fuel bounds their number. -/
def repeats (dialect : Dialect) : Nat → RegularExpression → Reader RegularExpression
  | 0, inner => return inner
  | fuel + 1, inner => do
    let again (inner : RegularExpression) (rest : List Char) : Reader RegularExpression := do
      advance rest
      if dialect.strict && !dialect.extended then
        match (← peek dialect) with
        | some (.star, _) | some (.openCount, _) => throw .nothingRepeated
        | _ => pure ()
      repeats dialect fuel inner
    match (← peek dialect) with
    | some (.star, rest) => again (.repeated inner 0 none) rest
    | some (.plus, rest) => again (.repeated inner 1 none) rest
    | some (.question, rest) => again (.repeated inner 0 (some 1)) rest
    | some (.openCount, rest) =>
      match (← count? dialect rest) with
      | some (least, most, rest) => again (.repeated inner least most) rest
      | none =>
        advance rest
        return .both inner (← repeats dialect fuel (.char '\x7b'))
    | _ => return inner

/-- The character that a mark of repetition stands for where there is nothing to
repeat. -/
def markChar : Token → Char
  | .plus => '+'
  | .question => '?'
  | .openCount => '\x7b'
  | _ => '*'

/-- How a mark of repetition is called. -/
def markName (token : Token) : String :=
  if token = .openCount then "\x7b...\x7d" else String.singleton (markChar token)

mutual

/-- Reads alternatives, in a group or at the top. -/
def alternatives (dialect : Dialect) : Nat → Bool → Reader RegularExpression
  | 0, _ => return .empty
  | fuel + 1, inGroup => do
    let before := (← get).closed
    let first ← branch dialect fuel inGroup true .empty
    match (← peek dialect) with
    | some (.bar, rest) =>
      advance rest
      let inFirst := (← get).closed
      modify fun reading => { reading with closed := before }
      let second ← alternatives dialect fuel inGroup
      modify fun reading => { reading with closed := inFirst ++ reading.closed }
      return .either first second
    | _ => return first

/-- Reads what stands between two bars, behind what has been read of it. -/
def branch (dialect : Dialect) :
    Nat → Bool → Bool → RegularExpression → Reader RegularExpression
  | 0, _, _, before => return before
  | fuel + 1, inGroup, caretHere, before => do
    match (← peek dialect caretHere) with
    | none | some (.bar, _) => return before
    | some (token, rest) =>
      if token = .closeGroup && inGroup then return before
      else
        advance rest
        let next ← item dialect fuel token
        let whole := match before with
          | .empty => next
          | before => .both before next
        branch dialect fuel inGroup false whole

/-- Reads what a token starts. -/
def item (dialect : Dialect) : Nat → Token → Reader RegularExpression
  | 0, _ => return .empty
  | fuel + 1, token => do
    let length := (← get).rest.length + 1
    let withRepeats (inner : RegularExpression) : Reader RegularExpression :=
      repeats dialect length inner
    match token with
    | .char c => withRepeats (.char c)
    | .any => withRepeats .any
    | .set brackets => withRepeats (.bracket brackets)
    | .closeCount => withRepeats (.char '\x7d')
    | .edge condition => return .edge condition
    | .bar => return .empty
    | .lastBackslash => throw .endsInBackslash
    | .back number =>
      if (← get).closed.contains number then withRepeats (.back number) else throw .badBack
    | .openBracket =>
      let (brackets, rest) ← bracket (← get).rest
      advance rest
      withRepeats (.bracket brackets)
    | .closeGroup =>
      if dialect.strict || !dialect.extended then throw .unopenedGroup
      else withRepeats (.char ')')
    | .openGroup =>
      let number := (← get).opened + 1
      modify fun reading => { reading with opened := number }
      let inner ← alternatives dialect fuel true
      match (← peek dialect) with
      | some (.closeGroup, rest) =>
        advance rest
        modify fun reading => { reading with closed := number :: reading.closed }
        withRepeats (.group number inner)
      | _ => throw .unclosedGroup
    | .star | .plus | .question | .openCount =>
      let isCount := token = .openCount
      if dialect.strict && (dialect.extended || isCount) then throw .nothingRepeated
      else if dialect.extended then
        let behind ← if isCount then
            pure ((← count? dialect (← get).rest).map fun (_, _, rest) => rest)
          else pure (some (← get).rest)
        match behind with
        | none => withRepeats (.char (markChar token))
        | some rest =>
          modify fun reading => { reading with rest, idle := reading.idle ++ [markName token] }
          match (← peek dialect) with
          | none | some (.bar, _) | some (.closeGroup, _) => return .empty
          | some (token, rest) =>
            advance rest
            item dialect fuel token
      else withRepeats (.char (markChar token))

end

end Reader

/-- An expression that was read. -/
structure Written where
  expression : RegularExpression
  /-- The number of its groups. -/
  groups : Nat
  /-- The marks of repetition that had nothing to repeat. -/
  idle : List String
deriving Repr

/-- Reads an expression. -/
def read (dialect : Dialect) (text : List Char) : Except Fault Written := do
  let (expression, reading) ←
    (Reader.alternatives dialect (4 * text.length + 4) false).run { rest := text }
  return { expression, groups := reading.opened, idle := reading.idle }

end ProfileGraph.RegularExpression
