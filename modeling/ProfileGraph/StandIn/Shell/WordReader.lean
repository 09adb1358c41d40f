import ProfileGraph.StandIn.Shell.Quoting

/-! The reader of words. The commands within a substitution are read by readers
that are given. -/
namespace ProfileGraph.Shell.WordReader
open Reading

/-- The readers of the commands within a substitution. -/
structure Commands where
  /-- Reads up to the end of the text. -/
  toEnd : Reading Command
  /-- Reads up to a closing parenthesis. -/
  toParenthesis : Reading Command

/-- Puts literal text, given from its end, in front of other parts. -/
def flush (quoted : Bool) (text : List Char) (later : Word) : Word :=
  if text.isEmpty then later else .literal quoted (String.ofList text.reverse) :: later

/-- Reads up to the closing single quote. The fuel bounds the number of
characters. -/
def singleQuoted : Nat → Reading (List Char)
  | 0 => fail .unterminatedQuote
  | fuel + 1 => do
    match (← nextRaw) with
    | none => fail .unterminatedQuote
    | some '\'' => return []
    | some c => return c :: (← singleQuoted fuel)

/-- Reads characters of a kind. The fuel bounds their number. -/
def charsWhile (kind : Char → Bool) : Nat → Reading (List Char)
  | 0 => return []
  | fuel + 1 => do
    match (← peek) with
    | some c =>
      if kind c then
        let _ ← next
        return c :: (← charsWhile kind fuel)
      else return []
    | none => return []

/-- Reads the text between back quotes, in which a backslash protects some
characters. The fuel bounds the number of characters. -/
def backQuoted (quoted : Bool) : Nat → Reading (List Char)
  | 0 => fail .openBackQuote
  | fuel + 1 => do
    match (← next) with
    | none => fail .openBackQuote
    | some '\x60' => return []
    | some '\\' =>
      match (← nextRaw) with
      | none => return '\\' :: (← backQuoted quoted fuel)
      | some c =>
        let isProtected := c == '\\' || c == '\x60' || c == '$' || (quoted && c == '"')
        let rest ← backQuoted quoted fuel
        return if isProtected then c :: rest else '\\' :: c :: rest
    | some c => return c :: (← backQuoted quoted fuel)

/-- The operation that a sign behind the name of a parameter asks for, if the
sign is one. -/
def operation? (orEmpty : Bool) : Char → Option Operation
  | '-' => some (.default orEmpty)
  | '+' => some (.alternative orEmpty)
  | '?' => some (.require orEmpty)
  | '=' => some (.assign orEmpty)
  | '\x7d' => if orEmpty then none else some .value
  | _ => none

/-- Reads the operation behind the name of a parameter. -/
def operation : Reading Operation := do
  match (← peek) with
  | none => return .bad
  | some ':' =>
    let _ ← next
    match (← peek).bind (operation? true) with
    | some found =>
      let _ ← next
      return found
    | none =>
      let _ ← next
      return .bad
  | some '%' =>
    let _ ← next
    return .trimEnd (← takes '%')
  | some '#' =>
    let _ ← next
    return .trimStart (← takes '#')
  | some c =>
    let _ ← next
    return (operation? false c).getD .bad

/-- Reads the name of a parameter. `single` says that a number has one digit. -/
def parameterName (single : Bool) (fuel : Nat) : Reading (Option String) := do
  match (← peek) with
  | none => return none
  | some c =>
    if isNameStart c then return some (String.ofList (← charsWhile isNameChar fuel))
    else if c.isDigit then
      return some (String.ofList (← charsWhile Char.isDigit (if single then 1 else fuel)))
    else if isSpecialParameter c then
      let _ ← next
      return some (String.singleton c)
    else return none

/-- Reads the name and the operation of a parameter in braces. A number sign in
front of a name asks for the length; the sign is a parameter of its own, too. -/
def bracedParameter (fuel : Nat) : Reading (String × Operation) := do
  if (← peek) == some '#' then
    let _ ← next
    match (← peek) with
    | some '\x7d' =>
      let _ ← next
      return ("#", .value)
    | some c =>
      if isNameChar c then
        let name ← parameterName false fuel
        if (← takes '\x7d') then return (name.getD "", .length) else return ("", .bad)
      else if isSpecialParameter c then
        let _ ← next
        if (← takes '\x7d') then return (String.singleton c, .length)
        else
          back c
          return ("#", ← operation)
      else return ("#", ← operation)
    | none => return ("#", .bad)
  else match (← parameterName false fuel) with
    | some name => return (name, ← operation)
    | none => return ("", .bad)

/-- Whether a document ends behind a character. -/
def endsDocument (frame : Frame) (c : Char) : Reading Bool := do
  match frame.mark? with
  | some document => if c == '\n' then takesMark document else return false
  | none => return false

mutual

/-- Reads the parts of a word. The characters of `text` come right before, the
last one first. The fuel bounds the number of characters. -/
def parts (commands : Commands) : Nat → Frame → List Char → Reading Word
  | 0, frame, text => return flush frame.double text []
  | fuel + 1, frame, text => do
    let later (frame : Frame) (found : Word) : Reading Word := do
      return flush frame.double text (found ++ (← parts commands fuel frame []))
    match (← peek) with
    | none =>
      match frame.faultAtEnd? with
      | some fault => fail fault
      | none => return flush frame.double text []
    | some c =>
      let glyph := frame.glyph c
      if glyph = .stops then return flush frame.double text []
      else
        let _ ← next
        match glyph with
        | .literal =>
          if ← endsDocument frame c then return flush frame.double (c :: text) []
          else parts commands fuel frame (c :: text)
        | .nothing =>
          closeAlias c
          parts commands fuel frame text
        | .ends | .stops => return flush frame.double text []
        | .escapes =>
          match (← nextRaw) with
          | none => later frame [.literal true "\\"]
          | some c =>
            later frame
              [.literal true (String.ofList (if frame.keepsBackslash c then ['\\', c] else [c]))]
        | .opensSingle =>
          let inner ← singleQuoted (fuel + 1)
          later frame [.quote, .literal true (String.ofList inner), .quote]
        | .opensDouble =>
          let inner ← parts commands fuel frame.insideDouble []
          later frame (.quote :: inner ++ [.quote])
        | .toggles => later { frame with toggled := !frame.toggled } [.quote]
        | .dollar => later frame [← dollar commands fuel frame]
        | .backQuote =>
          let inner ← backQuoted frame.isQuoted (fuel + 1)
          later frame [.substitution frame.isQuoted (← onText inner 1 commands.toEnd)]
        | .opensParenthesis =>
          parts commands fuel { frame with depth := frame.depth + 1 } (c :: text)
        | .closesParenthesis =>
          if 0 < frame.depth then
            parts commands fuel { frame with depth := frame.depth - 1 } (c :: text)
          else if (← takes ')') then return flush frame.double text []
          else parts commands fuel frame (c :: text)

/-- Reads what stands behind a dollar sign. A dollar sign without a name stands
for itself. -/
def dollar (commands : Commands) : Nat → Frame → Reading Fragment
  | 0, frame => return .literal frame.double "$"
  | fuel + 1, frame => do
    match (← peek) with
    | some '(' =>
      let _ ← next
      if (← takes '(') then
        let expression ← parts commands fuel { arithmetic := true, document := frame.document } []
        return .arithmetic frame.isQuoted expression
      else
        let body ← commands.toParenthesis
        return .substitution frame.isQuoted body
    | some '\x7b' =>
      let _ ← next
      let (name, operation) ← bracedParameter (fuel + 1)
      match operation with
      | .value | .length => return .parameter frame.isQuoted name operation []
      | operation =>
        let word ← parts commands fuel (frame.insideBraces operation) []
        return .parameter frame.isQuoted name operation word
    | _ =>
      match (← parameterName true (fuel + 1)) with
      | some name => return .parameter frame.isQuoted name .value []
      | none => return .literal frame.double "$"

end

/-- Reads lines up to the one that ends a document. The fuel bounds the number
of characters. -/
def verbatim (document : PendingDocument) : Nat → List Char → Reading (List Char)
  | 0, text => return text.reverse
  | fuel + 1, text => do
    match (← nextRaw) with
    | none => return text.reverse
    | some c =>
      if c == '\n' && (← takesMark document) then return (c :: text).reverse
      else verbatim document fuel (c :: text)

/-- Reads a document that has been announced. -/
def document (commands : Commands) (fuel : Nat) (pending : PendingDocument) : Reading Unit := do
  let word ←
    if ← takesMark pending then pure []
    else if pending.verbatim then
      pure [.literal true (String.ofList (← verbatim pending fuel []))]
    else parts commands fuel { double := true, document := true, mark? := some pending } []
  modify fun source => { source with documents := (pending.number, word) :: source.documents }

/-- Reads the documents that have been announced. -/
def announcedDocuments (commands : Commands) (fuel : Nat) : Reading Unit := do
  let pending := (← get).pending
  modify fun source => { source with pending := [] }
  pending.forM (document commands fuel)

end ProfileGraph.Shell.WordReader
