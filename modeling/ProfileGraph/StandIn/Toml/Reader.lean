import ProfileGraph.StandIn.Toml.Scalar

/-! The rules by which the lines of a text build up tables. Keys with dots extend only
tables that such keys made, a header completes only tables that longer headers
passed through, and a table written between braces is closed. -/
namespace ProfileGraph
namespace Toml

/-- Gives a key a value. -/
def assign (key : String) (value : Toml) : Entries → Entries
  | [] => [(key, value)]
  | entry :: later =>
    if entry.1 == key then (key, value) :: later else entry :: assign key value later

/-- Changes the table to which a path leads, counted from a given table.
Tables that are missing on the way are made. `dotted` says whether a key with
dots takes the way, or a header. -/
def within (dotted : Bool) (change : TableOrigin → Entries → Option Entries) :
    List String → TableOrigin → Entries → Option Entries
  | [], origin, entries => change origin entries
  | key :: path, _, entries =>
    match value? key entries with
    | none =>
      let origin := if dotted then .dotted else .passage
      (within dotted change path origin []).map fun inner =>
        assign key (.table origin inner) entries
    | some (.table origin inner) =>
      if origin = .braces ∨ (dotted ∧ origin = .header) then none
      else (within dotted change path origin inner).map fun inner =>
        assign key (.table origin inner) entries
    | some (.tables items) =>
      match items.getLast? with
      | none => none
      | some inner => (within dotted change path .header inner).map fun inner =>
        assign key (.tables (items.dropLast ++ [inner])) entries
    | some _ => none

/-- Adds a new key to a table. A key with dots may only end in a table that
such keys made, a plain key only in one that they did not make. -/
def define (plain : Bool) (key : String) (value : Toml) (origin : TableOrigin)
    (entries : Entries) : Option Entries :=
  if plain = (origin == .dotted) ∨ (value? key entries).isSome then none
  else some (assign key value entries)

/-- Adds a value under a key, which is given by its parts, to a table. -/
def addKey (path : List String) (value : Toml) (origin : TableOrigin) (entries : Entries) :
    Option Entries :=
  match path.getLast? with
  | none => none
  | some key =>
    within true (define (path.length == 1) key value) path.dropLast origin entries

/-- Opens the table that a header names. -/
def openTable (key : String) (_ : TableOrigin) (entries : Entries) : Option Entries :=
  match value? key entries with
  | none => some (assign key (.table .header []) entries)
  | some (.table .passage inner) => some (assign key (.table .header inner) entries)
  | some _ => none

/-- Adds a table to those under a key. -/
def addTable (key : String) (_ : TableOrigin) (entries : Entries) : Option Entries :=
  match value? key entries with
  | none => some (assign key (.tables [[]]) entries)
  | some (.tables items) => some (assign key (.tables (items ++ [[]])) entries)
  | some _ => none

end Toml

/-- A text read so far: the outermost table, and the path of the table to
which further lines add. -/
structure TomlDocument where
  root : Toml.Entries := []
  header : List String := []

namespace TomlDocument

/-- Adds what a line with a key and a value says. -/
def addLine (document : TomlDocument) (path : List String) (value : Toml) :
    Option TomlDocument := do
  let root ← Toml.within false (Toml.addKey path value) document.header .header document.root
  return { document with root }

/-- Goes on to the table that a header names; `several` tells whether it stands
between double brackets. -/
def startTable (document : TomlDocument) (several : Bool) (path : List String) :
    Option TomlDocument := do
  let key ← path.getLast?
  let start := if several then Toml.addTable key else Toml.openTable key
  let root ← Toml.within false start path.dropLast .header document.root
  return { root, header := path }

end TomlDocument
end ProfileGraph

/-! The reader of TOML text. Each line is blank, a header, or a key with its
value; values in brackets may run over several lines. -/
namespace ProfileGraph.Toml

/-- A reader of the front of a text. -/
abbrev Scan := StateT (List Char) Option

/-- How deep brackets and braces may be nested, and how many parts a key may
have. -/
def maxNesting : Nat := 79

/-- The text that is left. -/
def ahead : Scan (List Char) := get

/-- Passes over a text that must come next. -/
def pass (expected : List Char) : Scan Unit := do
  let text ← ahead
  if expected.isPrefixOf text then set (text.drop expected.length) else failure

/-- Whether a character comes next. -/
def sees (c : Char) : Scan Bool := do return (← ahead).head? == some c

/-- Takes the longest front whose characters satisfy a condition. -/
def takeWhile (condition : Char → Bool) : Scan (List Char) := do
  let (front, rest) := (← ahead).span condition
  set rest
  return front

/-- Passes over blanks inside a line. -/
def blanks : Scan Unit := do
  let _ ← takeWhile fun c => c == ' ' || c == '\t'

/-- Passes over a comment if one comes next. -/
def comment : Scan Unit := do
  if ← sees '#' then
    let _ ← takeWhile isPrintable

/-- Passes over the end of a line. -/
def newline : Scan Unit := pass ['\n'] <|> pass ['\r', '\n']

/-- Passes over blanks and a comment up to the end of the line or text. -/
def lineRest : Scan Unit := do
  blanks
  comment
  if !(← ahead).isEmpty then newline

/-- Passes over blanks, comments and line ends. The fuel bounds the number of
lines. -/
def gapWithin : Nat → Scan Unit
  | 0 => failure
  | fuel + 1 => do
    blanks
    comment
    match (← ahead) with
    | '\n' :: _ | '\r' :: _ => do
      newline
      gapWithin fuel
    | _ => return ()

/-- Passes over the gap between the parts of an array. -/
def gap : Scan Unit := do gapWithin ((← ahead).length + 1)

/-- Whether a character may stand in a key without quotes. -/
def isKeyChar (c : Char) : Bool := c.isAlphanum || c == '_' || c == '-'

/-- Reads a string whose opening quote comes next. -/
def stringOf (read : Char → List Char → Option (List Char × List Char)) (quote : Char) :
    Scan String := do
  pass [quote]
  let (text, rest) ← read quote (← ahead)
  set rest
  return String.ofList text

/-- A string of one line behind its opening quote. -/
def keyString (quote : Char) (text : List Char) : Option (List Char × List Char) :=
  lineString quote (text.length + 1) text

/-- Reads one part of a key: a bare word or a string of one line. -/
def keyPart : Scan String := do
  if ← sees '"' then stringOf keyString '"'
  else if ← sees '\'' then stringOf keyString '\''
  else
    let word ← takeWhile isKeyChar
    if word.isEmpty then failure else return String.ofList word

/-- Reads a key up to the blanks behind it. The fuel bounds the number of its
parts. -/
def keyWithin : Nat → Scan (List String)
  | 0 => failure
  | fuel + 1 => do
    blanks
    let part ← keyPart
    blanks
    if ← sees '.' then
      pass ['.']
      return part :: (← keyWithin fuel)
    else return [part]

/-- Reads a key as its parts. -/
def key : Scan (List String) := keyWithin maxNesting

/-- The characters of values without quotes, brackets and braces. -/
def isBareChar (c : Char) : Bool := isKeyChar c || c == '+' || c == '.' || c == ':'

/-- Reads a value without quotes, brackets and braces. Between a date and a
time of day may stand a blank. -/
def bare : Scan Toml := do
  let text ← takeWhile isBareChar
  match (← ahead) with
  | ' ' :: digit :: rest =>
    if date? text = some [] ∧ digit.isDigit then
      set (digit :: rest)
      bare? (text ++ ' ' :: (← takeWhile isBareChar))
    else bare? text
  | _ => bare? text

/-- Reads what stands between brackets behind the opening one. The fuel bounds
the number of items. -/
def itemsWithin (item : Scan Toml) : Nat → Scan (List Toml)
  | 0 => failure
  | fuel + 1 => do
    gap
    if ← sees ']' then
      pass [']']
      return []
    else
      let first ← item
      gap
      if ← sees ',' then
        pass [',']
        return first :: (← itemsWithin item fuel)
      else
        pass [']']
        return [first]

/-- Reads a key, the sign behind it and its value. -/
def assignment (item : Scan Toml) : Scan (List String × Toml) := do
  let path ← key
  pass ['=']
  blanks
  return (path, ← item)

/-- Reads what stands between braces behind the opening one. The fuel bounds
the number of entries. -/
def entriesWithin (item : Scan Toml) (entries : Entries) : Nat → Scan Entries
  | 0 => failure
  | fuel + 1 => do
    let (path, value) ← assignment item
    let entries ← addKey path value .braces entries
    blanks
    if ← sees ',' then
      pass [',']
      entriesWithin item entries fuel
    else
      pass ['\x7d']
      return entries

/-- Reads a value without parts. -/
def leaf : Scan Toml := do
  if ← sees '"' then return .string (← stringOf quotedString '"')
  else if ← sees '\'' then return .string (← stringOf quotedString '\'')
  else bare

/-- Reads a value in which brackets and braces are nested up to a bound. -/
def valueWithin : Nat → Scan Toml
  | 0 => leaf
  | nesting + 1 => do
    let fuel := (← ahead).length
    if ← sees '[' then
      pass ['[']
      return .array (← itemsWithin (valueWithin nesting) fuel)
    else if ← sees '\x7b' then
      pass ['\x7b']
      blanks
      if ← sees '\x7d' then
        pass ['\x7d']
        return .table .braces []
      else
        return .table .braces (← entriesWithin (valueWithin nesting) [] fuel)
    else leaf

/-- Reads a value. -/
def value : Scan Toml := valueWithin maxNesting

/-- Reads one line with what belongs to it and adds it to a document. -/
def line (document : TomlDocument) : Scan TomlDocument := do
  match (← ahead) with
  | '#' :: _ | '\n' :: _ | '\r' :: _ =>
    lineRest
    return document
  | '[' :: '[' :: _ =>
    pass ['[', '[']
    let path ← key
    pass [']', ']']
    lineRest
    document.startTable true path
  | '[' :: _ =>
    pass ['[']
    let path ← key
    pass [']']
    lineRest
    document.startTable false path
  | _ =>
    let (path, value) ← assignment value
    lineRest
    document.addLine path value

/-- Reads lines up to the end of the text. The fuel bounds their number. -/
def linesWithin (document : TomlDocument) : Nat → Scan TomlDocument
  | 0 => failure
  | fuel + 1 => do
    blanks
    if (← ahead).isEmpty then return document
    else linesWithin (← line document) fuel

/-- Reads a whole text as the entries of its outermost table. A byte order mark
in front is passed over. -/
def read? (text : String) : Option Entries :=
  let text := match text.toList with
    | '\uFEFF' :: rest => rest
    | text => text
  ((linesWithin {} (text.length + 1)).run text).map (·.1.root)

end ProfileGraph.Toml
