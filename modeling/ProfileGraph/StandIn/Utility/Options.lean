import ProfileGraph.StandIn.Host.Process

/-! Names in the messages of utilities. A name is put between quotes so that a
shell would read it back; bytes that cannot be printed are written as octal
numbers. -/
namespace ProfileGraph.Utility

/-- Whether a byte can be printed. -/
def isPrintable (c : Char) : Bool := ' ' ≤ c && c ≤ '~'

/-- The letter of the escape that stands for a control character. -/
def escapeLetter? : Char → Option Char
  | '\x07' => some 'a'
  | '\x08' => some 'b'
  | '\x0c' => some 'f'
  | '\n' => some 'n'
  | '\r' => some 'r'
  | '\t' => some 't'
  | '\x0b' => some 'v'
  | _ => none

/-- Three octal digits of a byte. -/
def octalEscape (c : Char) : List Char :=
  let digit (n : Nat) : Char := Char.ofNat (n % 8 + '0'.toNat)
  ['\\', digit (c.toNat / 64), digit (c.toNat / 8), digit c.toNat]

/-- The escape of a character that cannot be printed. -/
def escapeOf (c : Char) : List Char :=
  match escapeLetter? c with
  | some letter => ['\\', letter]
  | none => octalEscape c

/-- Whether a character does no harm between double quotes. -/
def isHarmless (c : Char) : Bool :=
  c.isAlphanum || " '%+,-./:]_".toList.contains c

/-- Whether a name has to be quoted for a shell. -/
def needsQuotes (name : List Char) : Bool :=
  name.isEmpty || name == ['\x7b'] || name == ['\x7d']
    || name.head? == some '#' || name.head? == some '~'
    || name.any fun c =>
      !isPrintable c || " !\"$&()*;<=>?[^'\\|".toList.contains c || c == '\x60'

/-- The text of a name between single quotes. Escapes stand between quotes of
their own; the flag tells that such quotes are open. -/
def singleQuotedText (escaping : Bool) : List Char → List Char
  | [] => []
  | c :: rest =>
    if !isPrintable c then
      (if escaping then [] else ['\'', '$', '\'']) ++ escapeOf c ++ singleQuotedText true rest
    else
      (if escaping then ['\'', '\''] else [])
        ++ (if c == '\'' then ['\'', '\\', '\'', '\''] else [c])
        ++ singleQuotedText false rest

/-- A name between quotes. -/
def quoted (name : String) : String :=
  let text := name.toList
  if text.contains '\'' && text.all isHarmless then "\"" ++ name ++ "\""
  else "'" ++ String.ofList (singleQuotedText false text) ++ "'"

/-- A name between quotes if it needs them. -/
def quotedIfNeeded (name : String) : String :=
  if needsQuotes name.toList then quoted name else name

/-- A word of the command line between quotes, with escapes as in a program. -/
def quotedWord (word : String) : String :=
  "'" ++ String.ofList (word.toList.flatMap fun c =>
    if c == '\'' || c == '\\' then ['\\', c]
    else if isPrintable c then [c] else escapeOf c) ++ "'"

end ProfileGraph.Utility

/-! The options of utilities: letters behind a dash and names behind two. Options
may stand between other arguments, names may be cut short, and two dashes end
the options. -/
namespace ProfileGraph.Utility
open Host

/-- Whether an option takes an argument. -/
inductive Taking where
  | nothing
  | required
  | optional
deriving DecidableEq, Repr

/-- An option, by the key under which it is found: its letter, or its name if it
has none. -/
structure OptionForm where
  letter : Option Char := none
  name : Option String := none
  taking : Taking := .nothing
deriving Repr

namespace OptionForm

/-- An option with a letter and perhaps a name. -/
def flag (letter : Char) (name : Option String := none) : OptionForm := ⟨some letter, name, .nothing⟩

/-- An option with a letter that takes an argument. -/
def value (letter : Char) (name : Option String := none) : OptionForm :=
  ⟨some letter, name, .required⟩

/-- An option that has only a name. -/
def named (name : String) (taking : Taking := .nothing) : OptionForm := ⟨none, some name, taking⟩

/-- The key under which an option is found. -/
def key (form : OptionForm) : String :=
  match form.letter with
  | some letter => String.singleton letter
  | none => form.name.getD ""

end OptionForm

/-- Why options cannot be read. -/
inductive OptionFault where
  | unknownLetter (letter : Char)
  | unknownName (name : String)
  | ambiguous (name : String) (candidates : List String)
  | missingForLetter (letter : Char)
  | missingForName (name : String)
  | unwanted (name : String)
deriving DecidableEq, Repr

/-- The text for options that are refused. -/
def OptionFault.message : OptionFault → String
  | .unknownLetter letter => "invalid option -- '" ++ String.singleton letter ++ "'"
  | .unknownName name => "unrecognized option '--" ++ name ++ "'"
  | .ambiguous name candidates =>
    "option '--" ++ name ++ "' is ambiguous; possibilities:"
      ++ String.join (candidates.map fun candidate => " '--" ++ candidate ++ "'")
  | .missingForLetter letter => "option requires an argument -- '" ++ String.singleton letter ++ "'"
  | .missingForName name => "option '--" ++ name ++ "' requires an argument"
  | .unwanted name => "option '--" ++ name ++ "' doesn't allow an argument"

/-- Options in their order, by their keys, and the other arguments. -/
structure Given where
  options : List (String × Option String) := []
  operands : List String := []
deriving Repr

namespace Given

/-- Whether an option was given. -/
def has (given : Given) (key : String) : Bool := given.options.any (·.1 == key)

/-- The argument that an option was given last. -/
def value? (given : Given) (key : String) : Option String :=
  (given.options.reverse.find? (·.1 == key)).bind (·.2)

/-- All arguments that an option was given. -/
def values (given : Given) (key : String) : List String :=
  given.options.filterMap fun (name, value) => if name == key then value else none

/-- The last of some options. -/
def last? (given : Given) (keys : List String) : Option String :=
  (given.options.reverse.find? fun (name, _) => keys.contains name).map (·.1)

/-- Adds an option in front of the others. -/
def withOption (given : Given) (key : String) (value : Option String) : Given :=
  { given with options := (key, value) :: given.options }

/-- Adds an operand in front of the others. -/
def withOperand (given : Given) (operand : String) : Given :=
  { given with operands := operand :: given.operands }

end Given

/-- Finds the option with a name, which may be cut short. -/
def findByName (forms : List OptionForm) (name : String) : Except OptionFault OptionForm :=
  match forms.find? (·.name == some name) with
  | some form => .ok form
  | none =>
    let candidates := forms.filter fun form => (form.name.map (·.startsWith name)).getD false
    match candidates with
    | [] => .error (.unknownName name)
    | [form] => .ok form
    | form :: more =>
      if more.all fun other => other.letter == form.letter && form.letter.isSome then .ok form
      else .error (.ambiguous name (candidates.filterMap (·.name)))

/-- Reads letters behind a dash, and an argument that the last one may need. -/
def readLetters (forms : List OptionForm) : List Char → List String →
    Except OptionFault (List (String × Option String) × List String)
  | [], arguments => .ok ([], arguments)
  | letter :: rest, arguments =>
    match forms.find? (·.letter == some letter) with
    | none => .error (.unknownLetter letter)
    | some form =>
      match form.taking with
      | .nothing =>
        (readLetters forms rest arguments).map fun (later, arguments) =>
          ((form.key, none) :: later, arguments)
      | .optional =>
        .ok ([(form.key, if rest.isEmpty then none else some (String.ofList rest))], arguments)
      | .required =>
        if !rest.isEmpty then .ok ([(form.key, some (String.ofList rest))], arguments)
        else match arguments with
          | value :: arguments => .ok ([(form.key, some value)], arguments)
          | [] => .error (.missingForLetter letter)

/-- Reads a name behind two dashes, and an argument that it may need. -/
def readName (forms : List OptionForm) (text : List Char) (arguments : List String) :
    Except OptionFault ((String × Option String) × List String) := do
  let (name, rest) := text.span (· != '=')
  let form ← findByName forms (String.ofList name)
  match form.taking, rest with
  | .nothing, [] => return ((form.key, none), arguments)
  | .nothing, _ :: _ => throw (.unwanted (form.name.getD ""))
  | .optional, [] => return ((form.key, none), arguments)
  | _, _ :: value => return ((form.key, some (String.ofList value)), arguments)
  | .required, [] =>
    match arguments with
    | value :: arguments => return ((form.key, some value), arguments)
    | [] => throw (.missingForName (form.name.getD ""))

/-- Reads arguments. `stops` says that the first one that is no option ends the
options. The fuel bounds the number of arguments. -/
def readGiven (forms : List OptionForm) (stops : Bool) : Nat → List String →
    Except OptionFault Given
  | 0, arguments => .ok { operands := arguments }
  | _, [] => .ok {}
  | fuel + 1, argument :: arguments =>
    match argument.toList with
    | ['-', '-'] => .ok { operands := arguments }
    | '-' :: '-' :: text => do
      let ((key, value), arguments) ← readName forms text arguments
      return (← readGiven forms stops fuel arguments).withOption key value
    | '-' :: letter :: letters => do
      let (found, arguments) ← readLetters forms (letter :: letters) arguments
      let later ← readGiven forms stops fuel arguments
      return { later with options := found ++ later.options }
    | _ =>
      if stops then .ok { operands := argument :: arguments }
      else (readGiven forms stops fuel arguments).map (·.withOperand argument)

/-- Reads the arguments of a utility. -/
def Given.read (forms : List OptionForm) (stops : Bool) (arguments : List String) :
    Except OptionFault Given :=
  readGiven (forms ++ [.named "help", .named "version"]) stops (arguments.length + 1) arguments

/-- Says how help can be had. -/
def hint : Job Unit := do
  Job.complain ("Try '" ++ (← read).name ++ " --help' for more information.")

/-- Complains about the use of a utility. -/
def misuse (text : String) (code : Nat := 1) : Job Nat := do
  Job.complainAs text
  hint
  return code

/-- Acts on the options and the other arguments of a utility. -/
def withOptions (forms : List OptionForm) (act : Given → Job Nat) (code : Nat := 1)
    (stops : Bool := false) : Job Nat := do
  match Given.read forms stops (← read).arguments with
  | .error fault => misuse fault.message code
  | .ok given => if given.has "help" || given.has "version" then return 0 else act given

/-- Does one thing for each operand. It fails if one of them fails. -/
def forEach (operands : List String) (act : String → Job Bool) : Job Nat := do
  let mut code := 0
  for operand in operands do
    unless (← act operand) do code := 1
  return code

end ProfileGraph.Utility
