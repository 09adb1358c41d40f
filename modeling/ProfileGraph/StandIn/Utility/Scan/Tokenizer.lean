import ProfileGraph.StandIn.Utility.Scan.Syntax

/-! The tokens of a scanning program. A slash begins a regular expression unless it
stands behind a value. -/
namespace ProfileGraph.Utility.Scan

/-- A token. -/
inductive Token where
  | number (x : Binary64)
  | text (text : String)
  | pattern (text : String)
  | name (name : String)
  /-- A name directly in front of a parenthesis. -/
  | callee (name : String)
  | builtin (name : String) (function : Builtin)
  | keyword (word : String)
  | sign (sign : String)
  | lineEnd
  | stop
deriving DecidableEq

/-- A token and the line in which it stands. -/
structure Placed where
  token : Token
  line : Nat

/-- Why a program cannot be read. -/
inductive Fault where
  | unexpected (near : String)
  | unexpectedChar (c : Char)
  | unclosedParenthesis (near : String)
  | unclosedBrace
  | openText (start : String)
  | openPattern (start : String)
  | badPattern (fault : Pattern.Fault) (text : String)
  | unknownFunction (name : String)
  | argumentCount (function : String)
  | tooManyArguments (function : String)
  | noArguments (statement : String)
  | outsideLoop (word : String)
  | outsideFunction
  | improper (word : String)
  | repeatedParameter (name : String)
  | tableAsVariable (name : String)
  | variableAsTable (name : String)
  | parameterAsVariable (name : String)
  | parameterAsTable (name : String)

/-- What is said about a fault in a line. -/
def Fault.message (line : Nat) (fault : Fault) : String :=
  let inLine (text : String) : String := "line " ++ toString line ++ ": " ++ text
  match fault with
  | .unexpected near => inLine ("syntax error at or near " ++ near)
  | .unexpectedChar c => toString line ++ ": unexpected character '" ++ String.singleton c ++ "'"
  | .unclosedParenthesis near => inLine ("missing ) near " ++ near)
  | .unclosedBrace => inLine "missing \x7d near end of file"
  | .openText start => inLine ("runaway string constant \"" ++ start ++ " ...")
  | .openPattern start => inLine ("runaway regular expression /" ++ start ++ " ...")
  | .badPattern fault text =>
    inLine ("regular expression compile failed (" ++ fault.message ++ ")\n" ++ text)
  | .unknownFunction name => inLine ("function " ++ name ++ " never defined")
  | .argumentCount function => inLine ("wrong number of arguments in call to " ++ function)
  | .tooManyArguments function => inLine ("too many arguments in call to " ++ function)
  | .noArguments statement => inLine ("no arguments in call to " ++ statement)
  | .outsideLoop word => inLine (word ++ " statement outside of loop")
  | .outsideFunction => inLine "return outside function body"
  | .improper word => inLine ("improper use of " ++ word)
  | .repeatedParameter name => inLine (name ++ " is duplicated in argument list")
  | .tableAsVariable name => inLine ("illegal reference to array " ++ name)
  | .variableAsTable name => inLine ("illegal reference to variable " ++ name)
  | .parameterAsVariable name => inLine ("illegal reference to local array " ++ name)
  | .parameterAsTable name => inLine ("illegal reference to local variable " ++ name)

/-- Whether it is said in which file a fault is. -/
def Fault.namesFile : Fault → Bool
  | .unexpectedChar _ => false
  | _ => true

/-- The text of a number with all its digits, or with the six that lead. -/
def numeralText (x : Binary64) : String :=
  match plainWhole? x with
  | some n => toString n
  | none => String.ofList (Shell.Directive.float {} 'g' x)

/-- How a token is called. -/
def Token.spelling : Token → String
  | .number x => numeralText x
  | .text found => found
  | .pattern found => "/" ++ found ++ "/"
  | .name found | .callee found | .builtin found _ | .keyword found | .sign found => found
  | .lineEnd => "end of line"
  | .stop => "end of file"

namespace Tokenizer

/-- The functions that every program knows, by their names. -/
def builtins : List (String × Builtin) := [
  ("length", .length), ("substr", .part), ("index", .index), ("split", .split),
  ("sub", .substitute), ("gsub", .substituteAll), ("match", .find), ("sprintf", .format),
  ("tolower", .lower), ("toupper", .upper), ("system", .run), ("close", .close),
  ("fflush", .flush), ("int", .truncate), ("sqrt", .root), ("exp", .exponential),
  ("log", .logarithm), ("sin", .sine), ("cos", .cosine), ("atan2", .angle), ("rand", .random),
  ("srand", .seed), ("systime", .now)]

/-- The words that no variable can be called. -/
def keywords : List String := ["BEGIN", "END", "function", "if", "else", "while", "for", "do",
  "break", "continue", "next", "nextfile", "exit", "return", "delete", "in", "getline", "print",
  "printf"]

/-- The signs, the longer ones in front. -/
def signs : List String := ["&&", "||", "++", "--", "+=", "-=", "*=", "/=", "%=", "^=", "==",
  "<=", ">=", "!=", "!~", ">>", "\x7b", "\x7d", "(", ")", "[", "]", ";", ",", "+", "-", "*", "/",
  "%", "^", "!", ">", "<", "|", "?", ":", "~", "$", "="]

/-- Whether a token is a value, so that a slash behind it divides. -/
def endsValue : Token → Bool
  | .number _ | .text _ | .pattern _ | .name _ => true
  | .builtin _ function => function = .length
  | .keyword word => word == "getline"
  | .sign sign => [")", "]", "++", "--", "$"].contains sign
  | _ => false

/-- Whether a line that ends behind a token goes on. -/
def continuesLine : Token → Bool
  | .sign sign => ["\x7b", "\x7d", "&&", "||", ",", ";"].contains sign
  | .keyword word => word == "do" || word == "else"
  | .lineEnd => true
  | _ => false

/-- Reads a text up to its closing quote. The result is missing if it has none. The fuel
bounds its length. -/
def quoted? : Nat → List Char → Option (List Char × List Char × Nat)
  | 0, _ => none
  | fuel + 1, text =>
    let after (front : List Char) (lines : Nat) (rest : List Char) :
        Option (List Char × List Char × Nat) :=
      (quoted? fuel rest).map fun (found, rest, more) => (front ++ found, rest, more + lines)
    match text with
    | [] | '\n' :: _ => none
    | '"' :: rest => some ([], rest, 0)
    | '\\' :: '\n' :: rest => after [] 1 rest
    | '\\' :: rest =>
      match Pattern.escape? rest with
      | some (c, rest) => after [c] 0 rest
      | none => after ['\\'] 0 rest
    | c :: rest => after [c] 0 rest

/-- Reads a regular expression up to its closing slash; a slash in brackets does not
close it. The result is missing if nothing does. The fuel bounds its length. -/
def slashed? : Nat → Bool → List Char → Option (List Char × List Char)
  | 0, _, _ => none
  | fuel + 1, inBracket, text =>
    let after (inBracket : Bool) (front rest : List Char) : Option (List Char × List Char) :=
      (slashed? fuel inBracket rest).map fun (found, rest) => (front ++ found, rest)
    match text with
    | [] | '\n' :: _ => none
    | '\\' :: '/' :: rest => after inBracket (if inBracket then ['\\', '/'] else ['/']) rest
    | '\\' :: '\n' :: rest => after inBracket [] rest
    | '\\' :: c :: rest => after inBracket ['\\', c] rest
    | c :: rest =>
      if inBracket then
        match c, rest with
        | '[', ':' :: more =>
          match Pattern.kindName? more with
          | some (_, behind) => after true (text.take (text.length - behind.length)) behind
          | none => after true ['['] rest
        | ']', _ => after false [']'] rest
        | c, _ => after true [c] rest
      else match c with
        | '/' => some ([], rest)
        | '[' =>
          let start := match rest with
            | '^' :: ']' :: _ => ['[', '^', ']']
            | '^' :: _ => ['[', '^']
            | ']' :: _ => ['[', ']']
            | _ => ['[']
          after true start (text.drop start.length)
        | c => after false [c] rest

/-- Whether a character may stand in a name. -/
def isNameChar (c : Char) : Bool := c.isAlphanum || c == '_'

/-- What is shown of a text that has no end. -/
def startOf (text : List Char) : String :=
  String.ofList ((text.takeWhile (· != '\n')).take 10)

/-- Reads the tokens of a text behind other ones. The fuel bounds their number. -/
def tokens : Nat → Nat → Token → List Char → Except (Nat × Fault) (List Placed)
  | 0, line, _, _ => .ok [⟨.stop, line⟩]
  | fuel + 1, line, last, text => do
    let put (token : Token) (rest : List Char) (lines : Nat) :
        Except (Nat × Fault) (List Placed) := do
      return ⟨token, line⟩ :: (← tokens fuel (line + lines) token rest)
    match text with
    | [] => return [⟨.stop, line⟩]
    | '\\' :: '\n' :: rest => tokens fuel (line + 1) last rest
    | '\\' :: '\r' :: '\n' :: rest => tokens fuel (line + 1) last rest
    | '\n' :: rest =>
      if continuesLine last then tokens fuel (line + 1) last rest else put .lineEnd rest 1
    | '#' :: rest => tokens fuel line last (rest.dropWhile (· != '\n'))
    | '"' :: rest =>
      match quoted? (rest.length + 1) rest with
      | some (found, rest, lines) => put (.text (String.ofList found)) rest lines
      | none => throw (line, .openText (startOf rest))
    | c :: rest =>
      if c == ' ' || c == '\t' || c == '\r' || c == '\x0b' || c == '\x0c' then
        tokens fuel line last rest
      else if c.isDigit || (c == '.' && rest.head?.any Char.isDigit) then
        let (numeral, rest) := Shell.splitNumeral text
        put (.number (textNumber (String.ofList numeral))) rest 0
      else if c.isAlpha || c == '_' then
        let letters := text.takeWhile isNameChar
        let word := String.ofList letters
        let rest := text.drop letters.length
        if keywords.contains word then put (.keyword word) rest 0
        else match builtins.lookup word with
          | some function => put (.builtin word function) rest 0
          | none => put (if rest.head? == some '(' then .callee word else .name word) rest 0
      else if c == '/' && !endsValue last then
        match slashed? (rest.length + 1) false rest with
        | some (found, rest) => put (.pattern (String.ofList found)) rest 0
        | none => throw (line, .openPattern (startOf rest))
      else match signs.find? fun sign => sign.toList.isPrefixOf text with
        | some sign => put (.sign sign) (text.drop sign.length) 0
        | none => throw (line, .unexpectedChar c)

/-- The tokens of a program. -/
def all (text : String) : Except (Nat × Fault) (List Placed) :=
  tokens (text.length + 2) 1 .lineEnd (text.toList ++ ['\n'])

end Tokenizer
end ProfileGraph.Utility.Scan
