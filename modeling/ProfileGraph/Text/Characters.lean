/-! Blank characters. The class is the Unicode property White_Space; records
separate their parts by one of its members, numbers may be surrounded by them
and commands are cut into words at them. -/
namespace ProfileGraph.Text

/-- The characters with the Unicode property White_Space. -/
def isBlank (c : Char) : Bool :=
  let n := c.toNat
  (9 ≤ n && n ≤ 13) || n == 0x20 || n == 0x85 || n == 0xA0 || n == 0x1680
    || (0x2000 ≤ n && n ≤ 0x200A) || n == 0x2028 || n == 0x2029 || n == 0x202F
    || n == 0x205F || n == 0x3000

/-- Drops the blanks at both ends. -/
def trim (text : List Char) : List Char :=
  ((text.dropWhile isBlank).reverse.dropWhile isBlank).reverse

/-- The text without the blanks at its ends. -/
def trimmed (text : String) : String := String.ofList (trim text.toList)

/-- Adds a character in front of the first word of a list of words. -/
def consToFirst (c : Char) : List (List Char) → List (List Char)
  | [] => [[c]]
  | word :: rest => (c :: word) :: rest

/-- Cuts a text at every blank; between neighbouring blanks lies an empty
part. -/
def splitAtBlanks : List Char → List (List Char)
  | [] => [[]]
  | c :: rest =>
    if isBlank c then [] :: splitAtBlanks rest else consToFirst c (splitAtBlanks rest)

/-- The longest parts of a text without blanks. -/
def words (text : String) : List String :=
  ((splitAtBlanks text.toList).filter (!·.isEmpty)).map String.ofList

end ProfileGraph.Text

/-! Sets of characters as they are written between brackets: single characters,
ranges, and kinds of characters by their names. -/
namespace ProfileGraph

/-- The kinds of characters that brackets can name. -/
def charClass? : String → Option (Char → Bool)
  | "alpha" => some Char.isAlpha
  | "digit" => some Char.isDigit
  | "alnum" => some Char.isAlphanum
  | "upper" => some Char.isUpper
  | "lower" => some Char.isLower
  | "space" => some fun c => c == ' ' || ('\t' ≤ c && c ≤ '\r')
  | "blank" => some fun c => c == ' ' || c == '\t'
  | "punct" => some fun c => '!' ≤ c && c ≤ '~' && !c.isAlphanum
  | "print" => some fun c => ' ' ≤ c && c ≤ '~'
  | "graph" => some fun c => '!' ≤ c && c ≤ '~'
  | "cntrl" => some fun c => c < ' ' || c == '\x7f'
  | "xdigit" => some fun c => c.isDigit || ('a' ≤ c && c ≤ 'f') || ('A' ≤ c && c ≤ 'F')
  | _ => none

/-- What brackets can hold. -/
inductive BracketItem where
  | range (first last : Char)
  | kind (name : String)
deriving DecidableEq, Repr

/-- Whether a character belongs to an item. -/
def BracketItem.holds (c : Char) : BracketItem → Bool
  | .range first last => first ≤ c && c ≤ last
  | .kind name => ((charClass? name).map (· c)).getD false

/-- Brackets with what they hold, or with everything else. -/
structure Bracket where
  negated : Bool := false
  items : List BracketItem
deriving DecidableEq, Repr

/-- Whether brackets stand for a character. -/
def Bracket.accepts (bracket : Bracket) (c : Char) : Bool :=
  bracket.items.any (·.holds c) != bracket.negated

end ProfileGraph

/-! Occurrences of one text in another. -/
namespace ProfileGraph.Text

/-- Whether a text occurs in another one. The empty text occurs in each. -/
def occursIn (part : List Char) : List Char → Bool
  | [] => part.isEmpty
  | c :: rest => part.isPrefixOf (c :: rest) || occursIn part rest

end ProfileGraph.Text
