import ProfileGraph.Text.Characters
import ProfileGraph.StandIn.Utility.Input

/-! The utility that replaces, squeezes and deletes characters. -/
namespace ProfileGraph.Utility
open Host

/-- A part of a set of characters. -/
inductive SetPart where
  | chars (chars : List Char)
  /-- A kind of characters. -/
  | kind (name : String)
  /-- A character as often as given, or as often as needed. -/
  | repeated (c : Char) (count : Option Nat)
deriving Repr

/-- All characters. -/
def allChars : List Char := (List.range 256).map Char.ofNat

namespace SetPart

/-- The characters of a part. -/
def expand (part : SetPart) : List Char :=
  match part with
  | .chars found => found
  | .kind name => match charClass? name with
    | some holds => allChars.filter holds
    | none => []
  | .repeated c count => List.replicate (count.getD 0) c

/-- The character of an escape, and what stands behind it. -/
def escaped : List Char → Char × List Char
  | 'a' :: rest => ('\x07', rest)
  | 'b' :: rest => ('\x08', rest)
  | 'f' :: rest => ('\x0c', rest)
  | 'n' :: rest => ('\n', rest)
  | 'r' :: rest => ('\r', rest)
  | 't' :: rest => ('\t', rest)
  | 'v' :: rest => ('\x0b', rest)
  | [] => ('\\', [])
  | c :: rest =>
    let digits := ((c :: rest).take 3).takeWhile fun c => '0' ≤ c && c ≤ '7'
    if digits.isEmpty then (c, rest)
    else
      (Char.ofNat (digits.foldl (fun n c => 8 * n + (c.toNat - '0'.toNat)) 0 % 256),
        (c :: rest).drop digits.length)

/-- The character at the front of a text. -/
def front? : List Char → Option (Char × List Char)
  | [] => none
  | '\\' :: rest => some (escaped rest)
  | c :: rest => some (c, rest)

/-- Reads a part in brackets, if there is one. -/
def bracketed? (text : List Char) : Except String (Option (SetPart × List Char)) :=
  match text with
  | '[' :: ':' :: rest =>
    let name := rest.takeWhile fun c => c.isAlpha
    match rest.drop name.length with
    | ':' :: ']' :: rest =>
      let name := String.ofList name
      if (charClass? name).isSome then .ok (some (.kind name, rest))
      else .error ("invalid character class " ++ quotedWord name)
    | _ => .ok none
  | '[' :: '=' :: c :: '=' :: ']' :: rest => .ok (some (.chars [c], rest))
  | '[' :: rest =>
    match front? rest with
    | some (c, '*' :: rest) =>
      let digits := rest.takeWhile Char.isDigit
      match rest.drop digits.length with
      | ']' :: rest =>
        let base := if digits.head? == some '0' then 8 else 10
        let n := digits.foldl (fun n c => base * n + (c.toNat - '0'.toNat)) 0
        .ok (some (.repeated c (if n = 0 then none else some n), rest))
      | _ => .ok none
    | _ => .ok none
  | _ => .ok none

/-- Reads the parts of a set. The fuel bounds their number. -/
def readAll : Nat → List Char → Except String (List SetPart)
  | 0, _ => .ok []
  | _, [] => .ok []
  | fuel + 1, text => do
    match (← bracketed? text) with
    | some (part, rest) => return part :: (← readAll fuel rest)
    | none =>
      match front? text with
      | none => return []
      | some (first, '-' :: rest) =>
        match front? rest with
        | some (last, rest) =>
          if last < first then
            throw ("range-endpoints of '" ++ String.singleton first ++ "-" ++ String.singleton last
              ++ "' are in reverse collating sequence order")
          let range := allChars.filter fun c => first ≤ c && c ≤ last
          return .chars range :: (← readAll fuel rest)
        | none => return [.chars [first, '-']]
      | some (c, rest) => return .chars [c] :: (← readAll fuel rest)

end SetPart

/-- The characters of the second set, which is made as long as the first one. -/
def secondSet (parts : List SetPart) (length : Nat) : List Char :=
  let known := (parts.map fun part => part.expand.length).foldl (· + ·) 0
  let found := parts.flatMap fun part =>
    match part with
    | .repeated c none => List.replicate (length - known) c
    | part => part.expand
  found ++ match found.getLast? with
    | some c => List.replicate (length - found.length) c
    | none => []

/-- The pairs in which letters of one case stand for those of the other one. -/
def casePairs (first second : List SetPart) : Option (List (Char × Char)) :=
  match first, second with
  | [.kind "upper"], [.kind "lower"] =>
    some ((allChars.filter Char.isUpper).map fun c => (c, c.toLower))
  | [.kind "lower"], [.kind "upper"] =>
    some ((allChars.filter Char.isLower).map fun c => (c, c.toUpper))
  | _, _ => none

/-- Leaves one of several like neighbours that belong to a set. -/
def squeeze (set : List Char) (last : Option Char) : List Char → List Char
  | [] => []
  | c :: rest =>
    if last == some c && set.contains c then squeeze set last rest
    else c :: squeeze set (some c) rest

/-- How characters are changed. -/
structure CharacterMap where
  pairs : List (Char × Char) := []
  deleted : List Char := []
  squeezed : List Char := []

/-- A text without the characters that are deleted, and with the others replaced and
squeezed. -/
def CharacterMap.apply (map : CharacterMap) (text : List Char) : List Char :=
  let kept := text.filter (!map.deleted.contains ·)
  let replaced := kept.map fun c =>
    (map.pairs.lookup c).getD c
  if map.squeezed.isEmpty then replaced else squeeze map.squeezed none replaced

/-- The set without its complement taken, or the complement. -/
def complemented (complements : Bool) (set : List Char) : List Char :=
  if complements then allChars.filter (!set.contains ·) else set

/-- The change of characters that options and sets ask for, or what is wrong
with them. -/
def CharacterMap.read (given : Given) (first : String) (second : Option String) :
    Except String CharacterMap := do
  let complements := given.has "c" || given.has "C"
  let firstParts ← SetPart.readAll (first.length + 1) first.toList
  let set := complemented complements (firstParts.flatMap SetPart.expand)
  let secondParts ← match second with
    | some text => SetPart.readAll (text.length + 1) text.toList
    | none => pure []
  if given.has "d" then
    return { deleted := set, squeezed := secondParts.flatMap SetPart.expand }
  else if second.isNone then return { squeezed := set }
  else
    let target := secondSet secondParts set.length
    if target.isEmpty && !given.has "t" then
      throw "when not truncating set1, string2 must be non-empty"
    let pairs := match if complements then none else casePairs firstParts secondParts with
      | some pairs => pairs
      | none =>
        let explicit := secondParts.flatMap SetPart.expand
        (set.zip (if given.has "t" then explicit else target)).reverse
    return { pairs, squeezed := if given.has "s" then target else [] }

/-- Replaces, squeezes or deletes characters. -/
def mapCharacters : Job Nat :=
  withOptions [.flag 'c' "complement", .flag 'C', .flag 'd' "delete", .flag 's' "squeeze-repeats",
      .flag 't' "truncate-set1"] (fun given => do
    let deletes := given.has "d"
    let squeezes := given.has "s"
    let run (first : String) (second : Option String) : Job Nat := do
      match CharacterMap.read given first second with
      | .error complaint =>
        Job.complainAs complaint
        return 1
      | .ok map =>
        match (← Job.readDescriptor 0) with
        | .ok text =>
          Job.print (String.ofList (map.apply text.toList))
          return 0
        | .error reason =>
          Job.complainAs ("read error: " ++ reason.description)
          return 1
    match given.operands with
    | [] => misuse "missing operand"
    | [first] =>
      if deletes && squeezes then
        misuse ("missing operand after " ++ quotedWord first
          ++ "\nTwo strings must be given when both deleting and squeezing repeats.")
      else if deletes || squeezes then run first none
      else
        misuse ("missing operand after " ++ quotedWord first
          ++ "\nTwo strings must be given when translating.")
    | [first, second] =>
      if deletes && !squeezes then
        misuse ("extra operand " ++ quotedWord second
          ++ "\nOnly one string may be given when deleting without squeezing repeats.")
      else run first (some second)
    | _ :: _ :: extra :: _ => misuse ("extra operand " ++ quotedWord extra)) 1 true

end ProfileGraph.Utility
