/-! Changes of file modes: an octal number that replaces the bits, or clauses that
say for whom which bits are added, taken away or set. -/
namespace ProfileGraph.Host

/-- What a clause does with bits. -/
inductive ModeOperator where
  | add
  | remove
  | assign
deriving DecidableEq, Repr

/-- The bits that a clause names. -/
inductive ModeBits where
  /-- The bits themselves. The flag adds those for running where someone may run
  the file. -/
  | given (bits : Nat) (runIfAny : Bool)
  /-- The bits that the owners of a mask have. -/
  | copied (mask : Nat)
deriving DecidableEq, Repr

/-- A part of a change; no one is affected in particular if the mask is zero. -/
structure ModeClause where
  affected : Nat
  operator : ModeOperator
  bits : ModeBits
deriving DecidableEq, Repr

/-- A change of the mode of a file. -/
inductive ModeChange where
  /-- Replaces the bits. Fewer than five digits leave the special bits of a
  directory as they are. -/
  | replace (bits : Nat) (all : Bool)
  | clauses (clauses : List ModeClause)
deriving DecidableEq, Repr

namespace ModeChange

/-- All bits of a mode. -/
def allBits : Nat := 0o7777

/-- The bits of a mode that a mask leaves. -/
def without (mode mask : Nat) : Nat := mode &&& (allBits ^^^ (mask &&& allBits))

/-- The bits that belong to a class of users. -/
def classMask? : Char → Option Nat
  | 'u' => some 0o4700
  | 'g' => some 0o2070
  | 'o' => some 0o1007
  | 'a' => some 0o7777
  | _ => none

/-- The operator that a character stands for. -/
def operator? : Char → Option ModeOperator
  | '+' => some .add
  | '-' => some .remove
  | '=' => some .assign
  | _ => none

/-- The bits that a letter names for everyone. -/
def letterBits? : Char → Option Nat
  | 'r' => some 0o444
  | 'w' => some 0o222
  | 'x' => some 0o111
  | 's' => some 0o6000
  | 't' => some 0o1000
  | _ => none

/-- Reads the letters of the bits of a clause. -/
def readBits (bits : Nat) (runIfAny : Bool) : List Char → ModeBits × List Char
  | 'X' :: rest => readBits bits true rest
  | c :: rest =>
    match letterBits? c with
    | some more => readBits (bits ||| more) runIfAny rest
    | none => (.given bits runIfAny, c :: rest)
  | [] => (.given bits runIfAny, [])

/-- Reads clauses for the users of a mask, each an operator with its bits. -/
def readOperations (affected : Nat) : Nat → List Char → Option (List ModeClause × List Char)
  | 0, _ => none
  | fuel + 1, text =>
    match text with
    | [] => some ([], [])
    | c :: rest =>
      match operator? c with
      | none => some ([], c :: rest)
      | some operator =>
        let (bits, rest) := match rest with
          | 'u' :: rest => (ModeBits.copied 0o700, rest)
          | 'g' :: rest => (.copied 0o070, rest)
          | 'o' :: rest => (.copied 0o007, rest)
          | rest => readBits 0 false rest
        (readOperations affected fuel rest).map fun (later, rest) =>
          (⟨affected, operator, bits⟩ :: later, rest)

/-- Reads the clauses between commas. The fuel bounds the number of
characters. -/
def readClauses : Nat → List Char → Option (List ModeClause)
  | 0, _ => none
  | fuel + 1, text =>
    let classes := text.takeWhile fun c => (classMask? c).isSome
    let affected := classes.foldl (fun mask c => mask ||| (classMask? c).getD 0) 0
    match readOperations affected (text.length + 1) (text.drop classes.length) with
    | some ([], _) | none => none
    | some (found, []) => some found
    | some (found, ',' :: rest) => (readClauses fuel rest).map (found ++ ·)
    | some _ => none

/-- Reads a change. -/
def read? (text : String) : Option ModeChange :=
  let digits := text.toList
  if !digits.isEmpty && digits.all fun c => '0' ≤ c && c ≤ '7' then
    let bits := digits.foldl (fun n c => 8 * n + (c.toNat - '0'.toNat)) 0
    if bits ≤ allBits then some (.replace bits (5 ≤ digits.length)) else none
  else (readClauses (digits.length + 1) digits).map .clauses

/-- The bits that everyone gets if someone has one of them. -/
def spread (bits : Nat) : Nat :=
  (if bits &&& 0o444 != 0 then 0o444 else 0) ||| (if bits &&& 0o222 != 0 then 0o222 else 0)
    ||| (if bits &&& 0o111 != 0 then 0o111 else 0)

/-- Carries out a clause. Where no one is named, the umask keeps its bits. -/
def ModeClause.apply (umask : Nat) (isDirectory : Bool) (mode : Nat) (clause : ModeClause) :
    Nat :=
  let (value, mentioned) := match clause.bits with
    | .copied mask => (spread (mode &&& mask), 0)
    | .given bits runIfAny =>
      let runs := runIfAny && (isDirectory || mode &&& 0o111 != 0)
      (bits ||| (if runs then 0o111 else 0),
        if clause.affected = 0 then bits else bits &&& clause.affected)
  let kept := without (if isDirectory then 0o6000 else 0) mentioned
  let reach := if clause.affected = 0 then without allBits umask else clause.affected
  let value := without (value &&& reach) kept
  match clause.operator with
  | .add => mode ||| value
  | .remove => without mode value
  | .assign =>
    let preserved := (if clause.affected = 0 then 0 else without allBits clause.affected) ||| kept
    (mode &&& preserved) ||| value

/-- The mode of a file behind a change. -/
def apply (change : ModeChange) (umask : Nat) (isDirectory : Bool) (mode : Nat) : Nat :=
  match change with
  | .replace bits all =>
    if isDirectory && !all then bits ||| (mode &&& 0o6000) else bits
  | .clauses steps => steps.foldl (ModeClause.apply umask isDirectory) mode

end ModeChange
end ProfileGraph.Host
