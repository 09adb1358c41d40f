import ProfileGraph.StandIn.Utility.Input

/-! The utility that shows the bytes of inputs as numbers or characters. -/
namespace ProfileGraph.Utility
open Host

/-- How bytes are shown. -/
inductive DumpForm where
  | characters
  | names
  /-- Numbers of some bytes each, to a base. -/
  | numbers (base size : Nat) (signed : Bool)
deriving DecidableEq, Repr

namespace DumpForm

/-- The number of bytes in an item. -/
def size : DumpForm → Nat
  | .numbers _ size _ => size
  | _ => 1

/-- The width of the field of a unit. -/
def width : DumpForm → Nat
  | .characters | .names => 3
  | .numbers 8 size _ => (8 * size + 2) / 3
  | .numbers 16 size _ => 2 * size
  | .numbers _ 1 signed => if signed then 4 else 3
  | .numbers _ 2 signed => if signed then 6 else 5
  | .numbers _ 4 signed => if signed then 11 else 10
  | .numbers _ _ signed => if signed then 20 else 20

/-- The names of control characters. -/
def controlNames : List String :=
  ["nul", "soh", "stx", "etx", "eot", "enq", "ack", "bel", "bs", "ht", "nl", "vt", "ff", "cr", "so",
    "si", "dle", "dc1", "dc2", "dc3", "dc4", "nak", "syn", "etb", "can", "em", "sub", "esc", "fs",
    "gs", "rs", "us", "sp"]

/-- The text of a unit, whose bytes are given, the lowest first. -/
def unit (form : DumpForm) (bytes : List Nat) : String :=
  let n := bytes.foldr (fun byte n => byte + 256 * n) 0
  match form with
  | .characters =>
    let c := Char.ofNat n
    match n with
    | 0 => "\\0"
    | 7 => "\\a"
    | 8 => "\\b"
    | 9 => "\\t"
    | 10 => "\\n"
    | 11 => "\\v"
    | 12 => "\\f"
    | 13 => "\\r"
    | _ => if isPrintable c then String.singleton c else octalText 3 n
  | .names =>
    let n := n % 128
    if n = 127 then "del" else controlNames[n]?.getD (String.singleton (Char.ofNat n))
  | .numbers 10 size true =>
    let limit := Nat.pow 256 size
    let value : Int := if 2 * n < limit then n else (n : Int) - limit
    toString value
  | .numbers base size signed =>
    let digits := Nat.toDigits base n
    if base = 10 then String.ofList digits
    else
      String.ofList (List.replicate ((DumpForm.numbers base size signed).width - digits.length) '0'
        ++ digits)

/-- Bytes in units of a size, filled up with zeros. The fuel bounds their
number. -/
def units (size : Nat) : Nat → List Nat → List (List Nat)
  | 0, _ => []
  | _, [] => []
  | fuel + 1, bytes =>
    let unit := bytes.take size
    (unit ++ List.replicate (size - unit.length) 0) :: units size fuel (bytes.drop size)

/-- The line that shows bytes. -/
def line (form : DumpForm) (bytes : List Nat) : String :=
  String.join ((units form.size (bytes.length + 1) bytes).map fun bytes =>
    " " ++ padLeft form.width (form.unit bytes))

/-- Reads the letters of a form. -/
def read? (text : List Char) : Option DumpForm :=
  let size? (rest : List Char) (standard : Nat) : Option Nat := match rest with
    | [] => some standard
    | ['C'] => some 1
    | ['S'] => some 2
    | ['I'] => some 4
    | ['L'] => some 8
    | digits => ((String.ofList digits).toNat?).filter [1, 2, 4, 8].contains
  match text with
  | ['c'] => some .characters
  | ['a'] => some .names
  | 'd' :: rest => (size? rest 4).map fun size => .numbers 10 size true
  | 'u' :: rest => (size? rest 4).map fun size => .numbers 10 size false
  | 'o' :: rest => (size? rest 4).map fun size => .numbers 8 size false
  | 'x' :: rest => (size? rest 4).map fun size => .numbers 16 size false
  | _ => none

end DumpForm

/-- The forms that options ask for. -/
def dumpForms (given : Given) : Except String (List DumpForm) := do
  let forms ← given.options.mapM fun (key, value) =>
    match key with
    | "c" => pure (some DumpForm.characters)
    | "a" => pure (some .names)
    | "b" => pure (some (.numbers 8 1 false))
    | "d" => pure (some (.numbers 10 2 false))
    | "o" => pure (some (.numbers 8 2 false))
    | "x" => pure (some (.numbers 16 2 false))
    | "t" => match DumpForm.read? (value.getD "").toList with
      | some form => pure (some form)
      | none => throw ("invalid type string " ++ quotedWord (value.getD ""))
    | _ => pure none
  let found := forms.filterMap id
  return if found.isEmpty then [.numbers 8 2 false] else found

/-- The text of an offset. -/
def offsetText (radix : String) (n : Nat) : String :=
  let pad (width : Nat) (digits : List Char) : String :=
    String.ofList (List.replicate (width - digits.length) '0' ++ digits)
  match radix with
  | "d" => pad 7 (Nat.toDigits 10 n)
  | "x" => pad 6 (Nat.toDigits 16 n)
  | "n" => ""
  | _ => pad 7 (Nat.toDigits 8 n)

/-- The lines that show bytes from an offset on. A line like the one in front is
left out. The fuel bounds their number. -/
def dumpLines (forms : List DumpForm) (radix : String) (all : Bool) (width : Nat) :
    Nat → Nat → Option (List Nat) → Bool → List Nat → List String
  | 0, _, _, _, _ => []
  | _, offset, _, _, [] => if radix == "n" then [] else [offsetText radix offset]
  | fuel + 1, offset, before, skipped, bytes =>
    let row := bytes.take width
    let later (before : Option (List Nat)) (skipped : Bool) : List String :=
      dumpLines forms radix all width fuel (offset + row.length) before skipped
        (bytes.drop width)
    if !all && before == some row && row.length = width then
      (if skipped then [] else ["*"]) ++ later before true
    else
      let start := offsetText radix offset
      let blank := String.ofList (List.replicate start.length ' ')
      (forms.mapIdx fun n form => (if n = 0 then start else blank) ++ form.line row)
        ++ later (some row) false

/-- Shows the bytes of inputs. -/
def dump : Job Nat :=
  withOptions [.value 'A' "address-radix", .value 'j' "skip-bytes", .value 'N' "read-bytes",
      .value 't' "format", .flag 'v' "output-duplicates", .value 'w' "width", .flag 'a', .flag 'b',
      .flag 'c', .flag 'd', .flag 'o', .flag 'x', .flag 's', .flag 'i', .flag 'l'] fun given => do
    match dumpForms given with
    | .error complaint =>
      Job.complainAs complaint
      return 1
    | .ok forms =>
      let mut found : List Nat := []
      let mut code := 0
      for path in inputs given.operands do
        match (← readInput path) with
        | .ok text => found := found ++ text.toList.map Char.toNat
        | .error reason =>
          Job.complainAs (quotedIfNeeded path ++ ": " ++
            (if reason = .isDirectory then "read error: " else "") ++ reason.description)
          code := 1
      let skipped := ((given.value? "j").bind count?).getD 0
      let bytes := match (given.value? "N").bind count? with
        | some n => (found.drop skipped).take n
        | none => found.drop skipped
      let width := ((given.value? "w").bind String.toNat?).getD 16
      let lines := dumpLines forms ((given.value? "A").getD "o") (given.has "v") width
        (bytes.length + 2) skipped none false bytes
      lines.forM fun line => Job.print (line ++ "\n")
      return code

end ProfileGraph.Utility
