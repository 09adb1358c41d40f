/-! UTF-8. Reading accepts any bytes: each longest part that begins a
character but does not complete one, and each byte that begins none, becomes
one replacement character. The reader looks at one byte at a time and holds
what the bytes before it ask for. -/
namespace ProfileGraph.Text

/-- The bytes of a text. -/
def encode (text : List Char) : List UInt8 := text.flatMap String.utf8EncodeChar

/-- Stands for bytes that are not text. -/
def replacement : Char := '\uFFFD'

/-- A character that has begun: its bits so far, how many bytes follow the
next one, and the range in which the next byte must lie. -/
structure Begun where
  bits : Nat
  further : Nat
  low : UInt8 := 0x80
  high : UInt8 := 0xBF

/-- What a byte at the start of a character yields: a finished character, or
one that has begun. -/
inductive Opening where
  | finished (c : Char)
  | begun (pending : Begun)

/-- Reads a byte at the start of a character. The ranges rule out overlong
forms, surrogates and values beyond the last character. -/
def opening (byte : UInt8) : Opening :=
  let n := byte.toNat
  if n < 0x80 then .finished (Char.ofNat n)
  else if 0xC2 ≤ n ∧ n ≤ 0xDF then .begun { bits := n - 0xC0, further := 0 }
  else if n = 0xE0 then .begun { bits := 0, further := 1, low := 0xA0 }
  else if n = 0xED then .begun { bits := 0xD, further := 1, high := 0x9F }
  else if 0xE1 ≤ n ∧ n ≤ 0xEF then .begun { bits := n - 0xE0, further := 1 }
  else if n = 0xF0 then .begun { bits := 0, further := 2, low := 0x90 }
  else if 0xF1 ≤ n ∧ n ≤ 0xF3 then .begun { bits := n - 0xF0, further := 2 }
  else if n = 0xF4 then .begun { bits := 4, further := 2, high := 0x8F }
  else .finished replacement

/-- Reads the bytes after a character that may have begun. A byte outside the
range asked for ends that character and is read again as a start. -/
def decodeAfter : Option Begun → List UInt8 → List Char
  | none, [] => []
  | some _, [] => [replacement]
  | none, byte :: rest =>
    match opening byte with
    | .finished c => c :: decodeAfter none rest
    | .begun pending => decodeAfter (some pending) rest
  | some pending, byte :: rest =>
    if pending.low ≤ byte ∧ byte ≤ pending.high then
      let bits := pending.bits * 64 + (byte.toNat - 0x80)
      match pending.further with
      | 0 => Char.ofNat bits :: decodeAfter none rest
      | further + 1 => decodeAfter (some { bits, further }) rest
    else
      replacement :: match opening byte with
        | .finished c => c :: decodeAfter none rest
        | .begun next => decodeAfter (some next) rest

/-- Reads any bytes as text. -/
def decode (bytes : List UInt8) : List Char := decodeAfter none bytes

end ProfileGraph.Text

/-! Octet texts. Commands of a shell handle bytes that need not be UTF-8; a text
in which every character stands for the byte with its number holds any bytes,
has one character for each of them, and is ordered as they are. -/
namespace ProfileGraph.Octets

/-- The octet text of bytes. -/
def ofBytes (bytes : List UInt8) : String :=
  String.ofList (bytes.map fun byte => Char.ofNat byte.toNat)

/-- The bytes of an octet text. -/
def toBytes (octets : String) : List UInt8 :=
  octets.toList.map fun c => UInt8.ofNat c.toNat

/-- The octet text of the UTF-8 bytes of a text. -/
def ofText (text : String) : String := ofBytes (Text.encode text.toList)

/-- The text that an octet text holds as UTF-8. -/
def toText (octets : String) : String := String.ofList (Text.decode (toBytes octets))

end ProfileGraph.Octets

/-! Lines of a byte stream. A line runs to its line feed, which belongs to it;
what follows the last line feed is an unfinished line. -/
namespace ProfileGraph.Text

/-- The byte that ends a line. -/
def lineFeed : UInt8 := 10

/-- The byte that may stand before a line feed. -/
def carriageReturn : UInt8 := 13

/-- A byte stream cut behind every line feed. -/
structure Lines where
  finished : List (List UInt8)
  unfinished : List UInt8
deriving DecidableEq, Repr

/-- Adds a byte in front of the first line. -/
def Lines.cons (byte : UInt8) (lines : Lines) : Lines :=
  if byte = lineFeed then ⟨[byte] :: lines.finished, lines.unfinished⟩
  else match lines.finished with
    | [] => ⟨[], byte :: lines.unfinished⟩
    | line :: rest => ⟨(byte :: line) :: rest, lines.unfinished⟩

/-- Cuts bytes into lines. -/
def Lines.ofBytes (bytes : List UInt8) : Lines := bytes.foldr Lines.cons ⟨[], []⟩

/-- All lines, the unfinished one last unless it is empty. -/
def Lines.all (lines : Lines) : List (List UInt8) :=
  if lines.unfinished.isEmpty then lines.finished
  else lines.finished ++ [lines.unfinished]

/-- A byte of a line end. -/
def isLineEnd (byte : UInt8) : Bool := byte == lineFeed || byte == carriageReturn

/-- Drops all bytes of line ends at the end of a line. -/
def trimLineEnd (line : List UInt8) : List UInt8 :=
  (line.reverse.dropWhile isLineEnd).reverse

end ProfileGraph.Text
