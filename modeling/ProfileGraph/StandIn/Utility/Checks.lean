import ProfileGraph.StandIn.Utility.Input

/-! Digests of bytes. The bytes are filled up to whole blocks, with a one behind them and
their number at the end, and each block is stirred into a few words. -/
namespace ProfileGraph.Utility.Digest

/-- A word turned to the left. -/
def turnLeft (x : UInt32) (count : UInt32) : UInt32 := (x <<< count) ||| (x >>> (32 - count))

/-- A word turned to the right. -/
def turnRight (x : UInt32) (count : UInt32) : UInt32 := (x >>> count) ||| (x <<< (32 - count))

/-- The last bytes of a number, the highest one first. -/
def bytesOf (count n : Nat) : List UInt8 :=
  ((List.range count).map fun i => UInt8.ofNat (n / Nat.pow 256 i % 256)).reverse

/-- Bytes filled up to whole blocks. `ofCount` writes the number of bits. -/
def padded (ofCount : Nat → List UInt8) (bytes : List UInt8) : List UInt8 :=
  let zeros := (119 - bytes.length % 64) % 64
  bytes ++ 0x80 :: List.replicate zeros 0 ++ ofCount (8 * bytes.length)

/-- The words of bytes, of which the highest one comes first. The fuel bounds their
number. -/
def wordsOf : Nat → List UInt8 → List UInt32
  | fuel + 1, a :: b :: c :: d :: rest =>
    (a.toUInt32 <<< 24 ||| b.toUInt32 <<< 16 ||| c.toUInt32 <<< 8 ||| d.toUInt32)
      :: wordsOf fuel rest
  | _, _ => []

/-- A word with its bytes in the other order. -/
def swapped (x : UInt32) : UInt32 :=
  (x <<< 24) ||| ((x &&& (0xff00 : UInt32)) <<< 8) ||| ((x >>> 8) &&& (0xff00 : UInt32)) ||| (x >>> 24)

/-- Cuts words into blocks. The fuel bounds their number. -/
def blocks : Nat → List UInt32 → List (Array UInt32)
  | 0, _ | _, [] => []
  | fuel + 1, words => (words.take 16).toArray :: blocks fuel (words.drop 16)

/-- The word at a place. -/
def wordAt (words : Array UInt32) (index : Nat) : UInt32 := (words[index]?).getD 0

/-- Adds words place by place. -/
def added (a b : Array UInt32) : Array UInt32 := a.zipWith (· + ·) b

/-- The words of a digest as text. -/
def hexText (words : List UInt32) : String :=
  String.join (words.map fun word =>
    let digits := Nat.toDigits 16 word.toNat
    String.ofList (List.replicate (8 - digits.length) '0' ++ digits))

/-- The digest of bytes: `stir` puts a block into the words. -/
def digest (ofCount : Nat → List UInt8) (swaps : Bool) (stir : Array UInt32 → Array UInt32 → Array UInt32)
    (start : Array UInt32) (bytes : List UInt8) : String :=
  let whole := padded ofCount bytes
  let words := wordsOf (whole.length + 1) whole
  let words := if swaps then words.map swapped else words
  let stirred := (blocks (words.length + 1) words).foldl stir start
  hexText (if swaps then stirred.toList.map swapped else stirred.toList)

/-- The words that the rounds of the shortest digest add. -/
def sineWords : Array UInt32 := #[
  0xd76aa478, 0xe8c7b756, 0x242070db, 0xc1bdceee, 0xf57c0faf, 0x4787c62a,
  0xa8304613, 0xfd469501, 0x698098d8, 0x8b44f7af, 0xffff5bb1, 0x895cd7be,
  0x6b901122, 0xfd987193, 0xa679438e, 0x49b40821, 0xf61e2562, 0xc040b340,
  0x265e5a51, 0xe9b6c7aa, 0xd62f105d, 0x02441453, 0xd8a1e681, 0xe7d3fbc8,
  0x21e1cde6, 0xc33707d6, 0xf4d50d87, 0x455a14ed, 0xa9e3e905, 0xfcefa3f8,
  0x676f02d9, 0x8d2a4c8a, 0xfffa3942, 0x8771f681, 0x6d9d6122, 0xfde5380c,
  0xa4beea44, 0x4bdecfa9, 0xf6bb4b60, 0xbebfbc70, 0x289b7ec6, 0xeaa127fa,
  0xd4ef3085, 0x04881d05, 0xd9d4d039, 0xe6db99e5, 0x1fa27cf8, 0xc4ac5665,
  0xf4292244, 0x432aff97, 0xab9423a7, 0xfc93a039, 0x655b59c3, 0x8f0ccc92,
  0xffeff47d, 0x85845dd1, 0x6fa87e4f, 0xfe2ce6e0, 0xa3014314, 0x4e0811a1,
  0xf7537e82, 0xbd3af235, 0x2ad7d2bb, 0xeb86d391]

/-- How far words are turned in the rounds of the shortest digest. -/
def turns : Array UInt32 := #[7, 12, 17, 22, 5, 9, 14, 20, 4, 11, 16, 23, 6, 10, 15, 21]

/-- Stirs a block into four words. -/
def stirFour (state block : Array UInt32) : Array UInt32 :=
  let round (words : UInt32 × UInt32 × UInt32 × UInt32) (i : Nat) :
      UInt32 × UInt32 × UInt32 × UInt32 :=
    let (a, b, c, d) := words
    let (mixed, place) :=
      if i < 16 then ((b &&& c) ||| (~~~b &&& d), i)
      else if i < 32 then ((d &&& b) ||| (~~~d &&& c), (5 * i + 1) % 16)
      else if i < 48 then (b ^^^ c ^^^ d, (3 * i + 5) % 16)
      else (c ^^^ (b ||| ~~~d), 7 * i % 16)
    let sum := mixed + a + wordAt sineWords i + wordAt block place
    (d, b + turnLeft sum (wordAt turns (i / 16 * 4 + i % 4)), b, c)
  let (a, b, c, d) := (List.range 64).foldl round
    (wordAt state 0, wordAt state 1, wordAt state 2, wordAt state 3)
  added state #[a, b, c, d]

/-- The digest of four words. -/
def fourWords (bytes : List UInt8) : String :=
  digest (fun n => (bytesOf 8 n).reverse) true stirFour
    #[0x67452301, 0xefcdab89, 0x98badcfe, 0x10325476] bytes

/-- Stirs a block into five words. -/
def stirFive (state block : Array UInt32) : Array UInt32 :=
  let words := (List.range 64).foldl (fun (words : Array UInt32) i =>
    let word (back : Nat) : UInt32 := wordAt words (i + 16 - back)
    words.push (turnLeft (word 3 ^^^ word 8 ^^^ word 14 ^^^ word 16) 1)) block
  let round (all : UInt32 × UInt32 × UInt32 × UInt32 × UInt32) (i : Nat) :
      UInt32 × UInt32 × UInt32 × UInt32 × UInt32 :=
    let (a, b, c, d, e) := all
    let (mixed, constant) : UInt32 × UInt32 :=
      if i < 20 then ((b &&& c) ||| (~~~b &&& d), 0x5a827999)
      else if i < 40 then (b ^^^ c ^^^ d, 0x6ed9eba1)
      else if i < 60 then ((b &&& c) ||| (b &&& d) ||| (c &&& d), 0x8f1bbcdc)
      else (b ^^^ c ^^^ d, 0xca62c1d6)
    (turnLeft a 5 + mixed + e + constant + wordAt words i, a, turnLeft b 30, c, d)
  let (a, b, c, d, e) := (List.range 80).foldl round
    (wordAt state 0, wordAt state 1, wordAt state 2, wordAt state 3, wordAt state 4)
  added state #[a, b, c, d, e]

/-- The digest of five words. -/
def fiveWords (bytes : List UInt8) : String :=
  digest (bytesOf 8) false stirFive
    #[0x67452301, 0xefcdab89, 0x98badcfe, 0x10325476, 0xc3d2e1f0] bytes

/-- The words that the rounds of the longest digest add. -/
def rootWords : Array UInt32 := #[
  0x428a2f98, 0x71374491, 0xb5c0fbcf, 0xe9b5dba5, 0x3956c25b, 0x59f111f1,
  0x923f82a4, 0xab1c5ed5, 0xd807aa98, 0x12835b01, 0x243185be, 0x550c7dc3,
  0x72be5d74, 0x80deb1fe, 0x9bdc06a7, 0xc19bf174, 0xe49b69c1, 0xefbe4786,
  0x0fc19dc6, 0x240ca1cc, 0x2de92c6f, 0x4a7484aa, 0x5cb0a9dc, 0x76f988da,
  0x983e5152, 0xa831c66d, 0xb00327c8, 0xbf597fc7, 0xc6e00bf3, 0xd5a79147,
  0x06ca6351, 0x14292967, 0x27b70a85, 0x2e1b2138, 0x4d2c6dfc, 0x53380d13,
  0x650a7354, 0x766a0abb, 0x81c2c92e, 0x92722c85, 0xa2bfe8a1, 0xa81a664b,
  0xc24b8b70, 0xc76c51a3, 0xd192e819, 0xd6990624, 0xf40e3585, 0x106aa070,
  0x19a4c116, 0x1e376c08, 0x2748774c, 0x34b0bcb5, 0x391c0cb3, 0x4ed8aa4a,
  0x5b9cca4f, 0x682e6ff3, 0x748f82ee, 0x78a5636f, 0x84c87814, 0x8cc70208,
  0x90befffa, 0xa4506ceb, 0xbef9a3f7, 0xc67178f2]

/-- Stirs a block into eight words. -/
def stirEight (state block : Array UInt32) : Array UInt32 :=
  let words := (List.range 48).foldl (fun (words : Array UInt32) i =>
    let early := wordAt words (i + 1)
    let late := wordAt words (i + 14)
    let s := turnRight early 7 ^^^ turnRight early 18 ^^^ (early >>> 3)
    let t := turnRight late 17 ^^^ turnRight late 19 ^^^ (late >>> 10)
    words.push (wordAt words i + s + wordAt words (i + 9) + t)) block
  let round (all : Array UInt32) (i : Nat) : Array UInt32 :=
    let word (index : Nat) : UInt32 := wordAt all index
    let (a, e) := (word 0, word 4)
    let sum := word 7 + (turnRight e 6 ^^^ turnRight e 11 ^^^ turnRight e 25)
      + ((e &&& word 5) ^^^ (~~~e &&& word 6)) + wordAt rootWords i + wordAt words i
    let most := (a &&& word 1) ^^^ (a &&& word 2) ^^^ (word 1 &&& word 2)
    let front := sum + (turnRight a 2 ^^^ turnRight a 13 ^^^ turnRight a 22) + most
    #[front, a, word 1, word 2, word 3 + sum, e, word 5, word 6]
  added state ((List.range 64).foldl round state)

/-- The digest of eight words. -/
def eightWords (bytes : List UInt8) : String :=
  digest (bytesOf 8) false stirEight
    #[0x6a09e667, 0xbb67ae85, 0x3c6ef372, 0xa54ff53a,
    0x510e527f, 0x9b05688c, 0x1f83d9ab, 0x5be0cd19] bytes

/-- One step of a remainder: a bit is taken in. -/
def remainderStep (remainder : UInt32) : UInt32 :=
  if remainder &&& 0x80000000 != 0 then (remainder <<< 1) ^^^ 0x04c11db7 else remainder <<< 1

/-- The remainder after a byte more. -/
def remainderAfter (remainder : UInt32) (byte : UInt8) : UInt32 :=
  (List.range 8).foldl (fun remainder _ => remainderStep remainder)
    (remainder ^^^ (byte.toUInt32 <<< 24))

/-- The bytes of a number without zeros in front, the lowest one first. The fuel bounds their
number. -/
def lengthBytes : Nat → Nat → List UInt8
  | 0, _ => []
  | fuel + 1, n => if n = 0 then [] else UInt8.ofNat (n % 256) :: lengthBytes fuel (n / 256)

/-- The check number of bytes, in which their number counts, too. -/
def checkNumber (bytes : List UInt8) : Nat :=
  let whole := bytes ++ lengthBytes 16 bytes.length
  (~~~(whole.foldl remainderAfter 0)).toNat

/-- The sum of bytes in which every step turns the sum to the right. -/
def turnedSum (bytes : List UInt8) : Nat :=
  bytes.foldl (fun sum byte => (sum / 2 + sum % 2 * 32768 + byte.toNat) % 65536) 0

end ProfileGraph.Utility.Digest

/-! The utilities that print digests of files and check them, and the one that writes bytes
with letters and digits only. -/
namespace ProfileGraph.Utility
open Host

/-- Prints check numbers, each with the number of bytes. -/
def printCheckNumbers : Job Nat :=
  withOptions [] fun given => do
    let printOne (path : String) (name : String) : Job Bool := do
      match (← readOrComplain path) with
      | none => return false
      | some text =>
        let bytes := Octets.toBytes text
        Job.print (toString (Digest.checkNumber bytes) ++ " " ++ toString bytes.length ++ name ++ "\n")
        return true
    if given.operands.isEmpty then forEach ["-"] fun path => printOne path ""
    else forEach given.operands fun path => printOne path (" " ++ path)

/-- Prints sums of bytes, each with a number of blocks. -/
def printSums : Job Nat :=
  withOptions [.flag 'r', .flag 's' "sysv"] fun given => do
    forEach (inputs given.operands) fun path => do
      match (← readOrComplain path) with
      | none => return false
      | some text =>
        let bytes := Octets.toBytes text
        let name := if given.operands.isEmpty then "" else " " ++ path
        let line :=
          if given.has "s" then
            let sum := bytes.foldl (fun sum byte => sum + byte.toNat) 0
            let folded := sum % 65536 + sum % Nat.pow 2 32 / 65536
            toString (folded % 65536 + folded / 65536) ++ " " ++ toString ((bytes.length + 511) / 512)
          else
            let sum := toString (Digest.turnedSum bytes)
            String.ofList (List.replicate (5 - sum.length) '0') ++ sum ++ " "
              ++ padLeft 5 (toString ((bytes.length + 1023) / 1024))
        Job.print (line ++ name ++ "\n")
        return true

/-- A kind of digest. -/
structure DigestKind where
  tag : String
  ofBytes : List UInt8 → String

/-- The digest and the name on a line of a list. -/
def listedDigest? (kind : DigestKind) (line : String) : Option (String × String) :=
  let isHex (text : String) : Bool :=
    text.length == (kind.ofBytes []).length
      && text.toList.all fun c => c.isDigit || ('a' ≤ c.toLower && c.toLower ≤ 'f')
  let tagged := kind.tag ++ " ("
  if line.startsWith tagged then
    match ((line.drop tagged.length).toString).splitOn ") = " with
    | [name, digest] => if isHex digest then some (digest, name) else none
    | _ => none
  else
    let digest := String.ofList (line.toList.takeWhile (· != ' '))
    match line.toList.drop digest.length with
    | ' ' :: ' ' :: name | ' ' :: '*' :: name =>
      if isHex digest && !name.isEmpty then some (digest, String.ofList name) else none
    | _ => none

/-- How many files of a list could not be used. -/
structure CheckCounts where
  checked : Nat := 0
  bad : Nat := 0
  unread : Nat := 0
  different : Nat := 0

/-- Checks the files of a list. The result says that all of them are as they should be. -/
def checkDigests (kind : DigestKind) (given : Given) (path : String) : Job Bool := do
  match (← readOrComplain path) with
  | none => return false
  | some text =>
    let isQuiet := given.has "status"
    let mut counts : CheckCounts := {}
    for line in lineTexts text do
      match listedDigest? kind line with
      | none => counts := { counts with bad := counts.bad + 1 }
      | some (digest, name) =>
        counts := { counts with checked := counts.checked + 1 }
        match (← readInput name) with
        | .error reason =>
          unless given.has "ignore-missing" && reason == .noEntry do
            Job.complainAs (quotedIfNeeded name ++ ": " ++ reason.description)
            unless isQuiet do Job.print (name ++ ": FAILED open or read\n")
            counts := { counts with unread := counts.unread + 1 }
        | .ok text =>
          if kind.ofBytes (Octets.toBytes text) == digest.map Char.toLower then
            unless isQuiet || given.has "quiet" do Job.print (name ++ ": OK\n")
          else
            unless isQuiet do Job.print (name ++ ": FAILED\n")
            counts := { counts with different := counts.different + 1 }
    let shown := if path == "-" then "'standard input'" else quotedIfNeeded path
    if counts.checked = 0 then
      Job.complainAs (shown ++ ": no properly formatted checksum lines found")
      return false
    let warn (count : Nat) (one many : String) : Job Unit := do
      unless count = 0 || isQuiet do
        Job.complainAs ("WARNING: " ++ toString count ++ " " ++ (if count = 1 then one else many))
    warn counts.bad "line is improperly formatted" "lines are improperly formatted"
    warn counts.unread "listed file could not be read" "listed files could not be read"
    warn counts.different "computed checksum did NOT match" "computed checksums did NOT match"
    return counts.unread = 0 && counts.different = 0 && (counts.bad = 0 || !given.has "strict")

/-- Prints digests, or checks those of a list. -/
def printDigests (kind : DigestKind) : Job Nat :=
  withOptions [.flag 'b' "binary", .flag 't' "text", .flag 'c' "check", .named "tag",
      .named "quiet", .named "status", .flag 'w' "warn", .named "strict", .flag 'z' "zero",
      .named "ignore-missing"] fun given => do
    if given.has "c" then forEach (inputs given.operands) (checkDigests kind given)
    else
      forEach (inputs given.operands) fun path => do
        match (← readOrComplain path) with
        | none => return false
        | some text =>
          let digest := kind.ofBytes (Octets.toBytes text)
          let line :=
            if given.has "tag" then kind.tag ++ " (" ++ path ++ ") = " ++ digest
            else digest ++ (if given.has "b" then " *" else "  ") ++ path
          Job.print (line ++ if given.has "z" then "\x00" else "\n")
          return true

/-- The characters that stand for six bits each. -/
def sixBitChars : List Char :=
  "ABCDEFGHIJKLMNOPQRSTUVWXYZabcdefghijklmnopqrstuvwxyz0123456789+/".toList

/-- Writes bytes, three by three, with four characters. -/
def withSixBits : List Char → List Char
  | [] => []
  | [a] =>
    let n := a.toNat * 65536
    [sixBitChar (n / 262144), sixBitChar (n / 4096), '=', '=']
  | [a, b] =>
    let n := a.toNat * 65536 + b.toNat * 256
    [sixBitChar (n / 262144), sixBitChar (n / 4096), sixBitChar (n / 64), '=']
  | a :: b :: c :: rest =>
    let n := a.toNat * 65536 + b.toNat * 256 + c.toNat
    sixBitChar (n / 262144) :: sixBitChar (n / 4096) :: sixBitChar (n / 64) :: sixBitChar n
      :: withSixBits rest
where
  /-- The character for the last six bits of a number. -/
  sixBitChar (n : Nat) : Char := (sixBitChars[n % 64]?).getD 'A'

/-- Reads bytes from characters, four by four. The flag says that all of them could be
read. -/
def fromSixBits : List Char → List Char × Bool
  | [] => ([], true)
  | a :: b :: c :: d :: rest =>
    match sixBitChars.idxOf? a, sixBitChars.idxOf? b, sixBitChars.idxOf? c, sixBitChars.idxOf? d with
    | some w, some x, some y, some z =>
      let n := w * 262144 + x * 4096 + y * 64 + z
      let (later, isAll) := fromSixBits rest
      (byteChar (n / 65536) :: byteChar (n / 256) :: byteChar n :: later, isAll)
    | some w, some x, some y, none =>
      let n := w * 262144 + x * 4096 + y * 64
      ([byteChar (n / 65536), byteChar (n / 256)], d == '=' && rest.isEmpty)
    | some w, some x, none, _ =>
      ([byteChar (w * 4 + x / 16)], c == '=' && d == '=' && rest.isEmpty)
    | _, _, _, _ => ([], false)
  | _ => ([], false)
where
  /-- The character for the last byte of a number. -/
  byteChar (n : Nat) : Char := Char.ofNat (n % 256)

/-- Cuts a text into lines of a length. The fuel bounds their number. -/
def wrapped (width : Nat) : Nat → List Char → List Char
  | 0, text => text
  | _, [] => []
  | fuel + 1, text => text.take width ++ '\n' :: wrapped width fuel (text.drop width)

/-- Writes bytes with letters and digits, or reads them. -/
def convertSixBits : Job Nat :=
  withOptions [.flag 'd' "decode", .flag 'i' "ignore-garbage", .value 'w' "wrap"] fun given => do
    match given.operands with
    | _ :: extra :: _ => misuse ("extra operand " ++ quoted extra)
    | operands =>
      let wrap := (given.value? "w").getD "76"
      match wrap.toNat? with
      | none =>
        Job.complainAs ("invalid wrap size: " ++ quoted wrap)
        return 1
      | some width =>
        match (← readOrComplain (operands.headD "-")) with
        | none => return 1
        | some text =>
          if given.has "d" then
            let kept := text.toList.filter fun c =>
              c != '\n' && (!given.has "i" || c == '=' || sixBitChars.contains c)
            let (bytes, isAll) := fromSixBits kept
            Job.print (String.ofList bytes)
            unless isAll do Job.complainAs "invalid input"
            return if isAll then 0 else 1
          else
            let written := withSixBits text.toList
            let shown := if width = 0 then written else wrapped width (written.length + 1) written
            Job.print (String.ofList shown)
            return 0

end ProfileGraph.Utility
