import ProfileGraph.StandIn.Utility.Input

/-! The utilities that handle files in blocks and pieces. -/
namespace ProfileGraph.Utility
open Host

/-- How blocks are copied. -/
structure BlockRules where
  source : Option String := none
  target : Option String := none
  inputSize : Nat := 512
  outputSize : Nat := 512
  /-- Blocks are written as they are read. -/
  keepsBlocks : Bool := true
  count : Option Nat := none
  skip : Nat := 0
  seek : Nat := 0
  conversions : List String := []
  status : String := ""

/-- Why an operand is not understood. -/
inductive BlockFault where
  | unknownOperand (operand : String)
  | badNumber (text : String)
  | badConversion (name : String)
  | badStatus (name : String)

/-- The number that a text denotes: factors with letters behind them. -/
def blockNumber? (text : String) : Option Nat :=
  (text.splitOn "x").foldl (fun product part => do
    let product ← product
    let number ←
      if part.endsWith "c" then (part.dropEnd 1).toNat?
      else if part.endsWith "w" then (part.dropEnd 1).toNat?.map (2 * ·)
      else count? part
    return product * number) (some 1)

/-- The conversions of blocks. -/
def blockConversions : List String := ["ucase", "lcase", "swab", "notrunc", "noerror", "sync", "excl",
  "nocreat", "fsync", "fdatasync", "sparse", "ascii", "ebcdic", "ibm", "block", "unblock"]

/-- Takes over an operand. -/
def BlockRules.withOperand (rules : BlockRules) (operand : String) :
    Except BlockFault BlockRules := do
  let key := String.ofList (operand.toList.takeWhile (· != '='))
  let value := String.ofList (operand.toList.drop (key.length + 1))
  let number : Except BlockFault Nat :=
    match blockNumber? value with
    | some n => .ok n
    | none => .error (.badNumber value)
  let size : Except BlockFault Nat := do
    let n ← number
    if n = 0 then .error (.badNumber value) else .ok n
  if !operand.toList.contains '=' then .error (.unknownOperand operand)
  else match key with
    | "if" => return { rules with source := some value }
    | "of" => return { rules with target := some value }
    | "bs" =>
      let n ← size
      return { rules with inputSize := n, outputSize := n, keepsBlocks := true }
    | "ibs" => return { rules with inputSize := ← size, keepsBlocks := false }
    | "obs" => return { rules with outputSize := ← size, keepsBlocks := false }
    | "count" => return { rules with count := some (← number) }
    | "skip" | "iseek" => return { rules with skip := ← number }
    | "seek" | "oseek" => return { rules with seek := ← number }
    | "conv" =>
      match (value.splitOn ",").find? fun name => !blockConversions.contains name with
      | some name => .error (.badConversion name)
      | none => return { rules with conversions := rules.conversions ++ value.splitOn "," }
    | "status" =>
      if ["none", "noxfer", "progress"].contains value then return { rules with status := value }
      else .error (.badStatus value)
    | "iflag" | "oflag" | "cbs" => return rules
    | _ => .error (.unknownOperand operand)

/-- Takes over operands in their order. -/
def BlockRules.withOperands (rules : BlockRules) : List String → Except BlockFault BlockRules
  | [] => .ok rules
  | operand :: later => do (← rules.withOperand operand).withOperands later

/-- Exchanges the bytes of each pair. -/
def swapPairs : List Char → List Char
  | a :: b :: rest => b :: a :: swapPairs rest
  | rest => rest

/-- The bytes that are written for those that were read. -/
def BlockRules.convert (rules : BlockRules) (text : List Char) : List Char :=
  let has (name : String) : Bool := rules.conversions.contains name
  let text :=
    if has "sync" then
      let missing := (rules.inputSize - text.length % rules.inputSize) % rules.inputSize
      text ++ List.replicate missing '\x00'
    else text
  let text := if has "swab" then swapPairs text else text
  if has "ucase" then text.map Char.toUpper
  else if has "lcase" then text.map Char.toLower
  else text

/-- How many whole blocks and how many parts of one bytes fill. -/
def blockCounts (size count : Nat) : String :=
  toString (count / size) ++ "+" ++ (if count % size = 0 then "0" else "1")

/-- Writes bytes to the target of blocks. The result is missing if it cannot be opened. -/
def BlockRules.write (rules : BlockRules) (text : String) : Job (Except OsError Unit) := do
  match rules.target with
  | none =>
    Job.print text
    return .ok ()
  | some path =>
    let has (name : String) : Bool := rules.conversions.contains name
    let access : Access := {
      writes := true, creates := !has "nocreat", exclusive := has "excl" && !has "nocreat" }
    match (← Job.openPath path access) with
    | .error reason => return .error reason
    | .ok number =>
      let old ← match (← Job.readPath path) with
        | .ok old => pure old.toList
        | .error _ => pure []
      let start := rules.seek * rules.outputSize
      let front := old.take start ++ List.replicate (start - old.length) '\x00'
      let rest := if has "notrunc" then old.drop (start + text.length) else []
      let isFile ← canMoveBack number
      if isFile then
        match (← Job.openPath path { writes := true, clears := true }) with
        | .ok number => Job.writeOpen number (String.ofList (front ++ text.toList ++ rest))
        | .error reason => return .error reason
      else Job.writeOpen number text

/-- Tells how much was copied. -/
def tellCopied (rules : BlockRules) (taken given : Nat) : Job Unit := do
  unless rules.status == "none" do
    let outputSize := if rules.keepsBlocks then rules.inputSize else rules.outputSize
    Job.complain (blockCounts rules.inputSize taken ++ " records in")
    Job.complain (blockCounts outputSize given ++ " records out")
    unless rules.status == "noxfer" do
      let word := if given = 1 then " byte" else " bytes"
      Job.complain (toString given ++ word ++ " copied, 0 s, Infinity B/s")

/-- Copies blocks. -/
def copyBlocks : Job Nat := do
  let operands := (← read).arguments.filter (· != "--")
  if operands == ["--help"] || operands == ["--version"] then return 0
  match ({} : BlockRules).withOperands operands with
  | .error (.unknownOperand operand) => misuse ("unrecognized operand " ++ quoted operand)
  | .error (.badConversion name) => misuse ("invalid conversion: " ++ quoted name)
  | .error (.badStatus name) => misuse ("invalid status level: " ++ quoted name)
  | .error (.badNumber text) =>
    Job.complainAs ("invalid number: " ++ quoted text)
    return 1
  | .ok rules =>
    let cannotOpen (path : String) (reason : OsError) : Job Nat := do
      Job.complainAs ("failed to open " ++ quoted path ++ ": " ++ reason.description)
      return 1
    let wanted := rules.count.map fun count => (rules.skip + count) * rules.inputSize
    let opened ← match rules.source with
      | some path => Job.openPath path .reading
      | none => openInput "-"
    match opened with
    | .error reason => cannotOpen (rules.source.getD "standard input") reason
    | .ok number =>
      match (← Job.readOpen number wanted) with
      | .error reason =>
        Job.complainAs ("error reading " ++ quoted (rules.source.getD "standard input") ++ ": "
          ++ reason.description)
        return 1
      | .ok text =>
        let skipped := rules.skip * rules.inputSize
        let taken := text.toList.drop skipped
        let given := rules.convert taken
        match (← rules.write (String.ofList given)) with
        | .error reason => cannotOpen (rules.target.getD "") reason
        | .ok () =>
          if text.length < skipped && rules.status != "none" then
            Job.complainAs (quotedIfNeeded (rules.source.getD "standard input")
              ++ ": cannot skip to specified offset")
          tellCopied rules taken.length given.length
          return 0

/-- The digits of a number in some letters, at least as many as asked for. The fuel bounds
their number. -/
def letterDigits (letters : List Char) : Nat → Nat → Nat → List Char
  | 0, _, _ => []
  | fuel + 1, width, n =>
    if width = 0 && n = 0 then []
    else letterDigits letters fuel (width - 1) (n / letters.length)
      ++ [(letters[n % letters.length]?).getD 'a']

/-- The end of the name of a piece. Without a fixed width, the names get longer when only those
with the last letter in front are left. The fuel bounds how often they do. -/
def pieceSuffix (letters : List Char) : Nat → Nat → Nat → List Char
  | 0, width, n => letterDigits letters 64 width n
  | fuel + 1, width, n =>
    let most := (letters.length - 1) * Nat.pow letters.length (width - 1)
    if n < most then letterDigits letters 64 width n
    else (letters.getLast?).getD 'z' :: pieceSuffix letters fuel (width + 1) (n - most)

/-- The name of a piece, unless there are no more names. -/
def pieceName? (start ending : String) (letters : List Char) (width : Option Nat) (n : Nat) :
    Option String :=
  let named (suffix : List Char) : String := start ++ String.ofList suffix ++ ending
  match width with
  | some width =>
    if n < Nat.pow letters.length width then some (named (letterDigits letters 64 width n))
    else none
  | none => some (named (pieceSuffix letters 16 2 n))

/-- Cuts a list into pieces of a size. The fuel bounds their number. -/
def pieces {α : Type} (size : Nat) : Nat → List α → List (List α)
  | 0, _ | _, [] => []
  | fuel + 1, all => all.take size :: pieces size fuel (all.drop size)

/-- The bytes of a text in a number of pieces of the same size, the last of which takes the
rest. -/
def evenPieces (count : Nat) (text : List Char) : List (List Char) :=
  let size := text.length / count
  (List.range count).map fun i =>
    if i + 1 = count then text.drop (i * size) else (text.drop (i * size)).take size

/-- Writes pieces to files whose names come one after the other. -/
def writePieces (name? : Nat → Option String) (tells : Bool) : Nat → List String → Job Nat
  | _, [] => return 0
  | n, piece :: later => do
    match name? n with
    | none =>
      Job.complainAs "output file suffixes exhausted"
      return 1
    | some name =>
      if tells then Job.print ("creating file " ++ quoted name ++ "\n")
      match (← Job.openPath name .writing) with
      | .error reason =>
        Job.complainAs (quotedIfNeeded name ++ ": " ++ reason.description)
        return 1
      | .ok number =>
        let _ ← Job.writeOpen number piece
        writePieces name? tells (n + 1) later

/-- Splits a file into pieces. -/
def splitIntoPieces : Job Nat :=
  withOptions [.value 'l' "lines", .value 'b' "bytes", .value 'n' "number",
      .value 'a' "suffix-length", .flag 'd', .flag 'x', .named "numeric-suffixes" .optional,
      .named "hex-suffixes" .optional, .named "additional-suffix" .required, .named "verbose",
      .flag 'e' "elide-empty-files"] fun given => do
    let isNumeric := given.has "d" || given.has "numeric-suffixes"
    let isHex := given.has "x" || given.has "hex-suffixes"
    let letters :=
      if isNumeric then "0123456789".toList
      else if isHex then "0123456789abcdef".toList
      else "abcdefghijklmnopqrstuvwxyz".toList
    let first := ((given.value? "numeric-suffixes" <|> given.value? "hex-suffixes").bind
      (·.toNat?)).getD 0
    let width := (given.value? "a").bind (·.toNat?)
    let width := if 0 < first then some (width.getD 2) else width
    match given.operands with
    | _ :: _ :: extra :: _ => misuse ("extra operand " ++ quoted extra)
    | operands =>
      let path := operands.headD "-"
      let start := operands[1]?.getD "x"
      let wrong (kind text : String) : Job Nat := do
        Job.complainAs ("invalid number of " ++ kind ++ ": " ++ quoted text)
        return 1
      let number (key standard : String) : Option Nat :=
        (count? ((given.value? key).getD standard)).filter (0 < ·)
      match number "l" "1000", number "b" "1", number "n" "1" with
      | none, _, _ => wrong "lines" ((given.value? "l").getD "")
      | _, none, _ => wrong "bytes" ((given.value? "b").getD "")
      | _, _, none => wrong "chunks" ((given.value? "n").getD "")
      | some lines, some bytes, some chunks =>
        match (← readInput path) with
        | .error reason =>
          Job.complainAs ("cannot open " ++ quoted path ++ " for reading: " ++ reason.description)
          return 1
        | .ok text =>
          let all :=
            if given.has "b" then
              (pieces bytes (text.length + 1) text.toList).map String.ofList
            else if given.has "n" then (evenPieces chunks text.toList).map String.ofList
            else (pieces lines (text.length + 1) (Line.all text)).map fun piece =>
              String.join (piece.map (·.whole))
          let ending := (given.value? "additional-suffix").getD ""
          writePieces (pieceName? start ending letters width) (given.has "verbose") first all

end ProfileGraph.Utility
