import ProfileGraph.StandIn.Utility.Input

/-! The utilities that work on relations between words: one puts words into an order in which
the first word of each pair comes first, and one joins the lines of two files that have a
field in common. -/
namespace ProfileGraph.Utility
open Host

/-- Words that come before others. -/
structure Relations where
  /-- The words, each with the number of those that must come first. -/
  waiting : List (String × Nat) := []
  /-- The pairs of words, the last one first. -/
  pairs : List (String × String) := []

namespace Relations

/-- Changes the number of words that must come before a word, which is put in if it is
new. -/
def count (relations : Relations) (word : String) (change : Nat → Nat) : Relations :=
  if (relations.waiting.lookup word).isSome then
    { relations with waiting := relations.waiting.map fun (other, n) =>
        if other == word then (other, change n) else (other, n) }
  else { relations with waiting := (word, change 0) :: relations.waiting }

/-- Takes in pairs of words. The flag says that no word is left over. -/
def ofWords : List String → Relations → Relations × Bool
  | [], relations => (relations, true)
  | [_], relations => (relations, false)
  | first :: second :: later, relations =>
    let relations := (relations.count first id).count second id
    ofWords later <|
      if first == second then relations
      else { (relations.count second (· + 1)) with pairs := (first, second) :: relations.pairs }

/-- Puts the words in order: those for which nothing is waited, and then those for which
nothing is waited any more. The fuel bounds their number. -/
def order : Nat → List String → Relations → List String
  | 0, _, _ => []
  | _, [], _ => []
  | fuel + 1, word :: queue, relations =>
    let followers := (relations.pairs.filter (·.1 == word)).map (·.2)
    let (relations, freed) := followers.foldl (fun (relations, freed) follower =>
      let relations : Relations := relations.count follower (· - 1)
      if relations.waiting.lookup follower == some 0 then (relations, freed ++ [follower])
      else (relations, freed)) (relations, ([] : List String))
    word :: order fuel (queue ++ freed) relations

/-- The words for which nothing is waited, by their names. -/
def free (relations : Relations) : List String :=
  ((relations.waiting.filter (·.2 == 0)).map (·.1)).mergeSort fun a b => a ≤ b

end Relations

/-- Puts the words of a file in order. -/
def orderWords : Job Nat :=
  withOptions [] fun given => do
    match given.operands with
    | _ :: extra :: _ => misuse ("extra operand " ++ quoted extra)
    | operands =>
      let path := operands.headD "-"
      match (← readOrComplain path) with
      | none => return 1
      | some text =>
        let isGap (c : Char) : Bool := c == ' ' || c == '\t' || c == '\n'
        let words := ((text.toList.splitOnP isGap).filter (!·.isEmpty)).map String.ofList
        let (relations, isEven) := Relations.ofWords words {}
        if !isEven then
          Job.complainAs (quotedIfNeeded path ++ ": input contains an odd number of tokens")
          return 1
        else
          let ordered := relations.order (words.length + 1) relations.free
          Job.print (String.join (ordered.map (· ++ "\n")))
          let left := (relations.waiting.map (·.1)).filter (!ordered.contains ·)
          if left.isEmpty then return 0
          else
            Job.complainAs (quotedIfNeeded path ++ ": input contains a loop:")
            let sorted := left.mergeSort fun a b => a ≤ b
            for word in sorted do Job.complainAs word
            Job.print (String.join (sorted.map (· ++ "\n")))
            return 1

/-- How lines are joined. -/
structure JoinRules where
  separator : Option Char := none
  ignoresCase : Bool := false
  firstField : Nat := 0
  secondField : Nat := 0
  /-- The lines of which file are printed even if they have no partner. -/
  alone : List String := []
  pairsPrinted : Bool := true
  filler : String := ""
  /-- The fields that are printed: the number of a file and of a field, or zero for the common
  field. -/
  format : List (Nat × Nat) := []

namespace JoinRules

/-- The fields of a line. -/
def fields (rules : JoinRules) (line : String) : List String :=
  match rules.separator with
  | some c => (line.toList.splitOnP (· == c)).map String.ofList
  | none =>
    ((line.toList.splitOnP fun c => c == ' ' || c == '\t').filter (!·.isEmpty)).map String.ofList

/-- What is compared of a field. -/
def key (rules : JoinRules) (fields : List String) (index : Nat) : String :=
  let text := (fields[index]?).getD ""
  if rules.ignoresCase then text.map Char.toLower else text

/-- The line that is printed for lines of one or of both files. -/
def shown (rules : JoinRules) (common : String) (first second : Option (List String)) : String :=
  let between := match rules.separator with
    | some c => String.singleton c
    | none => " "
  let part (fields : Option (List String)) (index : Nat) : String :=
    match fields.bind (·[index]?) with
    | some "" | none => rules.filler
    | some text => text
  let others (fields : Option (List String)) (index : Nat) : List String :=
    (fields.getD []).eraseIdx index
  let texts :=
    if rules.format.isEmpty then
      common :: (others first rules.firstField ++ others second rules.secondField)
    else rules.format.map fun (file, field) =>
      if file = 0 then common
      else if file = 1 then part first (field - 1)
      else part second (field - 1)
  between.intercalate texts ++ "\n"

/-- Joins lines that are in order. The fuel bounds their number. -/
def join (rules : JoinRules) : Nat → List (List String) → List (List String) → List String
  | 0, _, _ => []
  | fuel + 1, first, second =>
    let firstAlone (line : List String) : List String :=
      if rules.alone.contains "1" then
        [rules.shown (line.getD rules.firstField "") (some line) none] else []
    let secondAlone (line : List String) : List String :=
      if rules.alone.contains "2" then
        [rules.shown (line.getD rules.secondField "") none (some line)] else []
    match first, second with
    | [], lines => lines.flatMap secondAlone
    | lines, [] => lines.flatMap firstAlone
    | a :: first, b :: second =>
      let x := rules.key a rules.firstField
      let y := rules.key b rules.secondField
      if x < y then firstAlone a ++ join rules fuel first (b :: second)
      else if y < x then secondAlone b ++ join rules fuel (a :: first) second
      else
        let firsts := a :: first.takeWhile fun line => rules.key line rules.firstField == x
        let seconds := b :: second.takeWhile fun line => rules.key line rules.secondField == x
        let pairs :=
          if rules.pairsPrinted then
            firsts.flatMap fun a => seconds.map fun b =>
              rules.shown ((a[rules.firstField]?).getD "") (some a) (some b)
          else []
        pairs ++ join rules fuel (first.drop (firsts.length - 1)) (second.drop (seconds.length - 1))

end JoinRules

/-- The fields that a format asks for. -/
def joinFormat? (text : String) : Option (List (Nat × Nat)) :=
  let isGap (c : Char) : Bool := c == ' ' || c == ',' || c == '\t'
  let parts := ((text.toList.splitOnP isGap).filter (!·.isEmpty)).map String.ofList
  parts.mapM fun part =>
    if part == "0" then some (0, 0)
    else match part.splitOn "." with
      | ["1", field] => (field.toNat?.filter (0 < ·)).map fun n => (1, n)
      | ["2", field] => (field.toNat?.filter (0 < ·)).map fun n => (2, n)
      | _ => none

/-- Joins the lines of two files. -/
def joinLines : Job Nat :=
  withOptions [.value 'a', .value 'v', .value 'o', .value 't', .value '1', .value '2', .value 'j',
      .value 'e', .flag 'i' "ignore-case", .named "check-order", .named "nocheck-order",
      .named "header", .flag 'z' "zero-terminated"] fun given => do
    match given.operands with
    | [first, second] =>
      let field (key : String) : String := ((given.value? key <|> given.value? "j").getD "1")
      let number (text : String) : Option Nat := text.toNat?.filter (0 < ·)
      let formats := (given.values "o").filter (· != "auto")
      match number (field "1"), number (field "2"), joinFormat? (" ".intercalate formats) with
      | none, _, _ =>
        Job.complainAs ("invalid field number: " ++ quoted (field "1"))
        return 1
      | _, none, _ =>
        Job.complainAs ("invalid field number: " ++ quoted (field "2"))
        return 1
      | _, _, none =>
        Job.complainAs ("invalid field specifier: " ++ quoted (" ".intercalate formats))
        return 1
      | some firstField, some secondField, some format =>
        let separator := (given.value? "t").bind fun text =>
          if text.isEmpty then some '\n' else text.toList.head?
        let rules : JoinRules := {
          separator, format
          ignoresCase := given.has "i"
          firstField := firstField - 1
          secondField := secondField - 1
          alone := given.values "a" ++ given.values "v"
          pairsPrinted := !given.has "v"
          filler := (given.value? "e").getD "" }
        match (← readOrComplain first) with
        | none => return 1
        | some firstText =>
          match (← readOrComplain second) with
          | none => return 1
          | some secondText =>
            let lines (text : String) : List (List String) := (lineTexts text).map rules.fields
            let firstLines := lines firstText
            let secondLines := lines secondText
            Job.print (String.join (rules.join (firstLines.length + secondLines.length + 1)
              firstLines secondLines))
            return 0
    | _ :: _ :: extra :: _ => misuse ("extra operand " ++ quoted extra)
    | [operand] => misuse ("missing operand after " ++ quoted operand)
    | [] => misuse "missing operand"

end ProfileGraph.Utility
