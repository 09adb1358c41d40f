import ProfileGraph.Proofs.NumberTexts

/-! The written form of a JSON value is read back as that value, with null in
the place of every number that is not finite. Texts may hold any characters,
numbers may be any doubles, and arrays and objects may be nested to any
depth. -/
namespace ProfileGraph.Json

mutual

/-- A value with null for the numbers that have no numeral. -/
def written : Json → Json
  | .null => .null
  | .bool value => .bool value
  | .integer n => .integer n
  | .real x => if x.isFinite then .real x else .null
  | .string text => .string text
  | .array items => .array (writtenItems items)
  | .object fields => .object (writtenFields fields)

def writtenItems : List Json → List Json
  | [] => []
  | item :: items => item.written :: writtenItems items

def writtenFields : List (String × Json) → List (String × Json)
  | [] => []
  | (name, value) :: fields => (name, value.written) :: writtenFields fields

end

theorem writtenItems_eq_map (items : List Json) : writtenItems items = items.map written := by
  induction items with
  | nil => rfl
  | cons item items ih => rw [writtenItems, ih, List.map_cons]

theorem dataText_of_not_finite {x : Binary64} (infinite : ¬ x.isFinite) : x.dataText = none := by
  cases x with
  | nan | infinity => rfl
  | finite => exact absurd rfl infinite

mutual

/-- A number that is not finite has the same written form as null. -/
theorem lines_written (json : Json) (level : Nat) : lines level json.written = lines level json := by
  match json with
  | .null | .bool _ | .integer _ | .string _ | .array [] | .object [] => rfl
  | .real x =>
    rw [written]
    split
    next => rfl
    next infinite => rw [lines, lines, dataText_of_not_finite infinite, Option.getD_none]
  | .array (item :: later) =>
    rw [written, writtenItems, lines, lines, lines_written item, itemLines_written later]
  | .object ((name, item) :: later) =>
    rw [written, writtenFields, lines, lines, lines_written item, fieldLines_written later]

theorem itemLines_written (items : List Json) (level : Nat) :
    itemLines level (writtenItems items) = itemLines level items := by
  match items with
  | [] => rfl
  | item :: later =>
    rw [writtenItems, itemLines, itemLines, lines_written item, itemLines_written later]

theorem fieldLines_written (fields : List (String × Json)) (level : Nat) :
    fieldLines level (writtenFields fields) = fieldLines level fields := by
  match fields with
  | [] => rfl
  | (name, item) :: later =>
    rw [writtenFields, fieldLines, fieldLines, lines_written item, fieldLines_written later]

end

theorem pretty_written (json : Json) : json.written.pretty = json.pretty := by
  rw [pretty, lines_written, pretty]

/-! Texts. -/

theorem hexUnit_hexDigit : ∀ n < 32,
    hexUnit? '0' '0' (hexDigit (n / 16)) (hexDigit (n % 16)) = some n := by decide

/-- An escaped character is read back. -/
theorem stringBody_escaped (c : Char) (rest : List Char) :
    stringBody (escaped c ++ rest) = consRead c (stringBody rest) := by
  rw [escaped]
  split
  next quote => subst quote; rfl
  split
  next backslash => subst backslash; rfl
  split
  next backspace => subst backspace; rfl
  split
  next feed => subst feed; rfl
  split
  next line => subst line; rfl
  split
  next carriage => subst carriage; rfl
  split
  next tab => subst tab; rfl
  split
  next control =>
    have unit := hexUnit_hexDigit c.toNat control
    have whole : Char.ofNat c.toNat = c := Char.ofNat_toNat c
    simp only [List.cons_append, List.nil_append]
    rw [stringBody, unit]
    dsimp only
    rw [if_pos (.inl (by omega)), whole]
  next noQuote noBackslash _ _ _ _ _ printable =>
    rw [List.singleton_append, stringBody.eq_def]
    split
    next absurd => cases absurd
    next same => exact absurd (List.cons.inj same).1 noQuote
    next same => exact absurd (List.cons.inj same).1 noBackslash
    next same => exact absurd (List.cons.inj same).1 noBackslash
    next same =>
      cases same
      rw [if_neg (by simp [printable, noBackslash])]

theorem quoted_append (text rest : List Char) :
    quoted text ++ rest = '"' :: (text.flatMap escaped ++ '"' :: rest) := by
  rw [quoted, List.append_assoc, List.singleton_append]
  rfl

theorem stringBody_quoted (text rest : List Char) :
    stringBody (text.flatMap escaped ++ '"' :: rest) = some (text, rest) := by
  induction text with
  | nil => rfl
  | cons c text ih =>
    rw [List.flatMap_cons, List.append_assoc, stringBody_escaped, ih]
    rfl

/-! White space. -/

theorem skipSpace_append {space : List Char} (blank : ∀ c ∈ space, isSpace c)
    (text : List Char) : skipSpace (space ++ text) = skipSpace text :=
  List.dropWhile_append_of_pos blank

theorem isSpace_newline (level : Nat) : ∀ c ∈ newline level, isSpace c := by
  intro c member
  rcases List.mem_cons.mp member with rfl | blank
  · rfl
  · rw [List.eq_of_mem_replicate blank]
    rfl

theorem value_skip {space : List Char} (blank : ∀ c ∈ space, isSpace c) (fuel : Nat)
    (text : List Char) : value fuel (space ++ text) = value fuel text := by
  cases fuel with
  | zero => rfl
  | succ fuel =>
    rw [value, skipSpace_append blank]
    rfl

theorem skipSpace_cons {c : Char} (solid : isSpace c = false) (text : List Char) :
    skipSpace (c :: text) = c :: text := by
  rw [skipSpace, List.dropWhile_cons_of_neg (by simp [solid])]

/-! The first character of a written value. -/

/-- Neither white space nor the end of an array. -/
def Opens (text : List Char) : Prop := ∃ c later, text = c :: later ∧ isSpace c = false ∧ c ≠ ']'

theorem isSpace_of_isDigit {c : Char} (digit : c.isDigit) : isSpace c = false ∧ c ≠ ']' := by
  have other (d : Char) (noDigit : d.isDigit = false) : c ≠ d := by
    rintro rfl
    cases digit.symm.trans noDigit
  simp [isSpace, other ' ' rfl, other '\t' rfl, other '\n' rfl, other '\r' rfl, other ']' rfl]

theorem opens_toDigits (n : Nat) : Opens (Nat.toDigits 10 n) := by
  obtain ⟨c, later, digit, shape⟩ := exists_toDigits_eq_cons n
  exact ⟨c, later, shape, isSpace_of_isDigit digit⟩

theorem opens_dataText (x : Binary64) : Opens (x.dataText.getD "null".toList) := by
  cases x with
  | nan => exact ⟨'n', _, rfl, rfl, by decide⟩
  | infinity negative => exact ⟨'n', _, rfl, rfl, by decide⟩
  | finite negative units magnitude =>
    obtain ⟨parts, text, _⟩ := @exists_dataText negative _ magnitude
    rw [text, Option.getD_some]
    cases negative with
    | true => exact ⟨'-', _, rfl, rfl, by decide⟩
    | false =>
      obtain ⟨c, later, digit, shape⟩ := parts.exists_text_eq_cons
      exact ⟨c, later, shape, isSpace_of_isDigit digit⟩

theorem opens_lines (level : Nat) (value : Json) : Opens (lines level value) := by
  cases value with
  | null => exact ⟨'n', _, rfl, rfl, by decide⟩
  | bool value => cases value <;> exact ⟨_, _, rfl, rfl, by decide⟩
  | integer n =>
    rw [lines, integerText]
    split
    · exact ⟨'-', _, rfl, rfl, by decide⟩
    · exact opens_toDigits n.natAbs
  | real x =>
    rw [lines]
    exact opens_dataText x
  | string text =>
    rw [lines]
    exact ⟨'"', _, rfl, rfl, by decide⟩
  | array items => cases items <;> rw [lines] <;> exact ⟨'[', _, rfl, rfl, by decide⟩
  | object fields => cases fields <;> rw [lines] <;> exact ⟨_, _, rfl, rfl, by decide⟩

theorem Opens.skipSpace_eq {text : List Char} (opens : Opens text) (rest : List Char) :
    skipSpace (text ++ rest) = text ++ rest := by
  obtain ⟨c, later, rfl, solid, _⟩ := opens
  exact skipSpace_cons solid _

/-! The reader at the front of a value. -/

/-- What may follow a value: a comma, a new line or nothing. -/
def Follows (rest : List Char) : Prop := ∀ c ∈ rest.head?, c = ',' ∨ c = '\n'

theorem Follows.endsNumber {rest : List Char} (follows : Follows rest) : EndsNumber rest := by
  intro c member
  rcases follows c member with rfl | rfl <;> decide

theorem value_of_isDigit {c : Char} (digit : c.isDigit) (fuel : Nat) (text : List Char) :
    value (fuel + 1) (c :: text) = numeral false (c :: text) := by
  have other (d : Char) (noDigit : d.isDigit = false) : c ≠ d := by
    rintro rfl
    cases digit.symm.trans noDigit
  have solid := isSpace_of_isDigit digit
  rw [value, skipSpace_cons solid.1]
  split
  iterate 7 next same => exact absurd (List.cons.inj same).1 (other _ rfl)
  next => rfl

theorem value_integerText (fuel : Nat) (n : Int) {rest : List Char} (follows : Follows rest) :
    value (fuel + 1) (integerText n ++ rest) = some (.integer n, rest) := by
  have read (negative : Bool) (signed : negative → n.natAbs ≠ 0) :=
    numeral_toDigits negative signed follows.endsNumber
  rw [integerText]
  split
  next negative =>
    have minus : n = -(n.natAbs : Int) := by omega
    refine (read true fun _ => by omega).trans ?_
    rw [if_pos rfl, ← minus]
  next nonneg =>
    obtain ⟨c, later, digit, shape⟩ := exists_toDigits_eq_cons n.natAbs
    have plus : (n.natAbs : Int) = n := by omega
    have found := read false (fun signed => by cases signed)
    rw [if_neg Bool.false_ne_true, plus] at found
    rw [shape] at found ⊢
    rw [List.cons_append, value_of_isDigit digit]
    exact found

theorem value_dataText (fuel : Nat) (x : Binary64) {rest : List Char} (follows : Follows rest) :
    value (fuel + 1) (x.dataText.getD "null".toList ++ rest) =
      some (if x.isFinite then .real x else .null, rest) := by
  cases x with
  | nan => rfl
  | infinity negative => rfl
  | finite negative units magnitude =>
    obtain ⟨parts, text, read⟩ := @exists_dataText negative _ magnitude
    have found := read rest follows.endsNumber
    rw [text, Option.getD_some, Binary64.isFinite, if_pos rfl]
    cases negative with
    | true => exact found
    | false =>
      obtain ⟨c, later, digit, shape⟩ := parts.exists_text_eq_cons
      rw [shape] at found ⊢
      exact (value_of_isDigit digit fuel _).trans found

/-! What the first character of a value, or of a field, decides. -/

theorem value_quote (fuel : Nat) (text : List Char) :
    value (fuel + 1) ('"' :: text) =
      (stringBody text).map fun (text, rest) => (.string (String.ofList text), rest) := rfl

theorem value_bracket (fuel : Nat) (text : List Char) :
    value (fuel + 1) ('[' :: text) =
      match skipSpace text with
      | ']' :: rest => some (.array [], rest)
      | rest => (items fuel rest).map fun (items, rest) => (.array items, rest) := rfl

theorem value_brace (fuel : Nat) (text : List Char) :
    value (fuel + 1) ('\x7b' :: text) =
      match skipSpace text with
      | '\x7d' :: rest => some (.object [], rest)
      | rest => (members fuel rest).map fun (fields, rest) => (.object fields, rest) := rfl

theorem value_quoted (fuel : Nat) (text : String) (rest : List Char) :
    value (fuel + 1) (quoted text.toList ++ rest) = some (.string text, rest) := by
  rw [quoted_append, value_quote, stringBody_quoted, Option.map_some]
  dsimp only
  rw [String.ofList_toList]

/-- An array that is not empty is read by its items. -/
theorem value_array (fuel level : Nat) {text : List Char} (opens : Opens text) (rest : List Char) :
    value (fuel + 1) ('[' :: (newline level ++ (text ++ rest))) =
      (items fuel (text ++ rest)).map fun (items, rest) => (.array items, rest) := by
  rw [value_bracket, skipSpace_append (isSpace_newline level), opens.skipSpace_eq]
  obtain ⟨c, later, rfl, _, noBracket⟩ := opens
  split
  next same => exact absurd (List.cons.inj same).1 noBracket
  next => rfl

/-! Values inside values. -/

theorem follows_newline (level : Nat) (rest : List Char) : Follows (newline level ++ rest) := by
  rintro c ⟨⟩
  exact .inr rfl

theorem follows_itemLines (level outer : Nat) (items : List Json) (rest : List Char) :
    Follows (itemLines level items ++ (newline outer ++ rest)) := by
  cases items with
  | nil => exact follows_newline outer rest
  | cons item items =>
    rw [itemLines]
    rintro c ⟨⟩
    exact .inl rfl

theorem follows_fieldLines (level outer : Nat) (fields : List (String × Json)) (rest : List Char) :
    Follows (fieldLines level fields ++ (newline outer ++ rest)) := by
  cases fields with
  | nil => exact follows_newline outer rest
  | cons field fields =>
    rw [fieldLines]
    rintro c ⟨⟩
    exact .inl rfl

/-- After the last item comes the closing bracket. -/
theorem items_last {fuel : Nat} {text rest : List Char} {item : Json} (outer : Nat)
    (read : value fuel text = some (item, newline outer ++ ']' :: rest)) :
    items (fuel + 1) text = some ([item], rest) := by
  rw [items, read]
  dsimp only
  rw [skipSpace_append (isSpace_newline outer), skipSpace_cons rfl]
  rfl

theorem items_next {fuel : Nat} {text rest : List Char} {item : Json}
    (read : value fuel text = some (item, ',' :: rest)) :
    items (fuel + 1) text = (items fuel rest).map fun (later, rest) => (item :: later, rest) := by
  rw [items, read]
  rfl

theorem skipSpace_quoted {blank : List Char} (space : ∀ c ∈ blank, isSpace c)
    (name rest : List Char) :
    skipSpace (blank ++ (quoted name ++ rest)) = '"' :: (name.flatMap escaped ++ '"' :: rest) := by
  rw [skipSpace_append space, quoted_append, skipSpace_cons rfl]

/-- After the last field comes the closing brace. -/
theorem members_last {fuel : Nat} {text rest : List Char} {name : String} {item : Json}
    (outer : Nat) (read : value fuel text = some (item, newline outer ++ '\x7d' :: rest))
    {blank : List Char} (space : ∀ c ∈ blank, isSpace c) :
    members (fuel + 1) (blank ++ (quoted name.toList ++ ':' :: text)) =
      some ([(name, item)], rest) := by
  have colon : skipSpace (':' :: text) = ':' :: text := rfl
  have brace : skipSpace (newline outer ++ '\x7d' :: rest) = '\x7d' :: rest := by
    rw [skipSpace_append (isSpace_newline outer), skipSpace_cons rfl]
  rw [members]
  simp only [skipSpace_quoted space, stringBody_quoted, colon, read, brace, String.ofList_toList]

theorem members_next {fuel : Nat} {text rest : List Char} {name : String} {item : Json}
    (read : value fuel text = some (item, ',' :: rest))
    {blank : List Char} (space : ∀ c ∈ blank, isSpace c) :
    members (fuel + 1) (blank ++ (quoted name.toList ++ ':' :: text)) =
      (members fuel rest).map fun (later, rest) => ((name, item) :: later, rest) := by
  have colon : skipSpace (':' :: text) = ':' :: text := rfl
  have comma : skipSpace (',' :: rest) = ',' :: rest := rfl
  rw [members]
  simp only [skipSpace_quoted space, stringBody_quoted, colon, read, comma, String.ofList_toList]

theorem value_object (fuel level : Nat) (name : List Char) (rest : List Char) :
    value (fuel + 1) ('\x7b' :: (newline level ++ (quoted name ++ rest))) =
      (members fuel ([] ++ (quoted name ++ rest))).map fun (fields, rest) =>
        (.object fields, rest) := by
  rw [value_brace, skipSpace_append (isSpace_newline level), quoted_append, skipSpace_cons rfl]
  rfl

/-! The induction over values. The length of a text bounds the fuel that reading
it takes. -/

theorem one_le_length_newline (level : Nat) : 1 ≤ (newline level).length := by
  rw [newline, List.length_cons]
  omega

theorem exists_fuel {level fuel : Nat} {json : Json} (enough : (lines level json).length ≤ fuel) :
    ∃ left, fuel = left + 1 := by
  obtain ⟨first, later, shape, _⟩ := opens_lines level json
  rw [shape, List.length_cons] at enough
  exact ⟨fuel - 1, by omega⟩

mutual

/-- A value is read back in front of everything that may follow it. -/
theorem value_lines (json : Json) (level fuel : Nat) {rest : List Char} (follows : Follows rest)
    (enough : (lines level json).length ≤ fuel) :
    value fuel (lines level json ++ rest) = some (json.written, rest) := by
  obtain ⟨fuel, rfl⟩ := exists_fuel enough
  match json with
  | .null => rw [lines]; rfl
  | .bool true | .bool false => rw [lines]; rfl
  | .integer n => rw [lines, written]; exact value_integerText fuel n follows
  | .real x => rw [lines, written]; exact value_dataText fuel x follows
  | .string text => rw [lines, written]; exact value_quoted fuel text rest
  | .array [] => rw [lines]; rfl
  | .array (item :: later) =>
    simp only [lines, List.length_cons, List.length_append] at enough
    have space := one_le_length_newline (level + 1)
    obtain ⟨fuel, rfl⟩ : ∃ left, fuel = left + 1 := ⟨fuel - 1, by omega⟩
    have read := items_lines later (level + 1) level fuel rest
      (value_lines item (level + 1) fuel (follows_itemLines (level + 1) level later _) (by omega))
      (by omega)
    have text : lines level (.array (item :: later)) ++ rest = '[' :: (newline (level + 1) ++
        (lines (level + 1) item ++ (itemLines (level + 1) later ++
          (newline level ++ ']' :: rest)))) := by
      simp only [lines, List.cons_append, List.append_assoc, List.nil_append]
    rw [text, value_array _ _ (opens_lines (level + 1) item), read, written, writtenItems]
    rfl
  | .object [] => rw [lines]; rfl
  | .object ((name, item) :: later) =>
    simp only [lines, List.length_cons, List.length_append] at enough
    have space := one_le_length_newline (level + 1)
    obtain ⟨fuel, rfl⟩ : ∃ left, fuel = left + 1 := ⟨fuel - 1, by omega⟩
    have found := value_lines item (level + 1) fuel
      (follows_fieldLines (level + 1) level later ('\x7d' :: rest)) (by omega)
    rw [← value_skip (List.forall_mem_singleton.mpr rfl : ∀ c ∈ [' '], isSpace c)] at found
    have read := members_lines name later (level + 1) level fuel rest found (by omega)
      (List.forall_mem_nil _)
    have text : lines level (.object ((name, item) :: later)) ++ rest =
        '\x7b' :: (newline (level + 1) ++ (quoted name.toList ++ ':' :: ([' '] ++
          (lines (level + 1) item ++ (fieldLines (level + 1) later ++
            (newline level ++ '\x7d' :: rest)))))) := by
      simp only [lines, List.cons_append, List.append_assoc, List.nil_append]
    rw [text, value_object, read, written, writtenFields]
    rfl

/-- The items behind one that has been read. -/
theorem items_lines (later : List Json) (level outer fuel : Nat) {text : List Char} {item : Json}
    (rest : List Char)
    (read : value fuel text = some (item, itemLines level later ++ (newline outer ++ ']' :: rest)))
    (enough : (itemLines level later).length ≤ fuel) :
    items (fuel + 1) text = some (item :: writtenItems later, rest) := by
  match later with
  | [] =>
    rw [itemLines, List.nil_append] at read
    rw [writtenItems]
    exact items_last outer read
  | next :: later =>
    simp only [itemLines, List.length_cons, List.length_append] at enough
    have space := one_le_length_newline level
    obtain ⟨fuel, rfl⟩ : ∃ left, fuel = left + 1 := ⟨fuel - 1, by omega⟩
    have found := value_lines next level fuel (follows_itemLines level outer later (']' :: rest))
      (by omega)
    rw [← value_skip (isSpace_newline level)] at found
    have behind := items_lines later level outer fuel rest found (by omega)
    have shape : itemLines level (next :: later) ++ (newline outer ++ ']' :: rest) =
        ',' :: (newline level ++ (lines level next ++ (itemLines level later ++
          (newline outer ++ ']' :: rest)))) := by
      simp only [itemLines, List.cons_append, List.append_assoc]
    rw [shape] at read
    rw [items_next read, behind, writtenItems]
    rfl

/-- The fields behind one whose value has been read. -/
theorem members_lines (name : String) (later : List (String × Json)) (level outer fuel : Nat)
    {text : List Char} {item : Json} (rest : List Char)
    (read : value fuel text =
      some (item, fieldLines level later ++ (newline outer ++ '\x7d' :: rest)))
    (enough : (fieldLines level later).length ≤ fuel) {blank : List Char}
    (space : ∀ c ∈ blank, isSpace c) :
    members (fuel + 1) (blank ++ (quoted name.toList ++ ':' :: text)) =
      some ((name, item) :: writtenFields later, rest) := by
  match later with
  | [] =>
    rw [fieldLines, List.nil_append] at read
    rw [members_last outer read space, writtenFields]
  | (next, nextItem) :: later =>
    simp only [fieldLines, List.length_cons, List.length_append] at enough
    have some := one_le_length_newline level
    obtain ⟨fuel, rfl⟩ : ∃ left, fuel = left + 1 := ⟨fuel - 1, by omega⟩
    have found := value_lines nextItem level fuel
      (follows_fieldLines level outer later ('\x7d' :: rest)) (by omega)
    rw [← value_skip (List.forall_mem_singleton.mpr rfl : ∀ c ∈ [' '], isSpace c)] at found
    have behind := members_lines next later level outer fuel rest found (by omega)
      (isSpace_newline level)
    have shape : fieldLines level ((next, nextItem) :: later) ++ (newline outer ++ '\x7d' :: rest) =
        ',' :: (newline level ++ (quoted next.toList ++ ':' :: ([' '] ++
          (lines level nextItem ++ (fieldLines level later ++
            (newline outer ++ '\x7d' :: rest)))))) := by
      simp only [fieldLines, List.cons_append, List.append_assoc, List.nil_append]
    rw [shape] at read
    rw [members_next read space, behind, Option.map_some, writtenFields]

end

/-- What is written is read back, with null for the numbers that are not
finite. -/
theorem parse_pretty (json : Json) : parse? json.pretty = some json.written := by
  have length : json.pretty.length = (lines 0 json).length := by
    rw [pretty, String.length_ofList]
  have read : value (2 * json.pretty.length + 2) (lines 0 json ++ []) = some (json.written, []) :=
    value_lines json 0 (2 * json.pretty.length + 2) (by simp [Follows]) (by omega)
  rw [List.append_nil] at read
  rw [parse?, pretty, String.toList_ofList, ← pretty, read]
  rfl

end ProfileGraph.Json
