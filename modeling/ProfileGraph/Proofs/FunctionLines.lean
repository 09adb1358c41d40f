import ProfileGraph.Proofs.CallLines

/-! Lines of functions. A line made of an id, a name, a count of samples and shares
is read back as these. A name may hold quotes, brackets, arrows, shares of its own
and line separators as the renderer writes them, as long as it holds neither the
mark that opens a label nor a separator with a count and a bracket behind it. Then
the first such mark and the first such separator are those of the line, and the
shares end where the text behind them says, which has no end of a share. -/
namespace ProfileGraph

/-- A name that does not hold what a line holds in front of it and behind it. -/
structure IsPlainName (name : List Char) : Prop where
  line_free : '\n' ∉ name
  label_free : ¬ "[label=\"".toList <:+: name
  count_free : ∀ digits blank, IsDigits digits → Text.isBlank blank →
    ¬ '\\' :: 'n' :: (digits ++ [blank, '(']) <:+: name

/-- A text without a label of a function and without the end of a share. -/
structure IsPlainRest (rest : List Char) : Prop where
  label_free : ¬ "[label=\"".toList <:+: rest
  share_free : ¬ "%)\\r".toList <:+: rest

/-- The line of a function up to its own share, with a text behind it. -/
def ownLine (id name count : List Char) (own : Numeral) (rest : List Char) : List Char :=
  'N' :: id ++ " [label=\"".toList ++ name ++ "\\n".toList ++ count ++ " (".toList ++ own.text ++
    "%)\\r".toList ++ rest

/-- What stands behind the own share of a function with inclusive amounts. -/
def inclusivePart (inclusive coverage : Numeral) (rest : List Char) : List Char :=
  'o' :: 'f' :: ' ' :: inclusive.text ++ " (".toList ++ coverage.text ++ "%)\\r".toList ++ rest

/-- The segments of a function in front of its shares, around the one of its name. -/
def functionFront (name : Segment) : List Segment :=
  [.nodeId, .blankThen "[label=\"", name, .literal "\\n", .digits, .blankThen "("]

section Shapes
variable {text : List Char} {groups : List (List Char)}

/-- The ways in which a text can be captured as a function in front of its shares; they
are the same whether the name is wanted long or short. -/
theorem captures_functionFront_iff {segments : List Segment} {run : Segment}
    (isRun : run = .longText ∨ run = .shortText) :
    Captures (functionFront run ++ segments) text groups ↔
      ∃ id first name count later second shares,
        text = 'N' :: (id ++ first :: ("[label=\"".toList ++
          (name ++ '\\' :: 'n' :: (count ++ second :: '(' :: shares)))) ∧
        '\n' ∉ id ∧ (Text.isBlank first ∧ '\n' ∉ name ∧ IsDigits count ∧ Text.isBlank second ∧
          Captures segments shares later) ∧
        groups = ('N' :: id) :: name :: count :: later := by
  rcases isRun with rfl | rfl <;> simp [functionFront, IsDigits]

theorem captures_ownShare_iff : Captures [.longText, .literal "%)\\r"] text groups ↔
    ∃ own, (∃ rest, text = own ++ '%' :: (")\\r".toList ++ rest)) ∧ '\n' ∉ own ∧
      groups = [own] := by
  simp

theorem captures_bothShares_iff : Captures [.longText,
      ⟨false, Piece.literal "%)\\rof" ++ [.one .blank]⟩, .longText, .blankThen "(", .longText,
      .literal "%)\\r"] text groups ↔
    ∃ own inclusive fourth coverage third,
      (∃ rest, text = own ++ '%' :: (")\\r".toList ++ ("of".toList ++ third ::
        (inclusive ++ fourth :: '(' :: (coverage ++ '%' :: (")\\r".toList ++ rest)))))) ∧
      '\n' ∉ own ∧ (Text.isBlank third ∧ '\n' ∉ inclusive ∧ Text.isBlank fourth ∧ '\n' ∉ coverage) ∧
      groups = [own, inclusive, coverage] := by
  simp [CharSet.contains]

end Shapes

/-! Where the parts of a line stand. -/

section Parts
variable {id name count rest : List Char} {own : Numeral}

theorem label_not_infix_behind_name (digits : IsDigits count)
    (plain : ¬ "[label=\"".toList <:+: rest) :
    ¬ "[label=\"".toList <:+:
      'n' :: (count ++ ' ' :: '(' :: (own.text ++ '%' :: (")\\r".toList ++ rest))) := by
  intro inside
  have fresh : 'r' ∉ "[label=\"".toList := by decide
  rcases Text.infix_append_cons (y := rest)
    (x := 'n' :: (count ++ ' ' :: '(' :: (own.text ++ ['%', ')', '\\'])))
    fresh (by simpa using inside) with front | behind
  · have bracket : '[' ∉ 'n' :: (count ++ ' ' :: '(' :: (own.text ++ ['%', ')', '\\'])) := by
      simp [digits.not_mem, own.not_mem_text]
    exact Text.not_infix_of_not_mem bracket front
  · exact plain behind

/-- A capture of a line has the id of the line. It has the name and the count of the
line and captures its shares, unless the separator behind its name stands in front of
what it captures as shares. -/
theorem parts_of_ownLine (id_digits : IsDigits id) (plain : IsPlainName name)
    (digits : IsDigits count) (unlabelled : ¬ "[label=\"".toList <:+: rest) {run : Segment}
    (isRun : run = .longText ∨ run = .shortText) {segments : List Segment}
    {groups : List (List Char)}
    (captured : Captures (functionFront run ++ segments) (ownLine id name count own rest) groups) :
    ∃ name' count' front shares later, Captures segments shares later ∧
      own.text ++ '%' :: (")\\r".toList ++ rest) = front ++ shares ∧
      (front = [] ∧ name' = name ∧ count' = count ∨ '\\' ∈ front) ∧
      groups = ('N' :: id) :: name' :: count' :: later := by
  obtain ⟨id', first, name', count', others, second, shares, whole, _,
    ⟨_, _, digits', blank, behind⟩, rfl⟩ := (captures_functionFront_iff isRun).mp captured
  have label_front : '[' ∉ 'N' :: id ++ [' '] := by simp [id_digits.not_mem]
  have label_behind : ¬ "[label=\"".toList <:+: name ++ '\\' :: 'n' ::
      (count ++ ' ' :: '(' :: (own.text ++ '%' :: (")\\r".toList ++ rest))) := by
    intro inside
    rcases Text.infix_append_cons (by decide) inside with front | behind
    · exact plain.label_free front
    · exact label_not_infix_behind_name digits unlabelled behind
  obtain ⟨ids, labels⟩ := Text.separator_between (s := '[') (t := "label=\"".toList)
    (u := 'N' :: id' ++ [first])
    (v := name' ++ '\\' :: 'n' :: (count' ++ second :: '(' :: shares))
    (by decide) (Text.not_infix_of_not_mem label_front) label_behind
    (by simpa [ownLine] using whole.symm)
  obtain rfl := (List.cons.inj (List.append_inj' ids rfl).1).2
  have noBackslash : second ≠ '\\' := by
    rintro rfl
    cases blank
  have separated : name' ++ '\\' :: ('n' :: (count' ++ [second, '(']) ++ shares) =
      name ++ '\\' :: ('n' :: (count ++ [' ', '(']) ++
        (own.text ++ '%' :: (")\\r".toList ++ rest))) := by
    simpa using labels
  rcases Text.separator_at_or_behind (by simp [digits'.not_mem, noBackslash.symm])
    (by simp [digits.not_mem]) (by simpa using plain.count_free count' second digits' blank)
    separated with ⟨named, counted⟩ | ⟨front, later⟩
  · have noDigit : ¬ second.isDigit := by
      intro digit
      cases blank.symm.trans (isBlank_of_isDigit digit)
    obtain ⟨same, _, later⟩ := Text.run_ends digits' digits noDigit (by decide : ¬ ' '.isDigit)
      (v := '(' :: shares) (y := '(' :: (own.text ++ '%' :: (")\\r".toList ++ rest)))
      (by simpa using counted)
    exact ⟨name', count', [], shares, others, behind, (List.cons.inj later).2.symm,
      .inl ⟨rfl, named, same⟩, rfl⟩
  · exact ⟨name', count', front ++ '\\' :: 'n' :: (count' ++ [second, '(']), shares, others, behind,
      by simpa using later, .inr (by simp), rfl⟩

/-- Captured shares are captured behind the name and the count of a line. -/
theorem captures_of_shares (id_digits : IsDigits id) (plain : IsPlainName name)
    (digits : IsDigits count) {run : Segment} (isRun : run = .longText ∨ run = .shortText)
    {segments : List Segment} {later : List (List Char)}
    (captured : Captures segments (own.text ++ '%' :: (")\\r".toList ++ rest)) later) :
    Captures (functionFront run ++ segments) (ownLine id name count own rest)
      (('N' :: id) :: name :: count :: later) :=
  (captures_functionFront_iff isRun).mpr ⟨id, ' ', name, count, later, ' ', _,
    by simp [ownLine], id_digits.not_mem rfl, ⟨rfl, plain.line_free, digits, rfl, captured⟩, rfl⟩

/-- A separator in front of the own share is the one of the line. -/
theorem not_mem_front {front own' : List Char} (share : front ++ own' = own.text) :
    '\\' ∉ front := by
  intro member
  exact own.not_mem_text rfl (by decide) (share ▸ List.mem_append_left own' member)

/-- Where no share ends in the text behind a line, its own share is the one that ends
behind its name. -/
theorem share_of_ownLine (share_free : ¬ "%)\\r".toList <:+: rest) (front : List Char)
    {behind : List Char} (whole : own.text ++ '%' :: (")\\r".toList ++ rest) =
      front ++ '%' :: (")\\r".toList ++ behind)) :
    front = own.text ∧ behind = rest :=
  Text.separator_between (by decide) (Text.not_infix_of_not_mem (own.not_mem_text rfl (by decide)))
    share_free whole.symm

theorem percent_not_mem_shares {inclusive coverage : Numeral} :
    '%' ∉ 'o' :: 'f' :: ' ' :: inclusive.text ++ " (".toList ++ coverage.text := by
  simp [inclusive.not_mem_text, coverage.not_mem_text]

/-- Where one more share ends in the text behind a line, the own share is the first of
the two that end behind the name. -/
theorem share_of_inclusivePart {inclusive coverage : Numeral}
    (share_free : ¬ "%)\\r".toList <:+: rest) (front : List Char) {behind : List Char}
    (another : "%)\\r".toList <:+: behind)
    (whole : own.text ++ '%' :: (")\\r".toList ++ inclusivePart inclusive coverage rest) =
      front ++ '%' :: (")\\r".toList ++ behind)) :
    front = own.text ∧ behind = inclusivePart inclusive coverage rest := by
  rcases Text.separator_at_or_behind (by decide) (by decide)
    (Text.not_infix_of_not_mem (own.not_mem_text rfl (by decide))) whole.symm
    with ⟨share, later⟩ | ⟨front, later⟩
  · exact ⟨share, List.append_cancel_left later⟩
  · obtain ⟨_, rfl⟩ := Text.separator_between (s := '%') (t := ")\\r".toList) (u := front)
      (v := behind) (y := rest) (by decide) (Text.not_infix_of_not_mem percent_not_mem_shares)
      share_free (by simpa [inclusivePart] using later.symm)
    exact absurd another share_free

/-- The shares of the text behind a line are the ones that it is made of. -/
theorem shares_of_inclusivePart {inclusive coverage : Numeral}
    (share_free : ¬ "%)\\r".toList <:+: rest) {inclusive' coverage' rest' : List Char}
    {third fourth : Char} (whole : "of".toList ++ third :: (inclusive' ++ fourth :: '(' ::
      (coverage' ++ '%' :: (")\\r".toList ++ rest'))) = inclusivePart inclusive coverage rest) :
    inclusive' = inclusive.text ∧ coverage' = coverage.text := by
  obtain ⟨shares, _⟩ := Text.separator_between (s := '%') (t := ")\\r".toList)
    (u := "of".toList ++ third :: (inclusive' ++ fourth :: '(' :: coverage')) (v := rest')
    (y := rest) (by decide) (Text.not_infix_of_not_mem percent_not_mem_shares) share_free
    (by simpa [inclusivePart] using whole)
  have bracket : '(' ∉ "of ".toList ++ inclusive.text ++ [' '] := by simp [inclusive.not_mem_text]
  have bracket' : '(' ∉ coverage.text := coverage.not_mem_text rfl (by decide)
  obtain ⟨left, right⟩ := Text.separator_between (s := '(') (t := [])
    (u := "of".toList ++ third :: (inclusive' ++ [fourth])) (v := coverage') (by decide)
    (Text.not_infix_of_not_mem bracket) (Text.not_infix_of_not_mem bracket')
    (by simpa using shares)
  obtain ⟨_, same, _⟩ : third = ' ' ∧ inclusive' = inclusive.text ∧ fourth = ' ' := by
    simpa using left
  exact ⟨same, right⟩

theorem label_not_infix_inclusivePart {inclusive coverage : Numeral}
    (plain : ¬ "[label=\"".toList <:+: rest) :
    ¬ "[label=\"".toList <:+: inclusivePart inclusive coverage rest := by
  intro inside
  have fresh : 'r' ∉ "[label=\"".toList := by decide
  rcases Text.infix_append_cons (y := rest)
    (x := "of ".toList ++ inclusive.text ++ " (".toList ++ coverage.text ++ "%)\\".toList) fresh
    (by simpa [inclusivePart] using inside) with front | behind
  · have bracket : '[' ∉
        "of ".toList ++ inclusive.text ++ " (".toList ++ coverage.text ++ "%)\\".toList := by
      simp [inclusive.not_mem_text, coverage.not_mem_text]
    exact Text.not_infix_of_not_mem bracket front
  · exact plain behind

end Parts

/-! What is captured of a line. -/

section Captured
variable {id name count rest : List Char} (id_digits : IsDigits id) (plain : IsPlainName name)
  (digits : IsDigits count) (plainRest : IsPlainRest rest)
include id_digits plain digits plainRest

theorem captures_ownLine_iff (own : Numeral) (groups : List (List Char)) :
    Captures Pattern.nodeSelfOnly.segments (ownLine id name count own rest) groups ↔
      groups = ['N' :: id, name, count, own.text] := by
  constructor
  · intro captured
    obtain ⟨name', count', front, _, _, behind, shares, parts, rfl⟩ :=
      parts_of_ownLine id_digits plain digits plainRest.label_free (.inl rfl) captured
    obtain ⟨own', ⟨rest', rfl⟩, _, rfl⟩ := captures_ownShare_iff.mp behind
    obtain ⟨share, _⟩ := share_of_ownLine plainRest.share_free (front ++ own')
      (by simpa using shares)
    obtain ⟨rfl, rfl, rfl⟩ := parts.resolve_right (not_mem_front share)
    rw [← share, List.nil_append]
  · rintro rfl
    have line_free : '\n' ∉ own.text := own.not_mem_text rfl (by decide)
    exact captures_of_shares id_digits plain digits (.inl rfl)
      (captures_ownShare_iff.mpr ⟨own.text, ⟨rest, rfl⟩, line_free, rfl⟩)

/-- A line without inclusive amounts is not captured as one with them: no second share
ends behind its name. -/
theorem not_captures_ownLine (own : Numeral) (groups : List (List Char)) :
    ¬ Captures Pattern.nodeWithInclusive.segments (ownLine id name count own rest) groups := by
  intro captured
  obtain ⟨_, _, front, _, _, behind, shares, _⟩ :=
    parts_of_ownLine id_digits plain digits plainRest.label_free (.inr rfl) captured
  obtain ⟨own', inclusive', fourth, coverage', third, ⟨rest', rfl⟩, _⟩ :=
    captures_bothShares_iff.mp behind
  obtain ⟨_, rfl⟩ := share_of_ownLine plainRest.share_free (front ++ own') (by simpa using shares)
  exact plainRest.share_free ⟨"of".toList ++ third :: (inclusive' ++ fourth :: '(' :: coverage'),
    rest', by simp⟩

theorem captures_inclusiveLine_iff (own inclusive coverage : Numeral)
    (groups : List (List Char)) :
    Captures Pattern.nodeWithInclusive.segments
        (ownLine id name count own (inclusivePart inclusive coverage rest)) groups ↔
      groups = ['N' :: id, name, count, own.text, inclusive.text, coverage.text] := by
  constructor
  · intro captured
    obtain ⟨name', count', front, _, _, behind, shares, parts, rfl⟩ :=
      parts_of_ownLine id_digits plain digits
        (label_not_infix_inclusivePart plainRest.label_free) (.inr rfl) captured
    obtain ⟨own', inclusive', fourth, coverage', third, ⟨rest', rfl⟩, _, _, rfl⟩ :=
      captures_bothShares_iff.mp behind
    have another : "%)\\r".toList <:+: "of".toList ++ third :: (inclusive' ++ fourth :: '(' ::
        (coverage' ++ '%' :: (")\\r".toList ++ rest'))) :=
      ⟨"of".toList ++ third :: (inclusive' ++ fourth :: '(' :: coverage'), rest', by simp⟩
    obtain ⟨share, later⟩ := share_of_inclusivePart plainRest.share_free (front ++ own')
      another (by simpa using shares)
    obtain ⟨rfl, rfl, rfl⟩ := parts.resolve_right (not_mem_front share)
    obtain ⟨rfl, rfl⟩ := shares_of_inclusivePart plainRest.share_free later
    rw [← share, List.nil_append]
  · rintro rfl
    have line_free (numeral : Numeral) : '\n' ∉ numeral.text :=
      numeral.not_mem_text rfl (by decide)
    exact captures_of_shares id_digits plain digits (.inr rfl)
      (captures_bothShares_iff.mpr ⟨own.text, inclusive.text, ' ', coverage.text, ' ',
        ⟨rest, by simp [inclusivePart]⟩, line_free own,
        ⟨rfl, line_free inclusive, rfl, line_free coverage⟩, rfl⟩)

end Captured

/-! What a line is read as. -/

section Readings
variable {id name count rest : List Char} {own inclusive coverage : Numeral}
  (id_digits : IsDigits id) (plain : IsPlainName name) (digits : IsDigits count)
  (plainRest : IsPlainRest rest) (counted : (Binary64.ofNat (decimalValue count)).isFinite)
  (own_finite : own.double.isFinite)
include id_digits plain digits plainRest counted own_finite

theorem readLine_ownLine (line : Nat) :
    RecordPatterns.standard.readLine line (Text.encode (ownLine id name count own rest)) =
      .ok (.node {
        id := String.ofList ('N' :: id)
        name := String.ofList name
        selfSamples := digitsAmount count
        selfPercentage := own.double
        hasInclusive := false
        inclusiveSamples := none
        coveragePercentage := own.double }) := by
  have refused : ∀ pattern ∈ [Pattern.nodeWithInclusive],
      pattern.match? (ownLine id name count own rest) = none :=
    List.forall_mem_singleton.mpr <|
      Pattern.match_eq_none rfl (not_captures_ownLine id_digits plain digits plainRest own)
  have captures := captures_ownLine_iff id_digits plain digits plainRest own
  obtain ⟨found, matched, groups⟩ :=
    Pattern.match_of_captures rfl ((captures _).mpr rfl) fun groups => (captures groups).mp
  have position : RecordPatterns.standard.toList[1]? = some Pattern.nodeSelfOnly := rfl
  rw [RecordPatterns.readLine_encode position matched refused]
  simp [RecordKind.ofPriority, RecordPatterns.record, RecordPatterns.field, Match.group_eq groups,
    own.readAmount_text own_finite, readAmount_digits digits counted, bind, Except.bind, pure,
    Except.pure]

theorem readLine_inclusiveLine (inclusive_finite : inclusive.double.isFinite)
    (coverage_finite : coverage.double.isFinite) (line : Nat) :
    RecordPatterns.standard.readLine line
        (Text.encode (ownLine id name count own (inclusivePart inclusive coverage rest))) =
      .ok (.node {
        id := String.ofList ('N' :: id)
        name := String.ofList name
        selfSamples := digitsAmount count
        selfPercentage := own.double
        hasInclusive := true
        inclusiveSamples := some inclusive.double
        coveragePercentage := coverage.double }) := by
  have captures :=
    captures_inclusiveLine_iff id_digits plain digits plainRest own inclusive coverage
  obtain ⟨found, matched, groups⟩ :=
    Pattern.match_of_captures rfl ((captures _).mpr rfl) fun groups => (captures groups).mp
  have position : RecordPatterns.standard.toList[0]? = some Pattern.nodeWithInclusive := rfl
  rw [RecordPatterns.readLine_encode position matched (by simp)]
  simp [RecordKind.ofPriority, RecordPatterns.record, RecordPatterns.field, Match.group_eq groups,
    own.readAmount_text own_finite, inclusive.readAmount_text inclusive_finite,
    coverage.readAmount_text coverage_finite, readAmount_digits digits counted, bind, Except.bind,
    pure, Except.pure]

end Readings

/-- A line of a function is read back as what it is made of: with inclusive amounts if it
states them, and with the own share as the inclusive one otherwise. -/
theorem readLine_functionLines {id name count rest : List Char} {own inclusive coverage : Numeral}
    (id_digits : IsDigits id) (plain : IsPlainName name) (digits : IsDigits count)
    (plainRest : IsPlainRest rest) (counted : (Binary64.ofNat (decimalValue count)).isFinite)
    (own_finite : own.double.isFinite) (inclusive_finite : inclusive.double.isFinite)
    (coverage_finite : coverage.double.isFinite) (line : Nat) :
    RecordPatterns.standard.readLine line
        (Text.encode (ownLine id name count own (inclusivePart inclusive coverage rest))) =
      .ok (.node {
        id := String.ofList ('N' :: id)
        name := String.ofList name
        selfSamples := digitsAmount count
        selfPercentage := own.double
        hasInclusive := true
        inclusiveSamples := some inclusive.double
        coveragePercentage := coverage.double }) ∧
    RecordPatterns.standard.readLine line (Text.encode (ownLine id name count own rest)) =
      .ok (.node {
        id := String.ofList ('N' :: id)
        name := String.ofList name
        selfSamples := digitsAmount count
        selfPercentage := own.double
        hasInclusive := false
        inclusiveSamples := none
        coveragePercentage := own.double }) :=
  ⟨readLine_inclusiveLine id_digits plain digits plainRest counted own_finite inclusive_finite
    coverage_finite line, readLine_ownLine id_digits plain digits plainRest counted own_finite line⟩

/-- A name with quotes, an arrow, a share and a separator in it, a line without a count
of own samples, and a text behind it that looks like a call. -/
theorem readLine_functionLines_crowded :
    RecordPatterns.standard.readLine 1 (Text.encode
        "N1 [label=\"a \"b\" -> [c] 5%)\\r\\n7 x\\n (2.5%)\\rof 12 (50%)\\r\" N2 -> N3".toList) =
      .ok (.node ⟨"N1", "a \"b\" -> [c] 5%)\\r\\n7 x", none, .ofRatio false 25 10, true,
        some (.ofNat 12), .ofNat 50⟩) ∧
    RecordPatterns.standard.readLine 1 (Text.encode
        "N1 [label=\"a \"b\" -> [c] 5%)\\r\\n7 x\\n (2.5%)\\r\" N2 -> N3".toList) =
      .ok (.node ⟨"N1", "a \"b\" -> [c] 5%)\\r\\n7 x", none, .ofRatio false 25 10, false,
        none, .ofRatio false 25 10⟩) := by
  have plain : IsPlainName "a \"b\" -> [c] 5%)\\r\\n7 x".toList := by
    refine ⟨by decide, by decide, fun digits blank _ _ inside => ?_⟩
    exact absurd (inside.subset (by simp : '(' ∈ _)) (by decide)
  have plainRest : IsPlainRest "\" N2 -> N3".toList := ⟨by decide, by decide⟩
  let own : Numeral := ⟨['2'], some ['5'], by decide, by decide, by decide⟩
  let inclusive : Numeral := .ofDigits ['1', '2'] (by decide) (by decide)
  let coverage : Numeral := .ofDigits ['5', '0'] (by decide) (by decide)
  have own_finite : own.double.isFinite := by decide +kernel
  have inclusive_finite : inclusive.double.isFinite := by decide +kernel
  have coverage_finite : coverage.double.isFinite := by decide +kernel
  exact readLine_functionLines (by decide : IsDigits ['1']) plain (by decide : IsDigits [])
    plainRest (by decide +kernel) own_finite inclusive_finite coverage_finite 1

end ProfileGraph
