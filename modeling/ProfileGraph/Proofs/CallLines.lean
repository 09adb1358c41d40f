import ProfileGraph.Proofs.Capturing
import ProfileGraph.Proofs.Decoding
import ProfileGraph.Proofs.Numerals
import ProfileGraph.Proofs.Separators

/-! Lines of calls. A line made of two ids, a count of calls and any text behind
them is read back as these, whatever that text is: only the label of the call opens
with the mark that the pattern looks for, and no label of a function is there. -/
namespace ProfileGraph

/-- The line of a call between two functions with numbered ids. -/
def callLine (source target weight rest : List Char) : List Char :=
  'N' :: source ++ " -> ".toList ++ 'N' :: target ++ " [label=".toList ++ weight ++ ',' :: rest

namespace Pattern
variable {text : List Char} {groups : List (List Char)}

/-- The ways in which a text can be captured as a call. -/
theorem captures_edge_iff : Captures edge.segments text groups ↔
    ∃ source target third weight first second,
      (∃ rest, text = 'N' :: (source ++ first :: '-' :: '>' :: second :: 'N' ::
        (target ++ third :: ("[label=".toList ++ (weight ++ ',' :: rest))))) ∧
      '\n' ∉ source ∧ ((Text.isBlank first ∧ Text.isBlank second) ∧
        '\n' ∉ target ∧ Text.isBlank third ∧ IsDigits weight) ∧
      groups = ['N' :: source, 'N' :: target, weight] := by
  simp [edge, CharSet.contains, IsDigits]

/-- The line of a function holds the mark that opens the label of a function. -/
theorem label_infix_of_captures {segments : List Segment}
    (captured : Captures (.nodeId :: .blankThen "[label=\"" :: segments) text groups) :
    "[label=\"".toList <:+: text := by
  obtain ⟨id, _, _, rfl, _, captured, _⟩ := captures_nodeId_cons.mp captured
  obtain ⟨blank, rest, rfl, _⟩ := captures_blankThen_cons.mp captured
  exact ⟨'N' :: id ++ [blank], rest, by simp⟩

end Pattern

/-- A text is read as the record of the first pattern that matches it. -/
theorem RecordPatterns.readLine_encode {patterns : RecordPatterns} {text : List Char} {n : Nat}
    {pattern : Pattern} {found : Match} (position : patterns.toList[n]? = some pattern)
    (matched : pattern.match? text = some found)
    (refused : ∀ earlier ∈ patterns.toList.take n, earlier.match? text = none) (line : Nat) :
    patterns.readLine line (Text.encode text) = record line (.ofPriority n) found := by
  have kind : patterns.match? text = some (.ofPriority n, found) :=
    matchFrom_eq_some_iff.mpr ⟨n, pattern, position, by rw [Nat.zero_add], matched, refused⟩
  rw [readLine, Text.decode_encode, readText, kind]

section CallLine
variable {source target weight rest : List Char} (source_digits : IsDigits source)
  (target_digits : IsDigits target) (weight_digits : IsDigits weight)
  (plain : ¬ "[label=".toList <:+: rest)
include source_digits target_digits weight_digits plain

theorem label_not_infix_callLine :
    ¬ "[label=\"".toList <:+: callLine source target weight rest := by
  intro inside
  have comma : ',' ∉ "[label=\"".toList := by decide
  rcases Text.infix_append_cons comma inside with front | behind
  · have quote : '"' ∈
        'N' :: source ++ " -> ".toList ++ 'N' :: target ++ " [label=".toList ++ weight :=
      front.subset (by decide)
    simp [source_digits.not_mem, target_digits.not_mem, weight_digits.not_mem] at quote
  · exact plain ((show "[label=".toList <:+: "[label=\"".toList by decide).trans behind)

/-- The line of a call can be captured in one way only. -/
theorem captures_callLine_iff (groups : List (List Char)) :
    Captures Pattern.edge.segments (callLine source target weight rest) groups ↔
      groups = ['N' :: source, 'N' :: target, weight] := by
  rw [Pattern.captures_edge_iff]
  constructor
  · rintro ⟨source', target', third, weight', first, second, ⟨rest', whole⟩, _,
      ⟨_, _, _, weight_digits'⟩, rfl⟩
    -- The label of the call opens with the only mark of labels.
    have label_front : '[' ∉ 'N' :: source ++ " -> ".toList ++ 'N' :: target ++ [' '] := by
      simp [source_digits.not_mem, target_digits.not_mem]
    have label_behind : ¬ "[label=".toList <:+: weight ++ ',' :: rest := by
      intro inside
      rcases Text.infix_append_cons (by decide : ',' ∉ "[label=".toList) inside with front | behind
      · exact Text.not_infix_of_not_mem (weight_digits.not_mem rfl) front
      · exact plain behind
    obtain ⟨ids, counted⟩ := Text.separator_between (s := '[') (t := "label=".toList)
      (u := 'N' :: source' ++ first :: '-' :: '>' :: second :: 'N' :: target' ++ [third])
      (v := weight' ++ ',' :: rest') (y := weight ++ ',' :: rest)
      (by decide) (Text.not_infix_of_not_mem label_front) label_behind
      (by simpa [callLine] using whole.symm)
    obtain ⟨rfl, _⟩ := Text.run_ends weight_digits' weight_digits (by decide) (by decide) counted
    have arrow_front : '-' ∉ 'N' :: source ++ [' '] := by simp [source_digits.not_mem]
    have arrow_behind : '-' ∉ ' ' :: 'N' :: target ++ [' '] := by simp [target_digits.not_mem]
    obtain ⟨left, right⟩ := Text.separator_between (s := '-') (t := ['>'])
      (u := 'N' :: source' ++ [first]) (v := second :: 'N' :: target' ++ [third]) (by decide)
      (Text.not_infix_of_not_mem arrow_front) (Text.not_infix_of_not_mem arrow_behind)
      (by simpa using ids)
    rw [(List.append_inj' left rfl).1, (List.cons.inj (List.append_inj' right rfl).1).2]
  · rintro rfl
    exact ⟨source, target, ' ', weight, ' ', ' ', ⟨rest, by simp [callLine]⟩,
      source_digits.not_mem rfl, ⟨⟨rfl, rfl⟩, target_digits.not_mem rfl, rfl, weight_digits⟩, rfl⟩

/-- A line of a call is read as the call with the number of its digits, or refused
with these digits if the number is out of range. -/
theorem readLine_callLine (line : Nat) (some : weight ≠ []) :
    RecordPatterns.standard.readLine line (Text.encode (callLine source target weight rest)) =
      if decimalValue weight < 2 ^ 64 then
        .ok (.edge ⟨String.ofList ('N' :: source), String.ofList ('N' :: target),
          decimalValue weight⟩)
      else .error (.malformedField line .edge .callCount (String.ofList weight)) := by
  have unlabelled := label_not_infix_callLine source_digits target_digits weight_digits plain
  have refused : ∀ pattern ∈ [Pattern.nodeWithInclusive, Pattern.nodeSelfOnly],
      pattern.match? (callLine source target weight rest) = none := by
    refine List.forall_mem_cons.mpr ⟨?_, List.forall_mem_singleton.mpr ?_⟩ <;>
      exact Pattern.match_eq_none rfl fun _ captured =>
        unlabelled (Pattern.label_infix_of_captures captured)
  have captures := captures_callLine_iff source_digits target_digits weight_digits plain
  obtain ⟨found, matched, groups⟩ :=
    Pattern.match_of_captures rfl ((captures _).mpr rfl) fun groups => (captures groups).mp
  have bound : countBound = 2 ^ 64 := rfl
  have counted := readCount_digits some weight_digits
  rw [bound] at counted
  have position : RecordPatterns.standard.toList[2]? = Option.some Pattern.edge := rfl
  rw [RecordPatterns.readLine_encode position matched refused]
  split
  next small =>
    rw [if_pos small] at counted
    simp [RecordKind.ofPriority, RecordPatterns.record, RecordPatterns.field, counted,
      Match.group_eq groups, bind, Except.bind, pure, Except.pure]
  next large =>
    rw [if_neg large] at counted
    simp [RecordKind.ofPriority, RecordPatterns.record, RecordPatterns.field, counted,
      Match.group_eq groups, bind, Except.bind]

end CallLine
/-- Text behind the count that looks like a call or a function is of no account,
and the first count out of range is refused. -/
theorem readLine_callLine_crowded :
    RecordPatterns.standard.readLine 1
        (Text.encode "N1 -> N22 [label=007,\" N3 -> N4 [label 5%)\\r".toList) =
      .ok (.edge ⟨"N1", "N22", 7⟩) ∧
    RecordPatterns.standard.readLine 2
        (Text.encode "N1 -> N22 [label=18446744073709551616,".toList) =
      .error (.malformedField 2 .edge .callCount "18446744073709551616") := by
  have source : IsDigits "1".toList := by decide
  have target : IsDigits "22".toList := by decide
  have few : IsDigits "007".toList := by decide
  have many : IsDigits "18446744073709551616".toList := by decide
  have plain : ¬ "[label=".toList <:+: "\" N3 -> N4 [label 5%)\\r".toList := by decide
  constructor
  · refine (readLine_callLine source target few plain 1 (by decide)).trans ?_
    rw [if_pos (by decide +kernel)]
    rfl
  · refine (readLine_callLine source target many (by decide : ¬ _ <:+: []) 2 (by decide)).trans ?_
    rw [if_neg (by decide +kernel)]
    rfl

end ProfileGraph
