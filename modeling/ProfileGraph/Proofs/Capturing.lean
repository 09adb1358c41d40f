import ProfileGraph.Proofs.Decompositions

/-! What a pattern captures. Records are read from the texts of groups alone, so
of a cut only the text of each segment counts. A line that can be read segment by
segment in one way is matched, and its groups are those of that one way; this
settles matches without comparing cuts. -/
namespace ProfileGraph

/-- A text made of one part for each of some pieces. -/
def Spells (pieces : List Piece) (text : List Char) : Prop :=
  ∃ parts, List.Forall₂ Piece.Takes pieces parts ∧ parts.flatten = text

/-- The texts that segments can capture from a prefix of a text. -/
def Captures : List Segment → List Char → List (List Char) → Prop
  | [], _, groups => groups = []
  | segment :: segments, text, groups => ∃ part rest later, text = part ++ rest ∧
      Spells segment.pieces part ∧ Captures segments rest later ∧
      groups = if segment.captured then part :: later else later

/-! What pieces spell. -/

@[simp]
theorem spells_nil {text : List Char} : Spells [] text ↔ text = [] := by
  simp [Spells, List.forall₂_nil_left_iff, eq_comm]

@[simp]
theorem spells_one_cons {set : CharSet} {pieces : List Piece} {text : List Char} :
    Spells (.one set :: pieces) text ↔
      ∃ c rest, text = c :: rest ∧ set.contains c ∧ Spells pieces rest := by
  constructor
  · rintro ⟨_, taken, rfl⟩
    obtain ⟨_, parts, ⟨c, rfl, inside⟩, later, rfl⟩ := List.forall₂_cons_left_iff.mp taken
    exact ⟨c, parts.flatten, rfl, inside, parts, later, rfl⟩
  · rintro ⟨c, _, rfl, inside, parts, taken, rfl⟩
    exact ⟨[c] :: parts, .cons ⟨c, rfl, inside⟩ taken, rfl⟩

/-- A literal text is spelled by itself only. -/
@[simp]
theorem spells_literal_append {literal : String} {pieces : List Piece} {text : List Char} :
    Spells (Piece.literal literal ++ pieces) text ↔
      ∃ rest, text = literal.toList ++ rest ∧ Spells pieces rest := by
  rw [Piece.literal]
  induction literal.toList generalizing text with
  | nil => simp
  | cons c characters ih =>
    rw [List.map_cons, List.cons_append, spells_one_cons]
    constructor
    · rintro ⟨d, rest, rfl, same, spelled⟩
      obtain ⟨rest, rfl, behind⟩ := ih.mp spelled
      exact ⟨rest, by rw [eq_of_beq same, List.cons_append], behind⟩
    · rintro ⟨rest, rfl, spelled⟩
      exact ⟨c, characters ++ rest, rfl, beq_self_eq_true c, ih.mpr ⟨rest, rfl, spelled⟩⟩

theorem spells_literal {literal : String} {text : List Char} :
    Spells (Piece.literal literal) text ↔ text = literal.toList := by
  rw [← List.append_nil (Piece.literal literal), spells_literal_append]
  simp [spells_nil]

theorem spells_longRun {set : CharSet} {text : List Char} :
    Spells [.longRun set] text ↔ ∀ c ∈ text, set.contains c := by
  constructor
  · rintro ⟨_, taken, rfl⟩
    obtain ⟨part, _, inside, last, rfl⟩ := List.forall₂_cons_left_iff.mp taken
    obtain rfl := List.forall₂_nil_left_iff.mp last
    simpa [Piece.Takes] using inside
  · intro inside
    exact ⟨[text], .cons inside .nil, by simp⟩

theorem spells_shortRun {set : CharSet} {text : List Char} :
    Spells [.shortRun set] text ↔ ∀ c ∈ text, set.contains c := by
  rw [← spells_longRun, Spells, Spells]
  simp only [List.forall₂_cons_left_iff, List.forall₂_nil_left_iff, Piece.Takes]

/-! What segments capture. -/

@[simp]
theorem captures_nil {text : List Char} {groups : List (List Char)} :
    Captures [] text groups ↔ groups = [] := Iff.rfl

section Segments
variable {segments : List Segment} {pieces : List Piece} {text : List Char}
  {groups : List (List Char)}

theorem captures_inside_cons : Captures (⟨true, pieces⟩ :: segments) text groups ↔
    ∃ part rest later, text = part ++ rest ∧ Spells pieces part ∧ Captures segments rest later ∧
      groups = part :: later := Iff.rfl

@[simp]
theorem captures_outside_cons : Captures (⟨false, pieces⟩ :: segments) text groups ↔
    ∃ part rest, text = part ++ rest ∧ Spells pieces part ∧ Captures segments rest groups := by
  constructor
  · rintro ⟨part, rest, _, whole, spelled, captured, rfl⟩
    exact ⟨part, rest, whole, spelled, captured⟩
  · rintro ⟨part, rest, whole, spelled, captured⟩
    exact ⟨part, rest, groups, whole, spelled, captured, rfl⟩

theorem forall_withinLine_iff {part : List Char} :
    (∀ c ∈ part, CharSet.withinLine.contains c) ↔ '\n' ∉ part := by
  constructor
  · exact fun inside member => absurd (inside '\n' member) (by decide)
  · rintro missing c member
    exact bne_iff_ne.mpr fun same => missing (same ▸ member)

@[simp]
theorem captures_nodeId_cons : Captures (.nodeId :: segments) text groups ↔
    ∃ id rest later, text = 'N' :: (id ++ rest) ∧ '\n' ∉ id ∧ Captures segments rest later ∧
      groups = ('N' :: id) :: later := by
  rw [Segment.nodeId, captures_inside_cons]
  constructor
  · rintro ⟨part, rest, later, rfl, spelled, captured, rfl⟩
    obtain ⟨c, id, rfl, first, inside⟩ := spells_one_cons.mp spelled
    obtain rfl := eq_of_beq first
    exact ⟨id, rest, later, rfl, forall_withinLine_iff.mp (spells_longRun.mp inside), captured, rfl⟩
  · rintro ⟨id, rest, later, rfl, inside, captured, rfl⟩
    have spelled := spells_longRun.mpr (forall_withinLine_iff.mpr inside)
    exact ⟨'N' :: id, rest, later, rfl, spells_one_cons.mpr ⟨'N', id, rfl, rfl, spelled⟩, captured,
      rfl⟩

@[simp]
theorem captures_longText_cons : Captures (.longText :: segments) text groups ↔
    ∃ part rest later, text = part ++ rest ∧ '\n' ∉ part ∧ Captures segments rest later ∧
      groups = part :: later := by
  simp only [Segment.longText, captures_inside_cons, spells_longRun, forall_withinLine_iff]

@[simp]
theorem captures_shortText_cons : Captures (.shortText :: segments) text groups ↔
    ∃ part rest later, text = part ++ rest ∧ '\n' ∉ part ∧ Captures segments rest later ∧
      groups = part :: later := by
  simp only [Segment.shortText, captures_inside_cons, spells_shortRun, forall_withinLine_iff]

@[simp]
theorem captures_digits_cons : Captures (.digits :: segments) text groups ↔
    ∃ digits rest later, text = digits ++ rest ∧ (∀ c ∈ digits, c.isDigit) ∧
      Captures segments rest later ∧ groups = digits :: later := by
  simp only [Segment.digits, captures_inside_cons, spells_longRun]
  exact Iff.rfl

@[simp]
theorem captures_literal_cons {literal : String} :
    Captures (.literal literal :: segments) text groups ↔
      ∃ rest, text = literal.toList ++ rest ∧ Captures segments rest groups := by
  simp only [Segment.literal, captures_outside_cons, spells_literal]
  constructor
  · rintro ⟨_, rest, rfl, rfl, captured⟩
    exact ⟨rest, rfl, captured⟩
  · rintro ⟨rest, rfl, captured⟩
    exact ⟨_, rest, rfl, rfl, captured⟩

@[simp]
theorem captures_blankThen_cons {literal : String} :
    Captures (.blankThen literal :: segments) text groups ↔
      ∃ blank rest, text = blank :: (literal.toList ++ rest) ∧ Text.isBlank blank ∧
        Captures segments rest groups := by
  rw [Segment.blankThen, captures_outside_cons]
  constructor
  · rintro ⟨_, rest, rfl, spelled, captured⟩
    obtain ⟨blank, _, rfl, solid, literal⟩ := spells_one_cons.mp spelled
    obtain rfl := spells_literal.mp literal
    exact ⟨blank, rest, rfl, solid, captured⟩
  · rintro ⟨blank, rest, rfl, solid, captured⟩
    exact ⟨_, rest, rfl, spells_one_cons.mpr ⟨blank, _, rfl, solid, spells_literal.mpr rfl⟩,
      captured⟩

end Segments

/-! From cuts to captured texts and back. -/

variable {segments : List Segment} {text : List Char}

theorem captures_of_isCut {parts : List (List Char)}
    (cut : IsCut (segments.flatMap (·.pieces)) text parts) (start : Nat) :
    Captures segments text ((groupStretches segments parts start).map (·.text)) := by
  induction segments generalizing text parts start with
  | nil => rfl
  | cons segment segments ih =>
    obtain ⟨taken, rest, rfl⟩ := cut
    rw [List.flatMap_cons] at taken
    have here : List.Forall₂ Piece.Takes segment.pieces (parts.take segment.pieces.length) := by
      simpa using List.forall₂_take segment.pieces.length taken
    have behind : List.Forall₂ Piece.Takes (segments.flatMap (·.pieces))
        (parts.drop segment.pieces.length) := by
      simpa using List.forall₂_drop segment.pieces.length taken
    have cut : IsCut (segments.flatMap (·.pieces))
        ((parts.drop segment.pieces.length).flatten ++ rest) (parts.drop segment.pieces.length) :=
      ⟨behind, List.prefix_append ..⟩
    have later := ih cut
      (Stretch.from start (parts.take segment.pieces.length).flatten).stop
    refine ⟨_, _, _, ?_, ⟨_, here, rfl⟩, later, ?_⟩
    · rw [← List.append_assoc, ← List.flatten_append, List.take_append_drop]
    · rw [groupStretches]
      split <;> rfl

theorem exists_isCut_of_captures {groups : List (List Char)}
    (captured : Captures segments text groups) :
    ∃ parts, IsCut (segments.flatMap (·.pieces)) text parts := by
  induction segments generalizing text groups with
  | nil => exact ⟨[], isCut_nil.mpr rfl⟩
  | cons segment segments ih =>
    obtain ⟨_, _, later, rfl, ⟨parts, taken, rfl⟩, captured, _⟩ := captured
    obtain ⟨others, behind, rest, rfl⟩ := ih captured
    refine ⟨parts ++ others, ?_, rest, by simp⟩
    rw [List.flatMap_cons]
    exact List.rel_append taken behind

namespace Pattern
variable {pattern : Pattern} {groups : List (List Char)}

theorem captures_of_match (anchored : pattern.anchored) {found : Match}
    (matched : pattern.match? text = some found) :
    Captures pattern.segments text (found.groups.map (·.text)) := by
  rw [match_of_anchored anchored, matchAt?] at matched
  obtain ⟨parts, decomposed, rfl⟩ := Option.map_eq_some_iff.mp matched
  exact captures_of_isCut (isPreferredCut_of_decompose decomposed).cut 0

/-- A text that can be captured in one way only is captured in that way. -/
theorem match_of_captures (anchored : pattern.anchored)
    (captured : Captures pattern.segments text groups)
    (only : ∀ others, Captures pattern.segments text others → others = groups) :
    ∃ found, pattern.match? text = some found ∧ found.groups.map (·.text) = groups := by
  have some := (match_isSome_iff anchored).mpr (exists_isCut_of_captures captured)
  obtain ⟨found, matched⟩ := Option.isSome_iff_exists.mp some
  exact ⟨found, matched, only _ (captures_of_match anchored matched)⟩

theorem match_eq_none (anchored : pattern.anchored)
    (uncaptured : ∀ groups, ¬ Captures pattern.segments text groups) :
    pattern.match? text = none := by
  refine Option.eq_none_iff_forall_ne_some.mpr fun found matched => ?_
  exact uncaptured _ (captures_of_match anchored matched)

end Pattern

/-- The text of a group, read off the texts of all groups. -/
theorem Match.group_eq {found : Match} {groups : List (List Char)}
    (captured : found.groups.map (·.text) = groups) (number : Nat) :
    found.group number = (groups[number - 1]?).getD [] := by
  rw [← captured, List.getElem?_map, Match.group]
  cases found.groups[number - 1]? <;> rfl

end ProfileGraph
