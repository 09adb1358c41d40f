import Mathlib.Data.List.Forall2
import ProfileGraph.Record.Patterns

/-! Decompositions of a text. A pattern matches where a prefix of the text can be
cut into one part for each of its pieces. Cuts are compared at the first parts
that differ, where a long run prefers the longer part and a short run the
shorter one; of all cuts the matcher takes the one that precedes all others. -/
namespace ProfileGraph

/-! Cuts and their order. -/

/-- The texts that a piece stands for. -/
def Piece.Takes : Piece → List Char → Prop
  | .one set, part => ∃ c, part = [c] ∧ set.contains c
  | .longRun set, part => ∀ c ∈ part, set.contains c
  | .shortRun set, part => ∀ c ∈ part, set.contains c

/-- Which of two parts a piece takes rather than the other. -/
def Piece.Prefers : Piece → List Char → List Char → Prop
  | .one _, _, _ => False
  | .longRun _, part, other => other.length < part.length
  | .shortRun _, part, other => part.length < other.length

/-- A prefix of a text, cut into one part for each piece. -/
def IsCut (pieces : List Piece) (text : List Char) (parts : List (List Char)) : Prop :=
  List.Forall₂ Piece.Takes pieces parts ∧ parts.flatten <+: text

/-- One cut comes before another if it has the preferred part where they first
differ. -/
inductive Precedes : List Piece → List (List Char) → List (List Char) → Prop
  | here {piece : Piece} {pieces : List Piece} {part other : List Char}
      {parts others : List (List Char)} :
      piece.Prefers part other → Precedes (piece :: pieces) (part :: parts) (other :: others)
  | later {piece : Piece} {pieces : List Piece} {part : List Char}
      {parts others : List (List Char)} :
      Precedes pieces parts others → Precedes (piece :: pieces) (part :: parts) (part :: others)

/-- The cut that comes before all others. -/
structure IsPreferredCut (pieces : List Piece) (text : List Char) (parts : List (List Char)) :
    Prop where
  cut : IsCut pieces text parts
  first : ∀ others, IsCut pieces text others → others = parts ∨ Precedes pieces parts others

theorem Piece.Prefers.asymm {piece : Piece} {part other : List Char}
    (prefers : piece.Prefers part other) : ¬ piece.Prefers other part := by
  cases piece with
  | one set => exact prefers.elim
  | longRun set => exact Nat.lt_asymm prefers
  | shortRun set => exact Nat.lt_asymm prefers

theorem Precedes.asymm {pieces : List Piece} {parts others : List (List Char)}
    (precedes : Precedes pieces parts others) : ¬ Precedes pieces others parts := by
  induction precedes with
  | here prefers =>
    rintro (prefers' | _)
    · exact prefers.asymm prefers'
    · exact prefers.asymm prefers
  | later _ ih =>
    rintro (prefers | precedes)
    · exact prefers.asymm prefers
    · exact ih precedes

theorem IsPreferredCut.unique {pieces : List Piece} {text : List Char}
    {parts others : List (List Char)} (preferred : IsPreferredCut pieces text parts)
    (other : IsPreferredCut pieces text others) : others = parts := by
  rcases preferred.first others other.cut with same | precedes
  · exact same
  · rcases other.first parts preferred.cut with same | precedes'
    · exact same.symm
    · exact absurd precedes' precedes.asymm

/-- A piece takes a part off the front of a text and leaves the rest. -/
def Piece.CutsOff (piece : Piece) (text part rest : List Char) : Prop :=
  piece.Takes part ∧ text = part ++ rest

theorem isCut_nil {text : List Char} {parts : List (List Char)} :
    IsCut [] text parts ↔ parts = [] := by
  rw [IsCut, List.forall₂_nil_left_iff, and_iff_left_of_imp]
  rintro rfl
  exact List.nil_prefix

theorem isCut_cons {piece : Piece} {pieces : List Piece} {text : List Char}
    {parts : List (List Char)} : IsCut (piece :: pieces) text parts ↔
      ∃ part rest later, parts = part :: later ∧ piece.CutsOff text part rest ∧
        IsCut pieces rest later := by
  constructor
  · rintro ⟨taken, left, whole⟩
    obtain ⟨part, later, first, others, rfl⟩ := List.forall₂_cons_left_iff.mp taken
    refine ⟨part, later.flatten ++ left, later, rfl, ⟨first, ?_⟩, others, List.prefix_append ..⟩
    rw [← whole, List.flatten_cons, List.append_assoc]
  · rintro ⟨part, rest, later, rfl, ⟨first, rfl⟩, others, left, rfl⟩
    refine ⟨.cons first others, left, ?_⟩
    rw [List.flatten_cons, List.append_assoc]

/-! One piece. -/

section Piece
variable {β : Type} {set : CharSet} {rest? : List Char → Option β} {c : Char}
  {text part rest : List Char}

/-- An answer to the question how to cut off the part of a piece such that the
rest of the text is accepted: no part leaves such a rest, or this part does and
is preferred to all others that do. -/
def Piece.Answers (piece : Piece) (rest? : List Char → Option β) (text : List Char) :
    Option (List Char × β) → Prop
  | none => ∀ part rest, piece.CutsOff text part rest → rest? rest = none
  | some (part, result) => ∃ rest, piece.CutsOff text part rest ∧ rest? rest = some result ∧
      ∀ other left, piece.CutsOff text other left → (rest? left).isSome →
        other = part ∨ piece.Prefers part other

/-- What a run can take off a text: nothing, or the first character and what
the run takes off the text behind it. -/
theorem cutsOff_longRun_cons : (Piece.longRun set).CutsOff (c :: text) part rest ↔
    part = [] ∧ rest = c :: text ∨
      ∃ later, part = c :: later ∧ set.contains c ∧
        (Piece.longRun set).CutsOff text later rest := by
  constructor
  · rintro ⟨taken, whole⟩
    cases part with
    | nil => exact .inl ⟨rfl, whole.symm⟩
    | cons d later =>
      obtain ⟨rfl, rfl⟩ := List.cons.inj whole
      obtain ⟨first, others⟩ := List.forall_mem_cons.mp taken
      exact .inr ⟨later, rfl, first, others, rfl⟩
  · rintro (⟨rfl, rfl⟩ | ⟨later, rfl, first, taken, rfl⟩)
    · exact ⟨by simp [Piece.Takes], rfl⟩
    · exact ⟨List.forall_mem_cons.mpr ⟨first, taken⟩, rfl⟩

theorem cutsOff_longRun_nil :
    (Piece.longRun set).CutsOff [] part rest ↔ part = [] ∧ rest = [] := by
  constructor
  · rintro ⟨_, whole⟩
    exact List.append_eq_nil_iff.mp whole.symm
  · rintro ⟨rfl, rfl⟩
    exact ⟨by simp [Piece.Takes], rfl⟩

/-- The empty part is an answer where no other leaves an accepted rest. -/
theorem answers_longRun_nil_part (alone : ∀ part rest,
      (Piece.longRun set).CutsOff text part rest → (rest? rest).isSome → part = []) :
    (Piece.longRun set).Answers rest? text ((rest? text).map (([], ·))) := by
  have cuts : (Piece.longRun set).CutsOff text [] text := ⟨by simp [Piece.Takes], rfl⟩
  cases accepted : rest? text with
  | none =>
    intro part rest cutsOff
    refine Option.not_isSome_iff_eq_none.mp fun some => ?_
    obtain rfl := alone part rest cutsOff some
    obtain rfl : text = rest := cutsOff.2
    rw [accepted] at some
    cases some
  | some result =>
    refine ⟨text, cuts, accepted, fun other left cutsOff some => ?_⟩
    exact .inl (alone other left cutsOff some)

theorem answers_longestRun (set : CharSet) (rest? : List Char → Option β) (text : List Char) :
    (Piece.longRun set).Answers rest? text (longestRun set rest? text) := by
  induction text with
  | nil =>
    refine answers_longRun_nil_part fun part rest cutsOff _ => ?_
    exact (cutsOff_longRun_nil.mp cutsOff).1
  | cons c text ih =>
    rw [longestRun]
    split
    next taken result found =>
      obtain ⟨inside, found⟩ := Option.ite_none_right_eq_some.mp found
      rw [found] at ih
      obtain ⟨rest, ⟨fills, rfl⟩, accepted, first⟩ := ih
      refine ⟨rest, ⟨List.forall_mem_cons.mpr ⟨inside, fills⟩, rfl⟩, accepted, ?_⟩
      intro other left cutsOff some
      rcases cutsOff_longRun_cons.mp cutsOff with ⟨rfl, _⟩ | ⟨later, rfl, _, cutsOff⟩
      · exact .inr (Nat.succ_pos _)
      · exact (first later left cutsOff some).imp (congrArg (c :: ·)) Nat.succ_lt_succ
    next missing =>
      refine answers_longRun_nil_part fun part rest cutsOff some => ?_
      rcases cutsOff_longRun_cons.mp cutsOff with ⟨rfl, _⟩ | ⟨later, rfl, inside, cutsOff⟩
      · rfl
      · rw [if_pos inside] at missing
        rw [missing] at ih
        rw [ih later rest cutsOff] at some
        cases some

theorem answers_shortestRun (set : CharSet) (rest? : List Char → Option β) (text : List Char) :
    (Piece.shortRun set).Answers rest? text (shortestRun set rest? text) := by
  -- Short runs take what long ones do, so that the lemmas on those apply.
  induction text with
  | nil =>
    rw [shortestRun]
    cases accepted : rest? [] with
    | none =>
      intro part rest cutsOff
      obtain ⟨_, rfl⟩ := cutsOff_longRun_nil.mp cutsOff
      exact accepted
    | some result =>
      refine ⟨[], ⟨by simp [Piece.Takes], rfl⟩, accepted, fun other left cutsOff _ => ?_⟩
      exact .inl (cutsOff_longRun_nil.mp cutsOff).1
  | cons c text ih =>
    rw [shortestRun]
    split
    next result accepted =>
      refine ⟨c :: text, ⟨by simp [Piece.Takes], rfl⟩, accepted, fun other left cutsOff _ => ?_⟩
      cases other with
      | nil => exact .inl rfl
      | cons => exact .inr (Nat.succ_pos _)
    next refused =>
      split
      next inside =>
        cases ran : shortestRun set rest? text with
        | none =>
          rw [ran] at ih
          intro part rest cutsOff
          rcases cutsOff_longRun_cons.mp cutsOff with ⟨_, rfl⟩ | ⟨later, _, _, cutsOff⟩
          · exact refused
          · exact ih later rest cutsOff
        | some found =>
          rw [ran] at ih
          obtain ⟨rest, ⟨fills, rfl⟩, accepted, first⟩ := ih
          refine ⟨rest, ⟨List.forall_mem_cons.mpr ⟨inside, fills⟩, rfl⟩, accepted, ?_⟩
          intro other left cutsOff some
          rcases cutsOff_longRun_cons.mp cutsOff with ⟨_, rfl⟩ | ⟨later, rfl, _, cutsOff⟩
          · rw [refused] at some
            cases some
          · exact (first later left cutsOff some).imp (congrArg (c :: ·)) Nat.succ_lt_succ
      next outside =>
        intro part rest cutsOff
        rcases cutsOff_longRun_cons.mp cutsOff with ⟨_, rfl⟩ | ⟨_, _, inside, _⟩
        · exact refused
        · exact absurd inside outside

theorem answers_cut (piece : Piece) (rest? : List Char → Option β) (text : List Char) :
    piece.Answers rest? text (piece.cut? rest? text) := by
  cases piece with
  | one set =>
    cases text with
    | nil =>
      rintro part rest ⟨⟨c, rfl, _⟩, whole⟩
      cases whole
    | cons c text =>
      have only : ∀ {part rest}, (Piece.one set).CutsOff (c :: text) part rest →
          part = [c] ∧ rest = text ∧ set.contains c := by
        rintro part rest ⟨⟨d, rfl, inside⟩, whole⟩
        obtain ⟨rfl, rfl⟩ := List.cons.inj whole
        exact ⟨rfl, rfl, inside⟩
      rw [Piece.cut?]
      split
      next inside =>
        cases accepted : rest? text with
        | none =>
          intro part rest cutsOff
          obtain ⟨_, rfl, _⟩ := only cutsOff
          exact accepted
        | some result =>
          refine ⟨text, ⟨⟨c, rfl, inside⟩, rfl⟩, accepted, fun other left cutsOff _ => ?_⟩
          exact .inl (only cutsOff).1
      next outside => exact fun part rest cutsOff => absurd (only cutsOff).2.2 outside
  | longRun set => exact answers_longestRun set rest? text
  | shortRun set => exact answers_shortestRun set rest? text

end Piece

/-! All pieces. -/

variable {pieces : List Piece} {text : List Char} {parts : List (List Char)}

/-- The matcher answers with the preferred cut, if there is a cut at all. -/
theorem decompose_spec (pieces : List Piece) (text : List Char) :
    match decompose? pieces text with
    | some parts => IsPreferredCut pieces text parts
    | none => ∀ parts, ¬ IsCut pieces text parts := by
  induction pieces generalizing text with
  | nil => exact ⟨isCut_nil.mpr rfl, fun others cut => .inl (isCut_nil.mp cut)⟩
  | cons piece pieces ih =>
    -- A rest is accepted exactly if the later pieces can cut it.
    have accepted : ∀ {rest later}, IsCut pieces rest later → (decompose? pieces rest).isSome := by
      intro rest later cut
      refine Option.isSome_iff_ne_none.mpr fun none => ?_
      have refused := ih rest
      rw [none] at refused
      exact refused later cut
    have answers := answers_cut piece (decompose? pieces) text
    rw [decompose?]
    cases found : piece.cut? (decompose? pieces) text with
    | none =>
      rw [found] at answers
      rintro _ cut
      obtain ⟨part, rest, later, rfl, cutsOff, cut⟩ := isCut_cons.mp cut
      have some := accepted cut
      rw [answers part rest cutsOff] at some
      cases some
    | some answer =>
      obtain ⟨part, parts⟩ := answer
      rw [found] at answers
      obtain ⟨rest, cutsOff, decomposed, first⟩ := answers
      have preferred := ih rest
      rw [decomposed] at preferred
      refine ⟨isCut_cons.mpr ⟨part, rest, parts, rfl, cutsOff, preferred.cut⟩, ?_⟩
      intro others cut
      obtain ⟨other, left, later, rfl, cutsOff', cut⟩ := isCut_cons.mp cut
      rcases first other left cutsOff' (accepted cut) with rfl | prefers
      · obtain rfl := List.append_cancel_left (cutsOff.2.symm.trans cutsOff'.2)
        exact (preferred.first later cut).imp (congrArg (other :: ·)) .later
      · exact .inr (.here prefers)

theorem isPreferredCut_of_decompose (found : decompose? pieces text = some parts) :
    IsPreferredCut pieces text parts := by
  have spec := decompose_spec pieces text
  rwa [found] at spec

theorem decompose_eq_none_iff :
    decompose? pieces text = none ↔ ∀ parts, ¬ IsCut pieces text parts := by
  have spec := decompose_spec pieces text
  constructor
  · intro none
    rwa [none] at spec
  · intro uncut
    refine Option.eq_none_iff_forall_ne_some.mpr fun parts found => ?_
    exact uncut parts (isPreferredCut_of_decompose found).cut

/-! Matches. -/

theorem byteLength_append (left right : List Char) :
    byteLength (left ++ right) = byteLength left + byteLength right := by
  induction left with
  | nil => exact (Nat.zero_add _).symm
  | cons c left ih => rw [List.cons_append, byteLength, ih, byteLength, Nat.add_assoc]

/-- The number of pieces in some segments. -/
def pieceCount (segments : List Segment) : Nat := (segments.flatMap (·.pieces)).length

/-- What a match says of a text that a pattern cuts into parts: it is the text of
all parts, and its groups are those of the captured segments in their order, each
with the parts of the pieces of its segment and behind the bytes of all parts
before them. -/
structure Match.Reports (found : Match) (pattern : Pattern) (parts : List (List Char)) : Prop where
  whole_eq : found.whole = Stretch.from 0 parts.flatten
  length_eq : found.groups.length = pattern.segments.countP (·.captured)
  group_eq : ∀ before segment after, pattern.segments = before ++ segment :: after →
    segment.captured →
    found.groups[before.countP (·.captured)]? = some
      (Stretch.from (byteLength (parts.take (pieceCount before)).flatten)
        ((parts.drop (pieceCount before)).take segment.pieces.length).flatten)

theorem length_groupStretches (segments : List Segment) (parts : List (List Char)) (start : Nat) :
    (groupStretches segments parts start).length = segments.countP (·.captured) := by
  induction segments generalizing parts start with
  | nil => rfl
  | cons segment segments ih =>
    rw [groupStretches, List.countP_cons]
    split
    · rw [List.length_cons, ih]
    · rw [ih, Nat.add_zero]

theorem getElem_groupStretches {segment : Segment} (captured : segment.captured)
    (before after : List Segment) (parts : List (List Char)) (start : Nat) :
    (groupStretches (before ++ segment :: after) parts start)[before.countP (·.captured)]? =
      some (Stretch.from (start + byteLength (parts.take (pieceCount before)).flatten)
        ((parts.drop (pieceCount before)).take segment.pieces.length).flatten) := by
  induction before generalizing parts start with
  | nil =>
    rw [List.nil_append, groupStretches]
    rw [if_pos captured]
    rfl
  | cons first before ih =>
    have ahead : (parts.take (pieceCount (first :: before))).flatten =
        (parts.take first.pieces.length).flatten ++
          ((parts.drop first.pieces.length).take (pieceCount before)).flatten := by
      rw [pieceCount, List.flatMap_cons, List.length_append, List.take_add, List.flatten_append,
        pieceCount]
    have behind : parts.drop (pieceCount (first :: before)) =
        (parts.drop first.pieces.length).drop (pieceCount before) := by
      rw [pieceCount, List.flatMap_cons, List.length_append, List.drop_drop, pieceCount]
    have there := ih (parts.drop first.pieces.length)
      (Stretch.from start (parts.take first.pieces.length).flatten).stop
    rw [ahead, behind, byteLength_append, ← Nat.add_assoc, List.cons_append, groupStretches,
      List.countP_cons]
    split
    · rw [List.getElem?_cons_succ]
      exact there
    · exact there

namespace Pattern
variable {pattern : Pattern}

/-- An anchored pattern is tried at the start of a text only. -/
theorem match_of_anchored (anchored : pattern.anchored) (text : List Char) :
    pattern.match? text = pattern.matchAt? 0 text := by
  rw [match?]
  cases text with
  | nil => rfl
  | cons c text =>
    rw [search?, if_pos anchored]
    cases pattern.matchAt? 0 (c :: text) <;> rfl

theorem match_isSome_iff (anchored : pattern.anchored) {text : List Char} :
    (pattern.match? text).isSome ↔ ∃ parts, IsCut pattern.pieces text parts := by
  rw [match_of_anchored anchored, matchAt?, Option.isSome_map, ← not_iff_not,
    Option.not_isSome_iff_eq_none, decompose_eq_none_iff, not_exists]

theorem match_prefers (anchored : pattern.anchored) {text : List Char} {found : Match}
    (matched : pattern.match? text = some found) :
    ∃! parts, IsPreferredCut pattern.pieces text parts ∧ found.Reports pattern parts := by
  rw [match_of_anchored anchored, matchAt?] at matched
  obtain ⟨parts, decomposed, rfl⟩ := Option.map_eq_some_iff.mp matched
  have preferred := isPreferredCut_of_decompose decomposed
  refine ⟨parts, ⟨preferred, rfl, length_groupStretches pattern.segments parts 0, ?_⟩,
    fun others other => preferred.unique other.1⟩
  intro before segment after split captured
  have there := getElem_groupStretches captured before after parts 0
  rwa [← split, Nat.zero_add] at there

end Pattern

/-! Patterns in their order. -/

namespace RecordPatterns
variable {text : List Char} {kind : RecordKind} {found : Match}

theorem matchFrom_eq_some_iff {position : Nat} {patterns : List Pattern} :
    matchFrom? text position patterns = some (kind, found) ↔
      ∃ (n : Nat) (pattern : Pattern), patterns[n]? = some pattern ∧
        kind = .ofPriority (position + n) ∧ pattern.match? text = some found ∧
        ∀ earlier ∈ patterns.take n, earlier.match? text = none := by
  induction patterns generalizing position with
  | nil => simp [matchFrom?]
  | cons first later ih =>
    rw [matchFrom?]
    split
    next other matched =>
      constructor
      · intro same
        cases same
        exact ⟨0, first, rfl, rfl, matched, by simp⟩
      · rintro ⟨n, pattern, at_n, rfl, there, unmatched⟩
        cases n with
        | zero =>
          cases at_n
          cases matched.symm.trans there
          rfl
        | succ n =>
          have refused := unmatched first (by simp)
          cases matched.symm.trans refused
    next refused =>
      rw [ih]
      constructor
      · rintro ⟨n, pattern, at_n, rfl, there, unmatched⟩
        refine ⟨n + 1, pattern, at_n, by rw [Nat.add_right_comm, Nat.add_assoc], there, ?_⟩
        exact List.forall_mem_cons.mpr ⟨refused, unmatched⟩
      · rintro ⟨n, pattern, at_n, rfl, there, unmatched⟩
        cases n with
        | zero =>
          cases at_n
          cases refused.symm.trans there
        | succ n =>
          rw [List.take_succ_cons, List.forall_mem_cons] at unmatched
          exact ⟨n, pattern, at_n, by rw [Nat.add_right_comm, Nat.add_assoc], there, unmatched.2⟩

theorem matchFrom_eq_none_iff {position : Nat} {patterns : List Pattern} :
    matchFrom? text position patterns = none ↔
      ∀ pattern ∈ patterns, pattern.match? text = none := by
  induction patterns generalizing position with
  | nil => simp [matchFrom?]
  | cons first later ih =>
    rw [matchFrom?, List.forall_mem_cons]
    cases first.match? text with
    | some found => simp
    | none => simpa using ih

theorem anchored_of_standard {pattern : Pattern} (member : pattern ∈ standard.toList) :
    pattern.anchored := by
  simp only [standard, toList, List.mem_cons, List.not_mem_nil, or_false] at member
  rcases member with rfl | rfl | rfl | rfl <;> rfl

/-- The standard patterns and what they match. They are the ones that their texts
describe. Each of them matches a line exactly if a prefix of the line can be cut
into its pieces, and then the groups are those of the one preferred cut. A line is
of the kind of the first pattern that matches it, with the groups of that pattern,
and of no kind only if none does. -/
theorem standard_match_prefers (line : List Char) :
    patternTexts.map Pattern.read = standard.toList.map .ok ∧
    (∀ pattern ∈ standard.toList,
      ((pattern.match? line).isSome ↔ ∃ parts, IsCut pattern.pieces line parts) ∧
      ∀ found, pattern.match? line = some found →
        ∃! parts, IsPreferredCut pattern.pieces line parts ∧ found.Reports pattern parts) ∧
    (∀ kind found, standard.match? line = some (kind, found) ↔
      ∃ (n : Nat) (pattern : Pattern), standard.toList[n]? = some pattern ∧
        kind = .ofPriority n ∧ pattern.match? line = some found ∧
        ∀ earlier ∈ standard.toList.take n, earlier.match? line = none) ∧
    (standard.match? line = none ↔
      ∀ pattern ∈ standard.toList, ∀ parts, ¬ IsCut pattern.pieces line parts) := by
  refine ⟨?_, fun pattern member => ?_, fun kind found => ?_, ?_⟩
  · simp only [patternTexts, standard, toList, List.map, Pattern.read_nodeWithInclusiveText,
      Pattern.read_nodeSelfOnlyText, Pattern.read_edgeText, Pattern.read_legendText]
  · have anchored := anchored_of_standard member
    exact ⟨Pattern.match_isSome_iff anchored, fun found => Pattern.match_prefers anchored⟩
  · rw [match?, matchFrom_eq_some_iff]
    simp only [Nat.zero_add]
  · rw [match?, matchFrom_eq_none_iff]
    refine forall₂_congr fun pattern member => ?_
    rw [← Option.not_isSome_iff_eq_none, Pattern.match_isSome_iff (anchored_of_standard member),
      not_exists]

/-- A line in which the parts of a declaration occur more than once: the name ends
at the first of the places where it can end, the own share at the last one. -/
def ambiguousLine : List Char := "N1 [label=\"a\\n2 (b\\n3 (4%)\\rof 5 (6%)\\rof 7 (8%)\\r".toList

theorem ambiguousLine_match_prefers :
    ∃ found parts, standard.match? ambiguousLine = some (.nodeWithInclusive, found) ∧
      found.groups.map (String.ofList ·.text) =
        ["N1", "a", "2", "b\\n3 (4%)\\rof 5 (6", "7", "8"] ∧
      IsPreferredCut Pattern.nodeWithInclusive.pieces ambiguousLine parts ∧
      found.Reports Pattern.nodeWithInclusive parts := by
  have member : Pattern.nodeWithInclusive ∈ standard.toList := List.mem_cons_self
  have ⟨_, decomposes, first, _⟩ := standard_match_prefers ambiguousLine
  have matched : ∃ found, Pattern.nodeWithInclusive.match? ambiguousLine = some found ∧
      found.groups.map (String.ofList ·.text) =
        ["N1", "a", "2", "b\\n3 (4%)\\rof 5 (6", "7", "8"] :=
    ⟨_, rfl, by decide +kernel⟩
  obtain ⟨found, matched, groups⟩ := matched
  obtain ⟨parts, ⟨preferred, reports⟩, _⟩ := (decomposes _ member).2 found matched
  exact ⟨found, parts, (first _ _).mpr ⟨0, _, rfl, rfl, matched, by simp⟩, groups, preferred,
    reports⟩

end RecordPatterns
end ProfileGraph
