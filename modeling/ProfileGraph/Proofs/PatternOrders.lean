import ProfileGraph.Proofs.Decompositions

/-! The order of the line patterns. A line that the pattern with an inclusive amount
matches is matched by the one without as well, with the same cuts up to where that one
ends. So the first of these two in a list leaves nothing to the second if it is the one
without. The legend starts with another letter than all other patterns, shares no line
with them and can stand anywhere. -/
namespace ProfileGraph

/-! Cuts of related patterns. -/

/-- The piece that is as long as possible where it was as short as possible. -/
def Piece.lengthen : Piece → Piece
  | .shortRun set => .longRun set
  | piece => piece

/-- The length of a run is a matter of preference. It takes the same parts. -/
theorem Piece.takes_lengthen {piece : Piece} {part : List Char} :
    piece.lengthen.Takes part ↔ piece.Takes part := by
  cases piece <;> rfl

section Cuts
variable {pieces : List Piece} {text : List Char} {parts : List (List Char)}

theorem isCut_map_lengthen :
    IsCut (pieces.map .lengthen) text parts ↔ IsCut pieces text parts := by
  simp only [IsCut, List.forall₂_map_left_iff, Piece.takes_lengthen]

/-- The parts of the first pieces are a cut for these pieces alone. -/
theorem IsCut.take (cut : IsCut pieces text parts) (count : Nat) :
    IsCut (pieces.take count) text (parts.take count) := by
  refine ⟨List.forall₂_take count cut.1, List.IsPrefix.trans ?_ cut.2⟩
  exact ⟨(parts.drop count).flatten, by rw [← List.flatten_append, List.take_append_drop]⟩

theorem IsCut.head_mem {set : CharSet} (cut : IsCut (.one set :: pieces) text parts) :
    ∃ c rest, text = c :: rest ∧ set.contains c := by
  obtain ⟨_, rest, _, _, ⟨⟨c, rfl, inside⟩, rfl⟩, _⟩ := isCut_cons.mp cut
  exact ⟨c, rest, rfl, inside⟩

end Cuts

namespace Pattern
variable {line : List Char}

/-- The pattern with an inclusive amount goes on where the other one ends, and up to
there it differs in one preference. -/
theorem pieces_nodeSelfOnly : nodeSelfOnly.pieces =
    (nodeWithInclusive.pieces.take nodeSelfOnly.pieces.length).map .lengthen := by
  decide

theorem nodeSelfOnly_of_nodeWithInclusive (matched : (nodeWithInclusive.match? line).isSome) :
    (nodeSelfOnly.match? line).isSome := by
  obtain ⟨parts, cut⟩ := (match_isSome_iff rfl).mp matched
  refine (match_isSome_iff rfl).mpr ⟨parts.take nodeSelfOnly.pieces.length, ?_⟩
  rw [pieces_nodeSelfOnly]
  exact isCut_map_lengthen.mpr (cut.take _)

/-- All other patterns start with the letter of function ids. -/
theorem match_eq_none_of_legend (matched : (legend.match? line).isSome) {other : Pattern}
    (anchored : other.anchored) {pieces : List Piece}
    (starts : other.pieces = .one (.only 'N') :: pieces) : other.match? line = none := by
  obtain ⟨_, cut⟩ := (match_isSome_iff rfl).mp matched
  obtain ⟨first, _, rfl, isL⟩ := IsCut.head_mem cut
  refine Option.not_isSome_iff_eq_none.mp fun matched' => ?_
  obtain ⟨_, cut'⟩ := (match_isSome_iff anchored).mp matched'
  rw [starts] at cut'
  obtain ⟨_, _, same, isN⟩ := IsCut.head_mem cut'
  obtain ⟨rfl, _⟩ := List.cons.inj same
  have wrong : 'L' = 'N' := (eq_of_beq isL).symm.trans (eq_of_beq isN)
  exact absurd wrong (by decide)

theorem legend_excludes (matched : (legend.match? line).isSome) :
    nodeWithInclusive.match? line = none ∧ nodeSelfOnly.match? line = none ∧
      edge.match? line = none :=
  ⟨match_eq_none_of_legend matched rfl rfl, match_eq_none_of_legend matched rfl rfl,
    match_eq_none_of_legend matched rfl rfl⟩

end Pattern

/-! Lists of pattern texts. -/

namespace RecordPatterns
variable {patterns : RecordPatterns} {texts : List String} {line : List Char}

/-- Some texts describe the patterns, in the order in which they are tried. -/
def DescribedBy (patterns : RecordPatterns) (texts : List String) : Prop :=
  texts.map Pattern.read = patterns.toList.map .ok

/-- Of the texts of some patterns, one is selected for a line: the kind of the line is
the place of this text among them. -/
def Selects (patterns : RecordPatterns) (texts : List String) (line : List Char)
    (text : String) (found : Match) : Prop :=
  ∃ place : Nat, texts[place]? = some text ∧
    patterns.match? line = some (.ofPriority place, found)

/-- The match of the pattern that a text describes. -/
def matchText? (line : List Char) (text : String) : Option Match :=
  match Pattern.read text with
  | .ok pattern => pattern.match? line
  | .error _ => none

theorem matchText_of_read {text : String} {pattern : Pattern}
    (read : Pattern.read text = .ok pattern) : matchText? line text = pattern.match? line := by
  rw [matchText?, read]

theorem DescribedBy.length_eq (described : patterns.DescribedBy texts) : texts.length = 4 := by
  have lengths := congrArg List.length described
  rwa [List.length_map, List.length_map] at lengths

theorem DescribedBy.getElem (described : patterns.DescribedBy texts) {place : Nat} {text : String}
    (there : texts[place]? = some text) :
    ∃ pattern, patterns.toList[place]? = some pattern ∧ Pattern.read text = .ok pattern := by
  have same := congrArg (·[place]?) described
  simp only [List.getElem?_map, there, Option.map_some] at same
  obtain ⟨pattern, found, read⟩ := Option.map_eq_some_iff.mp same.symm
  exact ⟨pattern, found, read.symm⟩

/-- The texts before a place match nothing if the patterns before it do not. -/
theorem DescribedBy.take_eq_none (described : patterns.DescribedBy texts) (place : Nat) :
    (∀ earlier ∈ patterns.toList.take place, earlier.match? line = none) ↔
      ∀ text ∈ texts.take place, matchText? line text = none := by
  have front : (texts.take place).map Pattern.read = (patterns.toList.take place).map .ok := by
    rw [List.map_take, described, List.map_take]
  constructor
  · intro unmatched text member
    have listed := List.mem_map_of_mem (f := Pattern.read) member
    rw [front] at listed
    obtain ⟨earlier, inside, read⟩ := List.mem_map.mp listed
    rw [matchText_of_read read.symm]
    exact unmatched earlier inside
  · intro unmatched earlier member
    have listed : Except.ok earlier ∈ (texts.take place).map Pattern.read := by
      rw [front]
      exact List.mem_map_of_mem member
    obtain ⟨text, inside, read⟩ := List.mem_map.mp listed
    rw [← matchText_of_read read]
    exact unmatched text inside

private theorem ofPriority_inj {m n : Nat} (first : m < 4) (second : n < 4)
    (same : RecordKind.ofPriority m = .ofPriority n) : m = n := by
  have each : ∀ m < 4, ∀ n < 4, RecordKind.ofPriority m = .ofPriority n → m = n := by decide
  exact each m first n second same

/-- The kind of a line is the place of the first pattern that matches it. -/
theorem match_eq_ofPriority_iff {place : Nat} (inside : place < 4) {found : Match} :
    patterns.match? line = some (.ofPriority place, found) ↔
      ∃ pattern, patterns.toList[place]? = some pattern ∧ pattern.match? line = some found ∧
        ∀ earlier ∈ patterns.toList.take place, earlier.match? line = none := by
  rw [match?, matchFrom_eq_some_iff]
  constructor
  · rintro ⟨other, pattern, there, same, rest⟩
    rw [Nat.zero_add] at same
    have within : other < patterns.toList.length := (List.getElem?_eq_some_iff.mp there).1
    obtain rfl := ofPriority_inj inside within same
    exact ⟨pattern, there, rest⟩
  · rintro ⟨pattern, there, rest⟩
    exact ⟨place, pattern, there, by rw [Nat.zero_add], rest⟩

/-- The selected text is the first whose pattern matches. -/
theorem DescribedBy.selects_iff (described : patterns.DescribedBy texts) {text : String}
    {found : Match} : patterns.Selects texts line text found ↔
      texts.findSome? (fun text => (matchText? line text).map (text, ·)) = some (text, found) := by
  have answered : ∀ {other : String}, (matchText? line other).map (other, ·) = some (text, found) ↔
      other = text ∧ matchText? line text = some found := by
    intro other
    rw [Option.map_eq_some_iff]
    constructor
    · rintro ⟨_, matched, same⟩
      cases same
      exact ⟨rfl, matched⟩
    · rintro ⟨rfl, matched⟩
      exact ⟨found, matched, rfl⟩
  rw [List.findSome?_eq_some_iff]
  simp only [answered, Option.map_eq_none_iff]
  constructor
  · rintro ⟨place, there, matched⟩
    obtain ⟨inside, rfl⟩ := List.getElem?_eq_some_iff.mp there
    obtain ⟨pattern, held, matched, unmatched⟩ :=
      (match_eq_ofPriority_iff (described.length_eq ▸ inside)).mp matched
    obtain ⟨_, held', read⟩ := described.getElem there
    obtain rfl := Option.some.inj (held.symm.trans held')
    refine ⟨texts.take place, texts[place], texts.drop (place + 1), ?_, ⟨rfl, ?_⟩,
      (described.take_eq_none place).mp unmatched⟩
    · rw [← List.drop_eq_getElem_cons, List.take_append_drop]
    · rwa [matchText_of_read read]
  · rintro ⟨before, text, after, rfl, ⟨rfl, matched⟩, unmatched⟩
    have there : (before ++ text :: after)[before.length]? = some text := by
      rw [List.getElem?_append_right (Nat.le_refl _), Nat.sub_self, List.getElem?_cons_zero]
    obtain ⟨pattern, held, read⟩ := described.getElem there
    have inside : before.length < 4 := described.length_eq ▸ (List.getElem?_eq_some_iff.mp there).1
    refine ⟨before.length, there, (match_eq_ofPriority_iff inside).mpr ⟨pattern, held, ?_, ?_⟩⟩
    · rwa [← matchText_of_read read]
    · refine (described.take_eq_none before.length).mpr ?_
      rwa [List.take_left]

/-! Patterns of any form. -/

/-- The first of some matchers that matches a line, by its place among them. -/
def firstPlace? (line : List Char) (matchers : List (List Char → Option Match)) :
    Option (Nat × Match) :=
  matchers.zipIdx.findSome? fun entry => (entry.1 line).map (entry.2, ·)

/-- The kind of a line is the place of the first matcher. -/
theorem match_eq_firstPlace : patterns.match? line =
    (firstPlace? line (patterns.toList.map (·.match?))).map
      fun (place, found) => (.ofPriority place, found) := by
  have each (position : Nat) (later : List Pattern) : matchFrom? line position later =
      (((later.map (·.match?)).zipIdx position).findSome?
        fun entry => (entry.1 line).map (entry.2, ·)).map
          fun (place, found) => (.ofPriority place, found) := by
    induction later generalizing position with
    | nil => rfl
    | cons pattern later ih =>
      rw [List.map_cons, List.zipIdx_cons, List.findSome?_cons, matchFrom?, ih]
      dsimp only
      cases pattern.match? line <;> rfl
  exact each 0 patterns.toList

theorem firstPlace_lt {matchers : List (List Char → Option Match)} {place : Nat} {found : Match}
    (selected : firstPlace? line matchers = some (place, found)) : place < matchers.length := by
  obtain ⟨entry, listed, selected⟩ := List.exists_of_findSome?_eq_some selected
  obtain ⟨_, _, same⟩ := Option.map_eq_some_iff.mp selected
  rw [← (Prod.mk.inj same).1]
  exact List.snd_lt_of_mem_zipIdx listed

/-- The first place has a matcher that matches, and no matcher before it does. -/
theorem firstPlace_eq_some {matchers : List (List Char → Option Match)} {place : Nat}
    {found : Match} (selected : firstPlace? line matchers = some (place, found)) :
    (∀ matcher, matchers[place]? = some matcher → matcher line = some found) ∧
      ∀ earlier < place, ∀ other, matchers[earlier]? = some other → other line = none := by
  obtain ⟨before, ⟨matcher, position⟩, after, listed, selected, unmatched⟩ :=
    List.findSome?_eq_some_iff.mp selected
  obtain ⟨_, matched, same⟩ := Option.map_eq_some_iff.mp selected
  obtain ⟨rfl, rfl⟩ := Prod.mk.inj same
  have entry (n : Nat) : (before ++ (matcher, position) :: after)[n]? =
      matchers[n]?.map (·, n) := by
    rw [← listed, List.getElem?_zipIdx, Nat.zero_add]
  -- The place of an entry is how many entries stand before it.
  have here := entry before.length
  rw [List.getElem?_append_right (Nat.le_refl _), Nat.sub_self, List.getElem?_cons_zero] at here
  obtain ⟨_, held, same⟩ := Option.map_eq_some_iff.mp here.symm
  obtain ⟨rfl, rfl⟩ := Prod.mk.inj same
  refine ⟨fun other held' => ?_, fun earlier ahead other held' => ?_⟩
  · rwa [Option.some.inj (held'.symm.trans held)]
  · have front := entry earlier
    rw [List.getElem?_append_left ahead, held', Option.map_some] at front
    exact Option.map_eq_none_iff.mp (unmatched _ (List.mem_of_getElem? front))

/-- The pattern with an inclusive amount is not selected behind the one without. -/
theorem firstPlace_ne_of_nodeSelfOnly {matchers : List (List Char → Option Match)}
    {first second : Nat} (selfOnly : matchers[first]? = some Pattern.nodeSelfOnly.match?)
    (inclusive : matchers[second]? = some Pattern.nodeWithInclusive.match?)
    (ahead : first < second) (found : Match) : firstPlace? line matchers ≠ some (second, found) := by
  intro selected
  obtain ⟨matched, unmatched⟩ := firstPlace_eq_some selected
  have both := Pattern.nodeSelfOnly_of_nodeWithInclusive
    (Option.isSome_of_eq_some (matched _ inclusive))
  rw [unmatched first ahead _ selfOnly] at both
  cases both

/-! The standard texts in any order. -/

theorem matchText_eq_none_of_legend (matched : (matchText? line legendText).isSome) {text : String}
    (standard : text ∈ patternTexts) (other : text ≠ legendText) : matchText? line text = none := by
  rw [matchText_of_read Pattern.read_legendText] at matched
  obtain ⟨first, second, third⟩ := Pattern.legend_excludes matched
  simp only [patternTexts, List.mem_cons, List.not_mem_nil, or_false] at standard
  rcases standard with rfl | rfl | rfl | rfl
  · rwa [matchText_of_read Pattern.read_nodeWithInclusiveText]
  · rwa [matchText_of_read Pattern.read_nodeSelfOnlyText]
  · rwa [matchText_of_read Pattern.read_edgeText]
  · exact absurd rfl other

/-- The first match among standard texts is found without the legend's text, or it is
that of the legend's text, wherever this stands. -/
theorem findSome_matchText (standard : ∀ text ∈ texts, text ∈ patternTexts)
    (listed : legendText ∈ texts) :
    texts.findSome? (fun text => (matchText? line text).map (text, ·)) =
      match matchText? line legendText with
      | some found => some (legendText, found)
      | none => (texts.filter (· != legendText)).findSome?
          fun text => (matchText? line text).map (text, ·) := by
  cases held : matchText? line legendText with
  | some found =>
    have matched : (matchText? line legendText).isSome := Option.isSome_of_eq_some held
    obtain ⟨before, after, rfl, fresh⟩ := List.eq_append_cons_of_mem listed
    refine List.findSome?_eq_some_iff.mpr ⟨before, legendText, after, rfl, by rw [held]; rfl, ?_⟩
    intro text member
    have unmatched := matchText_eq_none_of_legend matched
      (standard text (List.mem_append_left _ member)) fun same => fresh (same ▸ member)
    rw [unmatched, Option.map_none]
  | none =>
    clear standard listed
    induction texts with
    | nil => rfl
    | cons text later ih =>
      by_cases same : text = legendText
      · rw [same, List.findSome?_cons, held, List.filter_cons_of_neg (by simp)]
        exact ih
      · rw [List.filter_cons_of_pos (by simpa using same), List.findSome?_cons,
          List.findSome?_cons, ih]

/-- What the order of the patterns decides. A line that the pattern with an inclusive
amount matches is matched by the one without, so where that one stands first, the place
of the other is never the kind of a line, whatever else is in the list and whatever form
the rest has. A line that the legend's pattern matches is matched by no other standard pattern. So lists of the
standard texts in which all texts but the legend's follow each other alike select the same
text for every line, with the same groups, wherever the legend's text stands. -/
theorem standard_match_overlaps (line : List Char) :
    ((Pattern.nodeWithInclusive.match? line).isSome →
      (Pattern.nodeSelfOnly.match? line).isSome) ∧
    (∀ patterns texts, DescribedBy patterns texts → ∀ first second : Nat,
      texts[first]? = some nodeSelfOnlyText → texts[second]? = some nodeWithInclusiveText →
      first < second → ∀ found, patterns.match? line ≠ some (.ofPriority second, found)) ∧
    (∀ matchers : List (List Char → Option Match), ∀ first second : Nat,
      matchers[first]? = some Pattern.nodeSelfOnly.match? →
      matchers[second]? = some Pattern.nodeWithInclusive.match? →
      first < second → ∀ found, firstPlace? line matchers ≠ some (second, found)) ∧
    ((Pattern.legend.match? line).isSome → Pattern.nodeWithInclusive.match? line = none ∧
      Pattern.nodeSelfOnly.match? line = none ∧ Pattern.edge.match? line = none) ∧
    ∀ left right texts moved, DescribedBy left texts → DescribedBy right moved →
      (∀ text ∈ texts ++ moved, text ∈ patternTexts) → legendText ∈ texts → legendText ∈ moved →
      texts.filter (· != legendText) = moved.filter (· != legendText) →
      ∀ text found, left.Selects texts line text found ↔ right.Selects moved line text found := by
  refine ⟨Pattern.nodeSelfOnly_of_nodeWithInclusive, ?_, ?_, Pattern.legend_excludes, ?_⟩
  · intro patterns texts described first second selfOnly inclusive ahead found matched
    have matcher {place : Nat} {text : String} {pattern : Pattern} (there : texts[place]? = some text)
        (read : Pattern.read text = .ok pattern) :
        (patterns.toList.map (·.match?))[place]? = some pattern.match? := by
      obtain ⟨_, held, read'⟩ := described.getElem there
      rw [List.getElem?_map, held, Except.ok.inj (read'.symm.trans read), Option.map_some]
    rw [match_eq_firstPlace, Option.map_eq_some_iff] at matched
    obtain ⟨⟨place, _⟩, selected, same⟩ := matched
    obtain ⟨kind, rfl⟩ := Prod.mk.inj same
    have inside : second < 4 :=
      described.length_eq ▸ (List.getElem?_eq_some_iff.mp inclusive).1
    have inside' : place < 4 := firstPlace_lt selected
    obtain rfl := ofPriority_inj inside' inside kind
    exact firstPlace_ne_of_nodeSelfOnly (matcher selfOnly Pattern.read_nodeSelfOnlyText)
      (matcher inclusive Pattern.read_nodeWithInclusiveText) ahead _ selected
  · intro matchers first second selfOnly inclusive ahead
    exact firstPlace_ne_of_nodeSelfOnly selfOnly inclusive ahead
  · intro left right texts moved described described' standard listed listed' same text found
    obtain ⟨standard, standard'⟩ := List.forall_mem_append.mp standard
    rw [described.selects_iff, described'.selects_iff, findSome_matchText standard listed,
      findSome_matchText standard' listed', same]

/-- The standard patterns from the last one to the first. -/
def reversed : RecordPatterns := ⟨.legend, .edge, .nodeSelfOnly, .nodeWithInclusive⟩

/-- In the reversed list a function with an inclusive amount is of the kind at the place of
the pattern without one, wherever the legend's text is put, also with a matcher between
them that matches nothing. -/
theorem reversed_match_overlaps :
    let moved := [edgeText, nodeSelfOnlyText, legendText, nodeWithInclusiveText]
    DescribedBy reversed patternTexts.reverse ∧
    DescribedBy ⟨.edge, .nodeSelfOnly, .legend, .nodeWithInclusive⟩ moved ∧
    (Pattern.nodeWithInclusive.match? ambiguousLine).isSome ∧
    (Pattern.nodeSelfOnly.match? ambiguousLine).isSome ∧
    (∀ found, reversed.match? ambiguousLine ≠ some (.ofPriority 3, found)) ∧
    (∀ found, firstPlace? ambiguousLine [Pattern.nodeSelfOnly.match?, fun _ => none,
      Pattern.nodeWithInclusive.match?] ≠ some (2, found)) ∧
    ∃ found, reversed.Selects patternTexts.reverse ambiguousLine nodeSelfOnlyText found ∧
      Selects ⟨.edge, .nodeSelfOnly, .legend, .nodeWithInclusive⟩ moved ambiguousLine
        nodeSelfOnlyText found := by
  intro moved
  have described : DescribedBy reversed patternTexts.reverse := by
    simp only [DescribedBy, reversed, toList, patternTexts, List.reverse_cons, List.reverse_nil,
      List.nil_append, List.cons_append, List.map, Pattern.read_nodeWithInclusiveText,
      Pattern.read_nodeSelfOnlyText, Pattern.read_edgeText, Pattern.read_legendText]
  have described' : DescribedBy ⟨.edge, .nodeSelfOnly, .legend, .nodeWithInclusive⟩ moved := by
    simp only [DescribedBy, toList, moved, List.map, Pattern.read_nodeWithInclusiveText,
      Pattern.read_nodeSelfOnlyText, Pattern.read_edgeText, Pattern.read_legendText]
  have matched : (Pattern.nodeWithInclusive.match? ambiguousLine).isSome := by decide +kernel
  obtain ⟨weaker, hidden, hiddenAlways, _, alike⟩ := standard_match_overlaps ambiguousLine
  obtain ⟨found, selected⟩ :
      ∃ found, reversed.Selects patternTexts.reverse ambiguousLine nodeSelfOnlyText found :=
    ⟨_, 2, rfl, rfl⟩
  refine ⟨described, described', matched, weaker matched,
    hidden _ _ described 2 3 rfl rfl (by decide),
    hiddenAlways _ 0 2 rfl rfl (by decide), found, selected, ?_⟩
  exact (alike _ _ _ _ described described' (by decide) (by decide) (by decide) (by decide) _
    _).mp selected

end RecordPatterns
end ProfileGraph
