import ProfileGraph.Proofs.Building
import ProfileGraph.Proofs.LineTexts

/-! Accounts of a build. Every line that is entered adds one to the lines and one
to the records of some kind, so the two are equal before each line. A line that
cannot be read is counted as a line only, and one that does not fit the graph as
both; whichever ends the build has the number of the lines counted so far. -/
namespace ProfileGraph

/-! Lines that can be read. -/

namespace ByteSource

/-- The number of lines that end in a line feed. -/
def finishedLines (source : ByteSource) : Nat := source.bytes.count Text.lineFeed

/-- Whether something stands behind the last line feed. -/
def hasTail (source : ByteSource) : Bool := source.bytes.getLast?.any (· != Text.lineFeed)

end ByteSource

/-- Line feeds are counted line by line. -/
theorem Text.count_flatMap {bodies : List (List UInt8)}
    (unbroken : ∀ body ∈ bodies, lineFeed ∉ body) :
    (bodies.flatMap (· ++ [lineFeed])).count lineFeed = bodies.length := by
  induction bodies with
  | nil => rfl
  | cons body later ih =>
    obtain ⟨first, unbroken⟩ := List.forall_mem_cons.mp unbroken
    simp [List.count_append, ih unbroken, List.count_eq_zero_of_not_mem first]

/-- The last byte belongs to a tail exactly if there is one. -/
theorem Text.getLast_flatMap {bodies : List (List UInt8)} {rest : List UInt8}
    (unfinished : lineFeed ∉ rest) :
    (bodies.flatMap (· ++ [lineFeed]) ++ rest).getLast?.any (· != lineFeed) ↔ rest ≠ [] := by
  rcases List.eq_nil_or_concat rest with rfl | ⟨front, byte, rfl⟩
  · rcases List.eq_nil_or_concat bodies with rfl | ⟨earlier, body, rfl⟩ <;> simp
  · have other : byte ≠ lineFeed := fun same => unfinished (by simp [same])
    rw [List.concat_eq_append, ← List.append_assoc, List.getLast?_concat]
    simp [other]

/-- An unfinished line is read only if reading does not fail behind it. -/
theorem ByteSource.length_lines (source : ByteSource) :
    source.lines.length =
      source.finishedLines + if source.failure = none ∧ source.hasTail then 1 else 0 := by
  obtain ⟨bytes, failure⟩ := source
  obtain ⟨bodies, rest, unbroken, unfinished, rfl⟩ := Text.exists_bodies bytes
  have counted : finishedLines ⟨bodies.flatMap (· ++ [Text.lineFeed]) ++ rest, failure⟩ =
      bodies.length := by
    simp [finishedLines, Text.count_flatMap unbroken, List.count_eq_zero_of_not_mem unfinished]
  have tail : hasTail ⟨bodies.flatMap (· ++ [Text.lineFeed]) ++ rest, failure⟩ ↔ rest ≠ [] :=
    Text.getLast_flatMap unfinished
  simp only [lines_eq unbroken unfinished, counted, tail, List.length_append, List.length_map]
  split <;> rfl

/-! Lines that are counted. -/

namespace ParseStats

/-- The number of records of all kinds. -/
def recognised (stats : ParseStats) : Nat :=
  stats.nodesWithInclusive + stats.nodesSelfOnly + stats.edges + stats.legends + stats.ignored

theorem recognised_count (stats : ParseStats) (kind : RecordKind) :
    (stats.count kind).recognised = stats.recognised + 1 := by
  cases kind <;> simp only [count, recognised] <;> omega

theorem lines_count (stats : ParseStats) (kind : RecordKind) :
    (stats.count kind).lines = stats.lines := by
  cases kind <;> rfl

/-- Every line was recognised as a record. -/
def Balanced (stats : ParseStats) : Prop := stats.lines = stats.recognised

/-- A line that is counted with its record keeps the balance. -/
theorem Balanced.count {stats : ParseStats} (balanced : stats.Balanced) (kind : RecordKind) :
    ({ stats with lines := stats.lines + 1 }.count kind).Balanced := by
  rw [Balanced, lines_count, recognised_count]
  exact congrArg (· + 1) balanced

end ParseStats

theorem Matcher.read_refused {matcher : Matcher} {line : Nat} {text : List Char}
    {error : RecordError} (refused : matcher.read line text = .error error) : error.IsAt line := by
  rw [read] at refused
  split at refused
  next => exact RecordPatterns.record_refused refused
  next => cases refused

/-- What is counted when all of some texts are entered, or one of them ends the
build. -/
inductive BuildResult.Counted {α : Type} (total : Nat) : BuildResult α → Prop
  | whole {stats : ParseStats} {graph : CallGraph α} :
      stats.lines = total → stats.Balanced → Counted total ⟨stats, .ok graph⟩
  | malformed {stats : ParseStats} {error : RecordError} :
      stats.lines ≤ total → stats.lines = stats.recognised + 1 → error.IsAt stats.lines →
      Counted total ⟨stats, .error (.parse error)⟩
  | misfit {stats : ParseStats} {line : Nat} {error : GraphError} :
      stats.lines ≤ total → stats.Balanced → line = stats.lines →
      Counted total ⟨stats, .error (.graph line error)⟩

/-- Whether a malformed line ended the build. -/
def BuildResult.isMalformed {α : Type} (result : BuildResult α) : Bool :=
  match result.outcome with
  | .error (.parse _) => true
  | _ => false

/-- The counts of a build add up, however it ends. -/
structure BuildResult.AddsUp {α : Type} (source : ByteSource) (result : BuildResult α) : Prop where
  /-- All lines but a malformed one were recognised as records. -/
  balanced : result.stats.lines = result.stats.recognised + if result.isMalformed then 1 else 0
  /-- No line is counted that cannot be read. -/
  within : result.stats.lines ≤ source.lines.length
  /-- A malformed line is the last one that was read. -/
  malformed : ∀ line kind field value,
    result.outcome = .error (.parse (.malformedField line kind field value)) →
    line = result.stats.lines
  /-- A line that does not fit is the last one that was read. -/
  misfit : ∀ line error, result.outcome = .error (.graph line error) → line = result.stats.lines
  /-- Success means that reading came to the end. -/
  whole : ∀ graph, result.outcome = .ok graph → source.failure = none ∧
    result.stats.lines = source.finishedLines + if source.hasTail then 1 else 0
  /-- A failure of reading is reported behind all finished lines. -/
  broken : ∀ reason, result.outcome = .error (.io reason) → source.failure = some reason ∧
    result.stats.lines = source.finishedLines
  /-- There are no other ends. -/
  ends : (∃ graph, result.outcome = .ok graph) ∨ (∃ error, result.outcome = .error (.parse error)) ∨
    (∃ line error, result.outcome = .error (.graph line error)) ∨
    ∃ reason, result.outcome = .error (.io reason)

namespace CallGraph
variable {α : Type} [Quantity α]

/-- The balance before a text is that before the text behind it, unless the text
ends the build. -/
theorem enterTexts_counted (matcher : Matcher) (graph : CallGraph α) {stats : ParseStats}
    (balanced : stats.Balanced) (texts : List (List Char)) :
    (enterTexts matcher graph stats texts).Counted (stats.lines + texts.length) := by
  induction texts generalizing graph stats with
  | nil => exact .whole rfl balanced
  | cons text later ih =>
    rw [enterTexts]
    cases read : matcher.read (stats.lines + 1) text with
    | error error =>
      refine .malformed ?_ (congrArg (· + 1) balanced) (Matcher.read_refused read)
      simp
    | ok record =>
      have counted := balanced.count record.kind
      have line := ParseStats.lines_count { stats with lines := stats.lines + 1 } record.kind
      dsimp only at line ⊢
      cases graph.enter record with
      | error error =>
        refine .misfit ?_ counted line.symm
        simp [line]
      | ok graph =>
        have rest := ih graph counted
        rw [line] at rest
        simpa [Nat.add_assoc, Nat.add_comm 1] using rest

/-- The counts add up for every source and every way to tell texts apart. -/
theorem buildBy_addsUp (matcher : Matcher) (marker : String) (source : ByteSource) :
    (buildBy matcher marker source : BuildResult α).AddsUp source := by
  have counted := enterTexts_counted matcher (empty marker : CallGraph α)
    (rfl : ({} : ParseStats).Balanced) (source.lines.map Text.ofLine)
  have total := source.length_lines
  simp only [List.length_map, Nat.zero_add] at counted
  rw [buildBy]
  generalize enterTexts matcher (empty marker : CallGraph α) {} (source.lines.map Text.ofLine) =
    result at counted ⊢
  cases counted with
  | whole all balanced =>
    cases failure : source.failure with
    | none =>
      refine ⟨balanced, Nat.le_of_eq all, by simp, by simp, fun graph ended => ⟨failure, ?_⟩, by simp,
        .inl ⟨_, rfl⟩⟩
      simp only [failure, true_and] at total
      exact all.trans total
    | some reason =>
      refine ⟨balanced, Nat.le_of_eq all, by simp, by simp, by simp, fun other ended => ?_,
        .inr (.inr (.inr ⟨_, rfl⟩))⟩
      cases ended
      simp only [failure, reduceCtorEq, false_and, if_false, Nat.add_zero] at total
      exact ⟨failure, all.trans total⟩
  | malformed within unbalanced here =>
    obtain ⟨kind, field, value, rfl⟩ := here
    refine ⟨unbalanced, within, fun line kind field value ended => ?_, by simp, by simp, by simp,
      .inr (.inl ⟨_, rfl⟩)⟩
    cases ended
    rfl
  | misfit within balanced here =>
    refine ⟨balanced, within, by simp, fun line error ended => ?_, by simp, by simp,
      .inr (.inr (.inl ⟨_, _, rfl⟩))⟩
    cases ended
    exact here

/-- The counts of a build add up for every source and all patterns, whatever form
the patterns have. -/
theorem build_addsUp (patterns : RecordPatterns) (marker : String) (source : ByteSource) :
    (build patterns marker source : BuildResult α).AddsUp source ∧
      ∀ matcher : Matcher, (buildBy matcher marker source : BuildResult α).AddsUp source := by
  rw [build_eq_buildBy]
  exact ⟨buildBy_addsUp patterns.match? marker source, fun matcher =>
    buildBy_addsUp matcher marker source⟩

end CallGraph
end ProfileGraph
