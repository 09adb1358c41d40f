import ProfileGraph.Proofs.WrittenJson
import ProfileGraph.Snapshot.Serial

/-! The data file of a snapshot is read back as that snapshot if all its numbers
are finite, whatever its texts and counts are. A number that is not finite is
written as null, and a file with such a null is not read. -/
namespace ProfileGraph

/-! The numbers and the counts of a snapshot. -/

/-- The numbers that are written as such. -/
def SelectionState.reals (selection : SelectionState) : List Binary64 :=
  [selection.error, selection.invivo, selection.invitro]

def NodeSnapshot.reals (node : NodeSnapshot) : List Binary64 :=
  node.coverage :: node.selfCoverage :: node.selection.reals

def Snapshot.reals (snapshot : Snapshot) : List Binary64 :=
  snapshot.coverage :: snapshot.nodes.flatMap NodeSnapshot.reals ++
    snapshot.edges.map EdgeSnapshot.weight

/-- The counts are below the bound for counts. -/
structure Snapshot.InRange (snapshot : Snapshot) : Prop where
  totalSamples : snapshot.totalSamples < countBound
  invocations : ∀ node ∈ snapshot.nodes, ∀ count ∈ node.selection.invocations, count < countBound

/-- A value if it has a property. -/
def keep {α : Type} (property : α → Bool) (x : α) : Option α := if property x then some x else none

theorem mapM_keep {α β : Type} {read : β → Option α} {write : α → β} {property : α → Bool}
    {items : List α} (reads : ∀ item ∈ items, read (write item) = keep property item) :
    (items.map write).mapM read = keep (·.all property) items := by
  induction items with
  | nil => rfl
  | cons item items ih =>
    rw [List.map_cons, List.mapM_cons, reads item List.mem_cons_self,
      ih fun other member => reads other (List.mem_cons_of_mem item member)]
    by_cases first : property item
    · by_cases later : items.all property
      · simp [keep, first, later]
      · simp [keep, first, later]
    · simp [keep, first]

namespace Json

theorem real_written (x : Binary64) : (Json.real x).written.real? = keep Binary64.isFinite x := by
  rw [written, keep]
  split <;> rfl

theorem optionalString_written (text : Option String) :
    optionalString? (some (optionalText text).written) = some text := by
  cases text <;> rfl

theorem counts_written {counts : List Nat} (inRange : ∀ count ∈ counts, count < countBound) :
    (Json.array (counts.map .count)).written.counts? = some counts := by
  have reads : ∀ n ∈ counts, count? (count n).written = keep (fun _ => true) n := by
    intro n member
    exact if_pos (inRange n member)
  have found := mapM_keep reads
  rw [written, writtenItems_eq_map, List.map_map, counts?]
  refine found.trans ?_
  simp [keep]

end Json

theorem SelectionState.ofJson_written {selection : SelectionState}
    (inRange : ∀ count ∈ selection.invocations, count < countBound) :
    ofJson? selection.toJson.written = keep (·.reals.all Binary64.isFinite) selection := by
  have fields : selection.toJson.written.recordFields? fieldNames = some [
      some (.bool selection.matching), some (Json.real selection.error).written,
      some (Json.optionalText selection.errorMessage).written, some (.bool selection.toTest),
      some (.bool selection.tested), some (.bool selection.transferred),
      some (.bool selection.small), some (.bool selection.selected),
      some (Json.real selection.invivo).written, some (Json.real selection.invitro).written,
      some (Json.array (selection.invocations.map .count)).written] := rfl
  have read : ofJson? selection.toJson.written = do
      let error ← (Json.real selection.error).written.real?
      let errorMessage ← Json.optionalString? (some (Json.optionalText selection.errorMessage).written)
      let invivo ← (Json.real selection.invivo).written.real?
      let invitro ← (Json.real selection.invitro).written.real?
      let invocations ← (Json.array (selection.invocations.map .count)).written.counts?
      return { selection with error, errorMessage, invivo, invitro, invocations } := by
    rw [ofJson?, fields]
    rfl
  rw [read, Json.real_written, Json.real_written, Json.real_written, Json.counts_written inRange,
    Json.optionalString_written]
  simp only [keep, reals, List.all_cons, List.all_nil, Bool.and_true]
  by_cases error : selection.error.isFinite <;> by_cases invivo : selection.invivo.isFinite <;>
    by_cases invitro : selection.invitro.isFinite <;> simp [error, invivo, invitro]

theorem NodeSnapshot.ofJson_written {node : NodeSnapshot}
    (inRange : ∀ count ∈ node.selection.invocations, count < countBound) :
    ofJson? node.toJson.written = keep (·.reals.all Binary64.isFinite) node := by
  have fields : node.toJson.written.recordFields? fieldNames = some [
      some (.string node.id), some (.string node.name), some (Json.real node.coverage).written,
      some (Json.real node.selfCoverage).written, some (.bool node.isInterestPoint),
      some node.selection.toJson.written] := rfl
  have read : ofJson? node.toJson.written = do
      let coverage ← (Json.real node.coverage).written.real?
      let selfCoverage ← (Json.real node.selfCoverage).written.real?
      let selection ← SelectionState.ofJson? node.selection.toJson.written
      return { node with coverage, selfCoverage, selection } := by
    rw [ofJson?, fields]
    rfl
  rw [read, Json.real_written, Json.real_written, SelectionState.ofJson_written inRange]
  simp only [keep, reals, List.all_cons]
  by_cases coverage : node.coverage.isFinite <;>
    by_cases selfCoverage : node.selfCoverage.isFinite <;>
      by_cases selection : node.selection.reals.all Binary64.isFinite <;>
        simp [coverage, selfCoverage, selection]

theorem EdgeSnapshot.ofJson_written (edge : EdgeSnapshot) :
    ofJson? edge.toJson.written = keep (·.weight.isFinite) edge := by
  have fields : edge.toJson.written.recordFields? fieldNames = some [
      some (.string edge.source), some (.string edge.target),
      some (Json.real edge.weight).written] := rfl
  have read : ofJson? edge.toJson.written = do
      let weight ← (Json.real edge.weight).written.real?
      return { edge with weight } := by
    rw [ofJson?, fields]
    rfl
  rw [read, Json.real_written]
  simp only [keep]
  by_cases weight : edge.weight.isFinite <;> simp [weight]

namespace Snapshot
variable {snapshot : Snapshot}

theorem ofJson_written (inRange : snapshot.InRange) :
    ofJson? snapshot.toJson.written = keep (·.reals.all Binary64.isFinite) snapshot := by
  have fields : snapshot.toJson.written.recordFields? fieldNames = some [
      some (.count snapshot.totalSamples), some (Json.real snapshot.coverage).written,
      some (Json.optionalText snapshot.selector).written,
      some (.array (Json.writtenItems (snapshot.nodes.map (·.toJson)))),
      some (.array (Json.writtenItems (snapshot.edges.map (·.toJson))))] := rfl
  have read : ofJson? snapshot.toJson.written = do
      let totalSamples ← (Json.count snapshot.totalSamples).count?
      let coverage ← (Json.real snapshot.coverage).written.real?
      let selector ← Json.optionalString? (some (Json.optionalText snapshot.selector).written)
      let nodes ← (Json.writtenItems (snapshot.nodes.map (·.toJson))).mapM NodeSnapshot.ofJson?
      let edges ← (Json.writtenItems (snapshot.edges.map (·.toJson))).mapM EdgeSnapshot.ofJson?
      return { totalSamples, coverage, selector, nodes, edges } := by
    rw [ofJson?, fields]
    rfl
  have samples : (Json.count snapshot.totalSamples).count? = some snapshot.totalSamples :=
    if_pos inRange.totalSamples
  have nodes : (Json.writtenItems (snapshot.nodes.map (·.toJson))).mapM NodeSnapshot.ofJson? =
      keep (·.all (·.reals.all Binary64.isFinite)) snapshot.nodes := by
    rw [Json.writtenItems_eq_map, List.map_map]
    exact mapM_keep fun node member =>
      NodeSnapshot.ofJson_written (inRange.invocations node member)
  have edges : (Json.writtenItems (snapshot.edges.map (·.toJson))).mapM EdgeSnapshot.ofJson? =
      keep (·.all (·.weight.isFinite)) snapshot.edges := by
    rw [Json.writtenItems_eq_map, List.map_map]
    exact mapM_keep fun edge _ => EdgeSnapshot.ofJson_written edge
  rw [read, samples, Json.real_written, Json.optionalString_written, nodes, edges]
  simp only [keep, reals, List.cons_append, List.all_cons, List.all_append, List.all_flatMap,
    List.all_map, Function.comp_def]
  by_cases coverage : snapshot.coverage.isFinite <;>
    by_cases nodes : snapshot.nodes.all (·.reals.all Binary64.isFinite) <;>
      by_cases edges : snapshot.edges.all (·.weight.isFinite) <;>
        simp only [coverage, nodes, edges] <;> rfl

/-- Reading a data file gives the snapshot for which it was written, unless one
of the numbers is not finite. -/
theorem read_dataFile (inRange : snapshot.InRange) :
    read? snapshot.dataFile = keep (·.reals.all Binary64.isFinite) snapshot := by
  rw [read?, dataFile, Json.parse_pretty]
  exact ofJson_written inRange

/-- Snapshots go through their data files unchanged: whatever their texts,
counts and lists are, a snapshot whose numbers are all finite is read back as
it was. Every number that is not finite has the place of a null in the file,
and then the file is not read. -/
theorem dataFile_roundTrips (snapshot : Snapshot) (inRange : snapshot.InRange) :
    ((∀ x ∈ snapshot.reals, x.isFinite) → read? snapshot.dataFile = some snapshot) ∧
      snapshot.dataFile = snapshot.toJson.written.pretty ∧
      ((∃ x ∈ snapshot.reals, ¬ x.isFinite) → read? snapshot.dataFile = none) := by
  have found := read_dataFile inRange
  refine ⟨fun finite => ?_, (Json.pretty_written _).symm, fun ⟨x, member, infinite⟩ => ?_⟩
  · rw [found, keep, if_pos (List.all_eq_true.mpr finite)]
  · rw [found, keep, if_neg fun all => infinite (List.all_eq_true.mp all x member)]

/-- Escapes, the greatest count, the least double and a negative zero. -/
def crowded : Snapshot where
  totalSamples := 18446744073709551615
  coverage := .ofUnits false 1
  selector := some "\"all\" \\ \x07"
  nodes := [{
    id := "N\n1"
    name := "\tλ\x00"
    coverage := .ofRatio false 1 10
    selfCoverage := .signedZero true
    isInterestPoint := true
    selection := { error := .ofRatio false 2 3, errorMessage := some "", invocations := [0, 7] } }]
  edges := [⟨"N\n1", "N\n1", .ofRatio true 5 2⟩]

theorem crowded_dataFile_roundTrips :
    crowded.InRange ∧ read? crowded.dataFile = some crowded ∧
      read? (dataFile { crowded with coverage := .nan }) = none := by
  have inRange : crowded.InRange := ⟨by decide, by decide⟩
  have finite : ∀ x ∈ crowded.reals, x.isFinite := by decide +kernel
  have undefined : ∃ x ∈ reals { crowded with coverage := .nan }, ¬ x.isFinite :=
    ⟨.nan, List.mem_cons_self, Bool.false_ne_true⟩
  have undefinedInRange : InRange { crowded with coverage := .nan } := ⟨by decide, by decide⟩
  have refused := (dataFile_roundTrips { crowded with coverage := .nan } undefinedInRange).2.2
    undefined
  exact ⟨inRange, (dataFile_roundTrips crowded inRange).1 finite, refused⟩

end Snapshot
end ProfileGraph
