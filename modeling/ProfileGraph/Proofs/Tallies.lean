import ProfileGraph.Proofs.Ledger
import ProfileGraph.Proofs.LineTexts
import ProfileGraph.Proofs.Moments

/-! Tallies of a graph and of its snapshots. The graph is counted slot by slot,
the snapshot by the lists that it holds; both come to the same, for every graph.
A run states the tallies of the two graphs that it hands out and keeps one
snapshot for each of them, as far as it came. -/
namespace ProfileGraph

/-- How many nodes and edges there are, and how much self coverage and how many
samples they share. -/
structure Tally where
  nodes : Nat
  edges : Nat
  selfCoverage : Binary64
  samples : Nat
deriving DecidableEq

namespace CallGraph
variable {α : Type}

/-- The slots that hold a node, in the order of declaration. -/
def liveSlots (graph : CallGraph α) : List (Slot α) := graph.slots.toList.filterMap id

/-- The tally of the slots: an edge counts with its source. -/
def tally (graph : CallGraph Binary64) : Tally where
  nodes := graph.liveSlots.length
  edges := (graph.liveSlots.map (·.successors.size)).sum
  selfCoverage := Quantity.sum (graph.liveSlots.map (·.node.selfCoverage))
  samples := graph.totalSamples

private theorem filterMap_join_range (slots : List (Option (Slot α))) :
    (List.range slots.length).filterMap (fun n => slots[n]?.join) = slots.filterMap id := by
  induction slots with
  | nil => rfl
  | cons first later ih =>
    rw [List.length_cons, List.range_succ_eq_map, List.filterMap_cons, List.filterMap_map]
    cases first with
    | none => exact ih
    | some slot => exact congrArg (slot :: ·) ih

/-- The handles lead to the live slots, in their order. -/
theorem map_slot_handles (graph : CallGraph α) :
    graph.handles.map graph.slot? = graph.liveSlots.map some := by
  have listed : graph.handles.filterMap graph.slot? = graph.liveSlots := by
    rw [liveSlots, ← filterMap_join_range, handles, List.filterMap_filter, Array.length_toList]
    refine List.filterMap_congr fun handle _ => ?_
    rw [contains, slot?, Array.getElem?_toList]
    cases graph.slots[handle]?.join <;> rfl
  rw [← listed, List.map_filterMap]
  refine (List.filterMap_eq_map_iff_forall_eq_some.mpr fun handle member => ?_).symm
  obtain ⟨slot, held⟩ := Option.isSome_iff_exists.mp (mem_handles.mp member)
  rw [held, Option.map_some]

theorem nodes_eq_map (graph : CallGraph α) : graph.nodes = graph.liveSlots.map (·.node) := by
  have looked : graph.node? = Option.map Slot.node ∘ graph.slot? := rfl
  have held : Option.map Slot.node ∘ some = some ∘ (Slot.node : Slot α → Node α) := rfl
  rw [nodes, looked, ← List.filterMap_map, map_slot_handles, List.filterMap_map, held,
    List.filterMap_eq_map]

theorem edgeCount_eq_sum (graph : CallGraph α) :
    graph.edgeCount = (graph.liveSlots.map (·.successors.size)).sum := by
  let degree (slot : Option (Slot α)) : Nat := slot.elim 0 (·.successors.size)
  have counted : (fun handle => (graph.successors handle).length) = degree ∘ graph.slot? := by
    funext handle
    rw [successors, Function.comp_apply]
    cases graph.slot? handle <;> rfl
  rw [edgeCount, edges, List.length_flatMap]
  simp only [List.length_map]
  rw [counted, ← List.map_map, map_slot_handles, List.map_map]
  rfl

theorem nodeCount_eq_length (graph : CallGraph α) : graph.nodeCount = graph.liveSlots.length := by
  rw [nodeCount, ← List.length_map (f := graph.slot?), map_slot_handles, List.length_map]

theorem totalSelfCoverage_eq_sum [Quantity α] (graph : CallGraph α) :
    graph.totalSelfCoverage = Quantity.sum (graph.liveSlots.map (·.node.selfCoverage)) := by
  rw [totalSelfCoverage, nodes_eq_map, List.map_map]
  rfl

end CallGraph

/-- The tally of the lists of a snapshot. -/
def Snapshot.tally (snapshot : Snapshot) : Tally where
  nodes := snapshot.nodes.length
  edges := snapshot.edges.length
  selfCoverage := snapshot.totalSelfCoverage
  samples := snapshot.totalSamples

/-- A snapshot has the tally of its graph. -/
theorem tally_ofGraph (graph : CallGraph Binary64) :
    (Snapshot.ofGraph graph).tally = graph.tally := by
  have nodes : (Snapshot.ofGraph graph).nodes.length = graph.liveSlots.length := by
    rw [Snapshot.ofGraph, List.length_map, CallGraph.nodes_eq_map, List.length_map]
  have edges : (Snapshot.ofGraph graph).edges.length =
      (graph.liveSlots.map (·.successors.size)).sum := by
    rw [Snapshot.ofGraph, List.length_map, ← CallGraph.edgeCount_eq_sum, CallGraph.edgeCount]
  have selfCoverage : (Snapshot.ofGraph graph).totalSelfCoverage =
      Quantity.sum (graph.liveSlots.map (·.node.selfCoverage)) := by
    rw [Snapshot.totalSelfCoverage, Snapshot.ofGraph, List.map_map,
      ← CallGraph.totalSelfCoverage_eq_sum, CallGraph.totalSelfCoverage]
    rfl
  rw [Snapshot.tally, nodes, edges, selfCoverage]
  rfl

namespace PipelineReport

/-- What a report says of the graph that was built. -/
def parsedTally (report : PipelineReport) : Tally :=
  ⟨report.parsedNodes, report.parsedEdges, report.parsedSelfCoverage, report.totalSamples⟩

/-- What a report says of the simplified graph. The samples are stated once for
both graphs. -/
def finalTally (report : PipelineReport) : Tally :=
  ⟨report.finalNodes, report.finalEdges, report.finalSelfCoverage, report.totalSamples⟩

end PipelineReport

/-- What a run leaves in memory behind a build. -/
structure RunResult.Tallies (policy : RootPolicy) (kept : List (String × Snapshot))
    (built : BuildResult Binary64) (ran : RunResult (List (String × Snapshot))) : Prop where
  /-- A build that fails leaves no snapshot. -/
  unbuilt : ∀ error, built.outcome = .error error → ran = ⟨kept, .error error⟩
  /-- A simplification that fails leaves the snapshot of the graph that was built. -/
  unsimplified : ∀ graph error, built.outcome = .ok graph →
    (graph.simplify policy).error = some error →
    ran = ⟨kept ++ [(debugLabel, .ofGraph graph)], .error (.simplify error)⟩
  /-- A run that succeeds leaves the snapshots of both graphs. Its report tallies with
  them, and they tally with their graphs. -/
  simplified : ∀ graph, built.outcome = .ok graph → (graph.simplify policy).error = none →
    let simplified := graph.simplify policy
    let debug := Snapshot.ofGraph graph
    let final := Snapshot.ofGraph simplified.graph
    ∃ report, ran = ⟨kept ++ [(debugLabel, debug), (finalLabel, final)],
        .ok (simplified.graph, report)⟩ ∧
      report.parsedTally = debug.tally ∧ report.finalTally = final.tally ∧
      debug.tally = graph.tally ∧ final.tally = simplified.graph.tally

namespace Pipeline

/-- Runs the pipeline on a profile whose texts are told apart by a matcher. -/
def runBy {σ : Type} (matcher : Matcher) (pipeline : Pipeline) (sink : Sink σ)
    (source : ByteSource) (state : σ) : RunResult σ :=
  pipeline.finish sink (CallGraph.buildBy matcher pipeline.interestMarker source) state

section Stages
variable {pipeline : Pipeline} {kept : List (String × Snapshot)}

theorem finish_of_unbuilt {built : BuildResult Binary64} {error : PipelineError}
    (failed : built.outcome = .error error) :
    pipeline.finish .memory built kept = ⟨kept, .error error⟩ := by
  rw [finish]
  simp only [failed]

variable {stats : ParseStats} {graph : CallGraph Binary64}

theorem finish_of_unsimplified {error : GraphError}
    (failed : (graph.simplify pipeline.rootPolicy).error = some error) :
    pipeline.finish .memory ⟨stats, .ok graph⟩ kept =
      ⟨kept ++ [(debugLabel, .ofGraph graph)], .error (.simplify error)⟩ := by
  rw [finish]
  simp only [Sink.memory, failed]

theorem finish_of_simplified (succeeded : (graph.simplify pipeline.rootPolicy).error = none) :
    let simplified := graph.simplify pipeline.rootPolicy
    pipeline.finish .memory ⟨stats, .ok graph⟩ kept =
      ⟨kept ++ [(debugLabel, .ofGraph graph), (finalLabel, .ofGraph simplified.graph)],
        .ok (simplified.graph,
          finalReport ((buildReport stats graph).withPasses simplified) simplified.graph)⟩ := by
  rw [finish]
  simp only [Sink.memory, succeeded, List.append_assoc, List.singleton_append]

end Stages

/-- The tallies in the report of a run are those of the graphs. -/
theorem tallies_finalReport (stats : ParseStats) (graph : CallGraph Binary64)
    (policy : RootPolicy) :
    let simplified := graph.simplify policy
    let report := finalReport ((buildReport stats graph).withPasses simplified) simplified.graph
    report.parsedTally = graph.tally ∧ report.finalTally = simplified.graph.tally := by
  intro simplified report
  obtain ⟨_, journey⟩ :=
    (CallGraph.allValues_true graph).exists_journey_simplify Quantity.keeps_true policy
  have samples : simplified.graph.totalSamples = graph.totalSamples := journey.fields.1
  constructor
  · rw [CallGraph.tally, ← CallGraph.nodeCount_eq_length, ← CallGraph.edgeCount_eq_sum,
      ← CallGraph.totalSelfCoverage_eq_sum]
    rfl
  · rw [CallGraph.tally, ← CallGraph.nodeCount_eq_length, ← CallGraph.edgeCount_eq_sum,
      ← CallGraph.totalSelfCoverage_eq_sum, samples]
    rfl

/-- What is done behind a build leaves the same in memory, however it was built. -/
theorem finish_tallies (pipeline : Pipeline) (built : BuildResult Binary64)
    (kept : List (String × Snapshot)) :
    (pipeline.finish .memory built kept).Tallies pipeline.rootPolicy kept built where
  unbuilt _ failed := finish_of_unbuilt failed
  unsimplified graph error made failed := by
    obtain ⟨stats, outcome⟩ := built
    obtain rfl : outcome = .ok graph := made
    exact finish_of_unsimplified failed
  simplified graph made succeeded := by
    obtain ⟨stats, outcome⟩ := built
    obtain rfl : outcome = .ok graph := made
    intro simplified debug final
    refine ⟨_, finish_of_simplified succeeded, ?_⟩
    obtain ⟨parsed, left⟩ := tallies_finalReport stats graph pipeline.rootPolicy
    have debugTally : debug.tally = graph.tally := tally_ofGraph graph
    have finalTally : final.tally = simplified.graph.tally := tally_ofGraph simplified.graph
    exact ⟨parsed.trans debugTally.symm, left.trans finalTally.symm, debugTally, finalTally⟩

/-- What a run leaves in memory, for every profile, marker, pattern list and root policy,
whatever form the patterns have. A build that fails leaves no snapshot, a simplification
that fails only that of the graph that was built, and a run that succeeds that of the
simplified graph as well. The report then tallies with both snapshots, and these with
their graphs. -/
theorem run_tallies (pipeline : Pipeline) (source : ByteSource) (kept : List (String × Snapshot)) :
    (pipeline.run .memory source kept).Tallies pipeline.rootPolicy kept
      (CallGraph.build pipeline.patterns pipeline.interestMarker source) ∧
    ∀ matcher : Matcher, (pipeline.runBy matcher .memory source kept).Tallies pipeline.rootPolicy
      kept (CallGraph.buildBy matcher pipeline.interestMarker source) :=
  ⟨finish_tallies pipeline _ kept, fun _ => finish_tallies pipeline _ kept⟩

/-- How the two stages of a run end: with the error of the build, or with that
of the simplification if it has one. -/
def stagesEnd (pipeline : Pipeline) (profile : List UInt8) :
    Except PipelineError (Option GraphError) :=
  match (CallGraph.build pipeline.patterns pipeline.interestMarker ⟨profile, none⟩ :
    BuildResult Binary64).outcome with
  | .error error => .error error
  | .ok graph => .ok (graph.simplify pipeline.rootPolicy).error

/-- A profile with a call of a function that it does not declare. -/
def undeclaredCall : List UInt8 :=
  Text.encode "N1 [label=\"a!\\n4 (4%)\\r\"]\nN1 -> N2 [label=9,]\n".toList

/-- A profile with a call but without samples. -/
def unsampledCall : List UInt8 := Text.encode <| List.flatMap String.toList [
  "N1 [label=\"a!\\n4 (4%)\\r\"]\n", "N2 [label=\"b\\n3 (3%)\\r\"]\n", "N1 -> N2 [label=9,]\n"]

theorem recursiveCalls_run_tallies :
    let pipeline : Pipeline := { interestMarker := "!" }
    pipeline.run .memory ⟨undeclaredCall, none⟩ [] =
      ⟨[], .error (.graph 2 (.unknownNode "N1" "N2" "N2"))⟩ ∧
    (∃ debug, pipeline.run .memory ⟨unsampledCall, none⟩ [] =
      ⟨[(debugLabel, debug)], .error (.simplify .noSamples)⟩) ∧
    ∃ debug final graph report, pipeline.run .memory ⟨recursiveCalls, none⟩ [] =
      ⟨[(debugLabel, debug), (finalLabel, final)], .ok (graph, report)⟩ ∧
      report.parsedTally = debug.tally ∧ report.finalTally = final.tally := by
  intro pipeline
  refine ⟨?_, ?_, ?_⟩
  · have ended : pipeline.stagesEnd undeclaredCall =
        .error (.graph 2 (.unknownNode "N1" "N2" "N2")) := by decide +kernel
    rw [stagesEnd] at ended
    split at ended
    next failed =>
      cases ended
      exact (run_tallies pipeline ⟨undeclaredCall, none⟩ []).1.unbuilt _ failed
    next => cases ended
  · have ended : pipeline.stagesEnd unsampledCall = .ok (some .noSamples) := by decide +kernel
    rw [stagesEnd] at ended
    split at ended
    next => cases ended
    next graph made =>
      exact ⟨_, (run_tallies pipeline ⟨unsampledCall, none⟩ []).1.unsimplified graph _ made
        (Except.ok.inj ended)⟩
  · have ended : pipeline.stagesEnd recursiveCalls = .ok none := by decide +kernel
    rw [stagesEnd] at ended
    split at ended
    next => cases ended
    next graph made =>
      obtain ⟨report, ran, parsed, left, _⟩ :=
        (run_tallies pipeline ⟨recursiveCalls, none⟩ []).1.simplified graph made
          (Except.ok.inj ended)
      exact ⟨_, _, _, report, ran, parsed, left⟩

end Pipeline
end ProfileGraph
