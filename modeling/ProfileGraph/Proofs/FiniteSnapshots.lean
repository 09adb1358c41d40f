import ProfileGraph.Proofs.PruneBounds
import ProfileGraph.Proofs.SnapshotFiles
import ProfileGraph.Proofs.Tallies
import ProfileGraph.Proofs.WeightBounds

/-! The numbers in the snapshots of a run. Weights come from counts, and the
coverages that are found anew come from weights, so all of these are finite. A
self coverage that is credited to a caller comes from a percentage, which may be
any finite double; rounding it to decimal places multiplies it by a power of ten
first and can so make it infinite. Self coverages in range stay finite. -/
namespace ProfileGraph
namespace CallGraph

variable {graph next : CallGraph Binary64} {policy : RootPolicy}

/-! What is set once and for all. -/

theorem enter_coverage {record : Record} (entered : graph.enter record = .ok next) :
    next.coverage = graph.coverage := by
  cases record with
  | node declared =>
    rw [enter, addNode] at entered
    split at entered
    next => cases entered
    next =>
      dsimp only at entered
      split at entered <;> cases entered <;> rfl
  | edge call =>
    rw [enter, addEdge] at entered
    split at entered
    next => cases entered
    next => cases entered
    next =>
      obtain ⟨_, _, rfl⟩ := addEdgeBetween_eq_ok entered
      rfl
  | legend | ignored =>
    cases entered
    rfl

theorem enterLines_coverage {patterns : RecordPatterns} (stats : ParseStats)
    {lines : List (List UInt8)}
    (entered : (enterLines patterns graph stats lines).outcome = .ok next) :
    next.coverage = graph.coverage := by
  induction lines generalizing graph stats with
  | nil =>
    cases entered
    rfl
  | cons bytes later ih =>
    rw [enterLines] at entered
    dsimp only at entered
    split at entered
    next => cases entered
    next record _ =>
      split at entered
      next => cases entered
      next ran => exact (ih _ entered).trans (enter_coverage ran)

/-- What no record and no pass sets is as in an empty graph. -/
structure Unselected (graph : CallGraph Binary64) : Prop where
  coverage : graph.coverage = Quantity.zero
  selection : ∀ handle node, graph.node? handle = some node → node.selection = {}

theorem build_unselected {patterns : RecordPatterns} {marker : String} {source : ByteSource}
    (built : (build patterns marker source).outcome = .ok graph) : graph.Unselected where
  coverage := by
    rw [build] at built
    split at built
    next => cases built
    next => exact enterLines_coverage {} built
  selection handle node held := by
    obtain ⟨records, _, depicts⟩ := exists_depicted built
    rw [depicts.node_eq, depictedNode?] at held
    obtain ⟨declared, _, rfl⟩ := Option.map_eq_some_iff.mp held
    rfl

theorem totalSamples_simplify (policy : RootPolicy) :
    (graph.simplify policy).graph.totalSamples = graph.totalSamples := by
  obtain ⟨_, journey⟩ :=
    (allValues_true graph).exists_journey_simplify Quantity.keeps_true policy
  exact journey.fields.1

theorem Unselected.simplify (unselected : graph.Unselected) (policy : RootPolicy) :
    (graph.simplify policy).graph.Unselected := by
  obtain ⟨_, journey⟩ :=
    (allValues_true graph).exists_journey_simplify Quantity.keeps_true policy
  refine ⟨journey.fields.2.1.trans unselected.coverage, fun handle after left => ?_⟩
  obtain ⟨before, held, resembles⟩ := journey.node_before left
  rw [Node.Resembles] at resembles
  rw [resembles]
  exact unselected.selection handle before held

/-! Snapshots of a graph. -/

theorem forall_nodes_ofGraph (shown : NodeSnapshot → Prop) :
    (∀ node ∈ (Snapshot.ofGraph graph).nodes, shown node) ↔
      ∀ handle node, graph.node? handle = some node → shown (.ofNode node) := by
  constructor
  · intro each handle node held
    refine each _ (List.mem_map_of_mem (List.mem_filterMap.mpr ⟨handle, ?_, held⟩))
    exact mem_handles.mpr (contains_iff_node.mpr ⟨node, held⟩)
  · intro each _ listed
    obtain ⟨node, member, rfl⟩ := List.mem_map.mp listed
    obtain ⟨handle, _, held⟩ := List.mem_filterMap.mp member
    exact each handle node held

theorem forall_edges_ofGraph (shown : Binary64 → Prop)
    (each : ∀ caller callee weight, graph.edgeWeight? caller callee = some weight → shown weight) :
    ∀ edge ∈ (Snapshot.ofGraph graph).edges, shown edge.weight := by
  intro _ listed
  obtain ⟨⟨caller, callee, weight⟩, member, rfl⟩ := List.mem_map.mp listed
  exact each caller callee weight (mem_edges.mp member)

/-- The numbers in the snapshot of a graph without selections are finite if
its coverages and weights are. -/
theorem Unselected.reals_finite (unselected : graph.Unselected)
    (coverages : ∀ node ∈ (Snapshot.ofGraph graph).nodes, node.coverage.isFinite)
    (own : ∀ node ∈ (Snapshot.ofGraph graph).nodes, node.selfCoverage.isFinite)
    (weights : ∀ edge ∈ (Snapshot.ofGraph graph).edges, edge.weight.isFinite) :
    ∀ x ∈ (Snapshot.ofGraph graph).reals, x.isFinite := by
  have fresh : ∀ x ∈ ({} : SelectionState).reals, x.isFinite := by decide +kernel
  have selections : ∀ node ∈ (Snapshot.ofGraph graph).nodes, node.selection = {} :=
    (forall_nodes_ofGraph (·.selection = {})).mpr unselected.selection
  intro x member
  rw [Snapshot.reals, List.cons_append, List.mem_cons, List.mem_append] at member
  rcases member with rfl | member | member
  · rw [Snapshot.ofGraph, unselected.coverage]
    rfl
  · obtain ⟨node, listed, member⟩ := List.mem_flatMap.mp member
    rw [NodeSnapshot.reals, List.mem_cons, List.mem_cons, selections node listed] at member
    rcases member with rfl | rfl | member
    · exact coverages node listed
    · exact own node listed
    · exact fresh x member
  · obtain ⟨edge, listed, rfl⟩ := List.mem_map.mp member
    exact weights edge listed

theorem Unselected.inRange (unselected : graph.Unselected)
    (samples : graph.totalSamples < countBound) : (Snapshot.ofGraph graph).InRange where
  totalSamples := samples
  invocations := by
    refine (forall_nodes_ofGraph _).mpr fun handle node held count member => ?_
    rw [show (NodeSnapshot.ofNode node).selection = _ from unselected.selection handle node held]
      at member
    cases member

/-! The stages. -/

/-- Building leaves finite weights and coverages of both kinds. -/
theorem build_finite {patterns : RecordPatterns} {marker : String} {source : ByteSource}
    (built : (build patterns marker source).outcome = .ok graph)
    (few : source.lines.length ≤ 2 ^ 40) : ∀ x ∈ (Snapshot.ofGraph graph).reals, x.isFinite := by
  have counted : source.lines.length ≤ Binary64.exactBound := few.trans (by decide)
  obtain ⟨bounds, _, own⟩ := build_inBounds built counted
  obtain ⟨_, _, depicts⟩ := exists_depicted built
  refine (build_unselected built).reals_finite
    ((forall_nodes_ofGraph (·.coverage.isFinite)).mpr bounds.coverage)
    ((forall_nodes_ofGraph (·.selfCoverage.isFinite)).mpr own)
    (forall_edges_ofGraph (·.isFinite) fun caller callee weight held => ?_)
  exact (bounds.weight_atMost counted depicts.consistent held).isFinite

theorem unsigned_of_isAmount {x : Binary64} (amount : x.IsAmount) : x.Unsigned := by
  obtain ⟨negative, units, _, rfl, signed⟩ := amount.exists_units
  refine Binary64.unsigned_finite ?_
  rintro rfl
  rw [Binary64.signedUnits] at signed
  simpa using signed

/-- Simplifying a graph that is built from a profile leaves finite weights and
coverages, and finite self coverages if those read were in range. -/
theorem simplify_finite {patterns : RecordPatterns} {marker : String} {source : ByteSource}
    (built : (build patterns marker source).outcome = .ok graph)
    (few : source.lines.length ≤ 2 ^ 40)
    (ended : (graph.simplify policy).error = none) :
    (∀ caller callee weight, (graph.simplify policy).graph.edgeWeight? caller callee = some weight →
      weight.isFinite) ∧
    (∀ handle node, (graph.simplify policy).graph.node? handle = some node →
      node.coverage.isFinite) ∧
    ((∀ handle node, graph.node? handle = some node →
        node.selfCoverage.AtMost (Binary64.powerUnits 970)) →
      ∀ handle node, (graph.simplify policy).graph.node? handle = some node →
        node.selfCoverage.isFinite) := by
  have counted : 2000 * source.lines.length ≤ Binary64.exactBound :=
    (Nat.mul_le_mul_left 2000 few).trans (by decide)
  obtain ⟨bounds, nodeCount, _⟩ := build_inBounds built (by omega)
  obtain ⟨records, _, depicts⟩ := exists_depicted built
  have consistent := depicts.consistent
  obtain ⟨collapsed, corrected, first, second, third⟩ := simplify_passes ended
  have run := consistent.collapseAll_run
  rw [first] at run
  obtain ⟨boundsCollapsed, before⟩ := run.inBounds consistent bounds (by omega)
  have kept := run.consistent consistent
  obtain ⟨boundsCorrected, between⟩ := kept.corrected_inBounds boundsCollapsed counted second
  have linked := kept.linked_fixSelfCoverage second
  have unsigned : corrected.AllValues Binary64.Unsigned := by
    have values := build_values Binary64.keeps_unsigned (fun _ => unsigned_of_isAmount) built
    have collapses := journey_collapseFrom Binary64.keeps_unsigned {} (2 * graph.nodeCount + 1) values
    rw [← collapseAll, first] at collapses
    have valuesCollapsed := (collapses.allValues values).1
    have corrects := valuesCollapsed.journey_correct Binary64.keeps_unsigned
    rw [second] at corrects
    exact (corrects.allValues valuesCollapsed).1
  have fewer : corrected.nodeCount ≤ source.lines.length := by
    refine le_trans (List.Nodup.subperm nodup_handles fun handle member => ?_).length_le nodeCount
    have live := mem_handles.mp member
    rw [linked.contains_eq] at live
    obtain ⟨node, held⟩ := contains_iff_node.mp live
    obtain ⟨_, there, _⟩ := before handle node held
    exact mem_handles.mpr (contains_iff_node.mpr ⟨_, there⟩)
  have room : 100 * (1 + 2 * 2 ^ 40) ≤ Binary64.exactBound := by decide
  obtain ⟨weights, coverages, credits⟩ := linked.consistent.prune_finite third unsigned
    (fun caller callee weight held => ⟨boundsCorrected.grained caller callee weight held,
      (boundsCorrected.weight_atMost (by omega) linked.consistent held).mono
        (Binary64.mul_powerUnits_le few (le_refl 104))⟩) (by decide) (by omega)
  refine ⟨weights, fun handle node left => ?_, fun limited => ?_⟩
  · obtain ⟨_, held, same⟩ := coverages handle node left
    rw [same]
    exact boundsCorrected.coverage handle _ held
  · refine credits 970 (by decide) fun handle node held => ?_
    obtain ⟨middle, there, same | found⟩ := between handle node held
    · obtain ⟨old, read, same'⟩ := before handle middle there
      rw [same, same']
      exact limited handle old read
    · have small : 200 * source.lines.length ≤ 2 ^ 48 := by omega
      exact found.mono (Binary64.mul_powerUnits_le small (by decide))

end CallGraph

/-! A run. -/

theorem Snapshot.read_dataFile_iff {snapshot : Snapshot} (inRange : snapshot.InRange) :
    read? snapshot.dataFile = some snapshot ↔ ∀ x ∈ snapshot.reals, x.isFinite := by
  rw [read_dataFile inRange, keep, ← List.all_eq_true]
  simp

theorem Snapshot.selfCoverage_finite {snapshot : Snapshot}
    (finite : ∀ x ∈ snapshot.reals, x.isFinite) :
    ∀ node ∈ snapshot.nodes, node.selfCoverage.isFinite := by
  intro node listed
  refine finite _ (List.mem_append_left _ (List.mem_cons_of_mem _ ?_))
  exact List.mem_flatMap.mpr ⟨node, listed, List.mem_cons_of_mem _ List.mem_cons_self⟩

namespace Pipeline

/-- All numbers in the snapshot of the graph that was built are finite, and so
are the coverages and weights in that of the simplified graph; its data file is
read back exactly if its self coverages are finite too, and they are if those
read from the profile were at most two to the power of 970. The bound on the number of
lines is one of the proof, which counts the roundings of a run in whole numbers that a
double holds exactly; the program has no such condition. -/
theorem run_finite {pipeline : Pipeline} {source : ByteSource}
    {state : List (String × Snapshot)} {graph : CallGraph Binary64} {report : PipelineReport}
    (ran : pipeline.run .memory source [] = ⟨state, .ok (graph, report)⟩)
    (few : source.lines.length ≤ 2 ^ 40) (samples : report.totalSamples < countBound) :
    ∃ debug final, state = [(debugLabel, debug), (finalLabel, final)] ∧
      (∀ x ∈ debug.reals, x.isFinite) ∧ Snapshot.read? debug.dataFile = some debug ∧
      (∀ node ∈ final.nodes, node.coverage.isFinite) ∧
      (∀ edge ∈ final.edges, edge.weight.isFinite) ∧
      (Snapshot.read? final.dataFile = some final ↔
        ∀ node ∈ final.nodes, node.selfCoverage.isFinite) ∧
      ((∀ node ∈ debug.nodes, node.selfCoverage.AtMost (Binary64.powerUnits 970)) →
        ∀ x ∈ final.reals, x.isFinite) := by
  rw [run] at ran
  cases built : (CallGraph.build pipeline.patterns pipeline.interestMarker source :
      BuildResult Binary64) with
  | mk stats outcome =>
    rw [built] at ran
    cases outcome with
    | error error =>
      rw [finish_of_unbuilt rfl] at ran
      cases congrArg RunResult.outcome ran
    | ok parsed =>
      cases ended : (parsed.simplify pipeline.rootPolicy).error with
      | some error =>
        rw [finish_of_unsimplified ended] at ran
        cases congrArg RunResult.outcome ran
      | none =>
        rw [finish_of_simplified ended] at ran
        cases ran
        have made := congrArg BuildResult.outcome built
        have debugFinite := CallGraph.build_finite made few
        have unselected := CallGraph.build_unselected made
        have kept : (parsed.simplify pipeline.rootPolicy).graph.totalSamples =
            parsed.totalSamples := CallGraph.totalSamples_simplify pipeline.rootPolicy
        have inRange := (unselected.simplify pipeline.rootPolicy).inRange (kept.trans_lt samples)
        obtain ⟨weights, coverages, credits⟩ := CallGraph.simplify_finite made few ended
        have coverages := (CallGraph.forall_nodes_ofGraph (·.coverage.isFinite)).mpr coverages
        have weights := CallGraph.forall_edges_ofGraph (·.isFinite) weights
        have finalFinite := (unselected.simplify pipeline.rootPolicy).reals_finite coverages
        refine ⟨_, _, rfl, debugFinite,
          (Snapshot.read_dataFile_iff (unselected.inRange samples)).mpr debugFinite, coverages,
          weights, ⟨fun read => ?_, fun own => ?_⟩, fun limited => ?_⟩
        · exact Snapshot.selfCoverage_finite ((Snapshot.read_dataFile_iff inRange).mp read)
        · exact (Snapshot.read_dataFile_iff inRange).mpr (finalFinite own weights)
        · have own := credits ((CallGraph.forall_nodes_ofGraph _).mp limited)
          exact finalFinite
            ((CallGraph.forall_nodes_ofGraph (·.selfCoverage.isFinite)).mpr own) weights

theorem recursiveCalls_run_finite :
    let pipeline : Pipeline := { interestMarker := "!" }
    ∃ debug final graph report, pipeline.run .memory ⟨recursiveCalls, none⟩ [] =
      ⟨[(debugLabel, debug), (finalLabel, final)], .ok (graph, report)⟩ ∧
      (ByteSource.mk recursiveCalls none).lines.length ≤ 2 ^ 40 ∧
      report.totalSamples < countBound ∧
      (∀ node ∈ debug.nodes, node.selfCoverage.AtMost (Binary64.powerUnits 970)) ∧
      Snapshot.read? debug.dataFile = some debug ∧ ∀ x ∈ final.reals, x.isFinite := by
  intro pipeline
  have few : (ByteSource.mk recursiveCalls none).lines.length ≤ 2 ^ 40 := by decide +kernel
  have sampled : (pipeline.run .memory ⟨recursiveCalls, none⟩ []).outcome.toOption.any
      fun ended => ended.2.totalSamples < countBound := by decide +kernel
  have limited : ∀ entry ∈ (pipeline.run .memory ⟨recursiveCalls, none⟩ []).state,
      ∀ node ∈ entry.2.nodes, node.selfCoverage.AtMost (Binary64.powerUnits 970) := by
    decide +kernel
  cases ran : pipeline.run .memory ⟨recursiveCalls, none⟩ [] with
  | mk state outcome =>
    rw [ran] at sampled limited
    cases outcome with
    | error => cases sampled
    | ok ended =>
      have samples : ended.2.totalSamples < countBound := by simpa [Except.toOption] using sampled
      obtain ⟨debug, final, rfl, _, read, _, _, _, finite⟩ := run_finite ran few samples
      have small := limited _ List.mem_cons_self
      exact ⟨debug, final, ended.1, ended.2, rfl, few, samples, small, read, finite small⟩

/-- A profile in which an instrumented function with a vast self coverage calls
one that is removed. -/
def vastPercentage : List UInt8 := Text.encode <| List.flatMap String.toList [
  "Legend [label=\"Total samples: 10\"];\n",
  "N1 [label=\"__cere__a\\n0 (2e306%)\\rof 10 (100%)\\r\"];\n",
  "N2 [label=\"b\\n10 (100%)\\r\"];\n", "N1 -> N2 [label=10,];\n"]

/-- What the caller is credited makes its self coverage infinite, although all
numbers were finite before. -/
theorem vastPercentage_run_overflows : ∃ state graph report debug final,
    run {} .memory ⟨vastPercentage, none⟩ [] = ⟨state, .ok (graph, report)⟩ ∧
    keptSnapshot? debugLabel state = some debug ∧ (∀ x ∈ debug.reals, x.isFinite) ∧
    keptSnapshot? finalLabel state = some final ∧
    (∃ node ∈ final.nodes, ¬ node.selfCoverage.isFinite) ∧
    Snapshot.read? final.dataFile = none := by
  have succeeds : (run {} .memory ⟨vastPercentage, none⟩ []).outcome.toOption.isSome := by
    decide +kernel
  have before : (keptSnapshot? debugLabel (run {} .memory ⟨vastPercentage, none⟩ []).state).any
      fun debug => debug.reals.all (·.isFinite) := by decide +kernel
  have behind : (keptSnapshot? finalLabel (run {} .memory ⟨vastPercentage, none⟩ []).state).any
      fun final => final.nodes.any (fun node => !node.selfCoverage.isFinite) &&
        final.totalSamples < countBound &&
        final.nodes.all (fun node => node.selection.invocations = []) := by decide +kernel
  cases ran : run {} .memory ⟨vastPercentage, none⟩ [] with
  | mk state outcome =>
    rw [ran] at succeeds before behind
    cases outcome with
    | error => cases succeeds
    | ok ended =>
      obtain ⟨debug, kept, finite⟩ := (Option.any_eq_true _ _).mp before
      obtain ⟨final, keptFinal, found⟩ := (Option.any_eq_true _ _).mp behind
      simp only [Bool.and_eq_true, decide_eq_true_eq, List.any_eq_true, List.all_eq_true,
        Bool.not_eq_true'] at finite found
      obtain ⟨⟨⟨node, listed, infinite⟩, samples⟩, uncounted⟩ := found
      have inRange : final.InRange :=
        ⟨samples, fun node listed count member => by simp [uncounted node listed] at member⟩
      have overflows : ¬ node.selfCoverage.isFinite := by simp [infinite]
      refine ⟨state, ended.1, ended.2, debug, final, rfl, kept, finite, keptFinal,
        ⟨node, listed, overflows⟩, ?_⟩
      rw [Snapshot.read_dataFile inRange, keep, if_neg]
      exact fun all => overflows (Snapshot.selfCoverage_finite (List.all_eq_true.mp all) node listed)

end Pipeline
end ProfileGraph
