import ProfileGraph.Proofs.Outcomes
import ProfileGraph.Proofs.Reworking

/-! What a failed operation leaves. Single operations look at their arguments
before they write; deleting looks at a slot once more after its edges are gone,
but finds it as it was. The passes take steps that could fail between others
that have written already, and none of these does: a pass without samples ends
before its first step, and a pass with samples goes through. -/
namespace ProfileGraph.CallGraph

variable {α : Type} {graph : CallGraph α}

/-! Deleting in place. -/

/-- Deleting a node in the order in which the graph is written: its edges go
first, and then the slot is looked at again before it is emptied. -/
def removeInPlace (graph : CallGraph α) (handle : Nat) : PassResult (Node α) α :=
  if graph.contains handle then
    let detached := graph.detach handle
    match detached.node? handle with
    | some node => ⟨detached.vacate handle node.profilerId, .ok node⟩
    | none => detached.refuse (.missingHandle handle)
  else graph.refuse (.missingHandle handle)

/-- The second look never fails, so a deletion is refused before it begins or
goes through. -/
theorem removeInPlace_eq (handle : Nat) :
    graph.removeInPlace handle = match graph.removeNode handle with
      | .ok (node, next) => ⟨next, .ok node⟩
      | .error error => graph.refuse error := by
  rw [removeInPlace, removeNode]
  cases held : graph.node? handle with
  | none =>
    have gone : ¬ graph.contains handle := by simp [contains_eq_isSome_node, held]
    rw [if_neg gone]
  | some node =>
    rw [if_pos (contains_iff_node.mpr ⟨node, held⟩)]
    dsimp only
    rw [node_detach, held, delete, held]
    rfl

/-! The errors of a collapse. -/

variable [Quantity α]

theorem collapse_of_no_samples (lack : graph.totalSamples = 0) (listed : List Nat) :
    graph.collapse listed = graph.refuse .noSamples :=
  if_pos lack

/-- The first listed handle that is not live is the one that is reported. -/
theorem collapse_of_missing (samples : graph.totalSamples ≠ 0) {listed before behind : List Nat}
    {handle : Nat} (split : listed = before ++ handle :: behind)
    (live : ∀ member ∈ before, graph.contains member) (gone : ¬ graph.contains handle) :
    graph.collapse listed = graph.refuse (.missingHandle handle) := by
  have first : listed.find? (fun handle => !graph.contains handle) = some handle := by
    refine List.find?_eq_some_iff_append.mpr ⟨by simpa using gone, before, behind, split, ?_⟩
    intro member inside
    simpa using live member inside
  rw [collapse, if_neg samples, first]

theorem collapse_of_empty (samples : graph.totalSamples ≠ 0) :
    graph.collapse [] = graph.refuse (.cyclic "empty cycle") :=
  if_neg samples

theorem Consistent.collapse_of_live (consistent : graph.Consistent)
    (samples : graph.totalSamples ≠ 0) {listed : List Nat} (some : listed ≠ [])
    (live : ∀ member ∈ listed, graph.contains member) :
    ∃ cycle, (graph.collapse listed).outcome = .ok cycle := by
  rcases consistent.collapse_spec listed with
    ⟨_, _, lack | empty | ⟨handle, inside, gone⟩⟩ | ⟨_, cycle, _, ran, _⟩
  · exact absurd lack samples
  · exact absurd empty some
  · rw [live handle inside] at gone
    cases gone
  · exact ⟨cycle, congrArg PassResult.outcome ran⟩

theorem Consistent.collapse_of_samples (consistent : graph.Consistent)
    (samples : graph.totalSamples ≠ 0) (listed : List Nat) :
    (graph.collapse listed).outcome ≠ .error .noSamples := by
  cases missing : listed.find? fun handle => !graph.contains handle with
  | some handle =>
    rw [CallGraph.collapse, if_neg samples, missing]
    simp [refuse]
  | none =>
    have live : ∀ member ∈ listed, graph.contains member := fun member inside => by
      simpa using List.find?_eq_none.mp missing member inside
    by_cases empty : listed = []
    · rw [empty, collapse_of_empty samples]
      simp [refuse]
    · obtain ⟨cycle, ran⟩ := consistent.collapse_of_live samples empty live
      simp [ran]

/-! Failures of operations. -/

/-- An operation reports that it failed: by an error, by no result, or by the
answer that there was no such edge. Pruning that stops at a root counts as ended
and not as failed, because what it removed before stays removed. -/
def Fails (graph : CallGraph α) : Operation α → Prop
  | .declare id name selfCoverage coverage =>
    ∃ error, graph.addNode id name selfCoverage coverage = .error error
  | .connect source target weight => ∃ error, graph.addEdge source target weight = .error error
  | .strengthen source target weight =>
    ∃ error, graph.addEdgeBetween source target weight = .error error
  | .reweigh source target weight => graph.setEdgeWeight? source target weight = none
  | .disconnect source target => graph.removeEdge? source target = none
  | .remove handle => ∃ error, graph.removeNode handle = .error error
  | .collapse listed => ∃ error, (graph.collapse listed).outcome = .error error
  | .collapseAll => ∃ error, graph.collapseAll.outcome = .error error
  | .correct => ∃ error, graph.fixSelfCoverage = .error error
  | .prune policy => ∃ id, (graph.prune policy).outcome = .error (.cyclic id)
  | .detach _ | .sample _ | .edit .. => False

theorem Consistent.collapse_failed (consistent : graph.Consistent) {listed : List Nat}
    {error : GraphError} (failed : (graph.collapse listed).outcome = .error error) :
    (graph.collapse listed).graph = graph := by
  rcases consistent.collapse_spec listed with ⟨_, refused, _⟩ | ⟨_, _, _, ran, _⟩
  · rw [refused]
  · rw [ran] at failed
    cases failed

/-- Collapsing all cycles fails only at the first one, for lack of samples. -/
theorem Consistent.collapseAll_failed (consistent : graph.Consistent) {error : GraphError}
    (failed : graph.collapseAll.outcome = .error error) : graph.collapseAll.graph = graph := by
  have run := consistent.collapseAll_run
  by_cases lack : graph.totalSamples = 0
  · rcases run.no_samples lack with ⟨unchanged, _⟩ | ⟨refused, _⟩
    · rw [unchanged]
    · rw [refused]
  · obtain ⟨_, _, _, ended, _⟩ := run.contracted consistent lack
    rw [ended] at failed
    cases failed

/-- Pruning finds a cycle only while it orders the nodes. -/
theorem Consistent.prune_cyclic (consistent : graph.Consistent) {policy : RootPolicy} {id : String}
    (failed : (graph.prune policy).outcome = .error (.cyclic id)) :
    (graph.prune policy).graph = graph := by
  rw [CallGraph.prune] at failed ⊢
  split at failed
  next => rfl
  next order _ =>
    rcases (consistent.pruneAlong_run policy {} order).outcome with ⟨_, ended⟩ | ⟨_, _, ended⟩
    · cases failed.symm.trans ended
    · cases failed.symm.trans ended

theorem Consistent.perform_failed (consistent : graph.Consistent) {operation : Operation α}
    (failed : graph.Fails operation) : graph.perform operation = graph := by
  cases operation with
  | declare | connect | strengthen | remove | correct =>
    obtain ⟨error, refused⟩ := failed
    rw [CallGraph.perform, refused]
    rfl
  | reweigh source target weight =>
    have absent : graph.setEdgeWeight? source target weight = none := failed
    rw [CallGraph.perform, absent, Option.getD_none]
  | disconnect source target =>
    have absent : graph.removeEdge? source target = none := failed
    rw [CallGraph.perform, CallGraph.dropEdge, absent]
  | collapse listed =>
    obtain ⟨error, refused⟩ := failed
    exact consistent.collapse_failed refused
  | collapseAll =>
    obtain ⟨error, refused⟩ := failed
    exact consistent.collapseAll_failed refused
  | prune policy =>
    obtain ⟨id, refused⟩ := failed
    exact consistent.prune_cyclic refused
  | detach | sample | edit => exact failed.elim

/-- The three passes report a lack of samples before any of them has written. -/
theorem Consistent.simplify_no_samples (consistent : graph.Consistent) {policy : RootPolicy}
    (failed : (graph.simplify policy).error = some .noSamples) :
    (graph.simplify policy).graph = graph := by
  rcases consistent.simplify_cases policy with
    ⟨lack, needs, _⟩ | ⟨_, ⟨ended, _⟩ | ⟨_, _, ended⟩⟩
  -- Where no cycle was left to be collapsed, the correction is the first to need samples.
  · rcases consistent.collapseAll_run.no_samples lack with ⟨unchanged, none⟩ | ⟨refused, _⟩
    · have acyclic := consistent.findCycle_eq_none_iff.mp none
      have receives := needs.resolve_left (not_not_intro acyclic)
      rcases consistent.fixSelfCoverage_spec acyclic with ⟨_, _, stopped⟩ | ⟨enough, _⟩
      · rw [simplify]
        simp only [unchanged, none, stopped]
      · exact absurd ⟨lack, receives⟩ enough
    · rw [simplify]
      simp only [refused]
  · cases failed.symm.trans ended
  · cases failed.symm.trans ended

/-- A failed operation leaves a reachable graph exactly as it was, and so do the
three passes when they lack samples. Collapsing listed nodes fails without
samples, else at the first listed handle that is not live, else only if nothing
is listed. -/
theorem Reachable.failure_keeps_graph (reachable : graph.Reachable) :
    (∀ operation, graph.Fails operation → graph.perform operation = graph) ∧
    (∀ handle error, (graph.removeInPlace handle).outcome = .error error →
      (graph.removeInPlace handle).graph = graph) ∧
    (∀ policy, (graph.simplify policy).error = some .noSamples →
      (graph.simplify policy).graph = graph) ∧
    ∀ listed,
      ((graph.collapse listed).outcome = .error .noSamples ↔ graph.totalSamples = 0) ∧
      (0 < graph.totalSamples →
        (∀ before handle behind, listed = before ++ handle :: behind →
          (∀ member ∈ before, graph.contains member) → ¬ graph.contains handle →
          (graph.collapse listed).outcome = .error (.missingHandle handle)) ∧
        ((∀ member ∈ listed, graph.contains member) →
          (listed = [] → (graph.collapse listed).outcome = .error (.cyclic "empty cycle")) ∧
          (listed ≠ [] → ∃ cycle, (graph.collapse listed).outcome = .ok cycle))) := by
  have consistent := reachable.consistent
  refine ⟨fun _ => consistent.perform_failed, fun handle error failed => ?_,
    fun _ => consistent.simplify_no_samples, fun listed => ⟨⟨?_, fun lack => ?_⟩, fun some => ?_⟩⟩
  · rw [removeInPlace_eq] at failed ⊢
    cases ran : graph.removeNode handle with
    | error => rfl
    | ok pair =>
      rw [ran] at failed
      cases failed
  · exact not_imp_not.mp fun samples => consistent.collapse_of_samples samples listed
  · rw [collapse_of_no_samples lack]
    rfl
  · have samples := Nat.pos_iff_ne_zero.mp some
    refine ⟨fun before handle behind split live gone => ?_, fun live => ⟨fun empty => ?_, ?_⟩⟩
    · rw [collapse_of_missing samples split live gone]
      rfl
    · rw [empty, collapse_of_empty samples]
      rfl
    · exact fun nonempty => consistent.collapse_of_live samples nonempty live

/-- Recursion in a graph without samples. -/
def unsampled : CallGraph Binary64 :=
  (empty "!").performAll [
    .declare "N1" "visit" (.ofNat 10) (.ofNat 100), .declare "N2" "leaf!" (.ofNat 90) (.ofNat 90),
    .connect "N1" "N1" 7, .connect "N1" "N2" 90]

theorem unsampled_failure_keeps_graph :
    (unsampled.simplify .forbid).error = some .noSamples ∧
      (unsampled.simplify .forbid).graph = unsampled ∧
      (unsampled.prune .retain).outcome = .error (.cyclic "N1") ∧
      unsampled.perform (.prune .retain) = unsampled ∧
      (unsampled.removeInPlace 2).graph = unsampled ∧
      (unsampled.collapse [1, 0, 7]).outcome = .error .noSamples := by
  have reachable : unsampled.Reachable := (Reachable.fresh "!").performAll _
  obtain ⟨failing, removing, simplifying, collapsing⟩ := reachable.failure_keeps_graph
  have lacking : (unsampled.simplify .forbid).error = some .noSamples := by decide +kernel
  have looping : (unsampled.prune .retain).outcome = .error (.cyclic "N1") := by decide +kernel
  have absent : (unsampled.removeInPlace 2).outcome = .error (.missingHandle 2) := rfl
  exact ⟨lacking, simplifying .forbid lacking, looping, failing (.prune .retain) ⟨"N1", looping⟩,
    removing 2 _ absent, (collapsing [1, 0, 7]).1.mpr (by decide +kernel)⟩

end ProfileGraph.CallGraph
