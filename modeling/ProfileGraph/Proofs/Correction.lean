import ProfileGraph.Proofs.Bridging
import ProfileGraph.Simplify.SelfCoverage

/-! What correcting self coverage can do. It rewrites the field that it names
and nothing else, and in an acyclic graph only a lack of samples stops it. -/
namespace ProfileGraph.CallGraph

variable {α : Type} [Quantity α] {graph : CallGraph α}

private theorem linked_foldl (consistent : graph.Consistent) (value : Nat → α)
    (handles : List Nat) :
    graph.Linked (fun _ _ => False) (handles.foldl (fun corrected handle =>
      corrected.modifyNode handle fun node =>
        { node with selfCoverage := value handle }) graph) := by
  induction handles generalizing graph with
  | nil => exact .refl consistent
  | cons handle later ih =>
    have first : graph.Linked (fun _ _ => False) (graph.modifyNode handle fun node =>
        { node with selfCoverage := value handle }) :=
      consistent.linked_modifyNode handle fun _ => rfl
    exact (first.trans (ih first.consistent)).congr fun _ _ => or_self_iff

/-- Whatever the graph, correcting self coverage fails and changes nothing, or
leaves all but self coverages as they were. -/
theorem Consistent.linked_fixSelfCoverage (consistent : graph.Consistent)
    {report : CorrectionReport} {next : CallGraph α}
    (ran : graph.fixSelfCoverage = .ok (report, next)) : graph.Linked (fun _ _ => False) next := by
  rw [fixSelfCoverage] at ran
  split at ran
  next => cases ran
  next order _ =>
    dsimp only at ran
    split at ran
    next => cases ran
    next =>
      cases ran
      exact linked_foldl consistent graph.impliedSelfCoverage _

omit [Quantity α] in
private theorem node_foldl (value : Nat → α) (handles : List Nat) {handle : Nat} {after : Node α}
    (left : (handles.foldl (fun corrected handle => corrected.modifyNode handle fun node =>
      { node with selfCoverage := value handle }) graph).node? handle = some after) :
    ∃ before, graph.node? handle = some before ∧ (after = before ∨
      handle ∈ handles ∧ after = { before with selfCoverage := value handle }) := by
  induction handles generalizing graph with
  | nil => exact ⟨after, left, .inl rfl⟩
  | cons first later ih =>
    obtain ⟨between, held, same⟩ := ih left
    rw [node_modifyNode] at held
    split at held
    next here =>
      subst here
      obtain ⟨before, there, rfl⟩ := Option.map_eq_some_iff.mp held
      refine ⟨before, there, .inr ⟨List.mem_cons_self, ?_⟩⟩
      rcases same with rfl | ⟨_, rfl⟩ <;> rfl
    next =>
      exact ⟨between, held, same.imp_right (And.imp_left (List.mem_cons_of_mem first))⟩

/-- A node keeps its self coverage or gets the one that its edges imply. -/
theorem fixSelfCoverage_node {report : CorrectionReport} {next : CallGraph α}
    (ran : graph.fixSelfCoverage = .ok (report, next)) {handle : Nat} {after : Node α}
    (left : next.node? handle = some after) :
    ∃ before, graph.node? handle = some before ∧ (after = before ∨ graph.totalSamples ≠ 0 ∧
      after = { before with selfCoverage := graph.impliedSelfCoverage handle }) := by
  rw [fixSelfCoverage] at ran
  split at ran
  next => cases ran
  next order _ =>
    dsimp only at ran
    split at ran
    next => cases ran
    next enough =>
      cases ran
      obtain ⟨before, held, same⟩ := node_foldl graph.impliedSelfCoverage _ left
      refine ⟨before, held, same.imp_right fun ⟨inner, found⟩ => ⟨fun lack => ?_, found⟩⟩
      exact enough ⟨lack, List.ne_nil_of_mem inner⟩

/-- In an acyclic graph, correcting self coverage fails exactly when there are
no samples although some node receives weight. -/
theorem Consistent.fixSelfCoverage_spec (consistent : graph.Consistent) (acyclic : graph.Acyclic) :
    (graph.totalSamples = 0 ∧ (∃ handle, graph.contains handle ∧ ¬ graph.isRoot handle) ∧
      graph.fixSelfCoverage = .error .noSamples) ∨
    (¬ (graph.totalSamples = 0 ∧ ∃ handle, graph.contains handle ∧ ¬ graph.isRoot handle) ∧
      ∃ report next, graph.fixSelfCoverage = .ok (report, next) ∧
        graph.Linked (fun _ _ => False) next) := by
  obtain ⟨order, ordered, topological⟩ := consistent.exists_topologicalOrder acyclic
  have inner : order.filter (fun handle => !graph.isRoot handle) ≠ [] ↔
      ∃ handle, graph.contains handle ∧ ¬ graph.isRoot handle := by
    simp [List.filter_eq_nil_iff, topological.mem_iff]
  by_cases stopped : graph.totalSamples = 0 ∧
      order.filter (fun handle => !graph.isRoot handle) ≠ []
  · refine .inl ⟨stopped.1, inner.mp stopped.2, ?_⟩
    rw [fixSelfCoverage, ordered]
    exact if_pos stopped
  · obtain ⟨report, next, ran⟩ : ∃ report next, graph.fixSelfCoverage = .ok (report, next) := by
      rw [fixSelfCoverage, ordered]
      exact ⟨_, _, if_neg stopped⟩
    exact .inr ⟨by rwa [← inner], report, next, ran, consistent.linked_fixSelfCoverage ran⟩

end ProfileGraph.CallGraph
