import Mathlib.Algebra.BigOperators.Ring.List
import ProfileGraph.Proofs.Crediting
import ProfileGraph.Proofs.Flow
import ProfileGraph.Proofs.RationalRounding

/-! The weights and the self coverage that the removal of one node leaves. Each
bridge is written once, and each caller is credited once, so the two nested
loops of a removal can be read off one entry at a time. The total self coverage
changes by the credits of the callers; in exact arithmetic each of them gets its share
of what is removed up to two roundings, that of the share and that of the sum. -/
namespace ProfileGraph

namespace CallGraph
variable {α γ : Type} {graph result : CallGraph α}

/-! Loops that write an entry once. -/

/-- If one item of a loop changes what is seen of a graph and the others do not,
it is changed once. -/
theorem forEach_once {β : Type} {step : β → CallGraph α → PassResult Unit α} {items : List β}
    {item : β} (view : CallGraph α → γ) (change : γ → γ) (distinct : items.Nodup)
    (inside : item ∈ items)
    (keeps : ∀ other ∈ items, other ≠ item → ∀ graph, view (step other graph).graph = view graph)
    (changes : ∀ graph next : CallGraph α, step item graph = ⟨next, .ok ()⟩ →
      view next = change (view graph))
    (ran : forEach step items graph = ⟨result, .ok ()⟩) : view result = change (view graph) := by
  induction items generalizing graph with
  | nil => cases inside
  | cons first later ih =>
    obtain ⟨middle, ⟨⟩, begun, onward⟩ := PassResult.andThen_eq_ok ran
    obtain ⟨fresh, distinct⟩ := List.nodup_cons.mp distinct
    by_cases same : first = item
    · subst same
      have behind : view (forEach step later middle).graph = view middle :=
        forEach_keeps view fun other member =>
          keeps other (List.mem_cons_of_mem first member) fun equal => fresh (equal ▸ member)
      rw [onward] at behind
      rw [behind, changes graph middle begun]
    · have ahead := keeps first List.mem_cons_self same graph
      rw [begun] at ahead
      have member := (List.mem_cons.mp inside).resolve_left (Ne.symm same)
      rw [ih distinct member (fun other member => keeps other (List.mem_cons_of_mem first member))
        onward, ahead]

theorem keys_ne {entries : List (Nat × γ)} {entry other : Nat × γ}
    (distinct : (entries.map (·.1)).Nodup) (inside : entry ∈ entries) (otherInside : other ∈ entries)
    (different : other ≠ entry) : other.1 ≠ entry.1 := fun same =>
  different (List.inj_on_of_nodup_map distinct otherInside inside same)

variable [Quantity α]

/-! One removal. -/

section Removal
variable {handle caller callee : Nat} {node : Node α} {received passedOn : α}

/-- Handing over to a caller writes its bridge to each callee once. -/
theorem edgeWeight_handOver {selfCoverage inWeight : α} {callees : List (Nat × α)}
    (distinct : (callees.map (·.1)).Nodup) (listed : (callee, passedOn) ∈ callees)
    (ran : handOver selfCoverage inWeight callees (caller, received) graph = ⟨result, .ok ()⟩) :
    result.edgeWeight? caller callee = some ((graph.edgeWeight? caller callee).getD Quantity.zero +
      Quantity.roundTo 2 (received * (passedOn / inWeight))) := by
  have written := forEach_once (·.edgeWeight? caller callee)
    (fun before => some (before.getD Quantity.zero +
      Quantity.roundTo 2 (received * (passedOn / inWeight))))
    distinct.of_map listed (fun other member different graph => ?_) (fun graph next bridged => ?_) ran
  · rw [written, credit, edgeWeight_modifyNode]
  · have apart : ¬ (caller = caller ∧ callee = other.1) := fun ends =>
      keys_ne distinct listed member different ends.2.symm
    exact addEdgeBetween_keeps (·.edgeWeight? caller callee)
      (edgeWeight_strengthen_of_ne _ apart)
  · obtain ⟨live, _, rfl⟩ := addEdgeBetween_eq_ok (attempt_eq_ok bridged)
    rw [edgeWeight_strengthen live, if_pos ⟨rfl, rfl⟩]

/-- Handing over to one caller changes no edge of another. -/
theorem edgeWeight_handOver_of_ne {selfCoverage inWeight : α} {callees : List (Nat × α)}
    {entry : Nat × α} (different : caller ≠ entry.1) :
    (handOver selfCoverage inWeight callees entry graph).graph.edgeWeight? caller callee =
      graph.edgeWeight? caller callee := by
  rw [handOver]
  refine (forEach_keeps (·.edgeWeight? caller callee) fun edge _ graph => ?_).trans
    (edgeWeight_modifyNode ..)
  exact addEdgeBetween_keeps (·.edgeWeight? caller callee)
    (edgeWeight_strengthen_of_ne _ fun ends => different ends.1)

/-- A caller gets a bridge to a callee, or more weight on the edge that it has. -/
theorem Consistent.edgeWeight_removeAndBridge_of_bridged (consistent : graph.Consistent)
    (ran : graph.removeAndBridge handle node = ⟨result, .ok ()⟩)
    (first : caller ≠ handle) (last : callee ≠ handle)
    (inward : graph.edgeWeight? caller handle = some received)
    (outward : graph.edgeWeight? handle callee = some passedOn) :
    result.edgeWeight? caller callee = some ((graph.edgeWeight? caller callee).getD Quantity.zero +
      Quantity.roundTo 2 (received * (passedOn / graph.inWeight handle))) := by
  obtain ⟨middle, handed, linked⟩ := consistent.handOvers_spec handle node.selfCoverage
  obtain ⟨_, same, rfl⟩ := removeAndBridge_stages ran
  cases handed.symm.trans same
  rw [linked.consistent.edgeWeight_delete, if_neg (not_or.mpr ⟨first, last⟩)]
  have listed := consistent.mem_predecessors.mpr inward
  refine forEach_once (·.edgeWeight? caller callee)
    (fun before => some (before.getD Quantity.zero +
      Quantity.roundTo 2 (received * (passedOn / graph.inWeight handle))))
    (graph.nodup_callers handle).of_map listed (fun other member different graph' => ?_)
    (fun graph' next handedOver => ?_) handed
  · exact edgeWeight_handOver_of_ne
      (keys_ne (graph.nodup_callers handle) listed member different).symm
  · exact edgeWeight_handOver (graph.nodup_callees handle) (mem_successors.mpr outward) handedOver

/-- All other edges between nodes that are left keep their weights. -/
theorem Consistent.edgeWeight_removeAndBridge_of_unbridged (consistent : graph.Consistent)
    (ran : graph.removeAndBridge handle node = ⟨result, .ok ()⟩)
    (first : caller ≠ handle) (last : callee ≠ handle)
    (unbridged : ¬ (graph.Calls caller handle ∧ graph.Calls handle callee)) :
    result.edgeWeight? caller callee = graph.edgeWeight? caller callee := by
  obtain ⟨middle, handed, linked⟩ := consistent.handOvers_spec handle node.selfCoverage
  obtain ⟨_, same, rfl⟩ := removeAndBridge_stages ran
  cases handed.symm.trans same
  rw [linked.consistent.edgeWeight_delete, if_neg (not_or.mpr ⟨first, last⟩)]
  exact linked.unlinked caller callee unbridged

/-- An edge that is left is as it was, or leads from a caller to a callee of the removed
node and has got one more bridge. -/
theorem Consistent.edgeWeight_removeAndBridge_cases (consistent : graph.Consistent)
    (ran : graph.removeAndBridge handle node = ⟨result, .ok ()⟩)
    (eliminated : graph.Eliminated handle result) {weight : α}
    (left : result.edgeWeight? caller callee = some weight) :
    graph.edgeWeight? caller callee = some weight ∨ ∃ received passedOn,
      graph.edgeWeight? caller handle = some received ∧
      graph.edgeWeight? handle callee = some passedOn ∧
      weight = (graph.edgeWeight? caller callee).getD Quantity.zero +
        Quantity.roundTo 2 (received * (passedOn / graph.inWeight handle)) := by
  obtain ⟨first, last, _⟩ := (eliminated.calls_iff caller callee).mp (calls_of_weight left)
  by_cases bridged : graph.Calls caller handle ∧ graph.Calls handle callee
  · obtain ⟨received, inward⟩ := Option.isSome_iff_exists.mp bridged.1
    obtain ⟨passedOn, outward⟩ := Option.isSome_iff_exists.mp bridged.2
    rw [consistent.edgeWeight_removeAndBridge_of_bridged ran first last inward outward,
      Option.some_inj] at left
    exact .inr ⟨received, passedOn, inward, outward, left.symm⟩
  · rw [consistent.edgeWeight_removeAndBridge_of_unbridged ran first last bridged] at left
    exact .inl left

/-- A caller is credited with its share once. -/
theorem Consistent.node_removeAndBridge_of_caller (consistent : graph.Consistent)
    (ran : graph.removeAndBridge handle node = ⟨result, .ok ()⟩) (different : caller ≠ handle)
    (inward : graph.edgeWeight? caller handle = some received) :
    result.node? caller = (graph.node? caller).map fun credited => { credited with
      selfCoverage := Quantity.roundTo 2 (credited.selfCoverage +
        node.selfCoverage * Quantity.roundTo 2 (received / graph.inWeight handle)) } := by
  obtain ⟨middle, handed, rfl⟩ := removeAndBridge_stages ran
  have listed := consistent.mem_predecessors.mpr inward
  rw [node_delete, if_neg different]
  refine forEach_once (·.node? caller) (Option.map _) (graph.nodup_callers handle).of_map listed
    (fun other member different graph' => ?_) (fun graph' next handedOver => ?_) handed
  · have apart := keys_ne (graph.nodup_callers handle) listed member different
    rw [handOver_keeps (·.node? caller) (fun _ _ _ _ => node_strengthen ..) rfl, node_credit,
      if_neg apart.symm]
  · rw [handOver_keeps (·.node? caller) (fun _ _ _ _ => node_strengthen ..)
      (congrArg PassResult.graph handedOver), node_credit, if_pos rfl]

/-- A node that is left is a caller with its credit, or as it was. -/
theorem Consistent.node_removeAndBridge_cases (consistent : graph.Consistent)
    (ran : graph.removeAndBridge handle node = ⟨result, .ok ()⟩) (different : caller ≠ handle)
    {after : Node α} (left : result.node? caller = some after) :
    graph.edgeWeight? caller handle = none ∧ graph.node? caller = some after ∨
      ∃ received before, graph.edgeWeight? caller handle = some received ∧
        graph.node? caller = some before ∧ after = { before with
          selfCoverage := Quantity.roundTo 2 (before.selfCoverage +
            node.selfCoverage * Quantity.roundTo 2 (received / graph.inWeight handle)) } := by
  cases inward : graph.edgeWeight? caller handle with
  | none =>
    rw [consistent.node_removeAndBridge ran different (not_calls_of_none inward)] at left
    exact .inl ⟨rfl, left⟩
  | some received =>
    rw [consistent.node_removeAndBridge_of_caller ran different inward,
      Option.map_eq_some_iff] at left
    obtain ⟨before, held, same⟩ := left
    exact .inr ⟨received, before, rfl, held, same.symm⟩

end Removal

/-! Totals. -/

theorem map_nodes_eq (view : α → γ) : (graph.nodes.map fun node => view node.selfCoverage) =
    graph.handles.map fun handle => view (graph.selfCoverageAt handle) := by
  have live : ∀ handle ∈ graph.handles, graph.contains handle := fun _ => mem_handles.mp
  rw [nodes]
  generalize graph.handles = handles at live ⊢
  induction handles with
  | nil => rfl
  | cons handle later ih =>
    obtain ⟨here, live⟩ := List.forall_mem_cons.mp live
    obtain ⟨node, held⟩ := contains_iff_node.mp here
    rw [List.filterMap_cons_some held, List.map_cons, List.map_cons, ih live,
      selfCoverageAt_eq held]

theorem totalSelfCoverage_eq :
    graph.totalSelfCoverage = Quantity.sum (graph.handles.map graph.selfCoverageAt) :=
  congrArg Quantity.sum (map_nodes_eq id)

/-- Sums whose terms are close are close. -/
theorem abs_sum_map_sub_le {β : Type} {items : List β} {left right : β → Rat} {error : Rat}
    (close : ∀ item ∈ items, |left item - right item| ≤ error) :
    |(items.map left).sum - (items.map right).sum| ≤ items.length * error := by
  induction items with
  | nil => simp
  | cons first later ih =>
    obtain ⟨here, close⟩ := List.forall_mem_cons.mp close
    rw [List.map_cons, List.map_cons, List.sum_cons, List.sum_cons, List.length_cons,
      add_sub_add_comm, Nat.cast_succ, add_one_mul, add_comm _ error]
    exact (abs_add_le _ _).trans (add_le_add here (ih close))

section Total
variable {handle : Nat} {node : Node α} (consistent : graph.Consistent)
  (held : graph.node? handle = some node)
  (ran : graph.removeAndBridge handle node = ⟨result, .ok ()⟩)
include consistent held ran

/-- A removal changes what the self coverages add up to by those of the callers,
and takes that of the removed node away. -/
theorem Consistent.sum_removeAndBridge (loopless : ¬ graph.Calls handle handle) (value : α → Rat) :
    (result.nodes.map fun left => value left.selfCoverage).sum =
      (graph.nodes.map fun there => value there.selfCoverage).sum - value node.selfCoverage +
        ((graph.predecessors handle).map fun entry =>
          value (result.selfCoverageAt entry.1) - value (graph.selfCoverageAt entry.1)).sum := by
  obtain ⟨_, same, eliminated⟩ :=
    consistent.removeAndBridge_spec (contains_iff_node.mpr ⟨node, held⟩) node
  cases ran.symm.trans same
  have left : result.handles.toFinset = graph.handles.toFinset.erase handle := by
    ext other
    rw [Finset.mem_erase, List.mem_toFinset, List.mem_toFinset, mem_handles, mem_handles,
      eliminated.contains_iff, and_comm]
  have callers : ((graph.predecessors handle).map (·.1)).toFinset ⊆
      graph.handles.toFinset.erase handle := by
    intro caller listed
    have edge := consistent.mem_callers.mp (List.mem_toFinset.mp listed)
    rw [Finset.mem_erase, List.mem_toFinset, mem_handles]
    exact ⟨fun same => loopless (same ▸ edge), contains_caller edge⟩
  have others : ∀ other ∈ graph.handles.toFinset.erase handle,
      other ∉ ((graph.predecessors handle).map (·.1)).toFinset →
        value (result.selfCoverageAt other) - value (graph.selfCoverageAt other) = 0 := by
    intro other there unlisted
    have uncredited : ¬ graph.Calls other handle := fun edge =>
      unlisted (List.mem_toFinset.mpr (consistent.mem_callers.mpr edge))
    rw [consistent.selfCoverageAt_removeAndBridge ran (Finset.ne_of_mem_erase there) uncredited,
      sub_self]
  have live := List.mem_toFinset.mpr (mem_handles.mpr (contains_iff_node.mpr ⟨node, held⟩))
  have changed := Finset.sum_subset callers others
  rw [List.sum_toFinset _ (graph.nodup_callers handle), List.map_map, Finset.sum_sub_distrib,
    ← left, List.sum_toFinset _ nodup_handles, left, Finset.sum_erase_eq_sub live,
    List.sum_toFinset _ nodup_handles, selfCoverageAt_eq held] at changed
  rw [map_nodes_eq, map_nodes_eq]
  exact sub_eq_iff_eq_add'.mp changed.symm

/-- If each caller is credited with its part up to an error, what the self coverages
add up to changes by what the parts miss of one, as far as it counts, and by an error
for each caller. -/
theorem Consistent.abs_sum_removeAndBridge_sub_le (loopless : ¬ graph.Calls handle handle)
    (value : α → Rat) (part : Nat × α → Rat) {error : Rat}
    (credited : ∀ entry ∈ graph.predecessors handle,
      |value (result.selfCoverageAt entry.1) - value (graph.selfCoverageAt entry.1) -
        value node.selfCoverage * part entry| ≤ error) :
    |(result.nodes.map fun left => value left.selfCoverage).sum -
        (graph.nodes.map fun there => value there.selfCoverage).sum -
        value node.selfCoverage * (((graph.predecessors handle).map part).sum - 1)| ≤
      (graph.predecessors handle).length * error := by
  have credits := abs_sum_map_sub_le credited
  rw [List.sum_map_mul_left] at credits
  rw [consistent.sum_removeAndBridge held ran loopless value]
  refine (congrArg abs ?_).trans_le credits
  ring

end Total

section Exact
variable {graph result : CallGraph Rat} {handle : Nat} {node : Node Rat}

/-- In exact arithmetic a removal changes the total by what the shares miss of one, as far
as it counts, up to the rounding of one sum for each caller. -/
theorem Consistent.abs_total_removeAndBridge_sub_shares_le (consistent : graph.Consistent)
    (held : graph.node? handle = some node) (loopless : ¬ graph.Calls handle handle)
    (ran : graph.removeAndBridge handle node = ⟨result, .ok ()⟩) :
    |result.totalSelfCoverage - graph.totalSelfCoverage - node.selfCoverage *
        (((graph.predecessors handle).map fun entry =>
          Quantity.roundTo 2 (entry.2 / graph.inWeight handle)).sum - 1)| ≤
      (graph.predecessors handle).length / 200 := by
  have credited : ∀ entry ∈ graph.predecessors handle,
      |result.selfCoverageAt entry.1 - graph.selfCoverageAt entry.1 -
        node.selfCoverage * Quantity.roundTo 2 (entry.2 / graph.inWeight handle)| ≤ 1 / 200 := by
    intro (caller, received) listed
    have inward := consistent.mem_predecessors.mp listed
    have edge := calls_of_weight inward
    have different : caller ≠ handle := fun same => loopless (same ▸ edge)
    obtain ⟨before, there⟩ := contains_iff_node.mp (contains_caller edge)
    rw [selfCoverageAt, consistent.node_removeAndBridge_of_caller ran different inward, there,
      selfCoverageAt_eq there, sub_sub]
    exact Quantity.abs_roundTo_two_sub_le _
  have credits := consistent.abs_sum_removeAndBridge_sub_le held ran loopless id _ credited
  rw [mul_one_div] at credits
  rwa [totalSelfCoverage, totalSelfCoverage, Quantity.sum_eq, Quantity.sum_eq]

/-- In exact arithmetic a removal changes the total by the roundings of the shares, each as
far as it counts, and of the sums. -/
theorem Consistent.abs_total_removeAndBridge_sub_le (consistent : graph.Consistent)
    (held : graph.node? handle = some node) (inner : ¬ graph.isRoot handle)
    (loopless : ¬ graph.Calls handle handle)
    (ran : graph.removeAndBridge handle node = ⟨result, .ok ()⟩) :
    |result.totalSelfCoverage - graph.totalSelfCoverage| ≤
      (graph.predecessors handle).length * (|node.selfCoverage| + 1) / 200 := by
  have credits := consistent.abs_total_removeAndBridge_sub_shares_le held loopless ran
  have received : graph.inWeight handle ≠ 0 := fun none => inner (beq_iff_eq.mpr none)
  have whole : ((graph.predecessors handle).map fun entry =>
      entry.2 / graph.inWeight handle).sum = 1 := by
    have weights : ((graph.predecessors handle).map (·.2)).sum = graph.inWeight handle :=
      (Quantity.sum_eq _).symm
    simp only [div_eq_mul_inv]
    rw [List.sum_map_mul_right, weights, mul_inv_cancel₀ received]
  have shares := abs_sum_map_sub_le fun entry (_ : entry ∈ graph.predecessors handle) =>
    Quantity.abs_roundTo_two_sub_le (entry.2 / graph.inWeight handle)
  rw [whole] at shares
  generalize ((graph.predecessors handle).map fun entry =>
    Quantity.roundTo 2 (entry.2 / graph.inWeight handle)).sum = credited at credits shares
  have scaled : |node.selfCoverage * (credited - 1)| ≤
      |node.selfCoverage| * ((graph.predecessors handle).length * (1 / 200)) := by
    rw [abs_mul]
    exact mul_le_mul_of_nonneg_left shares (abs_nonneg _)
  calc |result.totalSelfCoverage - graph.totalSelfCoverage|
      = |(result.totalSelfCoverage - graph.totalSelfCoverage - node.selfCoverage * (credited - 1))
          + node.selfCoverage * (credited - 1)| := by ring_nf
    _ ≤ (graph.predecessors handle).length / 200
          + |node.selfCoverage| * ((graph.predecessors handle).length * (1 / 200)) :=
        (abs_add_le _ _).trans (add_le_add credits scaled)
    _ = (graph.predecessors handle).length * (|node.selfCoverage| + 1) / 200 := by ring

end Exact

end CallGraph
end ProfileGraph
