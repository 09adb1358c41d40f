import ProfileGraph.Proofs.Forests

/-! The rounding errors of one removal, in exact arithmetic. Without rounding, the bridges
to a callee would make up for the edge that is removed, and the credits for the self
coverage. Each caller rounds its bridge to a callee once, its share once and the sum of
its credit once, so what a removal changes is at most half a hundredth for each of these. -/
namespace ProfileGraph.CallGraph

variable {graph result : CallGraph Rat} {handle : Nat} {node : Node Rat}

/-- How far rounding takes the bridge from a caller of a removed node to a callee off what
flowed through. -/
def bridgeError (graph : CallGraph Rat) (handle callee caller : Nat) : Rat :=
  let through :=
    graph.flow id caller handle * (graph.flow id handle callee / graph.inWeight handle)
  Quantity.roundTo 2 through - through

theorem abs_bridgeError_le (callee caller : Nat) :
    |graph.bridgeError handle callee caller| ≤ 1 / 200 :=
  Quantity.abs_roundTo_two_sub_le _

theorem bridgeError_of_not_calls {caller : Nat} (uncalled : ¬ graph.Calls caller handle)
    (callee : Nat) : graph.bridgeError handle callee caller = 0 := by
  rw [bridgeError, flow_of_not_calls id uncalled, zero_mul]
  exact sub_eq_zero.mpr exact_id.round_zero

/-- Only callers of the removed node build bridges, so the errors of all nodes add up to
half a hundredth for each of them at most. -/
theorem Consistent.abs_sum_bridgeError_le (consistent : graph.Consistent) {nodes : Finset Nat}
    (there : ∀ caller, graph.Calls caller handle → caller ∈ nodes) (callee : Nat) :
    |∑ caller ∈ nodes, graph.bridgeError handle callee caller| ≤
      (graph.predecessors handle).length * (1 / 200) := by
  have counted := List.toFinset_card_of_nodup (graph.nodup_callers handle)
  rw [List.length_map] at counted
  have bridging : ∑ caller ∈ ((graph.predecessors handle).map (·.1)).toFinset,
      graph.bridgeError handle callee caller =
      ∑ caller ∈ nodes, graph.bridgeError handle callee caller := by
    refine Finset.sum_subset (fun caller member => ?_) fun caller _ outside => ?_
    · exact there caller (consistent.mem_callers.mp (List.mem_toFinset.mp member))
    · exact bridgeError_of_not_calls (fun edge =>
        outside (List.mem_toFinset.mpr (consistent.mem_callers.mpr edge))) callee
  rw [← bridging]
  refine (Finset.abs_sum_le_sum_abs ..).trans ((Finset.sum_le_card_nsmul _ _ _ fun caller _ =>
    abs_bridgeError_le callee caller).trans_eq ?_)
  rw [counted, nsmul_eq_mul]

/-- A node receives what it did up to the rounding of one bridge for each caller of the
removed node. -/
theorem Consistent.abs_inWeight_removeAndBridge_sub_le (consistent : graph.Consistent)
    (held : graph.node? handle = some node) (received : graph.inWeight handle ≠ 0)
    (loopless : ¬ graph.Calls handle handle)
    (ran : graph.removeAndBridge handle node = ⟨result, .ok ()⟩)
    (eliminated : graph.Eliminated handle result) {other : Nat} (different : other ≠ handle) :
    |result.inWeight other - graph.inWeight other| ≤
      (graph.predecessors handle).length * (1 / 200) := by
  have total : result.inWeight other = graph.inWeight other +
      ∑ caller ∈ result.live, graph.bridgeError handle other caller := by
    refine consistent.value_inWeight_of_excess exact_id (contains_iff_node.mpr ⟨node, held⟩)
      loopless eliminated received (graph.bridgeError handle other) fun caller first => ?_
    rw [consistent.flow_removeAndBridge exact_id ran first different, bridgeError, add_assoc]
    dsimp only [id]
    rw [add_sub_cancel]
  rw [total, add_sub_cancel_left]
  refine consistent.abs_sum_bridgeError_le (fun caller edge => ?_) other
  refine mem_live.mpr ((eliminated.contains_iff caller).mpr ⟨contains_caller edge, ?_⟩)
  rintro rfl
  exact loopless edge

/-- Removing a node that receives weight and does not call itself always succeeds. With
`k` callers, each callee receives what it did up to 0.005 for each caller, and the total
self coverage changes by at most 0.005 for each caller and each unit of self coverage, and
one more for each caller. What the others receive and the self coverage of nodes that do
not call the removed one are the same as before. -/
theorem Consistent.removeAndBridge_errors (consistent : graph.Consistent)
    (held : graph.node? handle = some node) (received : 0 < graph.inWeight handle)
    (loopless : ¬ graph.Calls handle handle) (nonnegative : 0 ≤ node.selfCoverage) :
    ∃ result, graph.removeAndBridge handle node = ⟨result, .ok ()⟩ ∧
      (∀ callee, graph.Calls handle callee →
        |result.inWeight callee - graph.inWeight callee| ≤
          5 / 1000 * (graph.predecessors handle).length) ∧
      |result.totalSelfCoverage - graph.totalSelfCoverage| ≤
        5 / 1000 * (graph.predecessors handle).length * (node.selfCoverage + 1) ∧
      (∀ other, other ≠ handle → ¬ graph.Calls handle other →
        result.inWeight other = graph.inWeight other) ∧
      ∀ other, other ≠ handle → ¬ graph.Calls other handle →
        result.node? other = graph.node? other := by
  have live := contains_iff_node.mpr ⟨node, held⟩
  obtain ⟨result, ran, eliminated⟩ := consistent.removeAndBridge_spec live node
  refine ⟨result, ran, fun callee called => ?_, ?_, fun other different uncalled => ?_,
    fun other different uncalled => consistent.node_removeAndBridge ran different uncalled⟩
  · have different : callee ≠ handle := fun same => loopless (same ▸ called)
    have bound := consistent.abs_inWeight_removeAndBridge_sub_le held received.ne' loopless ran
      eliminated different
    linarith
  · have inner : ¬ graph.isRoot handle := fun root => received.ne' ((isRoot_iff exact_id).mp root)
    have bound := consistent.abs_total_removeAndBridge_sub_le held inner loopless ran
    rw [abs_of_nonneg nonnegative] at bound
    linarith
  · rw [inWeight, eliminated.predecessors_eq other different uncalled, inWeight]

/-- A helper that three functions call, one of which also calls what the helper calls. -/
def shared : CallGraph Rat :=
  (empty "!").performAll [
    .declare "N1" "main!" 1 100, .declare "N2" "scan!" 2 40, .declare "N3" "print!" 3 30,
    .declare "N4" "helper" 10 60, .declare "N5" "leaf!" 20 20, .declare "N6" "exit" 5 5,
    .connect "N1" "N4" 1, .connect "N2" "N4" 1, .connect "N3" "N4" 1, .connect "N4" "N5" 1,
    .connect "N1" "N5" 7, .connect "N2" "N6" 4]

theorem shared_removeAndBridge_errors :
    ∃ node result, shared.node? 3 = some node ∧ 0 < shared.inWeight 3 ∧
      shared.removeAndBridge 3 node = ⟨result, .ok ()⟩ ∧
      |result.inWeight 4 - shared.inWeight 4| ≤ 5 / 1000 * 3 ∧
      |result.totalSelfCoverage - shared.totalSelfCoverage| ≤ 5 / 1000 * 3 * (10 + 1) ∧
      result.inWeight 5 = shared.inWeight 5 ∧ result.node? 4 = shared.node? 4 := by
  have consistent : shared.Consistent := ((Reachable.fresh "!").performAll _).consistent
  have received : 0 < shared.inWeight 3 := by decide +kernel
  have callers : (shared.predecessors 3).length = 3 := by decide +kernel
  have own : (shared.node? 3).map (·.selfCoverage) = some 10 := by decide +kernel
  obtain ⟨node, held, ten⟩ := Option.map_eq_some_iff.mp own
  obtain ⟨result, ran, callees, total, others, nodes⟩ :=
    consistent.removeAndBridge_errors held received (by decide +kernel)
      (by rw [ten]; decide +kernel)
  rw [callers] at callees total
  rw [ten] at total
  exact ⟨node, result, held, received, ran, callees 4 (by decide +kernel), total,
    others 5 (by decide) (by decide +kernel), nodes 4 (by decide) (by decide +kernel)⟩

end ProfileGraph.CallGraph
