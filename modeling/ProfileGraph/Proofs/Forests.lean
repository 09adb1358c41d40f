import ProfileGraph.Proofs.ExactFlow
import ProfileGraph.Proofs.Removals

/-! Pruning of forests in exact arithmetic. Where each node has one caller at
most, a removed node hands all of itself to that caller: its share is one, and
every callee changes its caller and keeps the weight with which it is called.
Whole weights need no rounding, so the only rounding left is that of the
credited sum. -/
namespace ProfileGraph.CallGraph
open Quantity (IsHundredths)

variable {graph result : CallGraph Rat} {handle : Nat} {node : Node Rat}

/-- Rationals stand for themselves. -/
theorem exact_id : Quantity.Exact (id : Rat → Rat) (Quantity.roundTo 2) where
  zero := rfl
  emptySum := rfl
  add _ _ := rfl
  mul _ _ := rfl
  div _ _ := rfl
  isZero _ := beq_iff_eq
  roundTo_two _ := rfl
  round_zero := (Quantity.isHundredths_natCast 0).roundTo_two

/-- A graph in which each node has one caller at most, and all weights are
natural numbers. -/
structure Forest (graph : CallGraph Rat) : Prop where
  consistent : graph.Consistent
  single : ∀ {caller other callee}, graph.Calls caller callee → graph.Calls other callee →
    caller = other
  whole : ∀ caller callee, ∃ n : Nat, graph.flow id caller callee = n

/-! One caller. -/

theorem Consistent.length_predecessors_le_one_iff (consistent : graph.Consistent) (callee : Nat) :
    (graph.predecessors callee).length ≤ 1 ↔ ∀ caller other,
      graph.Calls caller callee → graph.Calls other callee → caller = other := by
  rw [← List.length_map (·.1), ← List.toFinset_card_of_nodup (graph.nodup_callers callee),
    Finset.card_le_one]
  simp only [List.mem_toFinset, consistent.mem_callers]
  exact ⟨fun same caller other edge edge' => same caller edge other edge',
    fun same caller edge other edge' => same caller other edge edge'⟩

theorem Consistent.forest (consistent : graph.Consistent)
    (single : ∀ handle, (graph.predecessors handle).length ≤ 1)
    (whole : ∀ caller callee weight,
      graph.edgeWeight? caller callee = some weight → ∃ n : Nat, weight = n) : graph.Forest where
  consistent := consistent
  single edge edge' :=
    (consistent.length_predecessors_le_one_iff _).mp (single _) _ _ edge edge'
  whole caller callee := by
    cases held : graph.edgeWeight? caller callee with
    | none => exact ⟨0, by rw [flow, held]; rfl⟩
    | some weight =>
      obtain ⟨n, natural⟩ := whole caller callee weight held
      exact ⟨n, by rw [flow_of_weight id held, id, natural]⟩

/-- The only caller of a node is all that is listed. -/
theorem Forest.predecessors_eq (forest : graph.Forest) {caller : Nat} {weight : Rat}
    (inward : graph.edgeWeight? caller handle = some weight) :
    graph.predecessors handle = [(caller, weight)] := by
  have listed := forest.consistent.mem_predecessors.mpr inward
  have few := (forest.consistent.length_predecessors_le_one_iff handle).mpr
    fun _ _ => forest.single
  cases callers : graph.predecessors handle with
  | nil => simp [callers] at listed
  | cons first later =>
    rw [callers, List.length_cons] at few
    obtain rfl : later = [] := List.eq_nil_of_length_eq_zero (by omega)
    rw [callers, List.mem_singleton] at listed
    rw [listed]

theorem Forest.inWeight_eq (forest : graph.Forest) {caller : Nat} {weight : Rat}
    (inward : graph.edgeWeight? caller handle = some weight) : graph.inWeight handle = weight := by
  rw [inWeight, forest.predecessors_eq inward, Quantity.sum_eq]
  simp

/-- A node that receives weight has a caller. -/
theorem exists_caller (consistent : graph.Consistent) (received : graph.inWeight handle ≠ 0) :
    ∃ caller weight, graph.edgeWeight? caller handle = some weight := by
  cases callers : graph.predecessors handle with
  | nil =>
    rw [inWeight, callers] at received
    exact absurd rfl received
  | cons entry later =>
    exact ⟨entry.1, entry.2, consistent.mem_predecessors.mp (callers ▸ List.mem_cons_self)⟩

/-- What flows on through a node from its caller is all that it passes on. -/
theorem Forest.through_whole (forest : graph.Forest) (received : graph.inWeight handle ≠ 0)
    (caller callee : Nat) :
    ∃ n : Nat, graph.flow id caller handle *
      (graph.flow id handle callee / graph.inWeight handle) = n := by
  cases inward : graph.edgeWeight? caller handle with
  | none =>
    exact ⟨0, by rw [flow_of_not_calls id (not_calls_of_none inward), zero_mul, Nat.cast_zero]⟩
  | some weight =>
    obtain ⟨n, passed⟩ := forest.whole handle callee
    have all : graph.flow id caller handle = graph.inWeight handle := by
      rw [flow_of_weight id inward, forest.inWeight_eq inward, id]
    exact ⟨n, by rw [all, passed, mul_div_cancel₀ _ received]⟩

/-! One removal. -/

section Removal
variable (forest : graph.Forest) (received : graph.inWeight handle ≠ 0)
  (ran : graph.removeAndBridge handle node = ⟨result, .ok ()⟩)

include forest received ran

/-- No bridge is rounded. -/
theorem Forest.flow_removeAndBridge {caller callee : Nat} (first : caller ≠ handle)
    (last : callee ≠ handle) :
    result.flow id caller callee = graph.flow id caller callee + graph.flow id caller handle *
      (graph.flow id handle callee / graph.inWeight handle) := by
  obtain ⟨n, through⟩ := forest.through_whole received caller callee
  rw [forest.consistent.flow_removeAndBridge exact_id ran first last, id, through,
    (Quantity.isHundredths_natCast n).roundTo_two]

theorem Forest.eliminate (eliminated : graph.Eliminated handle result) : result.Forest where
  consistent := eliminated.consistent
  single {caller other callee} edge edge' := by
    obtain ⟨first, _, edge⟩ := (eliminated.calls_iff caller callee).mp edge
    obtain ⟨first', _, edge'⟩ := (eliminated.calls_iff other callee).mp edge'
    -- An old edge beside a bridge would make the removed node a second caller of the callee.
    rcases edge with edge | ⟨inward, outward⟩ <;> rcases edge' with edge' | ⟨inward', outward'⟩
    · exact forest.single edge edge'
    · exact absurd (forest.single edge outward') first
    · exact absurd (forest.single edge' outward) first'
    · exact forest.single inward inward'
  whole caller callee := by
    by_cases edge : result.Calls caller callee
    · obtain ⟨first, last, _⟩ := (eliminated.calls_iff caller callee).mp edge
      obtain ⟨m, direct⟩ := forest.whole caller callee
      obtain ⟨n, through⟩ := forest.through_whole received caller callee
      refine ⟨m + n, ?_⟩
      rw [forest.flow_removeAndBridge received ran first last, direct, through, Nat.cast_add]
    · exact ⟨0, by rw [flow_of_not_calls id edge, Nat.cast_zero]⟩

theorem Forest.inWeight_removeAndBridge (loopless : ¬ graph.Calls handle handle)
    (eliminated : graph.Eliminated handle result) {other : Nat} (different : other ≠ handle) :
    result.inWeight other = graph.inWeight other := by
  obtain ⟨caller, weight, inward⟩ := exists_caller forest.consistent received
  have live := forest.consistent.contains_callee (calls_of_weight inward)
  exact forest.consistent.value_inWeight_of_unrounded exact_id live loopless eliminated received
    fun caller first => forest.flow_removeAndBridge received ran first different

/-- The only caller takes over all of the self coverage, up to the rounding of
one sum. -/
theorem Forest.abs_total_removeAndBridge_sub_le (held : graph.node? handle = some node)
    (loopless : ¬ graph.Calls handle handle) :
    |result.totalSelfCoverage - graph.totalSelfCoverage| ≤ 1 / 200 := by
  obtain ⟨caller, weight, inward⟩ := exists_caller forest.consistent received
  have credits := forest.consistent.abs_total_removeAndBridge_sub_shares_le held loopless ran
  have share : Quantity.roundTo 2 (weight / weight) = 1 := by
    rw [forest.inWeight_eq inward] at received
    rw [div_self received]
    exact (Quantity.isHundredths_natCast 1).roundTo_two
  rwa [forest.predecessors_eq inward, forest.inWeight_eq inward, List.map_singleton,
    List.sum_singleton, List.length_singleton, share, sub_self, mul_zero, sub_zero,
    Nat.cast_one] at credits

end Removal

/-! Two decimal places. -/

/-- No self coverage has more than two decimal places. -/
def Hundredths (graph : CallGraph Rat) : Prop :=
  ∀ handle, IsHundredths (graph.selfCoverageAt handle)

theorem Hundredths.of_nodes (each : ∀ node ∈ graph.nodes, IsHundredths node.selfCoverage) :
    graph.Hundredths := by
  intro handle
  cases held : graph.node? handle with
  | none =>
    rw [selfCoverageAt, held]
    exact Quantity.isHundredths_natCast 0
  | some node =>
    rw [selfCoverageAt_eq held]
    exact each node (mem_nodes.mpr ⟨handle, held⟩)

theorem Hundredths.total (hundredths : graph.Hundredths) :
    IsHundredths graph.totalSelfCoverage := by
  rw [totalSelfCoverage_eq, Quantity.sum_eq]
  refine Quantity.isHundredths_sum fun term member => ?_
  obtain ⟨handle, _, rfl⟩ := List.mem_map.mp member
  exact hundredths handle

theorem Hundredths.eliminate (hundredths : graph.Hundredths) (consistent : graph.Consistent)
    (ran : graph.removeAndBridge handle node = ⟨result, .ok ()⟩)
    (eliminated : graph.Eliminated handle result) : result.Hundredths := by
  intro other
  cases left : result.node? other with
  | none =>
    rw [selfCoverageAt, left]
    exact Quantity.isHundredths_natCast 0
  | some after =>
    have different := ((eliminated.contains_iff other).mp (contains_iff_node.mpr ⟨after, left⟩)).2
    rw [selfCoverageAt_eq left]
    rcases consistent.node_removeAndBridge_cases ran different left with
      ⟨_, held⟩ | ⟨received, before, _, _, rfl⟩
    · exact selfCoverageAt_eq held ▸ hundredths other
    · exact Quantity.isHundredths_roundTo_two _

/-! Many removals. -/

/-- A forest from which nodes that receive weight are removed: the others receive
what they did, and the total changes by the rounding of one sum for each node
that is removed. -/
structure Thinned (graph : CallGraph Rat) (removed : List Nat) (result : CallGraph Rat) :
    Prop where
  forest : result.Forest
  inWeight_eq : ∀ other, other ∉ removed → result.inWeight other = graph.inWeight other
  received : ∀ other ∈ removed, graph.inWeight other ≠ 0
  abs_total_sub_le :
    |result.totalSelfCoverage - graph.totalSelfCoverage| ≤ (removed.length : Rat) / 200
  total_eq : graph.Hundredths → result.totalSelfCoverage = graph.totalSelfCoverage

theorem Removals.thinned {removed order : List Nat} (removals : graph.Removals removed result)
    (forest : graph.Forest) (forward : graph.Forward order) : graph.Thinned removed result := by
  induction removals with
  | done => exact ⟨forest, fun _ _ => rfl, by simp, by simp, fun _ => rfl⟩
  | @next graph next result handle later node held inner ran eliminated _ ih =>
    have received : graph.inWeight handle ≠ 0 := fun none => inner ((isRoot_iff exact_id).mpr none)
    have loopless := forward.loopless handle
    have thinned := ih (forest.eliminate received ran eliminated) (eliminated.forward forward)
    have kept := fun other (different : other ≠ handle) =>
      forest.inWeight_removeAndBridge received ran loopless eliminated different
    have close := forest.abs_total_removeAndBridge_sub_le received ran held loopless
    refine ⟨thinned.forest, fun other outside => ?_, fun other inside => ?_, ?_, fun exact => ?_⟩
    · obtain ⟨different, outside⟩ := not_or.mp (List.mem_cons.not.mp outside)
      rw [thinned.inWeight_eq other outside, kept other different]
    -- What is removed later receives then what it receives now.
    · by_cases same : other = handle
      · exact same ▸ received
      · rw [← kept other same]
        exact thinned.received other ((List.mem_cons.mp inside).resolve_left same)
    · have onward := thinned.abs_total_sub_le
      have split := abs_sub_le result.totalSelfCoverage next.totalSelfCoverage
        graph.totalSelfCoverage
      rw [List.length_cons]
      push_cast
      linarith
    · have exact' := exact.eliminate forest.consistent ran eliminated
      rw [thinned.total_eq exact', exact'.total.eq_of_abs_sub_le exact.total close]

/-! Runs. -/

section Run
variable {removed order : List Nat} {report : PruneReport}
  (thinned : graph.Thinned removed result) (pruned : graph.Pruned removed result)
  (topological : graph.IsTopological order)
  (run : PruneRun .retain graph {} order ⟨result, .ok report⟩)

include thinned pruned topological run

/-- What stays is known before the first removal. -/
theorem Thinned.contains_iff (held : graph.node? handle = some node) :
    result.contains handle ↔ node.isInterestPoint ∨ graph.inWeight handle = 0 := by
  have live := contains_iff_node.mpr ⟨node, held⟩
  constructor
  · intro left
    obtain ⟨there, outside⟩ := (pruned.contains_iff handle).mp left
    obtain ⟨_, kept⟩ := run.kept [] topological.nodup topological.forward (by simp)
    rcases kept report rfl handle ((topological.mem_iff handle).mpr live) left with
      ⟨after, there, marked⟩ | root
    · obtain ⟨before, held', same⟩ := pruned.node_before there
      cases held.symm.trans held'
      exact .inl ((congrArg (·.isInterestPoint) same).trans marked)
    · exact .inr ((thinned.inWeight_eq handle outside).symm.trans ((isRoot_iff exact_id).mp root))
  · rintro (marked | none)
    · obtain ⟨after, there, _⟩ := run.isInterest ⟨node, held, marked⟩
      exact contains_iff_node.mpr ⟨after, there⟩
    · exact (pruned.contains_iff handle).mpr
        ⟨live, fun inside => thinned.received handle inside none⟩

/-- The report lists those of them that are no interest points. -/
theorem Thinned.mem_retainedRoots (consistent : graph.Consistent) (id : String) :
    id ∈ report.retainedRoots ↔ ∃ handle node, graph.node? handle = some node ∧
      ¬ node.isInterestPoint ∧ graph.inWeight handle = 0 ∧ node.profilerId = id := by
  rw [run.mem_retainedRoots consistent topological.nodup rfl]
  constructor
  · rintro (absent | ⟨handle, _, after, there, plain, named⟩)
    · cases absent
    · obtain ⟨before, held, same⟩ := pruned.node_before there
      have unmarked : ¬ before.isInterestPoint := congrArg (·.isInterestPoint) same ▸ plain
      have left := (thinned.contains_iff pruned topological run held).mp
        (contains_iff_node.mpr ⟨after, there⟩)
      exact ⟨handle, before, held, unmarked, left.resolve_left unmarked,
        (congrArg (·.profilerId) same).trans named⟩
  · rintro ⟨handle, node, held, plain, none, named⟩
    have left := (thinned.contains_iff pruned topological run held).mpr (.inr none)
    obtain ⟨after, there⟩ := contains_iff_node.mp left
    obtain ⟨before, held', same⟩ := pruned.node_before there
    cases held.symm.trans held'
    have unmarked : ¬ after.isInterestPoint := congrArg (·.isInterestPoint) same ▸ plain
    have visited := (topological.mem_iff handle).mpr (contains_iff_node.mpr ⟨node, held⟩)
    exact .inr ⟨handle, visited, after, there, unmarked,
      (congrArg (·.profilerId) same).symm.trans named⟩

end Run

/-- Pruning a forest whose weights are natural numbers, with roots staying, leaves
a forest in which every node receives what it did. Of the nodes that are no
interest points exactly those stay that received nothing. The total self coverage
changes by half a hundredth at most for each removed node, and not at all if no
self coverage has more than two decimal places. -/
theorem Reachable.prune_forest (reachable : graph.Reachable) (acyclic : graph.Acyclic)
    (single : ∀ handle, (graph.predecessors handle).length ≤ 1)
    (whole : ∀ caller callee weight,
      graph.edgeWeight? caller callee = some weight → ∃ n : Nat, weight = n) :
    ∃ report result, graph.prune .retain = ⟨result, .ok report⟩ ∧
      (∀ handle, (result.predecessors handle).length ≤ 1) ∧
      (∀ handle, result.contains handle → result.inWeight handle = graph.inWeight handle) ∧
      (∀ handle node, graph.node? handle = some node →
        (result.contains handle ↔ node.isInterestPoint ∨ graph.inWeight handle = 0)) ∧
      (∀ id, id ∈ report.retainedRoots ↔ ∃ handle node, graph.node? handle = some node ∧
        ¬ node.isInterestPoint ∧ graph.inWeight handle = 0 ∧ node.profilerId = id) ∧
      |result.totalSelfCoverage - graph.totalSelfCoverage| ≤ report.removed.length * (5 / 1000) ∧
      ((∀ node ∈ graph.nodes, ∃ k : Int, node.selfCoverage = k / 100) →
        result.totalSelfCoverage = graph.totalSelfCoverage) := by
  have consistent := reachable.consistent
  obtain ⟨order, report, result, topological, ran, run⟩ := consistent.prune_retain acyclic
  obtain ⟨removed, _, removals, counted⟩ := run.removals
  have pruned : graph.Pruned removed result := removals.pruned (.refl consistent)
  have thinned := removals.thinned (consistent.forest single whole) topological.forward
  refine ⟨report, result, ran, fun handle => ?_, fun handle left => ?_,
    fun handle node held => thinned.contains_iff pruned topological run held,
    thinned.mem_retainedRoots pruned topological run consistent, ?_,
    fun exact => thinned.total_eq (.of_nodes exact)⟩
  · exact (thinned.forest.consistent.length_predecessors_le_one_iff handle).mpr
      fun _ _ => thinned.forest.single
  · exact thinned.inWeight_eq handle ((pruned.contains_iff handle).mp left).2
  · have bound := thinned.abs_total_sub_le
    have counted : report.removed.length = removed.length :=
      (counted report rfl).trans (Nat.zero_add _)
    rw [counted]
    linarith

/-- A tree with an instrumented root, and one that is entered without samples. -/
def grove : CallGraph Rat :=
  (empty "!").performAll [
    .declare "N1" "main!" 5 100, .declare "N2" "parse" 10 90, .declare "N3" "scan" 20 60,
    .declare "N4" "leaf!" 40 40, .declare "N5" "print" 20 20, .declare "N6" "start" 1 1,
    .declare "N7" "idle" 4 4, .connect "N1" "N2" 90, .connect "N2" "N3" 60,
    .connect "N3" "N4" 40, .connect "N2" "N5" 20, .connect "N6" "N7" 0]

theorem grove_prune_forest :
    ∃ report result, grove.prune .retain = ⟨result, .ok report⟩ ∧
      (∀ handle, (result.predecessors handle).length ≤ 1) ∧
      (∀ handle, result.contains handle → result.inWeight handle = grove.inWeight handle) ∧
      (∀ handle node, grove.node? handle = some node →
        (result.contains handle ↔ node.isInterestPoint ∨ grove.inWeight handle = 0)) ∧
      (∀ id, id ∈ report.retainedRoots ↔ ∃ handle node, grove.node? handle = some node ∧
        ¬ node.isInterestPoint ∧ grove.inWeight handle = 0 ∧ node.profilerId = id) ∧
      |result.totalSelfCoverage - grove.totalSelfCoverage| ≤ report.removed.length * (5 / 1000) ∧
      ((∀ node ∈ grove.nodes, ∃ k : Int, node.selfCoverage = k / 100) →
        result.totalSelfCoverage = grove.totalSelfCoverage) := by
  have reachable : grove.Reachable := (Reachable.fresh "!").performAll _
  have consistent := reachable.consistent
  have acyclic : grove.Acyclic := consistent.findCycle_eq_none_iff.mp (by decide +kernel)
  have few : ∀ handle ∈ grove.handles, (grove.predecessors handle).length ≤ 1 := by
    decide +kernel
  have natural : ∀ edge ∈ grove.edges, edge.2.2 = (edge.2.2.num.toNat : Rat) := by decide +kernel
  refine reachable.prune_forest acyclic (fun handle => ?_)
    fun caller callee weight held => ⟨_, natural (caller, callee, weight) (mem_edges.mpr held)⟩
  by_cases live : grove.contains handle
  · exact few handle (mem_handles.mpr live)
  · have uncalled := consistent.predecessors_eq_nil_iff.mpr fun caller edge =>
      live (consistent.contains_callee edge)
    rw [uncalled]
    exact Nat.zero_le 1

end ProfileGraph.CallGraph
