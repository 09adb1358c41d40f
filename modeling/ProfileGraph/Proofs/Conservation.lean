import Mathlib.Data.Set.Card
import ProfileGraph.Proofs.PruneBounds
import ProfileGraph.Proofs.RoundingErrors

/-! What pruning does to the total self coverage. A removed node is credited to the nodes
that are left and reach it through removed nodes. With few of them the total is kept up to
a tenth for each removed node, but the rounded shares of three equal callers already lose a
hundredth of what they share. Each caller rounds to hundredths twice, its share and its
credit, so it may be off by half a hundredth for the credit and as much for each unit that
is shared. That sums, products and quotients are doubles adds less than a ninth to this, if
no sum of weights overflows and handles have 32 bits. -/
namespace ProfileGraph.CallGraph

open Binary64 (powerUnits roundoff)

section Creditors
variable {α : Type} {start graph result : CallGraph α} {removed later : List Nat}

/-- The nodes that a removed one is credited to in the end. -/
def creditors (graph : CallGraph α) (removed : List Nat) (result : CallGraph α) (gone : Nat) :
    Set Nat :=
  {caller | result.contains caller ∧ graph.Bridged removed caller gone}

theorem finite_creditors {gone : Nat} : (graph.creditors removed result gone).Finite :=
  (List.finite_toSet result.handles).subset fun _ credited => mem_handles.mpr credited.1

/-- The callers of a node at its turn are among those it is credited to: they
were visited before and stay. -/
theorem Removals.length_predecessors_le [Quantity α] {before order : List Nat} {handle : Nat}
    (removals : graph.Removals (handle :: later) result) (pruned : start.Pruned before graph)
    (forward : graph.Forward order)
    (sorted : (handle :: later).Pairwise (order.idxOf · < order.idxOf ·)) :
    (graph.predecessors handle).length ≤
      (start.creditors (before ++ handle :: later) result handle).ncard := by
  have left := removals.pruned pruned
  rw [← List.length_map (·.1), ← List.toFinset_card_of_nodup (graph.nodup_callers handle),
    ← Set.ncard_coe_finset]
  refine Set.ncard_le_ncard (fun caller member => ?_) finite_creditors
  have edge := pruned.consistent.mem_callers.mp (List.mem_toFinset.mp member)
  obtain ⟨there, kept⟩ := (pruned.contains_iff caller).mp (contains_caller edge)
  have present := ((pruned.contains_iff handle).mp (pruned.consistent.contains_callee edge)).2
  have stays : caller ∉ handle :: later := fun inside =>
    forward.uncalled_by_later sorted caller inside edge
  refine ⟨(left.contains_iff caller).mpr ⟨there, ?_⟩, ?_⟩
  · rw [List.mem_append]
    exact not_or.mpr ⟨kept, stays⟩
  · exact ((pruned.calls_iff caller handle kept present).mp edge).mono (List.subset_append_left ..)

end Creditors

variable {start graph next result : CallGraph Binary64} {handle caller past : Nat}
  {node : Node Binary64} {removed later : List Nat}

/-- What the self coverages add up to as the numbers that they are. -/
def exactSelfCoverage (graph : CallGraph Binary64) : Rat :=
  (graph.nodes.map fun node => node.selfCoverage.value).sum

/-- What the total may be off from that, because it is added up in doubles. -/
def summationError (graph : CallGraph Binary64) : Rat :=
  2 * graph.nodeCount * (graph.totalSelfCoverage.value + 1) * roundoff

/-- What the removal of a node may change the total by: two roundings to hundredths for
each node that it is credited to, the one of the share scaled by what is shared. -/
noncomputable def creditError (graph : CallGraph Binary64) (removed : List Nat)
    (result : CallGraph Binary64) (gone : Nat) : Rat :=
  (graph.creditors removed result gone).ncard * ((graph.selfCoverageAt gone).value + 1) / 180

/-! One removal. -/

section Removal
variable (within : graph.WeightsWithin 936 past (handle :: later)) (consistent : graph.Consistent)
  (inner : ¬ graph.isRoot handle) (early : past < 2 ^ 32) (few : graph.nodeCount ≤ 2 ^ 32)

include consistent few in
theorem Consistent.length_predecessors_le : (graph.predecessors handle).length ≤ 2 ^ 32 := by
  rw [← List.length_map (·.1)]
  refine (length_le_nodeCount (graph.nodup_callers handle) fun caller listed => ?_).trans few
  exact contains_caller (consistent.mem_callers.mp listed)

include within consistent early few in
theorem WeightsWithin.inWeight_isFinite : (graph.inWeight handle).isFinite := by
  have counted : ((graph.predecessors handle).map (·.2)).length ≤ Binary64.exactBound := by
    rw [List.length_map]
    exact (consistent.length_predecessors_le few).trans (by decide)
  have room : 1 + 2 * past ≤ 2 ^ 34 := by omega
  have each : ∀ term ∈ (graph.predecessors handle).map (·.2), term.AtMost (powerUnits 970) :=
    fun term member => (within.received consistent term member).2.2.mono
      (Binary64.mul_powerUnits_le room (by decide))
  exact (Binary64.atMost_sum each fun n less =>
    Binary64.isMagnitude_mul_powerUnits (less.trans counted) (by decide)).isFinite

include within consistent inner early few

/-- The share of a caller is what it makes up, up to half a hundredth and little more. -/
theorem WeightsWithin.abs_value_share_sub_le {received : Binary64}
    (inward : graph.edgeWeight? caller handle = some received) :
    |(Quantity.roundTo 2 (received / graph.inWeight handle)).value -
      received.value / (graph.inWeight handle).value| ≤ 1 / 200 + 10 * roundoff := by
  obtain ⟨units, most, inside, some⟩ := within.inWeight_atLeast consistent inner inward
  exact Binary64.abs_value_share_sub_le most inside some
    (within.unsigned caller handle received inward) (within.unsigned.inWeight consistent handle)
    (within.inWeight_isFinite consistent early few)

/-- The shares of all callers make up one, up to half a hundredth and little more for each
of them. -/
theorem WeightsWithin.abs_sum_shares_sub_one_le :
    |((graph.predecessors handle).map fun entry =>
      (Quantity.roundTo 2 (entry.2 / graph.inWeight handle)).value).sum - 1| ≤
        (graph.predecessors handle).length * (11 / 2000) := by
  have finite := within.inWeight_isFinite consistent early few
  have large := (within.grain_inWeight consistent inner).le_value_of_grain finite
    (within.unsigned.inWeight consistent handle)
  have whole := Binary64.abs_sum_parts_sub_one_le
    (fun term member => (within.received consistent term member).1) finite large
  rw [List.map_map, List.length_map] at whole
  have shares := abs_sum_map_sub_le fun entry (listed : entry ∈ graph.predecessors handle) =>
    within.abs_value_share_sub_le consistent inner early few (consistent.mem_predecessors.mp listed)
  have small : 1 / 200 + 268 * roundoff ≤ 11 / 2000 := by norm_num [roundoff]
  have scaled := mul_le_mul_of_nonneg_left small
    (Nat.cast_nonneg (α := Rat) (graph.predecessors handle).length)
  refine (abs_sub_le _ _ _).trans ((add_le_add shares whole).trans ?_)
  linarith

variable (credits : graph.CreditsWithin 7 past (handle :: later))
  (held : graph.node? handle = some node)
  (ran : graph.removeAndBridge handle node = ⟨next, .ok ()⟩)
  (loopless : ¬ graph.Calls handle handle)

include credits held ran loopless

omit few in
/-- A caller gets its share of the removed self coverage, up to half a hundredth and little
more. -/
theorem CreditsWithin.abs_credit_sub_le {received : Binary64}
    (inward : graph.edgeWeight? caller handle = some received) :
    |(next.selfCoverageAt caller).value - (graph.selfCoverageAt caller).value -
      node.selfCoverage.value * (Quantity.roundTo 2 (received / graph.inWeight handle)).value| ≤
        11 / 2000 := by
  have edge := calls_of_weight inward
  have different : caller ≠ handle := fun same => loopless (same ▸ edge)
  obtain ⟨before, there⟩ := contains_iff_node.mp (contains_caller edge)
  have counted : 100 * (1 + (2 ^ 32 + 1)) ≤ Binary64.exactBound := by decide
  obtain ⟨taken, _, whole⟩ := credits.credit within consistent held inner (by decide)
    (le_trans (by omega) counted) inward there
  rw [selfCoverageAt, consistent.node_removeAndBridge_of_caller ran different inward, there,
    selfCoverageAt_eq there]
  exact Binary64.abs_value_credit_sub_le taken whole (by omega)
    (credits.unsigned caller before there) (credits.unsigned handle node held)
    (within.unsigned.share consistent inner inward)
    (credits.untouched handle node List.mem_cons_self held).isFinite
    (within.share consistent inner inward).isFinite

/-- A removal changes the total by two such roundings for each caller. -/
theorem CreditsWithin.abs_exactSelfCoverage_sub_le :
    |next.exactSelfCoverage - graph.exactSelfCoverage| ≤
      (graph.predecessors handle).length * (node.selfCoverage.value + 1) / 180 := by
  have parts := consistent.abs_sum_removeAndBridge_sub_le held ran loopless Binary64.value
    (fun entry => (Quantity.roundTo 2 (entry.2 / graph.inWeight handle)).value) fun entry listed =>
      credits.abs_credit_sub_le within consistent inner early held ran loopless
        (consistent.mem_predecessors.mp listed)
  have shares := within.abs_sum_shares_sub_one_le consistent inner early few
  have least := (credits.unsigned handle node held).value_nonneg
  rw [← exactSelfCoverage, ← exactSelfCoverage] at parts
  generalize ((graph.predecessors handle).map fun entry =>
    (Quantity.roundTo 2 (entry.2 / graph.inWeight handle)).value).sum = credited at parts shares
  have scaled : |node.selfCoverage.value * (credited - 1)| ≤
      node.selfCoverage.value * ((graph.predecessors handle).length * (11 / 2000)) := by
    rw [abs_mul, abs_of_nonneg least]
    exact mul_le_mul_of_nonneg_left shares least
  have nonneg := mul_nonneg (Nat.cast_nonneg (α := Rat) (graph.predecessors handle).length)
    (add_nonneg least zero_le_one)
  calc |next.exactSelfCoverage - graph.exactSelfCoverage|
      = |(next.exactSelfCoverage - graph.exactSelfCoverage -
            node.selfCoverage.value * (credited - 1)) +
          node.selfCoverage.value * (credited - 1)| := by ring_nf
    _ ≤ (graph.predecessors handle).length * (11 / 2000) +
          node.selfCoverage.value * ((graph.predecessors handle).length * (11 / 2000)) :=
        (abs_add_le _ _).trans (add_le_add parts scaled)
    _ ≤ (graph.predecessors handle).length * (node.selfCoverage.value + 1) / 180 := by linarith

end Removal

/-! All removals. -/

theorem Removals.abs_exactSelfCoverage_sub_le {before order : List Nat}
    (removals : graph.Removals removed result) (pruned : start.Pruned before graph)
    (forward : graph.Forward order) (sorted : removed.Pairwise (order.idxOf · < order.idxOf ·))
    (uncredited : ∀ handle ∈ removed, graph.selfCoverageAt handle = start.selfCoverageAt handle)
    (within : graph.WeightsWithin 936 past removed) (credits : graph.CreditsWithin 7 past removed)
    (early : past + removed.length ≤ 2 ^ 32) (few : start.nodeCount ≤ 2 ^ 32) :
    |result.exactSelfCoverage - graph.exactSelfCoverage| ≤
      (removed.map (start.creditError (before ++ removed) result)).sum := by
  induction removals generalizing before past with
  | done => simp
  | @next graph next result handle later node held inner ran eliminated onward ih =>
    have consistent := pruned.consistent
    have live := contains_iff_node.mpr ⟨node, held⟩
    have loopless := forward.loopless handle
    have uncalled : ∀ other ∈ later, ¬ graph.Calls other handle := fun other member =>
      forward.uncalled_by_later sorted other (List.mem_cons_of_mem handle member)
    have callers := (Removals.next held inner ran eliminated onward).length_predecessors_le
      pruned forward sorted
    have nodes : graph.nodeCount ≤ 2 ^ 32 := pruned.nodeCount_le.trans few
    rw [List.length_cons] at early
    have counted : 100 * (1 + 2 * (2 ^ 32 + 1)) ≤ Binary64.exactBound := by decide
    have first : |next.exactSelfCoverage - graph.exactSelfCoverage| ≤
        start.creditError (before ++ handle :: later) result handle := by
      have bound := credits.abs_exactSelfCoverage_sub_le within consistent inner (by omega) nodes
        held ran loopless
      have least := (credits.unsigned handle node held).value_nonneg
      rw [← selfCoverageAt_eq held, uncredited handle List.mem_cons_self] at bound least
      refine bound.trans ?_
      rw [creditError]
      gcongr
    have untouched : ∀ other ∈ later, next.selfCoverageAt other = start.selfCoverageAt other := by
      intro other member
      have different : other ≠ handle := by
        rintro rfl
        exact Nat.lt_irrefl _ ((List.pairwise_cons.mp sorted).1 other member)
      rw [consistent.selfCoverageAt_removeAndBridge ran different (uncalled other member),
        uncredited other (List.mem_cons_of_mem handle member)]
    have rest := ih (pruned.eliminate eliminated live) (eliminated.forward forward) sorted.of_cons
      untouched
      (within.eliminate consistent inner ran eliminated (by decide) (by omega) uncalled)
      (credits.eliminate within consistent held inner (by decide) (by omega) ran eliminated uncalled)
      (by omega)
    rw [← List.append_cons] at rest
    rw [List.map_cons, List.sum_cons]
    exact (abs_sub_le _ next.exactSelfCoverage _).trans ((add_le_add rest first).trans_eq
      (add_comm _ _))

/-- Credits to few nodes are off by a tenth at most. -/
theorem sum_creditError_le
    (small : ∀ gone ∈ removed, (graph.creditors removed result gone).ncard *
      ((graph.selfCoverageAt gone).value + 1) ≤ 18) :
    (removed.map (graph.creditError removed result)).sum ≤ removed.length / 10 := by
  have tenth : ∀ error ∈ removed.map (graph.creditError removed result), error ≤ 1 / 10 := by
    intro error member
    obtain ⟨gone, inside, rfl⟩ := List.mem_map.mp member
    rw [creditError]
    linarith [small gone inside]
  have total := List.sum_le_card_nsmul _ _ tenth
  rw [List.length_map, nsmul_eq_mul] at total
  linarith

/-! Totals. -/

/-- The total is finite and off from what the self coverages add up to by the roundings of
its sums. -/
theorem CreditsWithin.abs_totalSelfCoverage_sub_le (credits : graph.CreditsWithin 7 past later)
    (early : past ≤ 2 ^ 32) (few : graph.nodeCount ≤ 2 ^ 32) :
    graph.totalSelfCoverage.isFinite ∧
      |graph.totalSelfCoverage.value - graph.exactSelfCoverage| ≤ graph.summationError := by
  have length : (graph.nodes.map (·.selfCoverage)).length = graph.nodeCount :=
    (congrArg List.length (map_nodes_eq id)).trans (List.length_map ..)
  have terms : ∀ term ∈ graph.nodes.map (·.selfCoverage),
      term.Unsigned ∧ term.AtMost (powerUnits 40) := by
    intro term member
    obtain ⟨node, listed, rfl⟩ := List.mem_map.mp member
    obtain ⟨handle, held⟩ := mem_nodes.mp listed
    have room : 1 + past ≤ 2 ^ 33 := by omega
    exact ⟨credits.unsigned handle node held, (credits.atMost handle node held).mono
      (Binary64.mul_powerUnits_le room (by decide))⟩
  have counted : (graph.nodes.map (·.selfCoverage)).length ≤ Binary64.exactBound :=
    length ▸ few.trans (by decide)
  have finite : graph.totalSelfCoverage.isFinite :=
    (Binary64.atMost_sum (fun term member => (terms term member).2) fun n less =>
      Binary64.isMagnitude_mul_powerUnits (less.trans counted) (by decide)).isFinite
  have close := Binary64.abs_value_sum_sub_le (fun term member => (terms term member).1) finite
  rw [length, List.map_map] at close
  exact ⟨finite, close⟩

/-- If pruning succeeds on self coverages that are percentages and on weights whose sums are
no overflow, what the self coverages add up to changes by what the removed nodes may change
it by at most. In particular it changes by no more than a tenth for each of them if none is
credited to too many nodes for its self coverage. The total that is added up in doubles
changes by no more than that and the roundings of its sums. -/
theorem Reachable.prune_conserves (reachable : graph.Reachable) {policy : RootPolicy}
    {report : PruneReport} (ran : graph.prune policy = ⟨result, .ok report⟩)
    (weights : ∀ edge ∈ graph.edges, (Binary64.ofNat 0).le edge.2.2 ∧ edge.2.2.Grained ∧
      edge.2.2.AtMost (powerUnits 936))
    (percentages : ∀ node ∈ graph.nodes, (Binary64.ofNat 0).le node.selfCoverage ∧
      node.selfCoverage.le (Binary64.ofNat 100))
    (few : graph.nodeCount ≤ 2 ^ 32) :
    ∃ removed : List Nat, removed.Nodup ∧ removed.length = report.removed.length ∧
      (∀ handle, handle ∈ removed ↔ graph.contains handle ∧ ¬ result.contains handle) ∧
      |result.exactSelfCoverage - graph.exactSelfCoverage| ≤
        (removed.map (graph.creditError removed result)).sum ∧
      ((∀ gone ∈ removed, (graph.creditors removed result gone).ncard *
          ((graph.selfCoverageAt gone).value + 1) ≤ 18) →
        |result.exactSelfCoverage - graph.exactSelfCoverage| ≤ report.removed.length / 10) ∧
      graph.totalSelfCoverage.isFinite ∧ result.totalSelfCoverage.isFinite ∧
      |result.totalSelfCoverage.value - graph.totalSelfCoverage.value| ≤
        |result.exactSelfCoverage - graph.exactSelfCoverage| +
          graph.summationError + result.summationError := by
  have consistent := reachable.consistent
  obtain ⟨order, removed, forward, sorted, removals, distinct, early, counted⟩ :=
    consistent.prune_removals ran
  have early : 0 + removed.length ≤ 2 ^ 32 := (Nat.zero_add _).trans_le (early.trans few)
  have pruned : graph.Pruned removed result := removals.pruned (.refl consistent)
  have within : graph.WeightsWithin 936 0 removed := .of_edges weights
  have credits : graph.CreditsWithin 7 0 removed := .of_percentages percentages
  have bound := removals.abs_exactSelfCoverage_sub_le (.refl consistent) forward sorted
    (fun _ _ => rfl) within credits early few
  rw [List.nil_append] at bound
  have limit : 100 * (1 + 2 * 2 ^ 32) ≤ Binary64.exactBound := by decide
  have after := (removals.within consistent forward sorted (by omega) (by decide) within).2 7
    (by decide) credits
  obtain ⟨finite, close⟩ := credits.abs_totalSelfCoverage_sub_le (Nat.zero_le _) few
  obtain ⟨finite', close'⟩ := after.abs_totalSelfCoverage_sub_le early (pruned.nodeCount_le.trans few)
  refine ⟨removed, distinct, counted.symm, pruned.keepsConnections.mem_removed, bound,
    fun small => bound.trans (counted ▸ sum_creditError_le small), finite, finite', ?_⟩
  rw [abs_sub_comm] at close
  calc |result.totalSelfCoverage.value - graph.totalSelfCoverage.value|
      ≤ |result.totalSelfCoverage.value - result.exactSelfCoverage| +
          |result.exactSelfCoverage - graph.totalSelfCoverage.value| := abs_sub_le _ _ _
    _ ≤ result.summationError + (|result.exactSelfCoverage - graph.exactSelfCoverage| +
          graph.summationError) :=
      add_le_add close' ((abs_sub_le _ _ _).trans (add_le_add_right close _))
    _ = _ := by ring

/-- Two instrumented functions and the one that both call. -/
def pair : CallGraph Binary64 :=
  (empty defaultInterestMarker).performAll [
    .declare "N1" "__cere__a" (.ofNat 5) (.ofNat 50), .declare "N2" "__cere__b" (.ofNat 0) (.ofNat 40),
    .declare "N3" "helper" (.ofNat 3) (.ofNat 30),
    .connect "N1" "N3" 1, .connect "N2" "N3" 2]

theorem pair_prune_conserves :
    (pair.prune .retain).outcome = .ok ⟨["N3"], [], 0⟩ ∧
      |(pair.prune .retain).graph.exactSelfCoverage - pair.exactSelfCoverage| ≤ 1 / 10 ∧
      |(pair.prune .retain).graph.totalSelfCoverage.value - pair.totalSelfCoverage.value| ≤
        1 / 10 + pair.summationError + (pair.prune .retain).graph.summationError := by
  have ended : (pair.prune .retain).outcome = .ok ⟨["N3"], [], 0⟩ := by decide +kernel
  have ran := congrArg (PassResult.mk (pair.prune .retain).graph) ended
  have reachable : pair.Reachable := (Reachable.fresh _).performAll _
  have counts : ∀ edge ∈ pair.edges, (Binary64.ofNat 0).le edge.2.2 ∧
      ∃ n < 3, edge.2.2 = .ofNat n := by decide +kernel
  have weights : ∀ edge ∈ pair.edges, (Binary64.ofNat 0).le edge.2.2 ∧ edge.2.2.Grained ∧
      edge.2.2.AtMost (powerUnits 936) := by
    intro edge member
    obtain ⟨above, n, small, same⟩ := counts edge member
    have fits : n * powerUnits 0 ≤ powerUnits 936 :=
      Binary64.mul_powerUnits_le (small.le.trans (by decide : 3 ≤ 2 ^ 2)) (by decide)
    have units := (Binary64.units_ofNat (small.le.trans (by decide))).1
    rw [← Binary64.powerUnits_zero] at units
    rw [same] at above ⊢
    exact ⟨above, Binary64.grained_ofNat n, units.mono fits⟩
  obtain ⟨removed, _, _, gone, _, kept, _, _, total⟩ :=
    reachable.prune_conserves ran weights (by decide +kernel) (by decide +kernel)
  have before : pair.handles = [0, 1, 2] := by decide +kernel
  have after : (pair.prune .retain).graph.handles = [0, 1] := by decide +kernel
  have close := kept fun handle inside => by
    obtain ⟨there, lost⟩ := (gone handle).mp inside
    rw [← mem_handles, before] at there
    rw [← mem_handles, after] at lost
    obtain rfl : handle = 2 := by simp_all
    have only : pair.creditors removed (pair.prune .retain).graph 2 ⊆ {0, 1} :=
      fun caller credited => by simpa [after] using mem_handles.mpr credited.1
    have few := (Set.ncard_le_ncard only (Set.toFinite _)).trans (Set.ncard_insert_le ..)
    rw [Set.ncard_singleton] at few
    have shared : pair.selfCoverageAt 2 = .ofNat 3 := by decide +kernel
    have two : ((pair.creditors removed (pair.prune .retain).graph 2).ncard : Rat) ≤ 2 := by
      exact_mod_cast few
    rw [shared, Binary64.value_ofNat (by decide), Nat.cast_ofNat]
    linarith
  rw [List.length_singleton, Nat.cast_one] at close
  exact ⟨ended, close, total.trans (by gcongr)⟩

/-- Three instrumented functions that call a fourth one equally often, which
has all samples. -/
def trio : CallGraph Binary64 :=
  (empty defaultInterestMarker).performAll [
    .declare "N1" "__cere__a" (.ofNat 0) (.ofNat 10),
    .declare "N2" "__cere__b" (.ofNat 0) (.ofNat 10),
    .declare "N3" "__cere__c" (.ofNat 0) (.ofNat 10),
    .declare "N4" "helper" (.ofNat 100) (.ofNat 100),
    .connect "N1" "N4" 1, .connect "N2" "N4" 1, .connect "N3" "N4" 1]

/-- Pruning does not keep the total up to a tenth for each removed node: each
caller takes over 0.33 of the self coverage, and a hundredth of it is lost. -/
theorem trio_prune_loses :
    trio.Reachable ∧ trio.Acyclic ∧
      (∀ edge ∈ trio.edges, (Binary64.ofNat 0).le edge.2.2) ∧
      (∀ node ∈ trio.nodes, (Binary64.ofNat 0).le node.selfCoverage ∧
        node.selfCoverage.le (Binary64.ofNat 100)) ∧
      (trio.prune .retain).outcome = .ok ⟨["N4"], [], 0⟩ ∧
      ∃ before after : Rat, trio.totalSelfCoverage.toRat? = some before ∧
        (trio.prune .retain).graph.totalSelfCoverage.toRat? = some after ∧
        ¬ |after - before| ≤ (["N4"] : List String).length / 10 := by
  have reachable : trio.Reachable := (Reachable.fresh _).performAll _
  have acyclic : trio.Acyclic :=
    reachable.consistent.findCycle_eq_none_iff.mp (by decide +kernel)
  refine ⟨reachable, acyclic, by decide +kernel, by decide +kernel, by decide +kernel, 100, 99,
    by decide +kernel, by decide +kernel, ?_⟩
  norm_num

end ProfileGraph.CallGraph
