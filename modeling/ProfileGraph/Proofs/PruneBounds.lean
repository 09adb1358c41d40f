import ProfileGraph.Proofs.BridgedWeights
import ProfileGraph.Proofs.Magnitudes
import ProfileGraph.Proofs.Moments
import ProfileGraph.Proofs.Removals

/-! What pruning makes of weights and self coverages in range. Along a topological
order, a node to be removed has not been changed yet: bridges lead out of its
callers, and its callers are credited, all of which stand before it. So each
removal adds no more to a weight or a self coverage than what was there at
first. The part of a caller is one at most, because a double that is added to a
sum of others of the same sign is never above the sum. -/
namespace ProfileGraph.CallGraph

open Binary64 (powerUnits)

variable {graph next result : CallGraph Binary64} {handle caller callee : Nat}
  {node : Node Binary64} {later removed order : List Nat} {exponent past : Nat}

/-! Signs. -/

/-- No weight is negative. -/
def UnsignedEdges (graph : CallGraph Binary64) : Prop :=
  ∀ caller callee weight, graph.edgeWeight? caller callee = some weight → weight.Unsigned

theorem UnsignedEdges.weight_or_zero (unsigned : graph.UnsignedEdges) (caller callee : Nat) :
    Binary64.Unsigned ((graph.edgeWeight? caller callee).getD Quantity.zero) := by
  cases held : graph.edgeWeight? caller callee with
  | none => exact Binary64.unsigned_signedZero false
  | some weight => exact unsigned caller callee weight held

theorem UnsignedEdges.inWeight (unsigned : graph.UnsignedEdges) (consistent : graph.Consistent)
    (handle : Nat) : (graph.inWeight handle).Unsigned := by
  refine Binary64.keeps_unsigned.sum fun term member => ?_
  obtain ⟨caller, held⟩ := consistent.mem_received.mp member
  exact unsigned caller handle term held

theorem UnsignedEdges.share (unsigned : graph.UnsignedEdges) (consistent : graph.Consistent)
    (inner : ¬ graph.isRoot handle) {received : Binary64}
    (inward : graph.edgeWeight? caller handle = some received) :
    Binary64.Unsigned (Quantity.roundTo 2 (received / graph.inWeight handle)) := by
  have divisor := unsigned.inWeight consistent handle
  have part := unsigned caller handle received inward
  exact Binary64.keeps_unsigned.roundTo 2 (Binary64.keeps_unsigned.div part divisor inner)

theorem UnsignedEdges.bridge (unsigned : graph.UnsignedEdges) (consistent : graph.Consistent)
    (inner : ¬ graph.isRoot handle) {received passedOn : Binary64}
    (inward : graph.edgeWeight? caller handle = some received)
    (outward : graph.edgeWeight? handle callee = some passedOn) :
    Binary64.Unsigned (Quantity.roundTo 2 (received * (passedOn / graph.inWeight handle))) := by
  have divisor := unsigned.inWeight consistent handle
  have part := Binary64.keeps_unsigned.div (unsigned handle callee passedOn outward) divisor inner
  exact ((unsigned caller handle received inward).mul part).roundTo 2

theorem UnsignedEdges.eliminate (unsigned : graph.UnsignedEdges) (consistent : graph.Consistent)
    (inner : ¬ graph.isRoot handle)
    (ran : graph.removeAndBridge handle node = ⟨next, .ok ()⟩)
    (eliminated : graph.Eliminated handle next) : next.UnsignedEdges := by
  intro caller callee weight left
  rcases consistent.edgeWeight_removeAndBridge_cases ran eliminated left with
    before | ⟨received, passedOn, inward, outward, rfl⟩
  · exact unsigned caller callee weight before
  · exact (unsigned.weight_or_zero caller callee).add
      (unsigned.bridge consistent inner inward outward)

theorem Removals.unsignedEdges (removals : graph.Removals removed result)
    (consistent : graph.Consistent) (unsigned : graph.UnsignedEdges) : result.UnsignedEdges := by
  induction removals with
  | done => exact unsigned
  | next _ inner ran eliminated _ ih =>
    exact ih eliminated.consistent (unsigned.eliminate consistent inner ran eliminated)

/-! Weights. -/

/-- The weights of a graph behind a number of removals. No edge has got more than
a bridge at each of them, and edges out of nodes that are removed later on have
got none. -/
structure WeightsWithin (graph : CallGraph Binary64) (exponent past : Nat)
    (later : List Nat) : Prop where
  unsigned : graph.UnsignedEdges
  grained : ∀ caller callee weight, graph.edgeWeight? caller callee = some weight → weight.Grained
  atMost : ∀ caller callee weight, graph.edgeWeight? caller callee = some weight →
    weight.AtMost ((1 + 2 * past) * powerUnits exponent)
  untouched : ∀ caller callee weight, caller ∈ later →
    graph.edgeWeight? caller callee = some weight → weight.AtMost (powerUnits exponent)

theorem WeightsWithin.start (unsigned : graph.UnsignedEdges)
    (weights : ∀ caller callee weight, graph.edgeWeight? caller callee = some weight →
      weight.Grained ∧ weight.AtMost (powerUnits exponent)) :
    graph.WeightsWithin exponent 0 later where
  unsigned := unsigned
  grained caller callee weight held := (weights caller callee weight held).1
  atMost caller callee weight held := by
    rw [Nat.mul_zero, Nat.add_zero, Nat.one_mul]
    exact (weights caller callee weight held).2
  untouched caller callee weight _ held := (weights caller callee weight held).2

theorem WeightsWithin.of_edges (weights : ∀ edge ∈ graph.edges, (Binary64.ofNat 0).le edge.2.2 ∧
    edge.2.2.Grained ∧ edge.2.2.AtMost (powerUnits exponent)) :
    graph.WeightsWithin exponent 0 later :=
  have each := fun caller callee weight (held : graph.edgeWeight? caller callee = some weight) =>
    weights _ (mem_edges.mpr held)
  .start (fun caller callee weight held =>
    Binary64.unsigned_of_zero_le (each caller callee weight held).1)
    fun caller callee weight held => (each caller callee weight held).2

theorem WeightsWithin.weight_or_zero (within : graph.WeightsWithin exponent past later)
    (caller callee : Nat) : let weight := (graph.edgeWeight? caller callee).getD Quantity.zero
    weight.AtMost ((1 + 2 * past) * powerUnits exponent) ∧ weight.Grained := by
  cases held : graph.edgeWeight? caller callee with
  | none => exact ⟨Binary64.atMost_signedZero false, .inl (Binary64.atMost_signedZero false)⟩
  | some weight =>
    exact ⟨within.atMost caller callee weight held, within.grained caller callee weight held⟩

theorem WeightsWithin.rest (within : graph.WeightsWithin exponent past (handle :: later)) :
    graph.WeightsWithin exponent past later :=
  { within with
    untouched := fun caller callee weight ahead =>
      within.untouched caller callee weight (.tail _ ahead) }

section Removal
variable (within : graph.WeightsWithin exponent past (handle :: later))
  (consistent : graph.Consistent) (inner : ¬ graph.isRoot handle)

include within consistent

theorem WeightsWithin.received : ∀ term ∈ (graph.predecessors handle).map (·.2),
    term.Unsigned ∧ term.Grained ∧ term.AtMost ((1 + 2 * past) * powerUnits exponent) := by
  intro term member
  obtain ⟨other, held⟩ := consistent.mem_received.mp member
  exact ⟨within.unsigned other handle term held, within.grained other handle term held,
    within.atMost other handle term held⟩

include inner

theorem WeightsWithin.grain_inWeight : (graph.inWeight handle).AtLeast Binary64.grain := by
  have terms := within.received consistent
  rcases Binary64.grained_sum fun term member => ⟨(terms term member).1, (terms term member).2.1⟩ with
    none | large
  · exact absurd (none.isZero rfl) inner
  · exact large

variable {received passedOn : Binary64} (inward : graph.edgeWeight? caller handle = some received)

include inward

/-- What a node receives is at least a grain and no less than each part of it. -/
theorem WeightsWithin.inWeight_atLeast : ∃ units, received.AtMost units ∧
    (graph.inWeight handle).AtLeast units ∧ (graph.inWeight handle).AtLeast Binary64.grain := by
  obtain ⟨units, magnitude, _, most, least⟩ :=
    (within.atMost caller handle received inward).exists_units
  have listed := consistent.mem_received.mpr ⟨caller, inward⟩
  have terms := within.received consistent
  exact ⟨units, most, Binary64.atLeast_sum (fun term member => ⟨(terms term member).1,
    (terms term member).2.1.atLeast_zero⟩) listed magnitude least,
    within.grain_inWeight consistent inner⟩

/-- A bridge carries at most twice what the removed node passed on. -/
theorem WeightsWithin.bridge (inRange : 53 + exponent < overflowExponent)
    (outward : graph.edgeWeight? handle callee = some passedOn) :
    let bridge := Quantity.roundTo 2 (received * (passedOn / graph.inWeight handle))
    bridge.AtMost (2 * powerUnits exponent) ∧ bridge.Grained ∧ bridge.Unsigned := by
  intro bridge
  obtain ⟨units, most, inside, some⟩ := within.inWeight_atLeast consistent inner inward
  have quantity := within.untouched handle callee passedOn List.mem_cons_self outward
  have split := Binary64.atMost_split most inside some quantity
    (Binary64.isMagnitude_mul_powerUnits (by decide) inRange)
    (Binary64.isMagnitude_mul_powerUnits (by decide) inRange)
  obtain ⟨bounded, grained⟩ := split.roundTo_two (by decide) inRange
  exact ⟨bounded, grained, within.unsigned.bridge consistent inner inward outward⟩

/-- The share of a caller is one at most. -/
theorem WeightsWithin.share :
    (Quantity.roundTo 2 (received / graph.inWeight handle)).AtMost unitsPerOne := by
  obtain ⟨units, most, inside, some⟩ := within.inWeight_atLeast consistent inner inward
  have share := Binary64.atMost_share most inside some
  rw [← Binary64.powerUnits_zero, ← Nat.one_mul (powerUnits 0)] at share ⊢
  exact (share.roundTo_two (by decide) (by decide)).1

end Removal

section Elimination
variable (within : graph.WeightsWithin exponent past (handle :: later))
  (consistent : graph.Consistent) (held : graph.node? handle = some node)
  (inner : ¬ graph.isRoot handle)
  (ran : graph.removeAndBridge handle node = ⟨next, .ok ()⟩)
  (eliminated : graph.Eliminated handle next) (inRange : 53 + exponent < overflowExponent)

include within consistent inner ran eliminated inRange

/-- An edge that is left is as it was, or leads out of a caller and has got one
more bridge. -/
theorem WeightsWithin.weight_cases (few : 1 + 2 * (past + 1) ≤ Binary64.exactBound)
    {weight : Binary64} (left : next.edgeWeight? caller callee = some weight) :
    graph.edgeWeight? caller callee = some weight ∨ graph.Calls caller handle ∧
      weight.AtMost ((1 + 2 * (past + 1)) * powerUnits exponent) ∧ weight.Grained := by
  rcases consistent.edgeWeight_removeAndBridge_cases ran eliminated left with
    before | ⟨received, passedOn, inward, outward, rfl⟩
  · exact .inl before
  · obtain ⟨bounded, grained, unsigned⟩ := within.bridge consistent inner inward inRange outward
    obtain ⟨bounded', grained'⟩ := within.weight_or_zero caller callee
    have unsigned' := within.unsigned.weight_or_zero caller callee
    have fits := Binary64.isMagnitude_mul_powerUnits few inRange
    have sum : 1 + 2 * (past + 1) = 1 + 2 * past + 2 := by omega
    rw [sum, Nat.add_mul] at fits ⊢
    exact .inr ⟨calls_of_weight inward, bounded'.add bounded fits,
      grained'.add grained unsigned' unsigned⟩

theorem WeightsWithin.eliminate (few : 1 + 2 * (past + 1) ≤ Binary64.exactBound)
    (uncalled : ∀ other ∈ later, ¬ graph.Calls other handle) :
    next.WeightsWithin exponent (past + 1) later := by
  have larger : (1 + 2 * past) * powerUnits exponent ≤
      (1 + 2 * (past + 1)) * powerUnits exponent := Nat.mul_le_mul_right _ (by omega)
  refine ⟨?_, fun caller callee weight left => ?_, fun caller callee weight left => ?_,
    fun caller callee weight ahead left => ?_⟩
  · exact within.unsigned.eliminate consistent inner ran eliminated
  · rcases within.weight_cases consistent inner ran eliminated inRange few left with
      before | ⟨_, _, grained⟩
    · exact within.grained caller callee weight before
    · exact grained
  · rcases within.weight_cases consistent inner ran eliminated inRange few left with
      before | ⟨_, bounded, _⟩
    · exact (within.atMost caller callee weight before).mono larger
    · exact bounded
  · rcases within.weight_cases consistent inner ran eliminated inRange few left with
      before | ⟨calls, _⟩
    · exact within.untouched caller callee weight (List.mem_cons_of_mem handle ahead) before
    · exact absurd calls (uncalled caller ahead)

end Elimination

/-! Self coverages. -/

/-- The self coverages of a graph behind a number of removals. -/
structure CreditsWithin (graph : CallGraph Binary64) (exponent past : Nat)
    (later : List Nat) : Prop where
  unsigned : ∀ handle node, graph.node? handle = some node → node.selfCoverage.Unsigned
  atMost : ∀ handle node, graph.node? handle = some node →
    node.selfCoverage.AtMost ((1 + past) * powerUnits exponent)
  untouched : ∀ handle node, handle ∈ later → graph.node? handle = some node →
    node.selfCoverage.AtMost (powerUnits exponent)

theorem CreditsWithin.start
    (unsigned : ∀ handle node, graph.node? handle = some node → node.selfCoverage.Unsigned)
    (credits : ∀ handle node, graph.node? handle = some node →
      node.selfCoverage.AtMost (powerUnits exponent)) :
    graph.CreditsWithin exponent 0 later where
  unsigned := unsigned
  atMost handle node held := by
    rw [Nat.add_zero, Nat.one_mul]
    exact credits handle node held
  untouched handle node _ held := credits handle node held

/-- Percentages are below the next power of two. -/
theorem CreditsWithin.of_percentages (percentages : ∀ node ∈ graph.nodes,
    (Binary64.ofNat 0).le node.selfCoverage ∧ node.selfCoverage.le (Binary64.ofNat 100)) :
    graph.CreditsWithin 7 0 later := by
  have each := fun handle node (held : graph.node? handle = some node) =>
    percentages node (mem_nodes.mpr ⟨handle, held⟩)
  have unsigned := fun handle node held => Binary64.unsigned_of_zero_le (each handle node held).1
  refine .start unsigned fun handle node held => ?_
  exact ((unsigned handle node held).atMost_of_le (by decide) (each handle node held).2).mono
    (Nat.mul_le_mul_right _ (by decide))

section Elimination
variable {own : Nat} (credits : graph.CreditsWithin own past (handle :: later))
  (within : graph.WeightsWithin exponent past (handle :: later)) (consistent : graph.Consistent)
  (held : graph.node? handle = some node) (inner : ¬ graph.isRoot handle)
  (inRange : 53 + own < overflowExponent) (few : 100 * (1 + (past + 1)) ≤ Binary64.exactBound)

include credits within consistent held inner inRange few

/-- What a caller takes over is at most what was there, and so is the sum with what
it has got before. -/
theorem CreditsWithin.credit {received : Binary64} {before : Node Binary64}
    (inward : graph.edgeWeight? caller handle = some received)
    (there : graph.node? caller = some before) :
    let credit := node.selfCoverage * Quantity.roundTo 2 (received / graph.inWeight handle)
    credit.AtMost (powerUnits own) ∧ credit.Unsigned ∧
      (before.selfCoverage + credit).AtMost ((1 + (past + 1)) * powerUnits own) := by
  intro credit
  have fits : IsMagnitude (powerUnits own) := by
    have one := Binary64.isMagnitude_mul_powerUnits (by decide : 1 ≤ Binary64.exactBound) inRange
    rwa [Nat.one_mul] at one
  have share := within.share consistent inner inward
  have taken := (credits.untouched handle node List.mem_cons_self held).mul share fits le_rfl
  have counted : 1 + (past + 1) ≤ Binary64.exactBound := by omega
  have fits' := Binary64.isMagnitude_mul_powerUnits counted inRange
  have sum : (1 + (past + 1)) * powerUnits own = (1 + past) * powerUnits own + powerUnits own := by
    rw [← Nat.add_assoc, Nat.succ_mul]
  rw [sum] at fits' ⊢
  exact ⟨taken, (credits.unsigned handle node held).mul
    (within.unsigned.share consistent inner inward),
    (credits.atMost caller before there).add taken fits'⟩

variable (ran : graph.removeAndBridge handle node = ⟨next, .ok ()⟩)
  (eliminated : graph.Eliminated handle next)

include ran eliminated

/-- A node that is left is as it was, or is a caller and has been credited once
more. -/
theorem CreditsWithin.node_cases {other : Nat} {after : Node Binary64}
    (left : next.node? other = some after) :
    graph.node? other = some after ∨ graph.Calls other handle ∧ after.selfCoverage.Unsigned ∧
      after.selfCoverage.AtMost ((1 + (past + 1)) * powerUnits own) := by
  have different := ((eliminated.contains_iff other).mp (contains_iff_node.mpr ⟨after, left⟩)).2
  rcases consistent.node_removeAndBridge_cases ran different left with
    ⟨_, before⟩ | ⟨received, before, inward, there, rfl⟩
  · exact .inl before
  · obtain ⟨_, plain, whole⟩ := credits.credit within consistent held inner inRange few inward there
    exact .inr ⟨calls_of_weight inward, ((credits.unsigned other before there).add plain).roundTo 2,
      (whole.roundTo_two few inRange).1⟩

theorem CreditsWithin.eliminate (uncalled : ∀ other ∈ later, ¬ graph.Calls other handle) :
    next.CreditsWithin own (past + 1) later := by
  have larger : (1 + past) * powerUnits own ≤ (1 + (past + 1)) * powerUnits own :=
    Nat.mul_le_mul_right _ (by omega)
  refine ⟨fun other after left => ?_, fun other after left => ?_, fun other after ahead left => ?_⟩
  · rcases credits.node_cases within consistent held inner inRange few ran eliminated left with
      before | ⟨_, plain, _⟩
    · exact credits.unsigned other after before
    · exact plain
  · rcases credits.node_cases within consistent held inner inRange few ran eliminated left with
      before | ⟨_, _, bounded⟩
    · exact (credits.atMost other after before).mono larger
    · exact bounded
  · rcases credits.node_cases within consistent held inner inRange few ran eliminated left with
      before | ⟨calls, _⟩
    · exact credits.untouched other after (List.mem_cons_of_mem handle ahead) before
    · exact absurd calls (uncalled other ahead)

end Elimination

/-! All removals. -/

theorem Removals.within (removals : graph.Removals removed result)
    (consistent : graph.Consistent) (forward : graph.Forward order)
    (sorted : removed.Pairwise (order.idxOf · < order.idxOf ·))
    (few : 100 * (1 + 2 * (past + removed.length)) ≤ Binary64.exactBound)
    (inRange : 53 + exponent < overflowExponent)
    (within : graph.WeightsWithin exponent past removed) :
    result.WeightsWithin exponent (past + removed.length) [] ∧
      ∀ own, 53 + own < overflowExponent → graph.CreditsWithin own past removed →
        result.CreditsWithin own (past + removed.length) [] := by
  induction removals generalizing past with
  | done => exact ⟨within, fun _ _ credits => credits⟩
  | @next graph _ _ handle later _ held inner ran eliminated _ ih =>
    have uncalled := fun other member =>
      forward.uncalled_by_later sorted other (List.mem_cons_of_mem handle member)
    have length : past + (handle :: later).length = past + 1 + later.length := by
      rw [List.length_cons]
      omega
    rw [length] at few ⊢
    have first := within.eliminate consistent inner ran eliminated inRange (by omega) uncalled
    obtain ⟨weights, onward⟩ :=
      ih eliminated.consistent (eliminated.forward forward) sorted.of_cons few first
    refine ⟨weights, fun own inRange' credits => onward own inRange' ?_⟩
    exact credits.eliminate within consistent held inner inRange' (by omega) ran eliminated uncalled

/-- Pruning an acyclic graph whose weights are not negative, grained and in range
leaves finite weights, and finite self coverages if they were in range. -/
theorem Consistent.prune_finite (consistent : graph.Consistent) {policy : RootPolicy}
    {report : PruneReport} (ran : graph.prune policy = ⟨result, .ok report⟩)
    (unsigned : graph.AllValues Binary64.Unsigned)
    (weights : ∀ caller callee weight, graph.edgeWeight? caller callee = some weight →
      weight.Grained ∧ weight.AtMost (powerUnits exponent))
    (inRange : 53 + exponent < overflowExponent)
    (few : 100 * (1 + 2 * graph.nodeCount) ≤ Binary64.exactBound) :
    (∀ caller callee weight, result.edgeWeight? caller callee = some weight → weight.isFinite) ∧
    (∀ handle node, result.node? handle = some node →
      ∃ before, graph.node? handle = some before ∧ node.coverage = before.coverage) ∧
    ∀ own, 53 + own < overflowExponent →
      (∀ handle node, graph.node? handle = some node →
        node.selfCoverage.AtMost (powerUnits own)) →
      ∀ handle node, result.node? handle = some node → node.selfCoverage.isFinite := by
  obtain ⟨order, removed, forward, sorted, removals, _, counted, _⟩ := consistent.prune_removals ran
  have pruned : graph.Pruned removed result := removals.pruned (.refl consistent)
  have begun : graph.WeightsWithin exponent 0 removed :=
    .start (fun _ _ _ => unsigned.edgeWeight) weights
  obtain ⟨within, credited⟩ := removals.within consistent forward sorted (by omega) inRange begun
  refine ⟨fun caller callee weight left => (within.atMost caller callee weight left).isFinite,
    fun handle node left => ?_, fun own inRange' credits handle node left => ?_⟩
  · obtain ⟨before, held, bare⟩ := pruned.node_before left
    exact ⟨before, held, (congrArg (·.coverage) bare).symm⟩
  · have begun : graph.CreditsWithin own 0 removed :=
      .start (fun _ _ held => (unsigned.node held).2) credits
    exact ((credited own inRange' begun).atMost handle node left).isFinite

end ProfileGraph.CallGraph
