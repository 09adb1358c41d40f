import Mathlib.Algebra.BigOperators.Group.Finset.Piecewise
import ProfileGraph.Proofs.ComponentWeights
import ProfileGraph.Proofs.Correction
import ProfileGraph.Proofs.Magnitudes
import ProfileGraph.Proofs.Signs

/-! The weights that collapsing leaves are in range. A count fills a block at most,
so a profile fills as many blocks as it has lines. Sums of doubles fill no more
blocks than their terms, because a number of blocks is a magnitude that no
rounding passes. So merging leaves the number of blocks in a graph as it is or
lowers it, and every coverage found from it is finite. -/
namespace ProfileGraph
namespace Binary64

variable {x y : Binary64} {n : Nat}

/-- The units of the bound for counts. -/
def block : Nat := powerUnits 64

/-- How many blocks hold a number of either sign. What is not finite takes more
blocks than are ever counted. -/
def blocks : Binary64 → Nat
  | .finite _ units _ => (units + (block - 1)) / block
  | _ => exactBound + 1

theorem isMagnitude_mul_block (counted : n ≤ exactBound) : IsMagnitude (n * block) :=
  isMagnitude_mul_powerUnits counted (by decide)

theorem blocks_le_iff (counted : n ≤ exactBound) : x.blocks ≤ n ↔ x.AtMost (n * block) := by
  cases x with
  | finite s m =>
    have positive : 0 < block := powerUnits_pos 64
    rw [atMost_finite]
    show (m + (block - 1)) / block ≤ n ↔ m ≤ n * block
    rw [Nat.div_le_iff_le_mul_add_pred positive, Nat.mul_comm]
    exact Nat.add_le_add_iff_right
  | infinity | nan =>
    refine iff_of_false ?_ fun few => absurd few.isFinite Bool.false_ne_true
    show ¬ exactBound + 1 ≤ n
    omega

theorem atMost_blocks (counted : x.blocks ≤ exactBound) : x.AtMost (x.blocks * block) :=
  (blocks_le_iff counted).mp (Nat.le_refl _)

theorem blocks_signedZero (negative : Bool) : (signedZero negative).blocks = 0 :=
  Nat.le_zero.mp ((blocks_le_iff (Nat.zero_le _)).mpr (atMost_signedZero negative))

theorem blocks_add (counted : x.blocks + y.blocks ≤ exactBound) :
    (x + y).blocks ≤ x.blocks + y.blocks := by
  have left := atMost_blocks ((Nat.le_add_right ..).trans counted)
  have right := atMost_blocks ((Nat.le_add_left ..).trans counted)
  have fits := isMagnitude_mul_block counted
  rw [blocks_le_iff counted]
  rw [Nat.add_mul] at fits ⊢
  exact left.add right fits

theorem blocks_foldl {terms : List Binary64}
    (counted : x.blocks + (terms.map blocks).sum ≤ exactBound) :
    (terms.foldl (· + ·) x).blocks ≤ x.blocks + (terms.map blocks).sum := by
  induction terms generalizing x with
  | nil => exact Nat.le_add_right ..
  | cons first later ih =>
    rw [List.map_cons, List.sum_cons, ← Nat.add_assoc] at counted ⊢
    have step := blocks_add ((Nat.le_add_right ..).trans counted)
    have fewer := Nat.add_le_add_right step (later.map blocks).sum
    exact (ih (fewer.trans counted)).trans fewer

/-- A sum takes no more blocks than its terms. -/
theorem blocks_sum {terms : List Binary64} (counted : (terms.map blocks).sum ≤ exactBound) :
    (Quantity.sum terms).blocks ≤ (terms.map blocks).sum := by
  have none := blocks_signedZero true
  have whole := @blocks_foldl (signedZero true) terms
  rw [none, Nat.zero_add] at whole
  exact whole counted

theorem blocks_truncate (counted : x.blocks ≤ exactBound) : x.truncate.blocks ≤ x.blocks :=
  (blocks_le_iff counted).mpr ((atMost_blocks counted).truncate (isMagnitude_mul_block counted))

theorem blocks_ofNat (inRange : n < countBound) : (ofNat n).blocks ≤ 1 := by
  have one : 1 ≤ exactBound := by decide
  refine (blocks_le_iff one).mpr ?_
  refine atMost_rounded Nat.one_pos false (isMagnitude_mul_block one) ?_
  rw [Nat.one_mul, Nat.mul_one]
  exact Nat.mul_le_mul_right _ inRange.le

end Binary64

/-! Lines. -/

/-- The count of a call is below the bound for counts. -/
def Record.HasCount : Record → Prop
  | .edge call => call.weight < countBound
  | _ => True

theorem readCount_lt {text : List Char} {n : Nat} (read : readCount? text = some n) :
    n < countBound := by
  simp only [readCount?, Option.ite_none_left_eq_some, Option.ite_none_right_eq_some,
    Option.some.injEq] at read
  obtain ⟨_, inRange, rfl⟩ := read
  exact inRange

theorem RecordPatterns.readLine_hasCount {patterns : RecordPatterns} {line : Nat}
    {bytes : List UInt8} {record : Record} (read : patterns.readLine line bytes = .ok record) :
    record.HasCount := by
  rw [readLine, readText] at read
  split at read
  next kind found _ =>
    cases kind with
    | nodeWithInclusive =>
      obtain ⟨_, _, read⟩ := bind_eq_ok read
      obtain ⟨_, _, read⟩ := bind_eq_ok read
      cases read
      trivial
    | nodeSelfOnly =>
      obtain ⟨_, _, read⟩ := bind_eq_ok read
      cases read
      trivial
    | edge =>
      obtain ⟨count, ran, read⟩ := bind_eq_ok read
      cases read
      exact readCount_lt (field_eq_ok ran)
    | legend =>
      obtain ⟨_, _, read⟩ := bind_eq_ok read
      cases read
      trivial
    | ignored =>
      cases read
      trivial
  next =>
    cases read
    trivial

section Transcript
variable {patterns : RecordPatterns} {lines : List (List UInt8)} {records : List Record}

theorem Transcribes.length_eq (transcribed : Transcribes patterns lines records) :
    records.length = lines.length := by
  have same := congrArg List.length transcribed
  rwa [List.length_mapIdx, List.length_map, eq_comm] at same

/-- Every record of a transcript has been read from a line. -/
theorem Transcribes.exists_line (transcribed : Transcribes patterns lines records)
    {record : Record} (member : record ∈ records) :
    ∃ line bytes, patterns.readLine line bytes = .ok record := by
  have read : Except.ok record ∈ records.map (Except.ok (ε := RecordError)) :=
    List.mem_map_of_mem member
  rw [← show _ = _ from transcribed, List.mem_mapIdx] at read
  obtain ⟨n, inside, same⟩ := read
  exact ⟨_, _, same⟩

end Transcript

/-- If no item holds at two places, all places together hold as many items as
there are, at most. -/
theorem sum_countP_le {ι β : Type} [DecidableEq ι] {places : Finset ι} {holds : ι → β → Bool}
    (once : ∀ (item : β), ∀ i ∈ places, ∀ j ∈ places, holds i item → holds j item → i = j)
    (items : List β) : ∑ place ∈ places, items.countP (holds place) ≤ items.length := by
  induction items with
  | nil => simp
  | cons item later ih =>
    have here : ∑ place ∈ places, (if holds place item then 1 else 0) ≤ 1 := by
      rw [← Finset.card_filter, Finset.card_le_one]
      intro i first j second
      rw [Finset.mem_filter] at first second
      exact once item i first.1 j second.1 first.2 second.2
    simp only [List.countP_cons, Finset.sum_add_distrib, List.length_cons]
    exact Nat.add_le_add ih here

/-- A record is a call between the ids at two positions. -/
def Record.joins (ids : List String) (ends : Nat × Nat) : Record → Bool
  | .edge call => ids[ends.1]? = some call.source ∧ ids[ends.2]? = some call.target
  | _ => false

theorem Record.joins_once {ids : List String} (distinct : ids.Nodup) {first second : Nat × Nat}
    {record : Record} (here : record.joins ids first) (there : record.joins ids second) :
    first = second := by
  cases record with
  | edge call =>
    obtain ⟨source, target⟩ := of_decide_eq_true here
    obtain ⟨source', target'⟩ := of_decide_eq_true there
    have position {m n : Nat} {id : String} (held : ids[m]? = some id) (held' : ids[n]? = some id) :
        m = n :=
      (List.getElem?_inj (List.getElem?_eq_some_iff.mp held).1 distinct).mp (held.trans held'.symm)
    exact Prod.ext (position source source') (position target target')
  | node | legend | ignored => cases here

theorem length_callCounts {ids : List String} {source target : Nat} {caller callee : String}
    (first : ids[source]? = some caller) (last : ids[target]? = some callee)
    (records : List Record) :
    (callCounts records caller callee).length = records.countP (Record.joins ids (source, target)) := by
  rw [callCounts, List.length_filterMap_eq_countP]
  refine List.countP_congr fun record _ => ?_
  cases record with
  | edge call =>
    simp only [Record.joins, first, last, Option.some.injEq, decide_eq_true_eq]
    split
    next same => exact iff_of_true rfl ⟨same.1.symm, same.2.symm⟩
    next other => exact iff_of_false (by simp) fun same => other ⟨same.1.symm, same.2.symm⟩
  | node | legend | ignored => simp [Record.joins]

namespace CallGraph

variable {graph : CallGraph Binary64}

/-- All weights together take so many blocks at most. None of them is a small
part of a grain, and all coverages are finite. -/
structure InBounds (graph : CallGraph Binary64) (blocks : Nat) : Prop where
  blocks_le : graph.flowBetween Binary64.blocks graph.live graph.live ≤ blocks
  grained : ∀ caller callee weight, graph.edgeWeight? caller callee = some weight → weight.Grained
  coverage : ∀ handle node, graph.node? handle = some node → node.coverage.isFinite

theorem blocks_sum_counts {counts : List Nat} (inRange : ∀ n ∈ counts, n < countBound)
    (counted : counts.length ≤ Binary64.exactBound) :
    (Quantity.sum (counts.map Binary64.ofNat)).blocks ≤ counts.length := by
  have each : ((counts.map Binary64.ofNat).map Binary64.blocks).sum ≤ counts.length := by
    refine (List.sum_le_card_nsmul _ 1 ?_).trans (by simp)
    intro taken member
    obtain ⟨x, computed, rfl⟩ := List.mem_map.mp member
    obtain ⟨n, listed, rfl⟩ := List.mem_map.mp computed
    exact Binary64.blocks_ofNat (inRange n listed)
  exact (Binary64.blocks_sum (each.trans counted)).trans each

section Depicted
variable {marker : String} {records : List Record} (depicts : graph.Depicts marker records)
include depicts

theorem Depicts.flow_blocks_le (counts : ∀ record ∈ records, record.HasCount)
    (counted : records.length ≤ Binary64.exactBound) (source target : Nat) :
    graph.flow Binary64.blocks source target ≤
      records.countP (Record.joins (nodeIds records) (source, target)) := by
  cases held : graph.edgeWeight? source target with
  | none => rw [flow, held]; exact Nat.zero_le _
  | some weight =>
    obtain ⟨caller, callee, first, last, _, rfl⟩ := depicts.edgeWeight_iff.mp held
    rw [flow_of_weight _ held, ← length_callCounts first last]
    refine blocks_sum_counts (fun n listed => ?_) ((List.length_filterMap_le ..).trans counted)
    obtain ⟨record, member, called⟩ := List.mem_filterMap.mp listed
    cases record with
    | edge call =>
      simp only [Option.ite_none_right_eq_some, Option.some.injEq] at called
      exact called.2 ▸ counts _ member
    | node | legend | ignored => cases called

/-- A graph takes no more blocks than there are records. -/
theorem Depicts.blocks_le (counts : ∀ record ∈ records, record.HasCount)
    (counted : records.length ≤ Binary64.exactBound) :
    graph.flowBetween Binary64.blocks graph.live graph.live ≤ records.length := by
  have distinct := depicts.registered.distinct
  have apart : ∀ (record : Record), ∀ i ∈ graph.live ×ˢ graph.live,
      ∀ j ∈ graph.live ×ˢ graph.live, record.joins (nodeIds records) i →
      record.joins (nodeIds records) j → i = j :=
    fun record i _ j _ => record.joins_once distinct
  calc graph.flowBetween Binary64.blocks graph.live graph.live
      ≤ ∑ source ∈ graph.live, ∑ target ∈ graph.live,
          records.countP (Record.joins (nodeIds records) (source, target)) :=
        Finset.sum_le_sum fun source _ => Finset.sum_le_sum fun target _ =>
          depicts.flow_blocks_le counts counted source target
    _ = ∑ ends ∈ graph.live ×ˢ graph.live,
          records.countP (Record.joins (nodeIds records) ends) :=
        (Finset.sum_product _ _ fun ends => records.countP (Record.joins (nodeIds records) ends)).symm
    _ ≤ records.length := sum_countP_le apart records

/-- Coverages have been read as amounts. -/
theorem Depicts.isAmount (amounts : ∀ record ∈ records, record.HasAmounts) {handle : Nat}
    {node : Node Binary64} (held : graph.node? handle = some node) :
    node.coverage.IsAmount ∧ node.selfCoverage.IsAmount := by
  rw [depicts.node_eq, depictedNode?] at held
  obtain ⟨declared, found, rfl⟩ := Option.map_eq_some_iff.mp held
  obtain ⟨id, _, last⟩ := Option.bind_eq_some_iff.mp found
  obtain ⟨record, member, same⟩ :=
    List.mem_filterMap.mp (List.mem_filter.mp (List.mem_of_getLast? last)).1
  cases record with
  | node declared =>
    cases same
    exact (amounts _ member).symm
  | edge | legend | ignored => cases same

theorem Depicts.nodeCount_le : graph.nodeCount ≤ records.length := by
  rw [nodeCount, depicts.handles_eq, List.length_range]
  have distinct := depicts.registered.distinct
  have listed : nodeIds records ⊆ (declarations records).map (·.id) := fun id member =>
    List.mem_eraseDups.mp member
  refine (distinct.subperm listed).length_le.trans ?_
  rw [List.length_map]
  exact List.length_filterMap_le ..

end Depicted

/-- A graph that is built takes no more blocks than its profile has lines. -/
theorem build_inBounds {patterns : RecordPatterns} {marker : String} {source : ByteSource}
    (built : (build patterns marker source).outcome = .ok graph)
    (counted : source.lines.length ≤ Binary64.exactBound) :
    graph.InBounds source.lines.length ∧ graph.nodeCount ≤ source.lines.length ∧
      ∀ handle node, graph.node? handle = some node → node.selfCoverage.isFinite := by
  obtain ⟨records, transcribed, depicts⟩ := exists_depicted built
  have amounts : ∀ record ∈ records, record.HasAmounts := fun record member => by
    obtain ⟨line, bytes, read⟩ := transcribed.exists_line member
    exact RecordPatterns.readLine_hasAmounts read
  have counts : ∀ record ∈ records, record.HasCount := fun record member => by
    obtain ⟨line, bytes, read⟩ := transcribed.exists_line member
    exact RecordPatterns.readLine_hasCount read
  rw [← transcribed.length_eq] at counted ⊢
  refine ⟨⟨depicts.blocks_le counts counted, ?_, ?_⟩, depicts.nodeCount_le, ?_⟩
  · intro caller callee weight held
    obtain ⟨_, _, _, _, _, rfl⟩ := depicts.edgeWeight_iff.mp held
    refine Binary64.grained_sum fun term listed => ?_
    obtain ⟨n, _, rfl⟩ := List.mem_map.mp listed
    exact ⟨Binary64.unsigned_of_clear (Binary64.clear_ofNat n), Binary64.grained_ofNat n⟩
  · exact fun handle node held => (depicts.isAmount amounts held).1.1
  · exact fun handle node held => (depicts.isAmount amounts held).2.1

/-! Coverages found from weights. -/

/-- The percentage of samples that a number of blocks stands for. -/
theorem atMost_percentage {x : Binary64} {n samples : Nat}
    (few : x.AtMost (n * Binary64.block)) (counted : 1000 * n ≤ Binary64.exactBound)
    (some : samples ≠ 0) : (Quantity.roundTo 1 (Quantity.ofCount 100 * x /
      Quantity.ofCount samples)).AtMost (100 * n * Binary64.block) := by
  have scaled : 100 * n ≤ Binary64.exactBound := by omega
  have fits := Binary64.isMagnitude_mul_block scaled
  have product : (Binary64.ofNat 100 * x).AtMost (100 * n * Binary64.block) := by
    rw [Nat.mul_assoc] at fits ⊢
    exact few.ofNat_mul (by decide) fits
  have share := Binary64.AtMost.div_ofNat some product fits
  have inRange : 10 * (100 * n) ≤ Binary64.exactBound := by omega
  exact Binary64.AtMost.roundTo (by decide) share inRange (by decide) Binary64.power_ten_one (by decide)

section Sums
variable {n handle : Nat} (consistent : graph.Consistent)
  (bounded : graph.flowBetween Binary64.blocks graph.live graph.live ≤ n)
  (few : n ≤ Binary64.exactBound) (live : graph.contains handle)
include consistent bounded few live

theorem Consistent.inWeight_atMost : (graph.inWeight handle).AtMost (n * Binary64.block) := by
  have total : (((graph.predecessors handle).map (·.2)).map Binary64.blocks).sum ≤ n := by
    rw [List.map_map]
    refine (consistent.sum_callers Binary64.blocks handle).le.trans ?_
    rw [← flowBetween_singleton_right]
    exact (flowBetween_mono Binary64.blocks (Finset.Subset.refl _)
      (by simpa using live)).trans bounded
  exact (Binary64.blocks_le_iff few).mp ((Binary64.blocks_sum (total.trans few)).trans total)

theorem Consistent.outWeight_atMost : (graph.outWeight handle).AtMost (n * Binary64.block) := by
  have total : (((graph.successors handle).map (·.2)).map Binary64.blocks).sum ≤ n := by
    rw [List.map_map]
    refine (consistent.sum_callees Binary64.blocks handle).le.trans ?_
    rw [← flowBetween_singleton_left]
    exact (flowBetween_mono Binary64.blocks (by simpa using live)
      (Finset.Subset.refl _)).trans bounded
  exact (Binary64.blocks_le_iff few).mp ((Binary64.blocks_sum (total.trans few)).trans total)

end Sums

theorem InBounds.weight_atMost {n : Nat} (bounds : graph.InBounds n)
    (few : n ≤ Binary64.exactBound) (consistent : graph.Consistent) {caller callee : Nat}
    {weight : Binary64} (held : graph.edgeWeight? caller callee = some weight) :
    weight.AtMost (n * Binary64.block) := by
  have edge := calls_of_weight held
  refine (Binary64.blocks_le_iff few).mp (le_trans ?_ bounds.blocks_le)
  rw [← flow_of_weight Binary64.blocks held, ← flowBetween_singletons]
  exact flowBetween_mono Binary64.blocks (by simpa using contains_caller edge)
    (by simpa using consistent.contains_callee edge)

/-! Merging. -/

/-- A node that is left has the self coverage that it had. -/
theorem Merged.selfCoverage_before {α : Type} {graph result : CallGraph α} {members : List Nat}
    {survivor handle : Nat} (left : graph.Merged members survivor result) {node : Node α}
    (held : result.node? handle = some node) :
    ∃ before, graph.node? handle = some before ∧ node.selfCoverage = before.selfCoverage := by
  obtain ⟨live, inside⟩ := (left.contains_iff handle).mp (contains_iff_node.mpr ⟨node, held⟩)
  by_cases listed : handle ∈ members
  · obtain rfl := inside listed
    obtain ⟨before, there⟩ := contains_iff_node.mp live
    obtain ⟨_, kept⟩ := left.survivor_eq before there
    cases held.symm.trans kept
    exact ⟨before, there, rfl⟩
  · rw [left.node_eq handle listed] at held
    exact ⟨node, held, rfl⟩

section Merged
variable {members : List Nat} {survivor n : Nat} (consistent : graph.Consistent)
  (cycle : graph.IsCycle members)
  (left : graph.Merged members survivor (graph.merged members survivor))
include consistent cycle left

/-- An edge that is left carries the cut down sum of what it stands for, or is
the only one for which it stands. -/
theorem Merged.weight_cases (value : Binary64 → Nat) {caller callee : Nat} {weight : Binary64}
    (held : (graph.merged members survivor).edgeWeight? caller callee = some weight) :
    let total := graph.flowBetween value (graph.moved (moveInto members survivor) caller)
      (graph.moved (moveInto members survivor) callee)
    graph.edgeWeight? caller callee = some weight ∧ value weight = total ∨
      ∃ weights : List Binary64, (weights.map value).sum = total ∧
        weight = Quantity.truncate (Quantity.zero + weights.foldl (· + ·) Quantity.zero) := by
  intro total
  have live := cycle.live consistent
  rcases (left.calls_iff caller callee).mp (calls_of_weight held) with
    ⟨first, last, edge⟩ | ⟨rfl, first, member, _, edge⟩ | ⟨rfl, last, member, _, edge⟩
  · rw [consistent.edgeWeight_merged_outside live left.inside first last] at held
    refine .inl ⟨held, ?_⟩
    show value weight = graph.flowBetween value _ _
    rw [moved_of_outside left.inside (contains_caller edge) first,
      moved_of_outside left.inside (consistent.contains_callee edge) last, flowBetween_singletons,
      flow_of_weight value held]
  · rw [consistent.edgeWeight_merged_inbound live left.inside first] at held
    split at held
    next => cases held
    next =>
      refine .inr ⟨_, ?_, (Option.some_inj.mp held).symm⟩
      show _ = graph.flowBetween value _ _
      rw [consistent.sum_crossings_predecessors value cycle.nodup,
        moved_of_outside left.inside (contains_caller edge) first,
        moved_survivor live left.inside]
  · rw [consistent.edgeWeight_merged_outbound live left.inside last] at held
    split at held
    next => cases held
    next =>
      refine .inr ⟨_, ?_, (Option.some_inj.mp held).symm⟩
      show _ = graph.flowBetween value _ _
      rw [sum_crossings_successors graph value cycle.nodup,
        moved_of_outside left.inside (consistent.contains_callee edge) last,
        moved_survivor live left.inside]

variable (bounds : graph.InBounds n)
include bounds

/-- An edge takes no more blocks than those for which it stands. -/
theorem InBounds.weight_merged (few : n ≤ Binary64.exactBound) {caller callee : Nat}
    {weight : Binary64}
    (held : (graph.merged members survivor).edgeWeight? caller callee = some weight) :
    weight.blocks ≤ graph.flowBetween Binary64.blocks
        (graph.moved (moveInto members survivor) caller)
        (graph.moved (moveInto members survivor) callee) ∧ weight.Grained := by
  rcases Merged.weight_cases consistent cycle left Binary64.blocks held with
    ⟨before, same⟩ | ⟨weights, sum, rfl⟩
  · exact ⟨same.le, bounds.grained caller callee weight before⟩
  · rw [← sum]
    have counted : (weights.map Binary64.blocks).sum ≤ Binary64.exactBound := by
      rw [sum]
      exact ((flowBetween_mono Binary64.blocks (moved_subset caller)
        (moved_subset callee)).trans bounds.blocks_le).trans few
    have none : (Quantity.zero : Binary64).blocks = 0 := Binary64.blocks_signedZero false
    have summed := @Binary64.blocks_foldl Quantity.zero weights
    rw [none, Nat.zero_add] at summed
    have added := @Binary64.blocks_add Quantity.zero (weights.foldl (· + ·) Quantity.zero)
    rw [none, Nat.zero_add] at added
    have inside := (added ((summed counted).trans counted)).trans (summed counted)
    refine ⟨(Binary64.blocks_truncate (inside.trans counted)).trans inside, ?_⟩
    exact Binary64.grained_truncate (Binary64.atMost_blocks (inside.trans counted)).atLeast_zero

theorem InBounds.blocks_merged (few : n ≤ Binary64.exactBound) :
    (graph.merged members survivor).flowBetween Binary64.blocks
      (graph.merged members survivor).live (graph.merged members survivor).live ≤ n := by
  refine le_trans ?_ bounds.blocks_le
  rw [← (left.contracted consistent cycle).sum_flowBetween, flowBetween]
  refine Finset.sum_le_sum fun caller _ => Finset.sum_le_sum fun callee _ => ?_
  cases held : (graph.merged members survivor).edgeWeight? caller callee with
  | none =>
    rw [flow, held]
    exact Nat.zero_le _
  | some weight =>
    rw [flow_of_weight _ held]
    exact (bounds.weight_merged consistent cycle left few held).1

theorem InBounds.merged (counted : 1000 * n ≤ Binary64.exactBound)
    (samples : graph.totalSamples ≠ 0) : (graph.merged members survivor).InBounds n := by
  have few : n ≤ Binary64.exactBound := by omega
  have weights := bounds.blocks_merged consistent cycle left few
  have grained := fun caller callee weight
      (held : (graph.merged members survivor).edgeWeight? caller callee = some weight) =>
    (bounds.weight_merged consistent cycle left few held).2
  refine ⟨weights, grained, fun handle node held => ?_⟩
  have handleLeft := contains_iff_node.mpr ⟨node, held⟩
  obtain ⟨_, inside⟩ := (left.contains_iff handle).mp handleLeft
  by_cases same : handle = survivor
  · subst same
    -- Its own weights are already in range, so what is found from them is finite.
    have inflow := left.consistent.inWeight_atMost weights few handleLeft
    rw [coverage_merged_survivor held]
    exact (atMost_percentage inflow counted (left.totalSamples ▸ samples)).isFinite
  · rw [left.node_eq handle fun listed => same (inside listed)] at held
    exact bounds.coverage handle node held

end Merged

/-! All merges. -/

/-- Collapsing keeps the bounds and all self coverages. -/
theorem CollapseRun.inBounds {report : CollapseReport Binary64} {n : Nat}
    {ended : PassResult (CollapseReport Binary64) Binary64} (run : CollapseRun report graph ended)
    (consistent : graph.Consistent) (bounds : graph.InBounds n)
    (counted : 1000 * n ≤ Binary64.exactBound) :
    ended.graph.InBounds n ∧ ∀ handle node, ended.graph.node? handle = some node →
      ∃ before, graph.node? handle = some before ∧ node.selfCoverage = before.selfCoverage := by
  induction run with
  | finished => exact ⟨bounds, fun _ node held => ⟨node, held, rfl⟩⟩
  | refused _ graph result members _ _ refused =>
    rcases consistent.collapse_merges members with ⟨_, same, _⟩ | ⟨_, _, collapsed, _⟩
    · cases refused.symm.trans same
      exact ⟨bounds, fun _ node held => ⟨node, held, rfl⟩⟩
    · cases refused.symm.trans collapsed
  | again _ graph next members _ _ found collapsed _ ih =>
    have cycle := consistent.isCycle_of_findCycle found
    have samples : graph.totalSamples ≠ 0 := fun none => by
      have refused : graph.collapse members = ⟨graph, .error .noSamples⟩ := if_pos none
      cases collapsed.symm.trans refused
    rcases consistent.collapse_merges members with ⟨_, refused, _⟩ | ⟨survivor, _, same, _, left⟩
    · cases collapsed.symm.trans refused
    · cases collapsed.symm.trans same
      rw [eraseDups_of_nodup cycle.nodup] at left ih
      obtain ⟨kept, before⟩ := ih left.consistent (bounds.merged consistent cycle left counted samples)
      refine ⟨kept, fun handle node held => ?_⟩
      obtain ⟨between, there, same⟩ := before handle node held
      obtain ⟨first, held, same'⟩ := left.selfCoverage_before there
      exact ⟨first, held, same.trans same'⟩

/-! Correcting. -/

theorem Consistent.impliedSelfCoverage_atMost (consistent : graph.Consistent) {n handle : Nat}
    (bounds : graph.InBounds n) (counted : 2000 * n ≤ Binary64.exactBound)
    (live : graph.contains handle) (samples : graph.totalSamples ≠ 0) :
    (graph.impliedSelfCoverage handle).AtMost (200 * n * Binary64.block) := by
  have few : n ≤ Binary64.exactBound := by omega
  have kept : (graph.inWeight handle - graph.outWeight handle).AtMost (2 * n * Binary64.block) := by
    have fits : IsMagnitude (2 * n * Binary64.block) :=
      Binary64.isMagnitude_mul_block (by omega)
    have inflow := consistent.inWeight_atMost bounds.blocks_le few live
    have outflow := consistent.outWeight_atMost bounds.blocks_le few live
    generalize Binary64.block = bound at *
    rw [Nat.mul_assoc, Nat.two_mul] at fits ⊢
    exact inflow.sub outflow fits
  have share := atMost_percentage kept (by omega) samples
  rw [← Nat.mul_assoc] at share
  rw [impliedSelfCoverage]
  split
  next => exact Binary64.atMost_signedZero false
  next => exact share

/-- Correcting keeps the bounds. What it finds anew is in range. -/
theorem Consistent.corrected_inBounds (consistent : graph.Consistent) {n : Nat}
    (bounds : graph.InBounds n) (counted : 2000 * n ≤ Binary64.exactBound)
    {report : CorrectionReport} {next : CallGraph Binary64}
    (ran : graph.fixSelfCoverage = .ok (report, next)) :
    next.InBounds n ∧ ∀ handle node, next.node? handle = some node →
      ∃ before, graph.node? handle = some before ∧
        (node.selfCoverage = before.selfCoverage ∨
          node.selfCoverage.AtMost (200 * n * Binary64.block)) := by
  have linked := consistent.linked_fixSelfCoverage ran
  have weights : next.edgeWeight? = graph.edgeWeight? :=
    funext fun caller => funext fun callee => linked.unlinked caller callee id
  have live : next.live = graph.live := by
    ext handle
    rw [mem_live, mem_live, linked.contains_eq]
  refine ⟨⟨?_, ?_, fun handle node held => ?_⟩, fun handle node held => ?_⟩
  · rw [live]
    refine le_trans (le_of_eq ?_) bounds.blocks_le
    simp only [flowBetween, flow, weights]
  · rw [weights]
    exact bounds.grained
  · obtain ⟨before, there, rfl | ⟨_, rfl⟩⟩ := fixSelfCoverage_node ran held
    · exact bounds.coverage handle node there
    · exact bounds.coverage handle before there
  · obtain ⟨before, there, rfl | ⟨samples, rfl⟩⟩ := fixSelfCoverage_node ran held
    · exact ⟨node, there, .inl rfl⟩
    · have live := contains_iff_node.mpr ⟨before, there⟩
      refine ⟨before, there, .inr ?_⟩
      dsimp only
      exact consistent.impliedSelfCoverage_atMost bounds counted live samples

end CallGraph
end ProfileGraph
