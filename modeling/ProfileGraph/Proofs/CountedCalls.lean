import ProfileGraph.Proofs.BorderWeights
import ProfileGraph.Proofs.ExactCounts
import ProfileGraph.Proofs.Flow

/-! Graphs whose weights count calls. As long as all counts together stay within
the bound of exact counting, merging nodes loses no call: each edge at the
survivor carries what flowed between the neighbour and the members, and the sum
is exact in whatever order it is formed. -/
namespace ProfileGraph.CallGraph

/-! What members have with one neighbour. -/

section Crossings
variable {α M : Type} [AddCommMonoid M] (graph : CallGraph α) (value : α → M)

private theorem sum_filterMap (weight? : Nat → Option α) {members : List Nat}
    (distinct : members.Nodup) : ((members.filterMap weight?).map value).sum =
      ∑ member ∈ members.toFinset, ((weight? member).map value).getD 0 := by
  rw [List.sum_toFinset _ distinct]
  clear distinct
  induction members with
  | nil => rfl
  | cons member later ih =>
    rw [List.map_cons, List.sum_cons, ← ih, List.filterMap_cons]
    cases weight? member <;> simp

theorem sum_crossings_successors {members : List Nat} (distinct : members.Nodup) (callee : Nat) :
    ((crossings graph.successors members callee).map value).sum =
      graph.flowBetween value members.toFinset {callee} := by
  rw [flowBetween_singleton_right, crossings_successors]
  exact sum_filterMap value (graph.edgeWeight? · callee) distinct

variable {graph}

theorem Consistent.sum_crossings_predecessors (consistent : graph.Consistent) {members : List Nat}
    (distinct : members.Nodup) (caller : Nat) :
    ((crossings graph.predecessors members caller).map value).sum =
      graph.flowBetween value {caller} members.toFinset := by
  rw [flowBetween_singleton_left, consistent.crossings_predecessors]
  exact sum_filterMap value (graph.edgeWeight? caller) distinct

theorem mem_crossings {neighbours : Nat → List (Nat × α)} {members : List Nat} {other : Nat}
    {weight : α} (crossing : weight ∈ crossings neighbours members other) :
    ∃ member ∈ members, (other, weight) ∈ neighbours member := by
  obtain ⟨entry, filtered, rfl⟩ := List.mem_map.mp crossing
  obtain ⟨collected, same⟩ := List.mem_filter.mp filtered
  obtain ⟨member, inside, listed⟩ := List.mem_flatMap.mp collected
  obtain rfl : entry.1 = other := by simpa using same
  exact ⟨member, inside, listed⟩

end Crossings

/-! Counting. -/

variable {graph : CallGraph Binary64}

/-- Every weight is a count, and all of them together stay within the bound up
to which doubles count as natural numbers do. -/
structure CountsCalls (graph : CallGraph Binary64) : Prop where
  whole : ∀ caller callee weight,
    graph.edgeWeight? caller callee = some weight → weight.IsCount
  bounded : graph.flowBetween Binary64.count graph.live graph.live ≤ Binary64.exactBound

/-- It is enough to look at the edges that are listed. -/
theorem CountsCalls.of_edges
    (whole : ∀ edge ∈ graph.edges, edge.2.2.toRat? = some (edge.2.2.count : Rat))
    (bounded : graph.flowBetween Binary64.count graph.live graph.live ≤ Binary64.exactBound) :
    graph.CountsCalls where
  whole caller callee weight held :=
    ⟨weight.count, whole (caller, callee, weight) (mem_edges.mpr held)⟩
  bounded := bounded

theorem CountsCalls.flowBetween_le (counts : graph.CountsCalls) {callers callees : Finset Nat}
    (inside : callers ⊆ graph.live) (inside' : callees ⊆ graph.live) :
    graph.flowBetween Binary64.count callers callees ≤ Binary64.exactBound :=
  (flowBetween_mono Binary64.count inside inside').trans counts.bounded

/-- The weight of a border edge is the number of calls it stands for. -/
private theorem weight_of_counts {weights : List Binary64} {total : Nat}
    (whole : ∀ weight ∈ weights, weight.IsCount) (sum : (weights.map Binary64.count).sum = total)
    (bounded : total ≤ Binary64.exactBound) :
    Quantity.truncate (Quantity.zero + weights.foldl (· + ·) Quantity.zero) =
      Binary64.ofNat total := by
  have start : (Quantity.zero : Binary64) = Binary64.ofNat 0 := Binary64.ofNat_zero.symm
  have counted := Binary64.foldl_isCount (n := 0) whole (by rwa [Nat.zero_add, sum])
  rw [Nat.zero_add, sum] at counted
  rw [start, counted, Binary64.ofNat_add_ofNat (by rwa [Nat.zero_add]), Nat.zero_add]
  exact Binary64.truncate_ofNat bounded

/-- A node whose callers have counts other than the negative zero receives the
number of calls to it, or the sum of nothing. -/
theorem Consistent.inWeight_of_counts (consistent : graph.Consistent) {handle : Nat}
    (exact : ∀ caller weight, graph.edgeWeight? caller handle = some weight →
      weight = .ofNat weight.count)
    (bounded : graph.flowBetween Binary64.count graph.live {handle} ≤ Binary64.exactBound) :
    graph.inWeight handle = if graph.predecessors handle = [] then Quantity.emptySum
      else .ofNat (graph.flowBetween Binary64.count graph.live {handle}) := by
  rw [inWeight]
  split
  next alone => rw [alone]; rfl
  next called =>
    have counted : (graph.predecessors handle).map (·.2) =
        ((graph.predecessors handle).map fun edge => edge.2.count).map .ofNat := by
      rw [List.map_map]
      refine List.map_congr_left fun edge listed => ?_
      rw [Function.comp_apply]
      exact exact edge.1 edge.2 (consistent.mem_predecessors.mp listed)
    have total := consistent.sum_callers Binary64.count handle
    rw [← flowBetween_singleton_right] at total
    rw [counted, Binary64.sum_map_ofNat (by simpa using called) (total ▸ bounded), total]

section Merged
variable {members : List Nat} {survivor caller callee : Nat}

/-- Every edge into the survivor carries the number of calls from that caller
to the members. -/
theorem CountsCalls.edgeWeight_inbound (counts : graph.CountsCalls)
    (consistent : graph.Consistent) (distinct : members.Nodup)
    (live : ∀ member ∈ members, graph.contains member) (inside : survivor ∈ members)
    (callerLive : graph.contains caller) (outside : caller ∉ members) :
    (graph.merged members survivor).edgeWeight? caller survivor =
      if crossings graph.predecessors members caller = [] then none
      else some (.ofNat (graph.flowBetween Binary64.count {caller} members.toFinset)) := by
  have membersLive := toFinset_subset_live live
  have whole : ∀ weight ∈ crossings graph.predecessors members caller, weight.IsCount := by
    intro weight crossing
    obtain ⟨member, _, listed⟩ := mem_crossings crossing
    exact counts.whole caller member weight (consistent.mem_predecessors.mp listed)
  have bounded := counts.flowBetween_le (Finset.singleton_subset_iff.mpr (mem_live.mpr callerLive))
    membersLive
  rw [consistent.edgeWeight_merged_inbound live inside outside, weight_of_counts whole
    (consistent.sum_crossings_predecessors Binary64.count distinct caller) bounded]

/-- Every edge out of the survivor carries the number of calls from the members
to that callee. -/
theorem CountsCalls.edgeWeight_outbound (counts : graph.CountsCalls)
    (consistent : graph.Consistent) (distinct : members.Nodup)
    (live : ∀ member ∈ members, graph.contains member) (inside : survivor ∈ members)
    (calleeLive : graph.contains callee) (outside : callee ∉ members) :
    (graph.merged members survivor).edgeWeight? survivor callee =
      if crossings graph.successors members callee = [] then none
      else some (.ofNat (graph.flowBetween Binary64.count members.toFinset {callee})) := by
  have membersLive := toFinset_subset_live live
  have whole : ∀ weight ∈ crossings graph.successors members callee, weight.IsCount := by
    intro weight crossing
    obtain ⟨member, _, listed⟩ := mem_crossings crossing
    exact counts.whole member callee weight (mem_successors.mp listed)
  have bounded := counts.flowBetween_le membersLive
    (Finset.singleton_subset_iff.mpr (mem_live.mpr calleeLive))
  rw [consistent.edgeWeight_merged_outbound live inside outside, weight_of_counts whole
    (sum_crossings_successors graph Binary64.count distinct callee) bounded]

end Merged

end ProfileGraph.CallGraph
