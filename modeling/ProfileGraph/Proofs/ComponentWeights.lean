import ProfileGraph.Proofs.Condensation
import ProfileGraph.Proofs.CountedCalls

/-! The weights of a condensation. An edge between two survivors carries the
calls from the one component to the other, however many merges it went through:
a merge sums up over the nodes that move into the survivor, and such sums over
homes compose as the moves do. The coverage of a survivor is found when it is
merged, and later merges leave the calls it receives in total alone. -/
namespace ProfileGraph.CallGraph

/-! Sums over the nodes with one home. -/

section Moved
variable {α M : Type} [AddCommMonoid M] {graph middle result : CallGraph α}
  {home onward : Nat → Nat}

/-- The live nodes with a given home. -/
def moved (graph : CallGraph α) (home : Nat → Nat) (handle : Nat) : Finset Nat :=
  graph.live.filter (home · = handle)

theorem mem_moved {handle other : Nat} :
    other ∈ graph.moved home handle ↔ graph.contains other ∧ home other = handle := by
  rw [moved, Finset.mem_filter, mem_live]

theorem moved_subset (handle : Nat) : graph.moved home handle ⊆ graph.live :=
  Finset.filter_subset ..

theorem moved_eq_singleton {handle : Nat} (live : graph.contains handle)
    (itself : home handle = handle)
    (alone : ∀ other, graph.contains other → home other = handle → other = handle) :
    graph.moved home handle = {handle} := by
  ext other
  rw [mem_moved, Finset.mem_singleton]
  constructor
  · rintro ⟨otherLive, arrived⟩
    exact alone other otherLive arrived
  · rintro rfl
    exact ⟨live, itself⟩

theorem Contracted.sum_moved (contracted : graph.Contracted result home) (entry : Nat → M) :
    ∑ handle ∈ result.live, ∑ other ∈ graph.moved home handle, entry other =
      ∑ other ∈ graph.live, entry other :=
  Finset.sum_fiberwise_of_maps_to
    (fun other inside => mem_live.mpr (contracted.settled other (mem_live.mp inside))) entry

/-- Summing up over two moves is summing up over both at once. -/
theorem Contracted.sum_moved_moved (first : graph.Contracted middle home) (handle : Nat)
    (entry : Nat → M) :
    ∑ between ∈ middle.moved onward handle, ∑ other ∈ graph.moved home between, entry other =
      ∑ other ∈ graph.moved (onward ∘ home) handle, entry other := by
  have maps : ∀ other ∈ graph.moved (onward ∘ home) handle,
      home other ∈ middle.moved onward handle := by
    intro other inside
    obtain ⟨live, arrived⟩ := mem_moved.mp inside
    exact mem_moved.mpr ⟨first.settled other live, arrived⟩
  rw [← Finset.sum_fiberwise_of_maps_to maps]
  refine Finset.sum_congr rfl fun between inside => Finset.sum_congr ?_ fun _ _ => rfl
  obtain ⟨_, arrives⟩ := mem_moved.mp inside
  ext other
  rw [Finset.mem_filter, mem_moved, mem_moved]
  constructor
  · rintro ⟨live, rfl⟩
    exact ⟨⟨live, arrives⟩, rfl⟩
  · rintro ⟨⟨live, _⟩, there⟩
    exact ⟨live, there⟩

/-- Flows sum up in both directions as single nodes do. -/
private theorem sum_flowBetween (value : α → M) {part : Nat → Finset Nat}
    {callers callees wholeCallers wholeCallees : Finset Nat}
    (rows : ∀ entry : Nat → M, ∑ caller ∈ callers, ∑ other ∈ part caller, entry other =
      ∑ other ∈ wholeCallers, entry other)
    (columns : ∀ entry : Nat → M, ∑ callee ∈ callees, ∑ other ∈ part callee, entry other =
      ∑ other ∈ wholeCallees, entry other) :
    ∑ caller ∈ callers, ∑ callee ∈ callees,
        graph.flowBetween value (part caller) (part callee) =
      graph.flowBetween value wholeCallers wholeCallees := by
  have row : ∀ caller, ∑ callee ∈ callees, graph.flowBetween value (part caller) (part callee) =
      ∑ other ∈ part caller, ∑ callee ∈ wholeCallees, graph.flow value other callee := by
    intro caller
    simp only [flowBetween]
    rw [Finset.sum_comm]
    exact Finset.sum_congr rfl fun other _ => columns (graph.flow value other)
  simp only [row]
  exact rows _

theorem Contracted.sum_flowBetween (contracted : graph.Contracted result home) (value : α → M) :
    ∑ caller ∈ result.live, ∑ callee ∈ result.live,
        graph.flowBetween value (graph.moved home caller) (graph.moved home callee) =
      graph.flowBetween value graph.live graph.live :=
  CallGraph.sum_flowBetween value contracted.sum_moved contracted.sum_moved

theorem Contracted.sum_flowBetween_moved (first : graph.Contracted middle home) (value : α → M)
    (caller callee : Nat) :
    ∑ caller ∈ middle.moved onward caller, ∑ callee ∈ middle.moved onward callee,
        graph.flowBetween value (graph.moved home caller) (graph.moved home callee) =
      graph.flowBetween value (graph.moved (onward ∘ home) caller)
        (graph.moved (onward ∘ home) callee) :=
  CallGraph.sum_flowBetween value (first.sum_moved_moved caller) (first.sum_moved_moved callee)

end Moved

/-! What a run of merges carries over. -/

variable {graph middle result : CallGraph Binary64} {home onward : Nat → Nat}

/-- The coverage of a node is that of the calls it receives, and none of these
has the negative zero as its weight. -/
structure Recounted (graph : CallGraph Binary64) (handle : Nat) : Prop where
  coverage_eq : ∀ node, graph.node? handle = some node →
    node.coverage = graph.inflowCoverage handle
  exact : ∀ caller weight, graph.edgeWeight? caller handle = some weight →
    weight = .ofNat weight.count

theorem inflowCoverage_congr {result : CallGraph Binary64} {handle : Nat}
    (inflow : result.inWeight handle = graph.inWeight handle)
    (samples : result.totalSamples = graph.totalSamples) :
    result.inflowCoverage handle = graph.inflowCoverage handle := by
  rw [inflowCoverage, inflow, samples, inflowCoverage]

/-- No other node moved to a node, and it still calls itself if it did. -/
structure Untouched (graph result : CallGraph Binary64) (home : Nat → Nat) (handle : Nat) :
    Prop where
  alone : ∀ other, graph.contains other → home other = handle → other = handle
  loop : graph.Calls handle handle → result.Calls handle handle

/-- A graph is left when nodes of another move to their homes, with all calls
between different homes. -/
structure Carried (graph result : CallGraph Binary64) (home : Nat → Nat) : Prop
    extends graph.Contracted result home where
  whole : ∀ caller callee weight,
    result.edgeWeight? caller callee = some weight → weight.IsCount
  flow_le : ∀ caller ∈ result.live, ∀ callee ∈ result.live,
    result.flow Binary64.count caller callee ≤
      graph.flowBetween Binary64.count (graph.moved home caller) (graph.moved home callee)
  flow_eq : ∀ caller ∈ result.live, ∀ callee ∈ result.live, caller ≠ callee →
    result.flow Binary64.count caller callee =
      graph.flowBetween Binary64.count (graph.moved home caller) (graph.moved home callee)
  recounted : ∀ handle, result.contains handle →
    result.Recounted handle ∨ graph.Untouched result home handle
  stays : ∀ handle, result.contains handle → graph.Recounted handle → result.Recounted handle
  totalSamples : result.totalSamples = graph.totalSamples

theorem Carried.countsCalls (carried : graph.Carried result home) (counts : graph.CountsCalls) :
    result.CountsCalls where
  whole := carried.whole
  bounded := by
    refine le_trans ?_ counts.bounded
    rw [← carried.sum_flowBetween, flowBetween]
    exact Finset.sum_le_sum fun caller inside => Finset.sum_le_sum (carried.flow_le caller inside)

theorem Carried.refl (counts : graph.CountsCalls) : graph.Carried graph id := by
  have alone : ∀ handle ∈ graph.live, graph.moved id handle = {handle} := fun handle inside =>
    moved_eq_singleton (mem_live.mp inside) rfl fun _ _ same => same
  have flows : ∀ caller ∈ graph.live, ∀ callee ∈ graph.live,
      graph.flow Binary64.count caller callee =
        graph.flowBetween Binary64.count (graph.moved id caller) (graph.moved id callee) := by
    intro caller callerLive callee calleeLive
    rw [alone caller callerLive, alone callee calleeLive, flowBetween_singletons]
  exact {
    toContracted := .refl graph
    whole := counts.whole
    flow_le := fun caller callerLive callee calleeLive =>
      (flows caller callerLive callee calleeLive).le
    flow_eq := fun caller callerLive callee calleeLive _ =>
      flows caller callerLive callee calleeLive
    recounted := fun _ _ => .inr ⟨fun _ _ same => same, id⟩
    stays := fun _ _ recounted => recounted
    totalSamples := rfl }

theorem Carried.trans (first : graph.Carried middle home) (second : middle.Carried result onward)
    (consistent : graph.Consistent) : graph.Carried result (onward ∘ home) where
  toContracted := first.toContracted.trans second.toContracted consistent
  whole := second.whole
  flow_le caller callerLive callee calleeLive := by
    refine (second.flow_le caller callerLive callee calleeLive).trans ?_
    rw [← first.sum_flowBetween_moved, flowBetween]
    exact Finset.sum_le_sum fun a aMoved => Finset.sum_le_sum fun b bMoved =>
      first.flow_le a (moved_subset caller aMoved) b (moved_subset callee bMoved)
  flow_eq caller callerLive callee calleeLive different := by
    rw [second.flow_eq caller callerLive callee calleeLive different,
      ← first.sum_flowBetween_moved, flowBetween]
    refine Finset.sum_congr rfl fun a aMoved => Finset.sum_congr rfl fun b bMoved => ?_
    refine first.flow_eq a (moved_subset caller aMoved) b (moved_subset callee bMoved) ?_
    rintro rfl
    exact different ((mem_moved.mp aMoved).2.symm.trans (mem_moved.mp bMoved).2)
  recounted handle left := by
    have between := ((second.contains_iff handle).mp left).1
    rcases second.recounted handle left with recounted | last
    · exact .inl recounted
    · rcases first.recounted handle between with recounted | before
      · exact .inl (second.stays handle left recounted)
      · refine .inr ⟨fun other live arrived => before.alone other live ?_, last.loop ∘ before.loop⟩
        exact last.alone (home other) (first.settled other live) arrived
  stays handle left recounted :=
    second.stays handle left (first.stays handle ((second.contains_iff handle).mp left).1 recounted)
  totalSamples := second.totalSamples.trans first.totalSamples

/-! One merge. -/

section Crossings
variable {weights : List Binary64} {caller callee total : Nat}
  (summed : result.edgeWeight? caller callee =
    if weights = [] then none else some (.ofNat total))

include summed

/-- An edge that is there only if something crosses carries all that crosses. -/
private theorem weight_of_crossings {weight : Binary64}
    (held : result.edgeWeight? caller callee = some weight) : weight = .ofNat total := by
  rw [summed] at held
  split at held
  next => cases held
  next => exact (Option.some_inj.mp held).symm

private theorem flow_of_crossings (sum : (weights.map Binary64.count).sum = total)
    (bounded : total ≤ Binary64.exactBound) :
    result.flow Binary64.count caller callee = total := by
  rw [flow, summed]
  split
  next none =>
    rw [none] at sum
    exact sum
  next => rw [Option.map_some, Option.getD_some, Binary64.count_ofNat bounded]

end Crossings

section Merged
variable {members : List Nat} {survivor : Nat}

theorem IsCycle.nodup (cycle : graph.IsCycle members) : members.Nodup := by
  cases members with
  | nil => exact List.nodup_nil
  | cons => exact cycle.1

theorem moved_survivor (live : ∀ member ∈ members, graph.contains member)
    (inside : survivor ∈ members) :
    graph.moved (moveInto members survivor) survivor = members.toFinset := by
  ext other
  rw [mem_moved, List.mem_toFinset, moveInto]
  constructor
  · rintro ⟨_, arrived⟩
    split at arrived
    next listed => exact listed
    next => exact arrived ▸ inside
  · intro listed
    exact ⟨live other listed, if_pos listed⟩

theorem moved_of_outside (inside : survivor ∈ members) {handle : Nat}
    (live : graph.contains handle) (outside : handle ∉ members) :
    graph.moved (moveInto members survivor) handle = {handle} := by
  refine moved_eq_singleton live (if_neg outside) fun other _ arrived => ?_
  rw [moveInto] at arrived
  split at arrived
  next => exact absurd (arrived ▸ inside) outside
  next => exact arrived

variable (counts : graph.CountsCalls) (consistent : graph.Consistent)
  (cycle : graph.IsCycle members)
  (left : graph.Merged members survivor (graph.merged members survivor))

include counts consistent cycle left

/-- An edge that is left is an old one between nodes outside, or has been summed
up anew. -/
theorem CountsCalls.edgeWeight_merged_cases {caller callee : Nat} {weight : Binary64}
    (held : (graph.merged members survivor).edgeWeight? caller callee = some weight) :
    caller ∉ members ∧ callee ∉ members ∧ graph.edgeWeight? caller callee = some weight ∨
      ∃ n ≤ Binary64.exactBound, weight = .ofNat n := by
  have live := cycle.live consistent
  have membersLive := toFinset_subset_live live
  rcases (left.calls_iff caller callee).mp (calls_of_weight held) with
    ⟨first, last, _⟩ | ⟨rfl, first, member, _, below⟩ | ⟨rfl, last, member, _, below⟩
  · rw [consistent.edgeWeight_merged_outside live left.inside first last] at held
    exact .inl ⟨first, last, held⟩
  · have callerLive := contains_caller below
    exact .inr ⟨_, counts.flowBetween_le (by simpa using callerLive) membersLive,
      weight_of_crossings
        (counts.edgeWeight_inbound consistent cycle.nodup live left.inside callerLive first) held⟩
  · have calleeLive := consistent.contains_callee below
    exact .inr ⟨_, counts.flowBetween_le membersLive (by simpa using calleeLive),
      weight_of_crossings
        (counts.edgeWeight_outbound consistent cycle.nodup live left.inside calleeLive last) held⟩

/-- Except from the survivor to itself, all that flowed flows on. -/
theorem CountsCalls.flow_merged {caller callee : Nat}
    (callerLeft : (graph.merged members survivor).contains caller)
    (calleeLeft : (graph.merged members survivor).contains callee)
    (apart : ¬ (caller = survivor ∧ callee = survivor)) :
    (graph.merged members survivor).flow Binary64.count caller callee =
      graph.flowBetween Binary64.count (graph.moved (moveInto members survivor) caller)
        (graph.moved (moveInto members survivor) callee) := by
  have live := cycle.live consistent
  have membersLive := toFinset_subset_live live
  obtain ⟨callerLive, callerInside⟩ := (left.contains_iff caller).mp callerLeft
  obtain ⟨calleeLive, calleeInside⟩ := (left.contains_iff callee).mp calleeLeft
  by_cases first : caller = survivor
  · have outside : callee ∉ members := fun listed => apart ⟨first, calleeInside listed⟩
    rw [first, moved_survivor live left.inside, moved_of_outside left.inside calleeLive outside]
    exact flow_of_crossings
      (counts.edgeWeight_outbound consistent cycle.nodup live left.inside calleeLive outside)
      (sum_crossings_successors graph Binary64.count cycle.nodup callee)
      (counts.flowBetween_le membersLive (by simpa using calleeLive))
  · have outside : caller ∉ members := fun listed => first (callerInside listed)
    rw [moved_of_outside left.inside callerLive outside]
    by_cases last : callee = survivor
    · rw [last, moved_survivor live left.inside]
      exact flow_of_crossings
        (counts.edgeWeight_inbound consistent cycle.nodup live left.inside callerLive outside)
        (consistent.sum_crossings_predecessors Binary64.count cycle.nodup caller)
        (counts.flowBetween_le (by simpa using callerLive) membersLive)
    · have outside' : callee ∉ members := fun listed => last (calleeInside listed)
      rw [moved_of_outside left.inside calleeLive outside', flowBetween_singletons]
      exact flow_congr _ (consistent.edgeWeight_merged_outside live left.inside outside outside')

theorem CountsCalls.whole_merged (caller callee : Nat) (weight : Binary64)
    (held : (graph.merged members survivor).edgeWeight? caller callee = some weight) :
    weight.IsCount := by
  rcases counts.edgeWeight_merged_cases consistent cycle left held with
    ⟨_, _, before⟩ | ⟨n, bounded, rfl⟩
  · exact counts.whole caller callee weight before
  · exact Binary64.isCount_ofNat bounded

/-- The survivor calls itself no more. -/
theorem CountsCalls.flow_le_merged {caller callee : Nat}
    (callerLeft : (graph.merged members survivor).contains caller)
    (calleeLeft : (graph.merged members survivor).contains callee) :
    (graph.merged members survivor).flow Binary64.count caller callee ≤
      graph.flowBetween Binary64.count (graph.moved (moveInto members survivor) caller)
        (graph.moved (moveInto members survivor) callee) := by
  by_cases itself : caller = survivor ∧ callee = survivor
  · obtain ⟨rfl, rfl⟩ := itself
    have stripped : ¬ (graph.merged members callee).Calls callee callee := by
      simp [left.calls_iff, left.inside]
    rw [flow_of_not_calls _ stripped]
    exact Nat.zero_le _
  · exact (counts.flow_merged consistent cycle left callerLeft calleeLeft itself).le

/-- A node outside receives as many calls as before. -/
theorem CountsCalls.flow_into_merged {handle : Nat}
    (handleLeft : (graph.merged members survivor).contains handle) (outside : handle ∉ members) :
    (graph.merged members survivor).flowBetween Binary64.count
        (graph.merged members survivor).live {handle} =
      graph.flowBetween Binary64.count graph.live {handle} := by
  have live := ((left.contains_iff handle).mp handleLeft).1
  have different : handle ≠ survivor := fun same => outside (same ▸ left.inside)
  rw [flowBetween_singleton_right, flowBetween_singleton_right,
    ← (left.contracted consistent cycle).sum_moved]
  refine Finset.sum_congr rfl fun caller callerLeft => ?_
  rw [counts.flow_merged consistent cycle left (mem_live.mp callerLeft) handleLeft
    fun same => different same.2, moved_of_outside left.inside live outside,
    flowBetween_singleton_right]

/-- No weight into a node becomes the negative zero. -/
theorem CountsCalls.exact_merged {handle : Nat}
    (exact : handle ∉ members → ∀ caller weight, graph.edgeWeight? caller handle = some weight →
      weight = .ofNat weight.count) (caller : Nat) (weight : Binary64)
    (held : (graph.merged members survivor).edgeWeight? caller handle = some weight) :
    weight = .ofNat weight.count := by
  rcases counts.edgeWeight_merged_cases consistent cycle left held with
    ⟨_, outside, before⟩ | ⟨n, bounded, rfl⟩
  · exact exact outside caller weight before
  · rw [Binary64.count_ofNat bounded]

/-- The coverage of the survivor is found anew. -/
theorem CountsCalls.recounted_survivor :
    (graph.merged members survivor).Recounted survivor where
  coverage_eq _ held := coverage_merged_survivor held
  exact := counts.exact_merged consistent cycle left fun outside => absurd left.inside outside

/-- A node outside that fits its calls goes on to fit them. -/
theorem CountsCalls.recounted_outside {handle : Nat}
    (handleLeft : (graph.merged members survivor).contains handle) (outside : handle ∉ members)
    (recounted : graph.Recounted handle) : (graph.merged members survivor).Recounted handle where
  coverage_eq node held := by
    have exact := counts.exact_merged consistent cycle left fun _ => recounted.exact
    have live := ((left.contains_iff handle).mp handleLeft).1
    have bounded : graph.flowBetween Binary64.count graph.live {handle} ≤ Binary64.exactBound :=
      counts.flowBetween_le (Finset.Subset.refl _) (by simpa using live)
    have same := counts.flow_into_merged consistent cycle left handleLeft outside
    -- A node without callers receives the sum of nothing, a negative zero, so it
    -- must not lose its last caller or get a first one.
    have uncalled : (graph.merged members survivor).predecessors handle = [] ↔
        graph.predecessors handle = [] := by
      rw [left.consistent.predecessors_eq_nil_iff, consistent.predecessors_eq_nil_iff]
      constructor
      · intro none caller edge
        by_cases inside : caller ∈ members
        · exact none survivor ((left.calls_iff survivor handle).mpr
            (.inr (.inr ⟨rfl, outside, caller, inside, edge⟩)))
        · exact none caller ((left.calls_iff caller handle).mpr (.inl ⟨inside, outside, edge⟩))
      · intro none caller edge
        rcases (left.calls_iff caller handle).mp edge with
          ⟨_, _, below⟩ | ⟨rfl, _⟩ | ⟨_, _, member, _, below⟩
        · exact none caller below
        · exact outside left.inside
        · exact none member below
    have inflow : (graph.merged members survivor).inWeight handle = graph.inWeight handle := by
      rw [left.consistent.inWeight_of_counts exact (same.le.trans bounded),
        consistent.inWeight_of_counts recounted.exact bounded, same]
      exact if_congr uncalled rfl rfl
    rw [left.node_eq handle outside] at held
    rw [recounted.coverage_eq node held, inflowCoverage_congr inflow left.totalSamples]
  exact := counts.exact_merged consistent cycle left fun _ => recounted.exact

theorem CountsCalls.carried_merged :
    graph.Carried (graph.merged members survivor) (moveInto members survivor) where
  toContracted := left.contracted consistent cycle
  whole := counts.whole_merged consistent cycle left
  flow_le caller callerLeft callee calleeLeft :=
    counts.flow_le_merged consistent cycle left (mem_live.mp callerLeft) (mem_live.mp calleeLeft)
  flow_eq caller callerLeft callee calleeLeft different :=
    counts.flow_merged consistent cycle left (mem_live.mp callerLeft) (mem_live.mp calleeLeft)
      fun itself => different (itself.1.trans itself.2.symm)
  recounted handle handleLeft := by
    obtain ⟨live, inside⟩ := (left.contains_iff handle).mp handleLeft
    by_cases same : handle = survivor
    · subst same
      exact .inl (counts.recounted_survivor consistent cycle left)
    · have outside : handle ∉ members := fun listed => same (inside listed)
      refine .inr ⟨fun other otherLive arrived => ?_, fun loop => ?_⟩
      · have moved := mem_moved.mpr ⟨otherLive, arrived⟩
        rwa [moved_of_outside left.inside live outside, Finset.mem_singleton] at moved
      · exact (left.calls_iff handle handle).mpr (.inl ⟨outside, outside, loop⟩)
  stays handle handleLeft recounted := by
    obtain ⟨_, inside⟩ := (left.contains_iff handle).mp handleLeft
    by_cases same : handle = survivor
    · subst same
      exact counts.recounted_survivor consistent cycle left
    · exact counts.recounted_outside consistent cycle left handleLeft
        (fun listed => same (inside listed)) recounted
  totalSamples := left.totalSamples

end Merged

/-! All merges. -/

theorem CollapseRun.carried {report : CollapseReport Binary64}
    {ended : PassResult (CollapseReport Binary64) Binary64} (run : CollapseRun report graph ended)
    (consistent : graph.Consistent) (samples : graph.totalSamples ≠ 0)
    (counts : graph.CountsCalls) :
    ∃ result report' home, ended = ⟨result, .ok report'⟩ ∧ result.findCycle? = none ∧
      result.Consistent ∧ graph.Carried result home := by
  induction run with
  | finished _ _ none => exact ⟨_, _, id, rfl, none, consistent, .refl counts⟩
  | refused _ _ _ _ _ found refused =>
    obtain ⟨_, _, _, ended, _⟩ :=
      (CollapseRun.refused report _ _ _ _ found refused).contracted consistent samples
    cases ended
  | again _ graph _ members _ _ found collapsed _ ih =>
    have cycle := consistent.isCycle_of_findCycle found
    rcases consistent.collapse_merges members with ⟨_, refused, _⟩ | ⟨survivor, _, same, _, left⟩
    · cases collapsed.symm.trans refused
    · cases collapsed.symm.trans same
      rw [eraseDups_of_nodup cycle.nodup] at left ih
      have first := counts.carried_merged consistent cycle left
      obtain ⟨result, report', _, ended, none, kept, later⟩ :=
        ih left.consistent (left.totalSamples ▸ samples) (first.countsCalls counts)
      exact ⟨result, report', _, ended, none, kept, first.trans later consistent⟩

open Classical in
/-- The members of the strongly connected component of a node. -/
noncomputable def component {α : Type} (graph : CallGraph α) (handle : Nat) : Finset Nat :=
  graph.live.filter (graph.SameComponent handle)

open Classical in
theorem mem_component {α : Type} {graph : CallGraph α} {handle other : Nat} :
    other ∈ graph.component handle ↔ graph.contains other ∧ graph.SameComponent handle other :=
  Finset.mem_filter.trans (and_congr_left' mem_live)

/-- In an acyclic graph that is left, the nodes with one home are a component. -/
theorem Contracted.moved_eq_component (contracted : graph.Contracted result home)
    (acyclic : result.Acyclic) {handle : Nat} (left : result.contains handle) :
    graph.moved home handle = graph.component handle := by
  ext other
  rw [mem_moved, mem_component]
  refine and_congr_right fun live => ⟨?_, fun together => ?_⟩
  · rintro rfl
    exact (contracted.together other live).symm
  · exact contracted.eq_of_sameComponent acyclic (contracted.settled other live) left
      ((contracted.together other live).symm.trans together.symm)

/-- Collapsing a reachable graph in which weights count calls loses no call
between components: the edge between two survivors weighs as much as all edges
from members of the one component to members of the other. The coverage of each
survivor that stands for recursion is that of the calls which it receives in
the end. -/
theorem Reachable.collapseCycles_conserves_calls (reachable : graph.Reachable)
    (samples : 0 < graph.totalSamples) (counts : graph.CountsCalls) :
    ∃ report result, graph.collapseCycles = .ok (report, result) ∧ graph.IsCondensation result ∧
      (∀ caller callee weight, caller ≠ callee → result.edgeWeight? caller callee = some weight →
        weight.toRat? = some ((graph.flowBetween Binary64.count (graph.component caller)
          (graph.component callee) : Nat) : Rat)) ∧
      ∀ handle node, result.node? handle = some node →
        2 ≤ (graph.component handle).card ∨ graph.Calls handle handle →
        node.coverage = Quantity.roundTo 1 (Quantity.ofCount 100 * result.inWeight handle /
          Quantity.ofCount graph.totalSamples) := by
  have consistent := reachable.consistent
  obtain ⟨result, report, home, ended, none, kept, carried⟩ :=
    consistent.collapseAll_run.carried consistent (Nat.pos_iff_ne_zero.mp samples) counts
  have acyclic := kept.findCycle_eq_none_iff.mp none
  have condensed := carried.isCondensation consistent acyclic
  have ran : graph.collapseCycles = .ok (report, result) := by
    rw [collapseCycles, ended]
    rfl
  refine ⟨report, result, ran, condensed, fun caller callee weight different held => ?_,
    fun handle node held recursive => ?_⟩
  · have callerLeft := contains_caller (calls_of_weight held)
    have calleeLeft := kept.contains_callee (calls_of_weight held)
    rw [(carried.whole caller callee weight held).toRat, ← flow_of_weight Binary64.count held,
      carried.flow_eq caller (mem_live.mpr callerLeft) callee (mem_live.mpr calleeLeft) different,
      carried.moved_eq_component acyclic callerLeft, carried.moved_eq_component acyclic calleeLeft]
  · have left : result.contains handle := contains_iff_node.mpr ⟨node, held⟩
    rcases carried.recounted handle left with recounted | untouched
    · rw [recounted.coverage_eq node held, inflowCoverage, carried.totalSamples]
    -- A node that no merge has touched is alone in its component, and does not call itself.
    · rcases recursive with shared | loop
      · have alone : graph.component handle ⊆ {handle} := fun other inside => by
          rw [← carried.moved_eq_component acyclic left] at inside
          obtain ⟨live, arrived⟩ := mem_moved.mp inside
          exact Finset.mem_singleton.mpr (untouched.alone other live arrived)
        have few := Finset.card_le_card alone
        rw [Finset.card_singleton] at few
        omega
      · exact absurd (untouched.loop loop) (condensed.loopless handle)

theorem recursive_collapseCycles_conserves_calls :
    ∃ report result, recursive.collapseCycles = .ok (report, result) ∧
      recursive.IsCondensation result ∧
      (∀ caller callee weight, caller ≠ callee → result.edgeWeight? caller callee = some weight →
        weight.toRat? = some ((recursive.flowBetween Binary64.count (recursive.component caller)
          (recursive.component callee) : Nat) : Rat)) ∧
      ∀ handle node, result.node? handle = some node →
        2 ≤ (recursive.component handle).card ∨ recursive.Calls handle handle →
        node.coverage = Quantity.roundTo 1 (Quantity.ofCount 100 * result.inWeight handle /
          Quantity.ofCount recursive.totalSamples) :=
  reachable_recursive.collapseCycles_conserves_calls (by decide +kernel)
    (.of_edges (by decide +kernel) (by decide +kernel))

end ProfileGraph.CallGraph
