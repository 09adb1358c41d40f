import ProfileGraph.Proofs.Forests
import ProfileGraph.Proofs.Recomputing

/-! What flows out of the roots. Every edge counts once for the node that it leaves and
once for the node that it enters, so all nodes together receive what they pass on. Roots
receive nothing. What they pass on is therefore what the other nodes receive beyond what
they pass on, and that is what correction shares out as self coverage. Rounding moves each
value by half a tenth at most, and a value that is raised to zero adds to the total. -/
namespace ProfileGraph.CallGraph

variable {graph next : CallGraph Rat} {report : CorrectionReport}

/-- The weight that all roots pass on. -/
def rootOutflow (graph : CallGraph Rat) : Rat := (graph.roots.map graph.outWeight).sum

/-- The self coverage of all nodes that receive weight. -/
def innerSelfCoverage (graph : CallGraph Rat) : Rat :=
  ((graph.inner graph.handles).map graph.selfCoverageAt).sum

/-- What a node receives and does not pass on, in percent of all samples and not rounded. -/
def retainedShare (graph : CallGraph Rat) (handle : Nat) : Rat :=
  100 * (graph.inWeight handle - graph.outWeight handle) / graph.totalSamples

/-! Counting each edge twice. -/

theorem sum_handles (value : Nat → Rat) :
    (graph.handles.map value).sum = ∑ handle ∈ graph.live, value handle :=
  (List.sum_toFinset value nodup_handles).symm

theorem Consistent.sum_inWeight (consistent : graph.Consistent) :
    (graph.handles.map graph.inWeight).sum = (graph.handles.map graph.outWeight).sum := by
  have inward : ∀ callee, graph.inWeight callee = ∑ caller ∈ graph.live,
      graph.flow id caller callee := consistent.value_inWeight exact_id
  have outward : ∀ caller, graph.outWeight caller = ∑ callee ∈ graph.live,
      graph.flow id caller callee := consistent.value_outWeight exact_id
  rw [sum_handles, sum_handles]
  calc ∑ callee ∈ graph.live, graph.inWeight callee
      = ∑ callee ∈ graph.live, ∑ caller ∈ graph.live, graph.flow id caller callee :=
        Finset.sum_congr rfl fun callee _ => inward callee
    _ = ∑ caller ∈ graph.live, ∑ callee ∈ graph.live, graph.flow id caller callee :=
        Finset.sum_comm
    _ = ∑ caller ∈ graph.live, graph.outWeight caller :=
        Finset.sum_congr rfl fun caller _ => (outward caller).symm

/-- Every node is a root or receives weight. -/
theorem sum_roots_add_sum_inner (value : Nat → Rat) :
    (graph.roots.map value).sum + ((graph.inner graph.handles).map value).sum =
      (graph.handles.map value).sum := by
  rw [← List.sum_append, ← List.map_append]
  exact ((List.filter_append_perm graph.isRoot graph.handles).map value).sum_eq

theorem sum_roots_inWeight : (graph.roots.map graph.inWeight).sum = 0 := by
  refine List.sum_eq_zero fun weight member => ?_
  obtain ⟨root, listed, rfl⟩ := List.mem_map.mp member
  exact (isRoot_iff exact_id).mp (List.mem_filter.mp listed).2

/-- What the roots pass on stays with the nodes that receive weight. -/
theorem Consistent.sum_retainedShare (consistent : graph.Consistent) :
    ((graph.inner graph.handles).map graph.retainedShare).sum =
      100 * graph.rootOutflow / graph.totalSamples := by
  have received := graph.sum_roots_add_sum_inner graph.inWeight
  have passedOn := graph.sum_roots_add_sum_inner graph.outWeight
  have apart : ((graph.inner graph.handles).map graph.inWeight).sum =
      ((graph.inner graph.handles).map fun handle =>
        graph.inWeight handle - graph.outWeight handle).sum +
      ((graph.inner graph.handles).map graph.outWeight).sum := by
    rw [← List.sum_map_add]
    simp only [sub_add_cancel]
  have balance : ((graph.inner graph.handles).map fun handle =>
      graph.inWeight handle - graph.outWeight handle).sum = graph.rootOutflow := by
    rw [sum_roots_inWeight, consistent.sum_inWeight] at received
    rw [rootOutflow]
    linarith
  have shares : graph.retainedShare = fun handle =>
      100 / graph.totalSamples * (graph.inWeight handle - graph.outWeight handle) := by
    funext handle
    rw [retainedShare]
    ring
  rw [shares, List.sum_map_mul_left, balance]
  ring

/-! Rounding and raising. -/

theorem abs_retainedCoverage_sub_le (handle : Nat) :
    |graph.retainedCoverage handle - graph.retainedShare handle| ≤ 1 / 20 := by
  have tenths : Quantity.tenTo 1 = 10 := by decide +kernel
  have bound := Quantity.abs_roundTo_sub_le 1 (graph.retainedShare handle)
  rw [tenths] at bound
  exact bound.trans_eq (by norm_num)

theorem retainedCoverage_le_implied (handle : Nat) :
    graph.retainedCoverage handle ≤ graph.impliedSelfCoverage handle := by
  rw [impliedSelfCoverage]
  split
  next negative => exact (of_decide_eq_true negative).le
  next => exact le_rfl

/-- Values that are at most so much greater have a sum that is at most so much greater for
each of them. -/
theorem sum_map_le_add (gap : Rat) {handles : List Nat} {left right : Nat → Rat}
    (close : ∀ handle ∈ handles, left handle ≤ right handle + gap) :
    (handles.map left).sum ≤ (handles.map right).sum + gap * handles.length := by
  induction handles with
  | nil => simp
  | cons handle later ih =>
    obtain ⟨first, close⟩ := List.forall_mem_cons.mp close
    have rest := ih close
    rw [List.map_cons, List.sum_cons, List.map_cons, List.sum_cons, List.length_cons]
    push_cast
    linarith

/-! What correction leaves. -/

theorem Corrected.innerSelfCoverage_eq (corrected : graph.Corrected report next) :
    next.innerSelfCoverage =
      ((graph.inner graph.handles).map graph.impliedSelfCoverage).sum := by
  have same := corrected.sameLinks
  have inner : next.inner next.handles = graph.inner graph.handles := by
    rw [same.handles_eq]
    exact List.filter_congr fun handle _ => by rw [same.isRoot_eq]
  rw [innerSelfCoverage, inner]
  refine congrArg List.sum (List.map_congr_left fun handle member => ?_)
  obtain ⟨listed, receives⟩ := mem_inner.mp member
  rw [mem_handles, ← same.contains] at listed
  obtain ⟨node, left⟩ := contains_iff_node.mp listed
  rw [selfCoverageAt_eq left, corrected.selfCoverage_eq left receives]

theorem Corrected.updated_eq (corrected : graph.Corrected report next) :
    report.updated = (graph.inner graph.handles).length := by
  have split := List.length_eq_length_filter_add (l := graph.handles) graph.isRoot
  have counted := corrected.counted
  rw [corrected.skipped, nodeCount] at counted
  rw [roots] at counted
  rw [inner]
  omega

/-- Correction of an acyclic graph with samples succeeds and shares out what the roots pass
on, whatever the weights are: the nodes that receive weight have it as their self coverage,
in percent of all samples, but for half a tenth for each of them. They have more only if
some value was negative and has been raised to zero. -/
theorem Reachable.fixSelfCoverage_conserves (reachable : graph.Reachable)
    (acyclic : graph.Acyclic) (sampled : graph.totalSamples ≠ 0) :
    ∃ report next, graph.fixSelfCoverage = .ok (report, next) ∧
      100 * graph.rootOutflow / graph.totalSamples - 5 / 100 * report.updated ≤
        next.innerSelfCoverage ∧
      (report.clamped = [] →
        |next.innerSelfCoverage - 100 * graph.rootOutflow / graph.totalSamples| ≤
          5 / 100 * report.updated) := by
  obtain ⟨report, next, ran, corrected⟩ := reachable.consistent.exists_corrected acyclic sampled
  have total := reachable.consistent.sum_retainedShare
  have least := sum_map_le_add (1 / 20)
    fun handle (_ : handle ∈ graph.inner graph.handles) => by
      have rounded := (abs_le.mp (graph.abs_retainedCoverage_sub_le handle)).1
      have raised := graph.retainedCoverage_le_implied handle
      show graph.retainedShare handle ≤ graph.impliedSelfCoverage handle + 1 / 20
      linarith
  rw [total, ← corrected.innerSelfCoverage_eq, ← corrected.updated_eq] at least
  refine ⟨report, next, ran, by linarith, fun unclamped => ?_⟩
  have most := sum_map_le_add (1 / 20)
    fun handle (member : handle ∈ graph.inner graph.handles) => by
      have rounded := (abs_le.mp (graph.abs_retainedCoverage_sub_le handle)).2
      have kept : graph.impliedSelfCoverage handle = graph.retainedCoverage handle := by
        refine if_neg fun negative => ?_
        obtain ⟨listed, receives⟩ := mem_inner.mp member
        have listed := (corrected.clamped _).mpr
          ⟨handle, mem_handles.mp listed, receives, negative, rfl⟩
        rw [unclamped] at listed
        cases listed
      show graph.impliedSelfCoverage handle ≤ graph.retainedShare handle + 1 / 20
      linarith
  rw [total, ← corrected.innerSelfCoverage_eq, ← corrected.updated_eq] at most
  rw [abs_le]
  constructor <;> linarith

/-- A root that passes on 101 of 300 samples, one of them directly to a leaf. -/
def tributaries : CallGraph Rat :=
  (empty "!").performAll [
    .declare "N1" "main" 10 100, .declare "N2" "parse" 30 60, .declare "N3" "leaf!" 50 50,
    .sample 300, .connect "N1" "N2" 100, .connect "N2" "N3" 70, .connect "N1" "N3" 1]

theorem tributaries_fixSelfCoverage_conserves :
    tributaries.Acyclic ∧ tributaries.totalSamples ≠ 0 ∧ tributaries.rootOutflow = 101 ∧
      ∃ next, tributaries.fixSelfCoverage = .ok (⟨2, 1, []⟩, next) ∧
        100 * 101 / 300 - 5 / 100 * 2 ≤ next.innerSelfCoverage ∧
        |next.innerSelfCoverage - 100 * 101 / 300| ≤ 5 / 100 * 2 := by
  have reachable : tributaries.Reachable := (Reachable.fresh "!").performAll _
  have acyclic : tributaries.Acyclic :=
    reachable.consistent.findCycle_eq_none_iff.mp (by decide +kernel)
  have sampled : tributaries.totalSamples = 300 := by decide +kernel
  have outflow : tributaries.rootOutflow = 101 := by decide +kernel
  have reported : tributaries.fixSelfCoverage.map (·.1) = .ok ⟨2, 1, []⟩ := by decide +kernel
  obtain ⟨report, next, ran, least, both⟩ :=
    reachable.fixSelfCoverage_conserves acyclic (by rw [sampled]; decide)
  rw [ran] at reported
  obtain rfl : report = ⟨2, 1, []⟩ := Except.ok.inj reported
  rw [outflow, sampled] at least both
  exact ⟨acyclic, by rw [sampled]; decide, outflow, next, ran, least, both rfl⟩

end ProfileGraph.CallGraph
