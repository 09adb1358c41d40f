import ProfileGraph.Proofs.LargestShares
import ProfileGraph.Proofs.Orphans
import ProfileGraph.Proofs.PruneBounds
import ProfileGraph.Proofs.PruneOutcomes

/-! Roots that pruning makes itself. Whether a node is a root is decided at its turn, by
what it receives from bridges that have been rounded to hundredths. Where all of them
are rounded to nothing, the calls have faded: the node still has callers, and it is taken
for a root all the same. Nothing fades as long as all calls weigh one or more and fewer
than two hundred nodes are bound to stay, because the callers of a node at its turn are
such nodes, and the one with the greatest weight gets a bridge that counts. -/
namespace ProfileGraph.CallGraph

/-! Who is called. -/

section Called
variable {α : Type} [Quantity α] {graph next result : CallGraph α} {handle other : Nat}
  {removed order : List Nat}

/-- Where a sum of nothing counts as zero, a node that is no root has callers. -/
theorem Consistent.exists_caller_of_inner (consistent : graph.Consistent)
    (none : Quantity.isZero (Quantity.emptySum : α)) (inner : ¬ graph.isRoot handle) :
    ∃ caller, graph.Calls caller handle := by
  by_contra uncalled
  exact inner (consistent.isRoot_of_uncalled none (not_exists.mp uncalled))

/-- Removing a node that has callers leaves no other node without any. -/
theorem Eliminated.called (eliminated : graph.Eliminated handle next)
    (loopless : ¬ graph.Calls handle handle) (inner : ∃ caller, graph.Calls caller handle)
    (different : other ≠ handle) (called : ∃ caller, graph.Calls caller other) :
    ∃ caller, next.Calls caller other := by
  obtain ⟨caller, edge⟩ := called
  by_cases through : caller = handle
  · subst through
    obtain ⟨first, inward⟩ := inner
    have apart : first ≠ caller := fun same => loopless (same ▸ inward)
    exact ⟨first, (eliminated.calls_iff first other).mpr ⟨apart, different, .inr ⟨inward, edge⟩⟩⟩
  · exact ⟨caller, (eliminated.calls_iff caller other).mpr ⟨through, different, .inl edge⟩⟩

/-- Removals make no interest point. -/
theorem Eliminated.isInterest_before (eliminated : graph.Eliminated handle next)
    (interest : next.IsInterest other) : graph.IsInterest other := by
  obtain ⟨after, held, marked⟩ := interest
  have different := ((eliminated.contains_iff other).mp (contains_iff_node.mpr ⟨after, held⟩)).2
  have same := eliminated.bare_eq other different
  rw [held, Option.map_some, eq_comm, Option.map_eq_some_iff] at same
  obtain ⟨before, there, same⟩ := same
  exact ⟨before, there, (congrArg (·.isInterestPoint) same).trans marked⟩

/-- Removals make no caller where there was none. -/
theorem Eliminated.called_before (eliminated : graph.Eliminated handle next)
    (called : ∃ caller, next.Calls caller other) : ∃ caller, graph.Calls caller other := by
  obtain ⟨caller, edge⟩ := called
  obtain ⟨_, _, edge | ⟨_, edge⟩⟩ := (eliminated.calls_iff caller other).mp edge
  · exact ⟨caller, edge⟩
  · exact ⟨handle, edge⟩

theorem Removals.called (removals : graph.Removals removed result)
    (consistent : graph.Consistent) (forward : graph.Forward order)
    (none : Quantity.isZero (Quantity.emptySum : α)) (left : result.contains other)
    (called : ∃ caller, graph.Calls caller other) : ∃ caller, result.Calls caller other := by
  induction removals with
  | done => exact called
  | @next graph _ _ handle _ _ held inner _ eliminated removals ih =>
    have there := (removals.pruned (.refl eliminated.consistent)).contains_iff other
    have different := ((eliminated.contains_iff other).mp (there.mp left).1).2
    exact ih eliminated.consistent (eliminated.forward forward) left
      (eliminated.called (forward.loopless handle) (consistent.exists_caller_of_inner none inner)
        different called)

/-- Every removed node was called at first. -/
theorem Removals.called_removed (removals : graph.Removals removed result)
    (consistent : graph.Consistent) (none : Quantity.isZero (Quantity.emptySum : α)) :
    ∀ handle ∈ removed, ∃ caller, graph.Calls caller handle := by
  induction removals with
  | done => simp
  | next _ inner _ eliminated _ ih =>
    exact List.forall_mem_cons.mpr ⟨consistent.exists_caller_of_inner none inner,
      fun other member => eliminated.called_before (ih eliminated.consistent other member)⟩

end Called

/-! What is retained. -/

variable {start graph next result : CallGraph Binary64} {handle caller callee : Nat}
  {node : Node Binary64} {later gone removed retained order anchors : List Nat}
  {report : PruneReport} {ended : PassResult PruneReport Binary64} {exponent past : Nat}

/-- Somebody calls the node of a handle, but no such call has kept any weight. -/
def IsFaded (graph : CallGraph Binary64) (handle : Nat) : Prop :=
  (∃ caller, graph.Calls caller handle) ∧ ∀ caller weight,
    graph.edgeWeight? caller handle = some weight → Quantity.isZero weight

/-- A node that receives nothing is called without weight only. -/
theorem UnsignedEdges.isZero_of_isRoot (unsigned : graph.UnsignedEdges)
    (consistent : graph.Consistent) (root : graph.isRoot handle) {weight : Binary64}
    (held : graph.edgeWeight? caller handle = some weight) : Quantity.isZero weight := by
  refine Binary64.isZero_of_sum ?_ root weight (consistent.mem_received.mpr ⟨caller, held⟩)
  intro term member
  obtain ⟨other, there⟩ := consistent.mem_received.mp member
  exact unsigned other handle term there

/-- The retained roots are the orphans, and the plain nodes whose calls have faded. -/
theorem PruneSplit.mem_retained_iff
    (split : graph.PruneSplit order removed retained report result)
    (removals : graph.Removals gone result) (consistent : graph.Consistent)
    (forward : graph.Forward order) (unsigned : graph.UnsignedEdges) :
    handle ∈ retained ↔
      graph.IsOrphan handle ∨ ¬ graph.IsInterest handle ∧ result.IsFaded handle := by
  have pruned : graph.Pruned gone result := removals.pruned (.refl consistent)
  have members := split.mem_iff handle
  rw [List.mem_append] at members
  constructor
  · intro stays
    obtain ⟨live, plain⟩ := members.mp (.inr stays)
    obtain ⟨left, none⟩ := split.stays handle stays
    by_cases called : ∃ caller, graph.Calls caller handle
    · refine .inr ⟨plain, removals.called consistent forward rfl left called, ?_⟩
      exact fun caller weight held => (removals.unsignedEdges consistent unsigned).isZero_of_isRoot
        pruned.consistent none held
    · exact .inl ⟨live, plain, not_exists.mp called⟩
  · rintro (⟨live, plain, uncalled⟩ | ⟨plain, ⟨caller, edge⟩, _⟩)
    · refine (members.mpr ⟨live, plain⟩).resolve_left fun inside => ?_
      have listed : handle ∈ gone := by
        by_contra stays
        exact split.gone handle inside ((pruned.contains_iff handle).mpr ⟨live, stays⟩)
      obtain ⟨caller, edge⟩ := removals.called_removed consistent rfl handle listed
      exact uncalled caller edge
    · have left := pruned.consistent.contains_callee edge
      have live := ((pruned.contains_iff handle).mp left).1
      exact (members.mpr ⟨live, plain⟩).resolve_left fun inside => split.gone handle inside left

/-! Calls that do not fade. -/

/-- What a visit relies on where no call has faded. The nodes that stay for good are
among the anchors. -/
structure Sounding (graph : CallGraph Binary64) (anchors later : List Nat) : Prop where
  /-- Nodes to be visited still call with the weights that they had at first. -/
  heavy : ∀ caller callee weight, caller ∈ later →
    graph.edgeWeight? caller callee = some weight → weight.AtLeast unitsPerOne
  /-- Who has callers still to be visited receives a weight that counts. -/
  heard : ∀ callee ∈ later, (∃ caller, graph.Calls caller callee) → ∃ caller weight,
    graph.edgeWeight? caller callee = some weight ∧ weight.AtLeast Binary64.grain
  callers : ∀ caller callee, graph.Calls caller callee → callee ∈ later →
    caller ∈ later ∨ caller ∈ anchors
  anchored : ∀ handle ∈ later, graph.contains handle →
    graph.IsInterest handle ∨ (∀ caller, ¬ graph.Calls caller handle) → handle ∈ anchors

section Visit
variable (sounding : graph.Sounding anchors (handle :: later))
include sounding

/-- A node that somebody calls is no root at its turn. -/
theorem Sounding.not_isRoot (consistent : graph.Consistent) (unsigned : graph.UnsignedEdges)
    (called : ∃ caller, graph.Calls caller handle) : ¬ graph.isRoot handle := by
  intro root
  obtain ⟨caller, weight, held, large⟩ := sounding.heard handle List.mem_cons_self called
  exact large.not_isZero Binary64.grain_pos (unsigned.isZero_of_isRoot consistent root held)

/-- A node that stays is an anchor, and the rest goes on as before. -/
theorem Sounding.stay (stays : graph.contains handle → graph.IsInterest handle ∨
    ∀ caller, ¬ graph.Calls caller handle) : graph.Sounding anchors later where
  heavy caller callee weight ahead := sounding.heavy caller callee weight (.tail _ ahead)
  heard callee ahead := sounding.heard callee (.tail _ ahead)
  anchored other ahead := sounding.anchored other (.tail _ ahead)
  callers caller callee edge ahead := by
    rcases sounding.callers caller callee edge (.tail _ ahead) with inside | anchor
    · rcases List.mem_cons.mp inside with rfl | inside
      · have live := contains_caller edge
        exact .inr (sounding.anchored caller List.mem_cons_self live (stays live))
      · exact .inl inside
    · exact .inr anchor

section Removal
variable (consistent : graph.Consistent)
  (uncalled : ∀ other ∈ handle :: later, ¬ graph.Calls other handle)
include consistent uncalled

/-- At its turn a node is called by anchors only. -/
theorem Sounding.length_predecessors_le :
    (graph.predecessors handle).length ≤ anchors.length := by
  rw [← List.length_map (·.1)]
  refine ((graph.nodup_callers handle).subperm fun caller listed => ?_).length_le
  have edge := consistent.mem_callers.mp listed
  exact (sounding.callers caller handle edge List.mem_cons_self).resolve_left fun inside =>
    uncalled caller inside edge

variable (within : graph.WeightsWithin exponent past (handle :: later))
  (small : exponent ≤ 900) (counted : 1 + 2 * past ≤ Binary64.exactBound)
  (few : anchors.length < 200)
include within small counted few

/-- Some caller of a removed node builds a bridge that counts to each callee. -/
theorem Sounding.exists_bridge (called : ∃ caller, graph.Calls caller handle)
    {passedOn : Binary64} (outward : graph.edgeWeight? handle callee = some passedOn) :
    ∃ caller received, graph.edgeWeight? caller handle = some received ∧
      Binary64.AtLeast Binary64.grain
        (Quantity.roundTo 2 (received * (passedOn / graph.inWeight handle))) := by
  obtain ⟨first, heard, held, reached⟩ := sounding.heard handle List.mem_cons_self called
  have listed := consistent.mem_received.mpr ⟨first, held⟩
  obtain ⟨received, member, units, inside, greatest, most⟩ :=
    Binary64.exists_greatest (List.ne_nil_of_mem listed) fun term member => by
      obtain ⟨caller, there⟩ := consistent.mem_received.mp member
      exact within.atMost caller handle term there
  have large : Binary64.grain ≤ units := reached.le_of_atMost (most heard listed)
  have inner := sounding.not_isRoot consistent within.unsigned called
  obtain ⟨_, _, _, total⟩ := within.inWeight_atLeast consistent inner held
  have terms : ((graph.predecessors handle).map (·.2)).length < 200 := by
    rw [List.length_map]
    exact (sounding.length_predecessors_le consistent uncalled).trans_lt few
  have top : 54 + (exponent + unitExponent) ≤ 2040 := by
    have fine : unitExponent = 1074 := rfl
    omega
  have share := Binary64.atLeast_largestShare most terms large
    (inside.trans_lt (Binary64.mul_powerUnits_lt counted)) top greatest
    (total.mono Binary64.grain_pos)
    (sounding.heavy handle callee passedOn List.mem_cons_self outward)
  obtain ⟨caller, inward⟩ := consistent.mem_received.mp member
  exact ⟨caller, received, inward, share.roundTo_two⟩

variable (called : ∃ caller, graph.Calls caller handle)
  (ran : graph.removeAndBridge handle node = ⟨next, .ok ()⟩)
  (eliminated : graph.Eliminated handle next)
include called ran eliminated

/-- Who is called after a removal hears a bridge, or the caller that it heard before. -/
theorem Sounding.heard_after (ahead : callee ∈ later)
    (reached : ∃ caller, next.Calls caller callee) : ∃ caller weight,
      next.edgeWeight? caller callee = some weight ∧ weight.AtLeast Binary64.grain := by
  have last : callee ≠ handle := by
    obtain ⟨caller, edge⟩ := reached
    exact ((eliminated.calls_iff caller callee).mp edge).2.1
  by_cases through : graph.Calls handle callee
  · obtain ⟨passedOn, outward⟩ := Option.isSome_iff_exists.mp through
    obtain ⟨caller, received, inward, large⟩ := sounding.exists_bridge consistent uncalled within
      small counted few called outward
    have first : caller ≠ handle := by
      rintro rfl
      exact uncalled caller List.mem_cons_self (calls_of_weight inward)
    have inner := sounding.not_isRoot consistent within.unsigned called
    have bridge := within.unsigned.bridge consistent inner inward outward
    have before := (within.weight_or_zero caller callee).2.atLeast_zero
    refine ⟨caller, _, consistent.edgeWeight_removeAndBridge_of_bridged ran first last inward
      outward, ?_⟩
    exact before.add large (within.unsigned.weight_or_zero caller callee) bridge
      Binary64.isMagnitude_grain (Nat.zero_add _).ge
  · obtain ⟨caller, weight, held, large⟩ :=
      sounding.heard callee (.tail _ ahead) (eliminated.called_before reached)
    have first : caller ≠ handle := by
      rintro rfl
      exact through (calls_of_weight held)
    refine ⟨caller, weight, ?_, large⟩
    rw [consistent.edgeWeight_removeAndBridge_of_unbridged ran first last fun both =>
      through both.2, held]

/-- The removal of a node keeps what later visits rely on. -/
theorem Sounding.eliminate : next.Sounding anchors later where
  heavy caller callee weight ahead left := by
    rcases consistent.edgeWeight_removeAndBridge_cases ran eliminated left with
      before | ⟨_, _, inward, _⟩
    · exact sounding.heavy caller callee weight (.tail _ ahead) before
    · exact absurd (calls_of_weight inward) (uncalled caller (.tail _ ahead))
  heard callee ahead reached :=
    sounding.heard_after consistent uncalled within small counted few called ran eliminated ahead
      reached
  callers caller callee edge ahead := by
    obtain ⟨first, _, edge | ⟨inward, _⟩⟩ := (eliminated.calls_iff caller callee).mp edge
    · rcases sounding.callers caller callee edge (.tail _ ahead) with inside | anchor
      · exact .inl ((List.mem_cons.mp inside).resolve_left first)
      · exact .inr anchor
    · rcases sounding.callers caller handle inward List.mem_cons_self with inside | anchor
      · exact absurd inward (uncalled caller inside)
      · exact .inr anchor
  anchored other ahead left stays := by
    obtain ⟨live, different⟩ := (eliminated.contains_iff other).mp left
    apply sounding.anchored other (.tail _ ahead) live
    rcases stays with marked | nobody
    · exact .inl (eliminated.isInterest_before marked)
    · right
      intro caller edge
      have loopless := uncalled handle List.mem_cons_self
      obtain ⟨other', edge'⟩ := eliminated.called loopless called different ⟨caller, edge⟩
      exact nobody other' edge'

end Removal
end Visit

/-- A run removes every plain node that is called, if no call has faded at its begin. -/
theorem PruneRun.removes_called {policy : RootPolicy}
    (run : PruneRun policy graph report later ended) (retain : policy = .retain)
    (consistent : graph.Consistent) (forward : graph.Forward order)
    (sorted : later.Pairwise (order.idxOf · < order.idxOf ·))
    (within : graph.WeightsWithin exponent past later) (small : exponent ≤ 900)
    (counted : 1 + 2 * (past + later.length) ≤ Binary64.exactBound)
    (sounding : graph.Sounding anchors later) (few : anchors.length < 200) :
    ∀ other ∈ later, ¬ graph.IsInterest other → (∃ caller, graph.Calls caller other) →
      ¬ ended.graph.contains other := by
  induction run generalizing past with
  | finished => simp
  | forbidden _ _ _ forbid => cases retain.symm.trans forbid
  | @absent graph _ handle later ended absent run ih =>
    have gone : ¬ graph.contains handle := by simp [contains_eq_isSome_node, absent]
    rw [List.length_cons] at counted
    have onward := ih consistent forward sorted.of_cons within.rest (by omega)
      (sounding.stay fun live => absurd live gone)
    refine List.forall_mem_cons.mpr ⟨fun _ ⟨caller, edge⟩ => ?_, onward⟩
    exact absurd (consistent.contains_callee edge) gone
  | @interest graph _ handle later ended marked run ih =>
    rw [List.length_cons] at counted
    have onward := ih consistent forward sorted.of_cons within.rest (by omega)
      (sounding.stay fun _ => .inl marked)
    exact List.forall_mem_cons.mpr ⟨fun plain => absurd marked plain, onward⟩
  | @retained graph _ handle later ended node held plain root _ run ih =>
    have nobody : ¬ ∃ caller, graph.Calls caller handle := fun called =>
      sounding.not_isRoot consistent within.unsigned called root
    rw [List.length_cons] at counted
    have onward := ih consistent forward sorted.of_cons within.rest (by omega)
      (sounding.stay fun _ => .inr (not_exists.mp nobody))
    exact List.forall_mem_cons.mpr ⟨fun _ called => absurd called nobody, onward⟩
  | @removed graph next _ handle later ended node held plain inner ran eliminated run ih =>
    have called := consistent.exists_caller_of_inner rfl inner
    have uncalled := forward.uncalled_by_later sorted
    have loopless := uncalled handle List.mem_cons_self
    have inRange : 53 + exponent < overflowExponent := by
      have top : overflowExponent = 1024 := rfl
      omega
    rw [List.length_cons] at counted
    have onward := ih eliminated.consistent (eliminated.forward forward) sorted.of_cons
      (within.eliminate consistent inner ran eliminated inRange (by omega)
        fun other ahead => uncalled other (.tail _ ahead))
      (by omega)
      (sounding.eliminate consistent uncalled within small (by omega) few called ran eliminated)
    obtain ⟨_, _, pruned, _⟩ := run.pruned (.refl eliminated.consistent)
    refine List.forall_mem_cons.mpr ⟨fun _ _ left => ?_, fun other ahead plain called' => ?_⟩
    · exact ((eliminated.contains_iff handle).mp ((pruned.contains_iff handle).mp left).1).2 rfl
    · have different : other ≠ handle := by
        rintro rfl
        exact Nat.lt_irrefl _ ((List.pairwise_cons.mp sorted).1 other ahead)
      exact onward other ahead (fun marked => plain (eliminated.isInterest_before marked))
        (eliminated.called loopless called different called')

/-! All of a graph. -/

/-- The nodes that pruning has to leave: interest points and nodes that nobody calls. -/
def lastingNodes (graph : CallGraph Binary64) : List Nat :=
  graph.handles.filter fun handle => !graph.isPlain handle || graph.isUncalled handle

/-- Every call weighs one at least, and none weighs more than a power of two that is far
above all counts. -/
def Weighty (graph : CallGraph Binary64) : Prop :=
  ∀ caller callee weight, graph.edgeWeight? caller callee = some weight →
    weight.AtLeast unitsPerOne ∧ weight.AtMost (Binary64.powerUnits 900)

theorem Weighty.within (weighty : graph.Weighty) (unsigned : graph.UnsignedEdges) :
    graph.WeightsWithin 900 0 later :=
  .start unsigned fun caller callee weight held =>
    let ⟨large, inside⟩ := weighty caller callee weight held
    ⟨.inr (large.mono Binary64.grain_le_unitsPerOne), inside⟩

theorem Weighty.sounding (weighty : graph.Weighty) (consistent : graph.Consistent)
    (topological : graph.IsTopological order) : graph.Sounding graph.lastingNodes order where
  heavy caller callee weight _ held := (weighty caller callee weight held).1
  heard callee _ called := by
    obtain ⟨caller, edge⟩ := called
    obtain ⟨weight, held⟩ := Option.isSome_iff_exists.mp edge
    have large := (weighty caller callee weight held).1
    exact ⟨caller, weight, held, large.mono Binary64.grain_le_unitsPerOne⟩
  callers caller callee edge _ := .inl ((topological.mem_iff caller).mpr (contains_caller edge))
  anchored handle _ live stays := by
    refine List.mem_filter.mpr ⟨mem_handles.mpr live, Bool.or_eq_true_iff.mpr ?_⟩
    refine stays.imp (fun marked => ?_) fun nobody => ?_
    · rw [Bool.not_eq_true', ← Bool.not_eq_true, isPlain_iff, not_not]
      exact marked
    · rw [isUncalled, List.isEmpty_iff]
      exact consistent.predecessors_eq_nil_iff.mpr nobody

/-- Pruning a graph of weighty calls in which few nodes are bound to stay retains nobody
but orphans. -/
theorem Weighty.isOrphan_of_retained (weighty : graph.Weighty) (unsigned : graph.UnsignedEdges)
    (consistent : graph.Consistent) (topological : graph.IsTopological order)
    (few : graph.lastingNodes.length < 200) (counted : graph.nodeCount ≤ 2 ^ 32)
    (split : graph.PruneSplit order removed retained report result)
    (run : PruneRun .retain graph {} order ⟨result, .ok report⟩) (stays : handle ∈ retained) :
    graph.IsOrphan handle := by
  obtain ⟨live, plain⟩ := (split.mem_iff handle).mp (List.mem_append_right removed stays)
  refine ⟨live, plain, not_exists.mp fun called => ?_⟩
  have inRange : 1 + 2 * (0 + order.length) ≤ Binary64.exactBound := by
    have bound : Binary64.exactBound = 2 ^ 53 := rfl
    rw [topological.length_eq, bound]
    omega
  exact run.removes_called rfl consistent topological.forward (pairwise_idxOf topological.nodup)
    (weighty.within unsigned) le_rfl inRange (weighty.sounding consistent topological) few handle
    ((topological.mem_iff handle).mpr live) plain called (split.stays handle stays).1

/-- Pruning a reachable graph without cycles and without negative weights retains as roots
the orphans, and with them the plain nodes whose calls have faded: they still have callers,
but no call has kept any weight. Where such a root is forbidden, pruning ends at the first
of them, and if there are none it is the same. If all calls weigh one or more and fewer
than two hundred nodes are bound to stay, no call fades: the retained roots are the
orphans, every other plain node is removed, and to forbid roots fails if and only if there
are orphans. -/
theorem Reachable.prune_fades (reachable : graph.Reachable) (acyclic : graph.Acyclic)
    (unsigned : graph.UnsignedEdges) :
    ∃ order removed retained report result,
      graph.prune .retain = ⟨result, .ok report⟩ ∧
      graph.PruneSplit order removed retained report result ∧
      (∀ handle, handle ∈ retained ↔
        graph.IsOrphan handle ∨ ¬ graph.IsInterest handle ∧ result.IsFaded handle) ∧
      (∀ id, (graph.prune .forbid).outcome = .error (.unprunableRoot id) ↔
        report.retainedRoots.head? = some id) ∧
      (report.retainedRoots = [] → graph.prune .forbid = ⟨result, .ok report⟩) ∧
      (graph.Weighty → graph.lastingNodes.length < 200 → graph.nodeCount ≤ 2 ^ 32 →
        (∀ handle, handle ∈ retained ↔ graph.IsOrphan handle) ∧
        (∀ handle, handle ∈ removed ↔
          graph.contains handle ∧ ¬ graph.IsInterest handle ∧ ¬ graph.IsOrphan handle) ∧
        ((∃ id, (graph.prune .forbid).outcome = .error (.unprunableRoot id)) ↔
          ∃ handle, graph.IsOrphan handle)) := by
  have consistent := reachable.consistent
  obtain ⟨declared, registered⟩ := reachable.registered
  obtain ⟨order, report, result, topological, ran, run⟩ := consistent.prune_retain acyclic
  obtain ⟨removed, retained, split⟩ := run.split consistent registered topological
  obtain ⟨gone, _, removals, _⟩ := run.removals
  obtain ⟨unrooted, rooted⟩ := prune_forbid_of_retain ran
  have retains : ∀ handle, handle ∈ retained ↔
      graph.IsOrphan handle ∨ ¬ graph.IsInterest handle ∧ result.IsFaded handle :=
    fun _ => split.mem_retained_iff removals consistent topological.forward unsigned
  refine ⟨order, removed, retained, report, result, ran, split, retains, rooted, unrooted, ?_⟩
  intro weighty few counted
  have orphans : ∀ handle, handle ∈ retained ↔ graph.IsOrphan handle := by
    intro handle
    constructor
    · exact weighty.isOrphan_of_retained unsigned consistent topological few counted split run
    · exact fun orphan => (retains handle).mpr (.inl orphan)
  refine ⟨orphans, ?_, ?_⟩
  · intro handle
    have members := split.mem_iff handle
    rw [List.mem_append, orphans] at members
    constructor
    · intro inside
      obtain ⟨live, plain⟩ := members.mp (.inl inside)
      refine ⟨live, plain, fun orphan => split.gone handle inside ?_⟩
      exact (split.stays handle ((orphans handle).mpr orphan)).1
    · rintro ⟨live, plain, called⟩
      exact (members.mpr ⟨live, plain⟩).resolve_right called
  · have reports : (∃ id, report.retainedRoots.head? = some id) ↔ ∃ handle, handle ∈ retained := by
      rw [split.retained_ids]
      cases retained <;> simp
    simp only [rooted, reports, orphans]

theorem entrances_prune_fades : entrances.Acyclic ∧ entrances.UnsignedEdges ∧ entrances.Weighty ∧
    ∃ order removed retained result,
      entrances.prune .retain = ⟨result, .ok ⟨["N1"], ["N3", "N4"], 1⟩⟩ ∧
      entrances.PruneSplit order removed retained ⟨["N1"], ["N3", "N4"], 1⟩ result ∧
      (∀ handle, handle ∈ retained ↔ entrances.IsOrphan handle) ∧
      (∀ handle, handle ∈ removed ↔ entrances.contains handle ∧ ¬ entrances.IsInterest handle ∧
        ¬ entrances.IsOrphan handle) ∧
      (entrances.prune .forbid).outcome = .error (.unprunableRoot "N3") := by
  have reachable : entrances.Reachable := (Reachable.fresh "!").performAll _
  have acyclic : entrances.Acyclic :=
    reachable.consistent.findCycle_eq_none_iff.mp (by decide +kernel)
  have positive : ∀ edge ∈ entrances.edges, ¬ Quantity.isNegative edge.2.2 := by decide +kernel
  have heavy : ∀ edge ∈ entrances.edges, edge.2.2.AtLeast unitsPerOne ∧
      edge.2.2.AtMost (Binary64.powerUnits 900) := by decide +kernel
  have unsigned : entrances.UnsignedEdges := fun caller callee weight held =>
    positive (caller, callee, weight) (mem_edges.mpr held)
  have weighty : entrances.Weighty := fun caller callee weight held =>
    heavy (caller, callee, weight) (mem_edges.mpr held)
  have ended : (entrances.prune .retain).outcome = .ok ⟨["N1"], ["N3", "N4"], 1⟩ := by
    decide +kernel
  obtain ⟨order, removed, retained, report, result, ran, split, _, fails, _, unfaded⟩ :=
    reachable.prune_fades acyclic unsigned
  rw [ran] at ended
  cases ended
  obtain ⟨orphans, others, _⟩ := unfaded weighty (by decide +kernel) (by decide +kernel)
  exact ⟨acyclic, unsigned, weighty, order, removed, retained, result, ran, split, orphans,
    others, (fails "N3").mpr rfl⟩

/-- A leaf that is called so rarely that the call fades, although its weight is positive. -/
def faint : CallGraph Binary64 :=
  (empty "__cere__").performAll [
    .declare "N1" "__cere__a" (.ofNat 0) (.ofNat 100),
    .declare "N2" "helper" (.ofNat 0) (.ofNat 100), .declare "N3" "leaf" (.ofNat 10) (.ofNat 10),
    .strengthen 0 1 (.ofNat 1), .strengthen 1 2 (.ofRatio false 4 1000)]

theorem faint_prune_fades : faint.Reachable ∧ faint.Acyclic ∧
    (∀ caller callee weight, faint.edgeWeight? caller callee = some weight →
      weight.AtLeast 1 ∧ weight.Unsigned) ∧
    (∀ handle, ¬ faint.IsOrphan handle) ∧ faint.Calls 1 2 ∧
    (faint.prune .retain).outcome = .ok ⟨["N2"], ["N3"], 1⟩ ∧
    (faint.prune .retain).graph.IsFaded 2 ∧
    (faint.prune .forbid).outcome = .error (.unprunableRoot "N3") := by
  have reachable : faint.Reachable := (Reachable.fresh "__cere__").performAll _
  have consistent := reachable.consistent
  have acyclic : faint.Acyclic := consistent.findCycle_eq_none_iff.mp (by decide +kernel)
  have positive : ∀ edge ∈ faint.edges, edge.2.2.AtLeast 1 ∧ ¬ Quantity.isNegative edge.2.2 := by
    decide +kernel
  have called : ∀ handle ∈ faint.handles, ¬ (faint.isUncalled handle ∧ faint.isPlain handle) := by
    decide +kernel
  have faded : ∀ edge ∈ (faint.prune .retain).graph.edges, Quantity.isZero edge.2.2 := by
    decide +kernel
  refine ⟨reachable, acyclic, fun caller callee weight held => ?_, fun handle orphan => ?_,
    by decide +kernel, by decide +kernel, ⟨⟨0, by decide +kernel⟩, fun caller weight held => ?_⟩,
    by decide +kernel⟩
  · exact positive (caller, callee, weight) (mem_edges.mpr held)
  · obtain ⟨live, stays⟩ := consistent.isOrphan_iff.mp orphan
    exact called handle (mem_handles.mpr live) stays
  · exact faded (caller, 2, weight) (mem_edges.mpr held)

end ProfileGraph.CallGraph
