import Mathlib.Data.Fintype.Card
import Mathlib.Data.Set.Finite.Basic
import ProfileGraph.Graph.TopologicalOrder
import ProfileGraph.Proofs.Cycles

/-! Ordering succeeds exactly on graphs without cycles, and the order that it
gives is topological: it lists every live node once, and every edge leads
forward in it. The ordering under way is followed by an invariant that says
which nodes are placed, which are ready and how many callers the others still
wait for. -/
namespace ProfileGraph.CallGraph
open Relation

variable {α : Type} {graph : CallGraph α}

/-- Every edge leads from an earlier to a later node of a list. -/
def Forward (graph : CallGraph α) (order : List Nat) : Prop :=
  ∀ caller callee, graph.Calls caller callee → order.idxOf caller < order.idxOf callee

/-- A list of all live nodes, each once, along which every edge leads
forward. -/
structure IsTopological (graph : CallGraph α) (order : List Nat) : Prop where
  nodup : order.Nodup
  mem_iff : ∀ handle, handle ∈ order ↔ graph.contains handle
  forward : graph.Forward order

theorem Forward.loopless {order : List Nat} (forward : graph.Forward order) (handle : Nat) :
    ¬ graph.Calls handle handle := fun edge =>
  Nat.lt_irrefl _ (forward handle handle edge)

theorem Forward.acyclic {order : List Nat} (forward : graph.Forward order) : graph.Acyclic := by
  intro handle loop
  have ahead : ∀ {a b}, TransGen graph.Calls a b → order.idxOf a < order.idxOf b := by
    intro a b path
    induction path with
    | single edge => exact forward _ _ edge
    | tail _ edge ih => exact Nat.lt_trans ih (forward _ _ edge)
  exact Nat.lt_irrefl _ (ahead loop)

/-! Releasing callees. -/

/-- The callers of a node that are not in a list of placed nodes. -/
def callersLeft (graph : CallGraph α) (placed : List Nat) (handle : Nat) : List Nat :=
  ((graph.predecessors handle).map (·.1)).filter fun caller => !placed.contains caller

theorem Consistent.mem_callersLeft (consistent : graph.Consistent) {placed : List Nat}
    {handle caller : Nat} :
    caller ∈ graph.callersLeft placed handle ↔ graph.Calls caller handle ∧ caller ∉ placed := by
  simp only [callersLeft, List.mem_filter, consistent.mem_callers]
  simp

/-- Once a caller is placed, its callees wait for one caller less. -/
theorem Consistent.length_callersLeft_cons (consistent : graph.Consistent) {placed : List Nat}
    {handle caller : Nat} (unplaced : caller ∉ placed) :
    (graph.callersLeft (caller :: placed) handle).length =
      (graph.callersLeft placed handle).length - if graph.Calls caller handle then 1 else 0 := by
  have erased : graph.callersLeft (caller :: placed) handle =
      (graph.callersLeft placed handle).erase caller := by
    have distinct : (graph.callersLeft placed handle).Nodup := (graph.nodup_callers handle).filter _
    rw [distinct.erase_eq_filter, callersLeft, callersLeft, List.filter_filter]
    refine List.filter_congr fun node _ => ?_
    by_cases same : node = caller <;> simp [same]
  rw [erased, List.length_erase]
  simp only [consistent.mem_callersLeft, unplaced, not_false_eq_true, and_true]
  split <;> rfl

private theorem pending_release (state : Placement) (handle other : Nat) :
    (state.release handle).pending.getD other 0 =
      state.pending.getD other 0 - if other = handle then 1 else 0 := by
  simp only [Placement.release, Array.getD_eq_getD_getElem?, Array.getElem?_setIfInBounds]
  by_cases same : handle = other
  · subst same
    by_cases inside : handle < state.pending.size
    · simp [inside]
    · simp [inside]
  · simp [same, Ne.symm same]

/-- What releasing several nodes does, each of them once: each waits for one
caller less, and those that now wait for none become ready in their order. -/
theorem release_foldl {handles : List Nat} (distinct : handles.Nodup) (state : Placement) :
    (handles.foldl Placement.release state).placed = state.placed ∧
      (∀ node, (handles.foldl Placement.release state).pending.getD node 0 =
        state.pending.getD node 0 - if node ∈ handles then 1 else 0) ∧
      (handles.foldl Placement.release state).ready =
        state.ready ++ handles.filter fun node => state.pending.getD node 0 - 1 = 0 := by
  induction handles generalizing state with
  | nil => simp
  | cons handle later ih =>
    obtain ⟨fresh, distinct⟩ := List.nodup_cons.mp distinct
    obtain ⟨placed, pending, ready⟩ := ih distinct (state.release handle)
    refine ⟨placed, fun node => ?_, ?_⟩
    · rw [List.foldl_cons, pending, pending_release]
      by_cases same : node = handle
      · subst same
        simp [fresh]
      · simp [same]
    · have unchanged : ∀ node ∈ later,
          (state.release handle).pending.getD node 0 = state.pending.getD node 0 := by
        intro node member
        rw [pending_release, if_neg (fun same : node = handle => fresh (same ▸ member)),
          Nat.sub_zero]
      rw [List.foldl_cons, ready, List.filter_cons,
        List.filter_congr fun node member => by rw [unchanged node member]]
      simp only [Placement.release]
      split <;> simp_all

/-! The ordering under way. -/

/-- In a list with the last node first, the callers of every node stand behind
it. -/
def CallersBehind (graph : CallGraph α) : List Nat → Prop
  | [] => True
  | handle :: earlier =>
    (∀ caller, graph.Calls caller handle → caller ∈ earlier) ∧ graph.CallersBehind earlier

theorem CallersBehind.of_append {later earlier : List Nat} {handle : Nat}
    (behind : graph.CallersBehind (later ++ handle :: earlier)) :
    ∀ caller, graph.Calls caller handle → caller ∈ earlier := by
  induction later with
  | nil => exact behind.1
  | cons _ later ih => exact ih behind.2

/-- Callers of placed nodes are placed. -/
theorem CallersBehind.mem_caller {placed : List Nat} (behind : graph.CallersBehind placed)
    {caller callee : Nat} (edge : graph.Calls caller callee) (member : callee ∈ placed) :
    caller ∈ placed := by
  obtain ⟨later, earlier, rfl⟩ := List.append_of_mem member
  exact List.mem_append_right later (List.mem_cons_of_mem callee (behind.of_append caller edge))

theorem CallersBehind.forward {placed : List Nat} (behind : graph.CallersBehind placed)
    (nodup : placed.Nodup) (all : ∀ handle, graph.contains handle → handle ∈ placed)
    (consistent : graph.Consistent) : graph.Forward placed.reverse := by
  intro caller callee edge
  obtain ⟨later, earlier, rfl⟩ := List.append_of_mem (all _ (consistent.contains_callee edge))
  have before := behind.of_append caller edge
  have absent : callee ∉ earlier := (List.nodup_cons.mp (List.nodup_append.mp nodup).2.1).1
  rw [List.reverse_append, List.reverse_cons, List.append_assoc,
    List.idxOf_append_of_mem (List.mem_reverse.mpr before),
    List.idxOf_append_of_notMem (fun member => absent (List.mem_reverse.mp member))]
  exact Nat.lt_of_lt_of_le (List.idxOf_lt_length_of_mem (List.mem_reverse.mpr before))
    (Nat.le_add_right _ _)

/-- An ordering under way knows of every node how many callers it waits for,
has ready exactly the nodes that wait for none, and has placed every node
behind its callers. -/
structure Placing (graph : CallGraph α) (state : Placement) : Prop where
  pending : ∀ handle, graph.contains handle →
    state.pending.getD handle 0 = (graph.callersLeft state.placed handle).length
  ready : ∀ handle, handle ∈ state.ready ↔ graph.contains handle ∧ handle ∉ state.placed ∧
    ∀ caller, graph.Calls caller handle → caller ∈ state.placed
  nodup : (state.ready ++ state.placed).Nodup
  live : ∀ handle ∈ state.placed, graph.contains handle
  behind : graph.CallersBehind state.placed

theorem Consistent.callersLeft_eq_nil_iff (consistent : graph.Consistent) {placed : List Nat}
    {handle : Nat} : graph.callersLeft placed handle = [] ↔
      ∀ caller, graph.Calls caller handle → caller ∈ placed := by
  rw [List.eq_nil_iff_forall_not_mem]
  simp only [consistent.mem_callersLeft, not_and, not_not]

theorem Consistent.placing_start (consistent : graph.Consistent) :
    graph.Placing graph.placementStart where
  pending := by
    intro handle live
    have inside : handle < graph.slots.size :=
      List.mem_range.mp (List.mem_filter.mp (mem_handles.mpr live)).1
    simp [placementStart, callersLeft, Array.getD_eq_getD_getElem?, inside]
  ready := by
    intro handle
    simp [placementStart, mem_handles, ← consistent.mem_callers, List.eq_nil_iff_forall_not_mem]
  nodup := by
    simpa [placementStart] using nodup_handles.filter _
  live := by simp [placementStart]
  behind := trivial

/-- The ordering after a node has been placed and its callees released. -/
def placeNext (graph : CallGraph α) (state : Placement) (handle : Nat) (ready : List Nat) :
    Placement :=
  (graph.successors handle).foldl (fun state (callee, _) => state.release callee)
    { state with ready, placed := handle :: state.placed }

theorem placed_placeNext (graph : CallGraph α) (state : Placement) (handle : Nat)
    (ready : List Nat) :
    (graph.placeNext state handle ready).placed = handle :: state.placed := by
  have released := (release_foldl (graph.nodup_callees handle)
    { state with ready, placed := handle :: state.placed }).1
  rw [List.foldl_map] at released
  exact released

/-- Placing a node puts behind the ready nodes those of its callees that wait for
one caller. -/
theorem ready_placeNext (graph : CallGraph α) (state : Placement) (handle : Nat)
    (ready : List Nat) : (graph.placeNext state handle ready).ready =
      ready ++ ((graph.successors handle).map (·.1)).filter fun node =>
        state.pending.getD node 0 - 1 = 0 := by
  have released := (release_foldl (graph.nodup_callees handle)
    { state with ready, placed := handle :: state.placed }).2.2
  rw [List.foldl_map] at released
  exact released

/-- Placing a node lowers the counts of its callees to the callers left. -/
theorem Consistent.pending_placeNext (consistent : graph.Consistent) {state : Placement}
    {handle : Nat} (ready : List Nat) (placing : graph.Placing state)
    (unplaced : handle ∉ state.placed) {node : Nat} (live : graph.contains node) :
    (graph.placeNext state handle ready).pending.getD node 0 =
      (graph.callersLeft (handle :: state.placed) node).length := by
  have released := (release_foldl (graph.nodup_callees handle)
    { state with ready, placed := handle :: state.placed }).2.1 node
  rw [List.foldl_map] at released
  refine released.trans ?_
  simp only [placing.pending node live, mem_callees,
    consistent.length_callersLeft_cons unplaced]

/-- Placing a node makes ready exactly those of its callees that waited for it
alone. -/
theorem Consistent.mem_ready_placeNext (consistent : graph.Consistent) {state : Placement}
    {handle : Nat} {ready : List Nat} (placing : graph.Placing state)
    (unplaced : handle ∉ state.placed) {node : Nat} :
    node ∈ (graph.placeNext state handle ready).ready ↔ node ∈ ready ∨
      graph.Calls handle node ∧
        ∀ caller, graph.Calls caller node → caller ∈ handle :: state.placed := by
  have pending := (release_foldl (graph.nodup_callees handle)
    { state with ready, placed := handle :: state.placed }).2.1
  rw [List.foldl_map] at pending
  rw [ready_placeNext, List.mem_append, List.mem_filter, mem_callees]
  refine or_congr Iff.rfl (and_congr_right fun edge => ?_)
  have left := consistent.pending_placeNext ready placing unplaced
    (consistent.contains_callee edge)
  have count := pending node
  rw [if_pos (mem_callees.mpr edge)] at count
  rw [placeNext, count] at left
  rw [← consistent.callersLeft_eq_nil_iff, ← List.length_eq_zero_iff, ← left]
  simp

theorem nodup_ready_placeNext {state : Placement} {handle : Nat} {ready : List Nat}
    (distinct : ready.Nodup) (waiting : ∀ node ∈ ready, ¬ graph.Calls handle node) :
    (graph.placeNext state handle ready).ready.Nodup := by
  rw [ready_placeNext]
  refine List.nodup_append.mpr ⟨distinct, (graph.nodup_callees handle).filter _, ?_⟩
  rintro node early callee late rfl
  exact waiting node early (mem_callees.mp (List.mem_filter.mp late).1)

/-- Placed nodes have only placed callers, so no callee of a ready node is
placed, the node itself included. -/
theorem Placing.callee_unplaced {state : Placement} {handle callee : Nat}
    (placing : graph.Placing state) (ready : handle ∈ state.ready)
    (edge : graph.Calls handle callee) : callee ∉ handle :: state.placed := by
  obtain ⟨_, unplaced, callersPlaced⟩ := (placing.ready handle).mp ready
  intro member
  rcases List.mem_cons.mp member with rfl | member
  · exact unplaced (callersPlaced callee edge)
  · exact unplaced (placing.behind.mem_caller edge member)

/-- The nodes behind the first ready one stay unplaced when it is placed. -/
theorem Placing.ready_later {state : Placement} {handle node : Nat} {ready : List Nat}
    (placing : graph.Placing state) (first : state.ready = handle :: ready)
    (member : node ∈ ready) : graph.contains node ∧ node ∉ handle :: state.placed ∧
      ∀ caller, graph.Calls caller node → caller ∈ state.placed := by
  obtain ⟨live, unplaced, callers⟩ :=
    (placing.ready node).mp (first ▸ List.mem_cons_of_mem handle member)
  refine ⟨live, fun placed => ?_, callers⟩
  rcases List.mem_cons.mp placed with rfl | placed
  · have distinct := placing.nodup
    rw [first, List.cons_append] at distinct
    exact (List.nodup_cons.mp distinct).1 (List.mem_append_left _ member)
  · exact unplaced placed

/-- After the first ready node is placed, those nodes are ready whose callers
are all placed by then. -/
theorem Consistent.ready_placeNext_iff (consistent : graph.Consistent) {state : Placement}
    {handle : Nat} {ready : List Nat} (placing : graph.Placing state)
    (first : state.ready = handle :: ready) (node : Nat) :
    node ∈ (graph.placeNext state handle ready).ready ↔ graph.contains node ∧
      node ∉ handle :: state.placed ∧
        ∀ caller, graph.Calls caller node → caller ∈ handle :: state.placed := by
  have isReady : handle ∈ state.ready := first ▸ List.mem_cons_self
  have unplaced := ((placing.ready handle).mp isReady).2.1
  rw [consistent.mem_ready_placeNext placing unplaced]
  constructor
  · rintro (member | ⟨edge, callers⟩)
    · obtain ⟨live, fresh, callers⟩ := placing.ready_later first member
      exact ⟨live, fresh, fun caller edge => List.mem_cons_of_mem handle (callers caller edge)⟩
    · exact ⟨consistent.contains_callee edge, placing.callee_unplaced isReady edge, callers⟩
  · rintro ⟨live, fresh, callers⟩
    by_cases edge : graph.Calls handle node
    · exact .inr ⟨edge, callers⟩
    · have before : node ∈ state.ready := (placing.ready node).mpr
        ⟨live, fun placed => fresh (List.mem_cons_of_mem handle placed), fun caller callerEdge =>
          (List.mem_cons.mp (callers caller callerEdge)).resolve_left
            fun same => edge (same ▸ callerEdge)⟩
      exact .inl ((List.mem_cons.mp (first ▸ before)).resolve_left
        fun same => fresh (same ▸ List.mem_cons_self))

/-- Placing a ready node keeps the ordering sound. -/
theorem Consistent.placing_step (consistent : graph.Consistent) {state : Placement} {handle : Nat}
    {ready : List Nat} (placing : graph.Placing state) (first : state.ready = handle :: ready) :
    graph.Placing (graph.placeNext state handle ready) := by
  obtain ⟨live, unplaced, callersPlaced⟩ := (placing.ready handle).mp (first ▸ List.mem_cons_self)
  have distinct := placing.nodup
  rw [first, List.cons_append] at distinct
  obtain ⟨readyDistinct, placedDistinct, _⟩ := List.nodup_append.mp (List.nodup_cons.mp distinct).2
  have placedEq := graph.placed_placeNext state handle ready
  have readyIff := consistent.ready_placeNext_iff placing first
  refine ⟨fun node nodeLive => ?_, fun node => ?_, ?_, ?_, ?_⟩
  · rw [placedEq]
    exact consistent.pending_placeNext ready placing unplaced nodeLive
  · rw [placedEq]
    exact readyIff node
  · rw [placedEq]
    have waiting : ∀ node ∈ ready, ¬ graph.Calls handle node := fun node member edge =>
      unplaced ((placing.ready_later first member).2.2 handle edge)
    refine List.nodup_append.mpr ⟨nodup_ready_placeNext readyDistinct waiting,
      List.nodup_cons.mpr ⟨unplaced, placedDistinct⟩, ?_⟩
    rintro node member other placed rfl
    exact ((readyIff node).mp member).2.1 placed
  · rw [placedEq]
    intro node member
    rcases List.mem_cons.mp member with rfl | placed
    · exact live
    · exact placing.live node placed
  · rw [placedEq]
    exact ⟨callersPlaced, placing.behind⟩

/-- Ready and placed nodes are different live nodes, so there are at most as
many of them as the graph has. -/
theorem Placing.length_le {state : Placement} (placing : graph.Placing state) :
    state.ready.length + state.placed.length ≤ graph.nodeCount := by
  rw [← List.length_append]
  refine (List.Nodup.subperm placing.nodup fun node member => mem_handles.mpr ?_).length_le
  rcases List.mem_append.mp member with ready | placed
  · exact ((placing.ready node).mp ready).1
  · exact placing.live node placed

/-- With a step for every node, ordering goes on until no node is ready. -/
theorem Consistent.place_spec (consistent : graph.Consistent) (fuel : Nat) {state : Placement}
    (placing : graph.Placing state) (enough : graph.nodeCount ≤ state.placed.length + fuel) :
    graph.Placing (graph.place fuel state) ∧ (graph.place fuel state).ready = [] := by
  induction fuel generalizing state with
  | zero =>
    have bound := placing.length_le
    have none : state.ready.length = 0 := by omega
    exact ⟨placing, List.length_eq_zero_iff.mp none⟩
  | succ fuel ih =>
    rw [place]
    split
    next done => exact ⟨placing, done⟩
    next handle ready first =>
      have one : (graph.placeNext state handle ready).placed.length = state.placed.length + 1 :=
        congrArg List.length (graph.placed_placeNext state handle ready)
      have enough : graph.nodeCount ≤
          (graph.placeNext state handle ready).placed.length + fuel := by omega
      exact ih (consistent.placing_step placing first) enough

/-- A node lies on a cycle or behind one. -/
def BehindCycle (graph : CallGraph α) (handle : Nat) : Prop :=
  ∃ member, TransGen graph.Calls member member ∧ graph.Reaches member handle

theorem BehindCycle.callee {caller callee : Nat} (behind : graph.BehindCycle caller)
    (edge : graph.Calls caller callee) : graph.BehindCycle callee := by
  obtain ⟨member, loop, path⟩ := behind
  exact ⟨member, loop, path.tail edge⟩

/-- Ahead of all cycles, callers of callers end somewhere. -/
theorem wellFounded_calls (graph : CallGraph α) :
    WellFounded fun caller callee : { handle // handle ∈ graph.handles ∧ ¬ graph.BehindCycle handle } =>
      TransGen graph.Calls caller.1 callee.1 := by
  let Ahead := { handle // handle ∈ graph.handles ∧ ¬ graph.BehindCycle handle }
  have : IsTrans Ahead fun caller callee => TransGen graph.Calls caller.1 callee.1 :=
    ⟨fun _ _ _ first second => first.trans second⟩
  have : Std.Irrefl fun caller callee : Ahead => TransGen graph.Calls caller.1 callee.1 :=
    ⟨fun handle loop => handle.2.2 ⟨handle.1, loop, .refl⟩⟩
  have : Finite Ahead :=
    (List.finite_toSet graph.handles).subset fun _ inside => inside.1
  exact Finite.wellFounded_of_trans_of_irrefl _

/-- Where no node is ready any more, all nodes ahead of the cycles are placed. -/
theorem Placing.mem_placed {state : Placement} (placing : graph.Placing state)
    (finished : state.ready = []) {handle : Nat} (live : graph.contains handle)
    (ahead : ¬ graph.BehindCycle handle) : handle ∈ state.placed := by
  suffices all : ∀ node : { handle // handle ∈ graph.handles ∧ ¬ graph.BehindCycle handle },
      node.1 ∈ state.placed from all ⟨handle, mem_handles.mpr live, ahead⟩
  intro node
  induction node using graph.wellFounded_calls.induction with
  | _ node ih =>
    refine Classical.byContradiction fun unplaced => ?_
    have ready := (placing.ready node.1).mpr ⟨mem_handles.mp node.2.1, unplaced,
      fun caller edge => ih ⟨caller, mem_handles.mpr (contains_caller edge),
        fun behind => node.2.2 (behind.callee edge)⟩ (.single edge)⟩
    exact absurd (finished ▸ ready) List.not_mem_nil

/-- Where no node is ready any more and there is no cycle, all are placed. -/
theorem Placing.complete {state : Placement} (placing : graph.Placing state)
    (finished : state.ready = []) (acyclic : graph.Acyclic) {handle : Nat}
    (live : graph.contains handle) : handle ∈ state.placed :=
  placing.mem_placed finished live fun ⟨member, loop, _⟩ => acyclic member loop

private theorem Consistent.isTopological_placed (consistent : graph.Consistent) {state : Placement}
    (placing : graph.Placing state)
    (all : ∀ handle, graph.contains handle → handle ∈ state.placed) :
    graph.IsTopological state.placed.reverse where
  nodup := List.nodup_reverse.mpr (List.nodup_append.mp placing.nodup).2.1
  mem_iff handle := List.mem_reverse.trans ⟨placing.live handle, all handle⟩
  forward := placing.behind.forward (List.nodup_append.mp placing.nodup).2.1 all consistent

theorem IsTopological.length_eq {order : List Nat} (topological : graph.IsTopological order) :
    order.length = graph.nodeCount :=
  ((List.perm_ext_iff_of_nodup topological.nodup nodup_handles).mpr fun handle =>
    (topological.mem_iff handle).trans mem_handles.symm).length_eq

/-- An order that comes back is topological. -/
theorem Consistent.isTopological_of_topologicalOrder (consistent : graph.Consistent)
    {order : List Nat} (ordered : graph.topologicalOrder = .ok order) :
    graph.IsTopological order := by
  obtain ⟨placing, _⟩ := consistent.place_spec graph.nodeCount consistent.placing_start
    (Nat.le_add_left _ _)
  rw [topologicalOrder] at ordered
  dsimp only at ordered
  split at ordered
  next full =>
    cases ordered
    refine consistent.isTopological_placed placing fun handle live => ?_
    have within := (List.Nodup.subperm (List.nodup_append.mp placing.nodup).2.1 fun node member =>
      mem_handles.mpr (placing.live node member))
    exact (within.perm_of_length_le (Nat.le_of_eq full.symm)).mem_iff.mpr (mem_handles.mpr live)
  next => cases ordered

/-- A graph without cycles is ordered. -/
theorem Consistent.exists_topologicalOrder (consistent : graph.Consistent)
    (acyclic : graph.Acyclic) :
    ∃ order, graph.topologicalOrder = .ok order ∧ graph.IsTopological order := by
  obtain ⟨placing, finished⟩ := consistent.place_spec graph.nodeCount consistent.placing_start
    (Nat.le_add_left _ _)
  have topological := consistent.isTopological_placed placing fun handle live =>
    placing.complete finished acyclic live
  refine ⟨_, ?_, topological⟩
  have full := topological.length_eq
  rw [List.length_reverse] at full
  rw [topologicalOrder]
  exact if_pos full

end ProfileGraph.CallGraph
