import Mathlib.Data.List.MinMax
import Mathlib.Data.Prod.Lex
import Mathlib.Order.Lattice.Nat
import Mathlib.Order.WithBot
import ProfileGraph.Proofs.Countdown

/-! The place of a node in the order. Ready nodes wait in a queue, so a node stands
where the last of its callers put it, and nodes that one caller made ready stand in
the order of declaration. The queue never holds more than two layers: the nodes come
out by the length of the longest path that ends in them. -/
namespace ProfileGraph.CallGraph

variable {α : Type} {graph : CallGraph α}

/-! Layers. -/

/-- The numbers of calls on the paths that end in a node. -/
def pathLengths (graph : CallGraph α) (handle : Nat) : Set Nat :=
  {length | ∃ path, path.length = length ∧ (path ++ [handle]).IsChain graph.Calls}

/-- The number of calls on the longest path that ends in a node. -/
noncomputable def depth (graph : CallGraph α) (handle : Nat) : Nat :=
  sSup (graph.pathLengths handle)

theorem zero_mem_pathLengths (handle : Nat) : 0 ∈ graph.pathLengths handle :=
  ⟨[], rfl, List.isChain_singleton handle⟩

/-- The last call of a path comes behind a path to a caller. -/
theorem succ_mem_pathLengths {length handle : Nat} :
    length + 1 ∈ graph.pathLengths handle ↔
      ∃ caller, graph.Calls caller handle ∧ length ∈ graph.pathLengths caller := by
  constructor
  · rintro ⟨path, counted, chain⟩
    rcases List.eq_nil_or_concat path with rfl | ⟨front, caller, rfl⟩
    · cases counted
    · rw [List.concat_eq_append] at counted chain
      obtain ⟨ahead, _, joined⟩ := List.isChain_append.mp chain
      refine ⟨caller, joined caller (by simp) handle rfl, front, ?_, ahead⟩
      simpa using counted
  · rintro ⟨caller, edge, front, counted, chain⟩
    refine ⟨front ++ [caller], by simp [counted], ?_⟩
    refine List.isChain_append.mpr ⟨chain, List.isChain_singleton handle, ?_⟩
    simpa using edge

/-- A path that leads forward in an order makes one step at least for each call. -/
theorem Forward.length_le {order : List Nat} (forward : graph.Forward order) {length handle : Nat}
    (member : length ∈ graph.pathLengths handle) : length ≤ order.idxOf handle := by
  induction length generalizing handle with
  | zero => exact Nat.zero_le _
  | succ length ih =>
    obtain ⟨caller, edge, ahead⟩ := succ_mem_pathLengths.mp member
    exact Nat.lt_of_le_of_lt (ih ahead) (forward caller handle edge)

theorem Forward.isGreatest_depth {order : List Nat} (forward : graph.Forward order) (handle : Nat) :
    IsGreatest (graph.pathLengths handle) (graph.depth handle) := by
  have bounded : BddAbove (graph.pathLengths handle) :=
    ⟨order.idxOf handle, fun _ member => forward.length_le member⟩
  exact ⟨Nat.sSup_mem ⟨0, zero_mem_pathLengths handle⟩ bounded, fun _ member =>
    le_csSup bounded member⟩

theorem Forward.depth_lt {order : List Nat} (forward : graph.Forward order) {caller callee : Nat}
    (edge : graph.Calls caller callee) : graph.depth caller < graph.depth callee := by
  have longest := (forward.isGreatest_depth caller).1
  exact (forward.isGreatest_depth callee).2 (succ_mem_pathLengths.mpr ⟨caller, edge, longest⟩)

/-- A node below the first layer stands right below one of its callers. -/
theorem Forward.exists_caller_above {order : List Nat} (forward : graph.Forward order)
    {handle : Nat} (below : 0 < graph.depth handle) :
    ∃ caller, graph.Calls caller handle ∧ graph.depth handle = graph.depth caller + 1 := by
  obtain ⟨length, longest⟩ := Nat.exists_eq_succ_of_ne_zero (Nat.ne_of_gt below)
  have path := (forward.isGreatest_depth handle).1
  rw [longest] at path
  obtain ⟨caller, edge, ahead⟩ := succ_mem_pathLengths.mp path
  have lower := (forward.isGreatest_depth caller).2 ahead
  have upper := forward.depth_lt edge
  exact ⟨caller, edge, by omega⟩

/-! The latest caller. -/

/-- The position in an order of the latest caller of a node; a node without callers
has none. -/
def latestCaller (graph : CallGraph α) (order : List Nat) (handle : Nat) : WithBot Nat :=
  (((graph.predecessors handle).map (·.1)).map order.idxOf).maximum

theorem Consistent.idxOf_le_latestCaller (consistent : graph.Consistent) (order : List Nat)
    {caller callee : Nat} (edge : graph.Calls caller callee) :
    WithBot.some (order.idxOf caller) ≤ graph.latestCaller order callee :=
  List.le_maximum_of_mem' (List.mem_map_of_mem (consistent.mem_callers.mpr edge))

theorem Consistent.latestCaller_eq_bot_iff (consistent : graph.Consistent) {order : List Nat}
    {handle : Nat} : graph.latestCaller order handle = ⊥ ↔ ∀ caller, ¬ graph.Calls caller handle := by
  rw [latestCaller, List.maximum_eq_bot, List.map_eq_nil_iff, List.map_eq_nil_iff,
    consistent.predecessors_eq_nil_iff]

theorem Consistent.latestCaller_eq_coe_iff (consistent : graph.Consistent) {order : List Nat}
    {handle position : Nat} : graph.latestCaller order handle = WithBot.some position ↔
      (∃ caller, graph.Calls caller handle ∧ order.idxOf caller = position) ∧
        ∀ caller, graph.Calls caller handle → order.idxOf caller ≤ position := by
  rw [latestCaller, List.maximum_eq_coe_iff, List.mem_map, List.forall_mem_map]
  simp only [consistent.mem_callers]

theorem Consistent.latestCaller_cases (consistent : graph.Consistent) (order : List Nat)
    (handle : Nat) : graph.latestCaller order handle = ⊥ ∨
      ∃ caller, graph.Calls caller handle ∧
        graph.latestCaller order handle = WithBot.some (order.idxOf caller) := by
  cases last : graph.latestCaller order handle with
  | bot => exact .inl rfl
  | coe position =>
    obtain ⟨⟨caller, edge, there⟩, _⟩ := consistent.latestCaller_eq_coe_iff.mp last
    exact .inr ⟨caller, edge, by rw [there]⟩

/-- What comes behind all callers of a node does not change where the last of them
stands. -/
theorem Consistent.latestCaller_append (consistent : graph.Consistent) {order : List Nat}
    (later : List Nat) {handle : Nat} (ahead : ∀ caller, graph.Calls caller handle → caller ∈ order) :
    graph.latestCaller (order ++ later) handle = graph.latestCaller order handle := by
  refine congrArg List.maximum (List.map_congr_left fun caller member => ?_)
  exact List.idxOf_append_of_mem (ahead caller (consistent.mem_callers.mp member))

/-- The place of a node among those that become ready: by the last caller, then by
declaration. -/
def readiness (graph : CallGraph α) (order : List Nat) (handle : Nat) : WithBot Nat ×ₗ Nat :=
  toLex (graph.latestCaller order handle, handle)

/-- The nodes stand in the order in which they become ready. -/
def Queued (graph : CallGraph α) (order : List Nat) : Prop :=
  order.Pairwise fun first second => graph.readiness order first < graph.readiness order second

/-! The queue. -/

/-- The nodes placed and those ready to be placed, in their order. -/
def line (state : Placement) : List Nat := state.placed.reverse ++ state.ready

theorem mem_line {state : Placement} {handle : Nat} :
    handle ∈ line state ↔ handle ∈ state.placed ∨ handle ∈ state.ready := by
  rw [line, List.mem_append, List.mem_reverse]

/-- Nodes in the line have placed callers only. -/
theorem Placing.callers_placed {state : Placement} (placing : graph.Placing state) {handle : Nat}
    (member : handle ∈ line state) {caller : Nat} (edge : graph.Calls caller handle) :
    caller ∈ state.placed := by
  rcases mem_line.mp member with placed | ready
  · exact placing.behind.mem_caller edge placed
  · exact ((placing.ready handle).mp ready).2.2 caller edge

theorem idxOf_line {state : Placement} {handle : Nat} (placed : handle ∈ state.placed) :
    (line state).idxOf handle < state.placed.length := by
  have member := List.mem_reverse.mpr placed
  rw [line, List.idxOf_append_of_mem member, ← List.length_reverse]
  exact List.idxOf_lt_length_of_mem member

theorem Placing.latestCaller_lt (placing : graph.Placing state) (consistent : graph.Consistent)
    {handle : Nat} (member : handle ∈ line state) :
    graph.latestCaller (line state) handle < WithBot.some state.placed.length := by
  rcases consistent.latestCaller_cases (line state) handle with none | ⟨caller, edge, there⟩
  · rw [none]
    exact WithBot.bot_lt_coe _
  · rw [there]
    exact WithBot.coe_lt_coe.mpr (idxOf_line (placing.callers_placed member edge))

/-- Placing a node leaves the line as it stands and puts behind it those callees of
the node that waited for it alone, in the order of declaration. -/
theorem exists_line_placeNext {state : Placement} {handle : Nat} {ready : List Nat}
    (first : state.ready = handle :: ready) : ∃ released,
      line (graph.placeNext state handle ready) = line state ++ released ∧
        released.Pairwise (· < ·) ∧ ∀ node ∈ released, graph.Calls handle node := by
  let waiting (node : Nat) : Bool := state.pending.getD node 0 - 1 = 0
  have callees := graph.callees_ascending handle
  refine ⟨((graph.successors handle).map (·.1)).filter waiting, ?_, callees.filter waiting,
    fun node member => mem_callees.mp (List.mem_filter.mp member).1⟩
  rw [line, placed_placeNext, ready_placeNext, line, first]
  simp [waiting]

/-- A node that is placed is the latest caller of the nodes that it makes ready. -/
theorem Consistent.latestCaller_released (consistent : graph.Consistent) {state : Placement}
    {handle : Nat} {ready released : List Nat} (placing : graph.Placing state)
    (first : state.ready = handle :: ready)
    (extended : line (graph.placeNext state handle ready) = line state ++ released) {node : Nat}
    (member : node ∈ released) (edge : graph.Calls handle node) :
    graph.latestCaller (line state ++ released) node = WithBot.some state.placed.length := by
  have next := consistent.placing_step placing first
  have inLine : node ∈ line (graph.placeNext state handle ready) :=
    extended ▸ List.mem_append_right _ member
  have unplaced : handle ∉ state.placed :=
    ((placing.ready handle).mp (first ▸ List.mem_cons_self)).2.1
  rw [← extended]
  refine consistent.latestCaller_eq_coe_iff.mpr ⟨⟨handle, edge, ?_⟩, fun caller callerEdge => ?_⟩
  · rw [extended, line, first, List.append_assoc,
      List.idxOf_append_of_notMem (fun placed => unplaced (List.mem_reverse.mp placed))]
    simp
  · have placed := idxOf_line (next.callers_placed inLine callerEdge)
    rw [placed_placeNext, List.length_cons] at placed
    exact Nat.le_of_lt_succ placed

/-- Placing a node keeps the line in order. -/
theorem Consistent.queued_step (consistent : graph.Consistent) {state : Placement} {handle : Nat}
    {ready : List Nat} (placing : graph.Placing state) (first : state.ready = handle :: ready)
    (queued : graph.Queued (line state)) :
    graph.Queued (line (graph.placeNext state handle ready)) := by
  obtain ⟨released, extended, ascending, callees⟩ := graph.exists_line_placeNext first
  have behind {node : Nat} (member : node ∈ released) :=
    consistent.latestCaller_released placing first extended member (callees node member)
  have ahead {node : Nat} (member : node ∈ line state) :
      graph.latestCaller (line state ++ released) node = graph.latestCaller (line state) node := by
    refine consistent.latestCaller_append released fun caller edge => ?_
    exact mem_line.mpr (.inl (placing.callers_placed member edge))
  rw [extended]
  refine List.pairwise_append.mpr ⟨?_, ?_, ?_⟩
  · refine queued.imp_of_mem fun left right before => ?_
    rwa [readiness, readiness, ahead left, ahead right]
  · refine ascending.imp_of_mem fun left right less => ?_
    rw [readiness, readiness, behind left, behind right]
    exact Prod.Lex.toLex_lt_toLex.mpr (.inr ⟨rfl, less⟩)
  · intro node inLine other member
    rw [readiness, readiness, ahead inLine, behind member]
    exact Prod.Lex.toLex_lt_toLex.mpr (.inl (placing.latestCaller_lt consistent inLine))

/-- At the start the nodes without callers wait, in the order of declaration. -/
theorem Consistent.queued_start (consistent : graph.Consistent) :
    graph.Queued (line graph.placementStart) := by
  have idle : ∀ handle ∈ line graph.placementStart,
      graph.latestCaller (line graph.placementStart) handle = ⊥ := by
    intro handle member
    refine consistent.latestCaller_eq_bot_iff.mpr fun caller edge => ?_
    cases consistent.placing_start.callers_placed member edge
  have ascending : (line graph.placementStart).Pairwise (· < ·) :=
    graph.handles_ascending.filter _
  refine ascending.imp_of_mem fun left right less => ?_
  rw [readiness, readiness, idle _ left, idle _ right]
  exact Prod.Lex.toLex_lt_toLex.mpr (.inr ⟨rfl, less⟩)

/-- To the end, the line stays in order, and nodes only come behind it. -/
theorem Consistent.queued_place (consistent : graph.Consistent) (fuel : Nat) {state : Placement}
    (placing : graph.Placing state) (queued : graph.Queued (line state)) :
    graph.Queued (line (graph.place fuel state)) ∧ line state <+: line (graph.place fuel state) := by
  induction fuel generalizing state with
  | zero => exact ⟨queued, List.prefix_refl _⟩
  | succ fuel ih =>
    rw [place]
    split
    next => exact ⟨queued, List.prefix_refl _⟩
    next handle ready first =>
      obtain ⟨sorted, onward⟩ :=
        ih (consistent.placing_step placing first) (consistent.queued_step placing first queued)
      obtain ⟨released, extended, _⟩ := graph.exists_line_placeNext first
      have step : line state <+: line (graph.placeNext state handle ready) :=
        extended ▸ List.prefix_append _ _
      exact ⟨sorted, step.trans onward⟩

/-- An order that comes back is that of the queue, with the nodes without callers in
front. -/
theorem Consistent.queued_topologicalOrder (consistent : graph.Consistent) {order : List Nat}
    (ordered : graph.topologicalOrder = .ok order) : graph.Queued order ∧
      (graph.handles.filter fun handle => (graph.predecessors handle).isEmpty) <+: order := by
  have start := consistent.placing_start
  obtain ⟨_, finished⟩ := consistent.place_spec graph.nodeCount start (Nat.le_add_left _ _)
  have kept := consistent.queued_place graph.nodeCount start consistent.queued_start
  rw [topologicalOrder] at ordered
  dsimp only at ordered
  split at ordered
  next =>
    cases ordered
    rwa [line, finished, List.append_nil] at kept
  next => cases ordered

/-! The queue by layers. -/

/-- In a list that is sorted by a key, the nodes stand as their keys do. -/
theorem idxOf_lt_iff_of_sorted {β : Type} [LinearOrder β] {key : Nat → β} {order : List Nat}
    (sorted : order.Pairwise fun first second => key first < key second) {first second : Nat}
    (left : first ∈ order) (right : second ∈ order) :
    order.idxOf first < order.idxOf second ↔ key first < key second := by
  have upward : ∀ {a b}, a ∈ order → b ∈ order → order.idxOf a < order.idxOf b → key a < key b := by
    intro a b aInside bInside before
    have sortedAt := List.pairwise_iff_getElem.mp sorted _ _ (List.idxOf_lt_length_of_mem aInside)
      (List.idxOf_lt_length_of_mem bInside) before
    simpa using sortedAt
  refine ⟨upward left right, fun less => ?_⟩
  rcases Nat.lt_trichotomy (order.idxOf first) (order.idxOf second) with before | same | behind
  · exact before
  · rw [(List.idxOf_inj left).mp same] at less
    exact absurd less (lt_irrefl _)
  · exact absurd (upward right left behind) (lt_asymm less)

/-- Along the queue, the layers never go back: the latest caller of the later node
stands behind every caller of the earlier one, and so not above it. -/
theorem Queued.depth_le {order : List Nat} (queued : graph.Queued order)
    (consistent : graph.Consistent) (topological : graph.IsTopological order) {first second : Nat}
    (left : first ∈ order) (right : second ∈ order)
    (before : order.idxOf first < order.idxOf second) :
    graph.depth first ≤ graph.depth second := by
  have forward := topological.forward
  induction position : order.idxOf second using Nat.strong_induction_on
    generalizing first second with
  | _ position ih =>
    rcases Nat.eq_zero_or_pos (graph.depth first) with top | below
    · exact top ▸ Nat.zero_le _
    obtain ⟨caller, edge, above⟩ := forward.exists_caller_above below
    have sorted := (idxOf_lt_iff_of_sorted queued left right).mp before
    have later : graph.latestCaller order first ≤ graph.latestCaller order second := by
      rcases Prod.Lex.toLex_lt_toLex.mp sorted with less | ⟨same, _⟩
      · exact le_of_lt less
      · exact le_of_eq same
    have reached := (consistent.idxOf_le_latestCaller order edge).trans later
    rcases consistent.latestCaller_cases order second with none | ⟨latest, latestEdge, there⟩
    · rw [none] at reached
      exact absurd reached (WithBot.not_coe_le_bot _)
    · rw [there, WithBot.coe_le_coe] at reached
      have inside := (topological.mem_iff caller).mpr (contains_caller edge)
      have notAbove : graph.depth caller ≤ graph.depth latest := by
        rcases Nat.eq_or_lt_of_le reached with same | less
        · rw [(List.idxOf_inj inside).mp same]
        · have earlier := forward latest second latestEdge
          exact ih _ (position ▸ earlier) inside
            ((topological.mem_iff latest).mpr (contains_caller latestEdge)) less rfl
      have lower := forward.depth_lt latestEdge
      omega

/-- The key of a node: the length of the longest path that ends in it, the position
of its latest caller, and its handle. -/
noncomputable def rank (graph : CallGraph α) (order : List Nat) (handle : Nat) :
    Nat ×ₗ (WithBot Nat ×ₗ Nat) :=
  toLex (graph.depth handle, graph.readiness order handle)

/-- A list of the live nodes, sorted by their keys. The keys speak of positions in the
list itself. -/
structure IsRanked (graph : CallGraph α) (order : List Nat) : Prop where
  mem_iff : ∀ handle, handle ∈ order ↔ graph.contains handle
  sorted : order.Pairwise fun first second => graph.rank order first < graph.rank order second

theorem Queued.isRanked {order : List Nat} (queued : graph.Queued order)
    (consistent : graph.Consistent) (topological : graph.IsTopological order) :
    graph.IsRanked order where
  mem_iff := topological.mem_iff
  sorted := by
    have positions : order.Pairwise fun first second => order.idxOf first < order.idxOf second :=
      queued.imp_of_mem fun left right less => (idxOf_lt_iff_of_sorted queued left right).mpr less
    refine (queued.and positions).imp_of_mem fun left right both => ?_
    have layers := queued.depth_le consistent topological left right both.2
    refine Prod.Lex.toLex_lt_toLex.mpr ?_
    exact (Nat.lt_or_eq_of_le layers).imp id fun same => ⟨same, both.1⟩

/-- A caller is in a layer above its callees, so it stands before them in a ranked
list. -/
theorem IsRanked.forward {order other : List Nat} (ranked : graph.IsRanked order)
    (consistent : graph.Consistent) (forward : graph.Forward other) : graph.Forward order := by
  intro caller callee edge
  refine (idxOf_lt_iff_of_sorted ranked.sorted ((ranked.mem_iff caller).mpr (contains_caller edge))
    ((ranked.mem_iff callee).mpr (consistent.contains_callee edge))).mpr ?_
  exact Prod.Lex.toLex_lt_toLex.mpr (.inl (forward.depth_lt edge))

theorem IsRanked.nodup {order : List Nat} (ranked : graph.IsRanked order) : order.Nodup :=
  ranked.sorted.imp fun less => ne_of_apply_ne _ (ne_of_lt less)

theorem Forward.mem_front {front rest : List Nat} {caller callee : Nat}
    (forward : graph.Forward (front ++ callee :: rest)) (edge : graph.Calls caller callee) :
    caller ∈ front := by
  refine Classical.byContradiction fun absent => ?_
  have before := forward caller callee edge
  rw [List.idxOf_append_of_notMem absent] at before
  by_cases inside : callee ∈ front
  · have early := List.idxOf_lt_length_of_mem inside
    rw [List.idxOf_append_of_mem inside] at before
    omega
  · rw [List.idxOf_append_of_notMem inside, List.idxOf_cons_self] at before
    omega

theorem Consistent.rank_append (consistent : graph.Consistent) {front : List Nat}
    (rest : List Nat) {handle : Nat} (ahead : ∀ caller, graph.Calls caller handle → caller ∈ front) :
    graph.rank (front ++ rest) handle = graph.rank front handle := by
  rw [rank, readiness, consistent.latestCaller_append rest ahead, rank, readiness]

/-- Of two ranked lists with a common front, neither goes on with a node that is
behind the node with which the other goes on. -/
theorem IsRanked.next_eq {front left right : List Nat} {first second : Nat}
    (ranked : graph.IsRanked (front ++ first :: left))
    (other : graph.IsRanked (front ++ second :: right)) (consistent : graph.Consistent)
    {order : List Nat} (forward : graph.Forward order) : first = second := by
  -- All callers of both stand in front, so either list gives both the same keys.
  have keys (rest : List Nat) : graph.rank (front ++ rest) first = graph.rank front first ∧
      graph.rank (front ++ rest) second = graph.rank front second :=
    ⟨consistent.rank_append rest fun _ => (ranked.forward consistent forward).mem_front,
      consistent.rank_append rest fun _ => (other.forward consistent forward).mem_front⟩
  have behind {a b : Nat} {rest others : List Nat} (sorted : graph.IsRanked (front ++ a :: rest))
      (foreign : graph.IsRanked (front ++ b :: others)) (apart : a ≠ b) :
      graph.rank (front ++ a :: rest) a < graph.rank (front ++ a :: rest) b := by
    have absent : b ∉ front := fun inside =>
      (List.nodup_append.mp foreign.nodup).2.2 b inside b List.mem_cons_self rfl
    have live := (foreign.mem_iff b).mp (List.mem_append_right front List.mem_cons_self)
    have member := ((List.mem_append.mp ((sorted.mem_iff b).mpr live)).resolve_left absent)
    have later := (List.mem_cons.mp member).resolve_left (Ne.symm apart)
    exact (List.pairwise_cons.mp (List.pairwise_append.mp sorted.sorted).2.1).1 b later
  refine Classical.byContradiction fun apart => ?_
  have forth := behind ranked other apart
  have back := behind other ranked (Ne.symm apart)
  rw [(keys _).1, (keys _).2] at forth back
  exact lt_asymm forth back

/-- There is one ranked list only. -/
theorem IsRanked.unique {left right : List Nat} (ranked : graph.IsRanked left)
    (other : graph.IsRanked right) (consistent : graph.Consistent) {order : List Nat}
    (forward : graph.Forward order) : left = right := by
  have perm : left.Perm right := (List.perm_ext_iff_of_nodup ranked.nodup other.nodup).mpr
    fun handle => (ranked.mem_iff handle).trans (other.mem_iff handle).symm
  suffices onward : ∀ rest others front, left = front ++ rest → right = front ++ others →
      rest.length = others.length → rest = others from onward left right [] rfl rfl perm.length_eq
  intro rest
  induction rest with
  | nil => exact fun _ _ _ _ counted => (List.length_eq_zero_iff.mp counted.symm).symm
  | cons first rest ih =>
    intro others front leftEq rightEq counted
    cases others with
    | nil => cases counted
    | cons second others =>
      have same : first = second :=
        (leftEq ▸ ranked).next_eq (rightEq ▸ other) consistent forward
      subst same
      refine congrArg (first :: ·) (ih others (front ++ [first]) ?_ ?_ (Nat.succ.inj counted))
      · simpa using leftEq
      · simpa using rightEq

/-- A node is the latest caller of another in an order. -/
def IsLatestCaller (graph : CallGraph α) (order : List Nat) (caller callee : Nat) : Prop :=
  graph.Calls caller callee ∧
    ∀ other, graph.Calls other callee → order.idxOf other ≤ order.idxOf caller

/-- Nodes whose latest callers stand at one position have the same latest caller, or
both have no callers. -/
theorem Consistent.latestCaller_eq_iff (consistent : graph.Consistent) {order : List Nat}
    (all : ∀ handle, graph.contains handle → handle ∈ order) {first second : Nat} :
    graph.latestCaller order first = graph.latestCaller order second ↔
      (∀ caller, ¬ graph.Calls caller first ∧ ¬ graph.Calls caller second) ∨
      ∃ caller, graph.IsLatestCaller order caller first ∧ graph.IsLatestCaller order caller second := by
  have latest {caller handle : Nat} (isLatest : graph.IsLatestCaller order caller handle) :
      graph.latestCaller order handle = WithBot.some (order.idxOf caller) :=
    consistent.latestCaller_eq_coe_iff.mpr ⟨⟨caller, isLatest.1, rfl⟩, isLatest.2⟩
  constructor
  · intro same
    cases position : graph.latestCaller order first with
    | bot =>
      have left := consistent.latestCaller_eq_bot_iff.mp position
      have right := consistent.latestCaller_eq_bot_iff.mp (same.symm.trans position)
      exact .inl fun caller => ⟨left caller, right caller⟩
    | coe place =>
      obtain ⟨⟨caller, edge, there⟩, last⟩ := consistent.latestCaller_eq_coe_iff.mp position
      obtain ⟨⟨other, otherEdge, thereToo⟩, lastToo⟩ :=
        consistent.latestCaller_eq_coe_iff.mp (same.symm.trans position)
      have one : caller = other :=
        (List.idxOf_inj (all caller (contains_caller edge))).mp (there.trans thereToo.symm)
      subst one
      exact .inr ⟨caller, ⟨edge, there ▸ last⟩, otherEdge, there ▸ lastToo⟩
  · rintro (none | ⟨caller, left, right⟩)
    · rw [consistent.latestCaller_eq_bot_iff.mpr fun caller => (none caller).1,
        consistent.latestCaller_eq_bot_iff.mpr fun caller => (none caller).2]
    · rw [latest left, latest right]

variable [Quantity α]

/-- In a reachable graph without cycles, the order is the one list of the live nodes
that is sorted by the length of the longest path that ends in a node, then by the
position of its latest caller in that list, and then by declaration. The nodes without
callers stand in front in the order of declaration, and two nodes whose latest callers
stand at one position have the same latest caller, or none. -/
theorem Reachable.topologicalOrder_ranked (reachable : graph.Reachable)
    (acyclic : graph.Acyclic) : ∃ order, graph.topologicalOrder = .ok order ∧
      (∀ handle, IsGreatest (graph.pathLengths handle) (graph.depth handle)) ∧
      (∀ other, graph.IsRanked other ↔ other = order) ∧
      (∀ first second, graph.contains first → graph.contains second →
        (order.idxOf first < order.idxOf second ↔
          graph.rank order first < graph.rank order second)) ∧
      (graph.handles.filter fun handle => (graph.predecessors handle).isEmpty) <+: order ∧
      ∀ first second, graph.latestCaller order first = graph.latestCaller order second ↔
        (∀ caller, ¬ graph.Calls caller first ∧ ¬ graph.Calls caller second) ∨
        ∃ caller, graph.IsLatestCaller order caller first ∧
          graph.IsLatestCaller order caller second := by
  have consistent := reachable.consistent
  obtain ⟨order, ordered, topological⟩ := consistent.exists_topologicalOrder acyclic
  have forward := topological.forward
  obtain ⟨queued, front⟩ := consistent.queued_topologicalOrder ordered
  have ranked := queued.isRanked consistent topological
  have all (handle : Nat) := (topological.mem_iff handle).mpr
  refine ⟨order, ordered, forward.isGreatest_depth, fun other => ⟨fun otherRanked => ?_, ?_⟩, ?_,
    front, fun first second => consistent.latestCaller_eq_iff all⟩
  · exact otherRanked.unique ranked consistent forward
  · rintro rfl
    exact ranked
  · intro first second left right
    exact idxOf_lt_iff_of_sorted ranked.sorted (all first left) (all second right)

/-- A graph in which the node declared last becomes ready before two nodes of its
layer. -/
def staggered : CallGraph Binary64 :=
  (empty "!").performAll [
    .declare "N1" "main" (.ofNat 10) (.ofNat 60), .declare "N2" "init" (.ofNat 10) (.ofNat 40),
    .declare "N3" "parse!" (.ofNat 20) (.ofNat 20), .declare "N4" "scan!" (.ofNat 30) (.ofNat 30),
    .declare "N5" "log" (.ofNat 30) (.ofNat 30), .sample 100, .connect "N2" "N3" 20,
    .connect "N2" "N4" 10, .connect "N1" "N4" 20, .connect "N1" "N5" 30]

theorem reachable_staggered : staggered.Reachable := (Reachable.fresh "!").performAll _

theorem staggered_topologicalOrder_ranked :
    staggered.Acyclic ∧ staggered.topologicalOrder = .ok [0, 1, 4, 2, 3] ∧
      staggered.IsRanked [0, 1, 4, 2, 3] ∧ ¬ staggered.IsRanked [0, 1, 2, 3, 4] := by
  have ordered : staggered.topologicalOrder = .ok [0, 1, 4, 2, 3] := by decide +kernel
  have acyclic := reachable_staggered.consistent.topologicalOrder_ok_iff.mp ⟨_, ordered⟩
  obtain ⟨order, same, _, one, _⟩ := reachable_staggered.topologicalOrder_ranked acyclic
  cases ordered.symm.trans same
  refine ⟨acyclic, ordered, (one _).mpr rfl, fun ranked => ?_⟩
  cases (one _).mp ranked

end ProfileGraph.CallGraph
