import Mathlib.Data.List.Nodup
import ProfileGraph.Proofs.FiniteSnapshots
import ProfileGraph.Proofs.Ledger

/-! What a snapshot shows. Handles do not occur in it: it names nodes by their
ids, which tell the live nodes apart, and lists edges between ids. The slots
that deleted nodes left empty do not occur either, yet nodes stand in the order
of their handles, and edges in the order of those of their ends. -/
namespace ProfileGraph

/-- The ids that an edge is listed with. -/
def EdgeSnapshot.ends (edge : EdgeSnapshot) : String × String := (edge.source, edge.target)

/-- Both ids of an edge are among those given. -/
def EdgeSnapshot.Within (edge : EdgeSnapshot) (ids : List String) : Prop :=
  edge.source ∈ ids ∧ edge.target ∈ ids

/-- The listed ids in their order. -/
def Snapshot.ids (snapshot : Snapshot) : List String := snapshot.nodes.map (·.id)

/-- A snapshot shows a graph: what the graph answers to handles, the snapshot
answers to ids. -/
structure Snapshot.Shows (snapshot : Snapshot) (graph : CallGraph Binary64) : Prop where
  nodup_ids : snapshot.ids.Nodup
  /-- An id leads to the fields of the node that the graph finds by it. -/
  node_eq : ∀ id, snapshot.node? id = ((graph.lookup? id).bind graph.node?).map .ofNode
  node_eq_none_iff : ∀ id, snapshot.node? id = none ↔ graph.lookup? id = none
  /-- The ends of an edge are live nodes, so that both have an id to be listed with. -/
  ends_live : ∀ source target weight, (source, target, weight) ∈ graph.edges →
    graph.contains source ∧ graph.contains target
  ends_listed : ∀ edge ∈ snapshot.edges, edge.Within snapshot.ids
  /-- There is at most one edge from one id to another. -/
  nodup_ends : (snapshot.edges.map (·.ends)).Nodup
  mem_edges_iff : ∀ source target weight, ⟨source, target, weight⟩ ∈ snapshot.edges ↔
    ∃ caller callee, graph.lookup? source = some caller ∧ graph.lookup? target = some callee ∧
      graph.edgeWeight? caller callee = some weight

/-- One edge is listed before another: its source is, or its target if they
share the source. -/
def Snapshot.Before (ids : List String) (first second : EdgeSnapshot) : Prop :=
  ids.idxOf first.source < ids.idxOf second.source ∨
    first.source = second.source ∧ ids.idxOf first.target < ids.idxOf second.target

namespace Snapshot.Before
variable {ids : List String} {first second : EdgeSnapshot}

theorem ends_ne (before : Before ids first second) : first.ends ≠ second.ends := by
  intro same
  rcases before with ahead | ⟨_, ahead⟩
  · exact Nat.ne_of_lt ahead (congrArg (ids.idxOf ·.1) same)
  · exact Nat.ne_of_lt ahead (congrArg (ids.idxOf ·.2) same)

theorem ne (before : Before ids first second) : first ≠ second :=
  fun same => before.ends_ne (congrArg EdgeSnapshot.ends same)

theorem asymm (before : Before ids first second) : ¬ Before ids second first := by
  rcases before with ahead | ⟨same, ahead⟩
  · rintro (behind | ⟨same, _⟩)
    · exact Nat.lt_asymm ahead behind
    · exact Nat.ne_of_lt ahead (congrArg ids.idxOf same.symm)
  · rintro (behind | ⟨_, behind⟩)
    · exact Nat.ne_of_lt behind (congrArg ids.idxOf same.symm)
    · exact Nat.lt_asymm ahead behind

end Snapshot.Before

namespace CallGraph
variable {graph : CallGraph Binary64} {declared : List String}

/-! Nodes. -/

theorem ids_ofGraph (graph : CallGraph Binary64) : (Snapshot.ofGraph graph).ids = graph.ids :=
  List.map_map

theorem profilerId_eq_iff {handle : Nat} (live : graph.contains handle) {id : String} :
    graph.profilerId handle = id ↔ graph.idAt? handle = some id := by
  obtain ⟨node, held⟩ := contains_iff_node.mp live
  simp [profilerId, idAt?, held]

theorem ids_eq_map_handles (graph : CallGraph Binary64) :
    graph.ids = graph.handles.map graph.profilerId := by
  rw [ids, nodes, List.map_filterMap, ← List.filterMap_eq_map]
  refine List.filterMap_congr fun handle listed => ?_
  obtain ⟨node, held⟩ := contains_iff_node.mp (mem_handles.mp listed)
  simp [held, profilerId]

theorem Registered.mem_ids_iff (registered : graph.Registered declared) {id : String} :
    id ∈ graph.ids ↔ ∃ handle, graph.lookup? id = some handle := by
  simp only [registered.lookup_iff, mem_ids]

/-- Only one node is listed with an id, so the first is the one. -/
theorem Registered.node_ofGraph (registered : graph.Registered declared) (id : String) :
    (Snapshot.ofGraph graph).node? id =
      ((graph.lookup? id).bind graph.node?).map .ofNode := by
  cases found : graph.lookup? id with
  | none =>
    refine List.find?_eq_none.mpr fun node listed same => ?_
    have member : id ∈ graph.ids := by
      rw [← ids_ofGraph, Snapshot.ids, ← beq_iff_eq.mp same]
      exact List.mem_map_of_mem listed
    obtain ⟨handle, other⟩ := registered.mem_ids_iff.mp member
    cases found.symm.trans other
  | some handle =>
    obtain ⟨node, held, rfl⟩ := idAt_eq_some_iff.mp (registered.lookup_iff.mp found)
    have listed : NodeSnapshot.ofNode node ∈ (Snapshot.ofGraph graph).nodes :=
      (forall_nodes_ofGraph (· ∈ (Snapshot.ofGraph graph).nodes)).mp (fun _ => id) _ _ held
    have distinct : (Snapshot.ofGraph graph).ids.Nodup :=
      (ids_ofGraph graph).symm ▸ registered.nodup_ids
    rw [Option.bind_some, held, Option.map_some, Snapshot.node?]
    cases first : (Snapshot.ofGraph graph).nodes.find? (·.id == node.profilerId) with
    | none => exact absurd (List.find?_eq_none.mp first _ listed) (by simp [NodeSnapshot.ofNode])
    | some other =>
      have same := List.find?_some first
      rw [beq_iff_eq] at same
      exact congrArg some
        (List.inj_on_of_nodup_map distinct (List.mem_of_find?_eq_some first) listed same)

/-! Edges. -/

theorem mem_edges_ofGraph {source target : String} {weight : Binary64} :
    ⟨source, target, weight⟩ ∈ (Snapshot.ofGraph graph).edges ↔
      ∃ caller callee, graph.profilerId caller = source ∧ graph.profilerId callee = target ∧
        graph.edgeWeight? caller callee = some weight := by
  simp only [Snapshot.ofGraph, List.mem_map, Prod.exists, EdgeSnapshot.mk.injEq, mem_edges]
  constructor
  · rintro ⟨caller, callee, _, held, rfl, rfl, rfl⟩
    exact ⟨caller, callee, rfl, rfl, held⟩
  · rintro ⟨caller, callee, rfl, rfl, held⟩
    exact ⟨caller, callee, weight, held, rfl, rfl, rfl⟩

theorem Consistent.contains_ends (consistent : graph.Consistent) {caller callee : Nat}
    {weight : Binary64} (held : graph.edgeWeight? caller callee = some weight) :
    graph.contains caller ∧ graph.contains callee :=
  ⟨contains_caller (calls_of_weight held), consistent.contains_callee (calls_of_weight held)⟩

theorem Consistent.mem_edges_iff (consistent : graph.Consistent)
    (registered : graph.Registered declared) {source target : String} {weight : Binary64} :
    ⟨source, target, weight⟩ ∈ (Snapshot.ofGraph graph).edges ↔
      ∃ caller callee, graph.lookup? source = some caller ∧ graph.lookup? target = some callee ∧
        graph.edgeWeight? caller callee = some weight := by
  refine mem_edges_ofGraph.trans (exists_congr fun caller => exists_congr fun callee => ?_)
  rw [registered.lookup_iff, registered.lookup_iff, ← and_assoc, ← and_assoc]
  refine and_congr_left fun held => ?_
  obtain ⟨first, last⟩ := consistent.contains_ends held
  rw [profilerId_eq_iff first, profilerId_eq_iff last]

/-- The place of an id in the list is the place of its handle. -/
theorem Registered.idxOf_profilerId (registered : graph.Registered declared) (n : Nat)
    (inside : n < graph.handles.length) :
    graph.ids.idxOf (graph.profilerId graph.handles[n]) = n := by
  have distinct := registered.nodup_ids
  rw [ids_eq_map_handles] at distinct ⊢
  have place := distinct.idxOf_getElem n (by rwa [List.length_map])
  rwa [List.getElem_map] at place

/-- Among the listed ids the order is that of the handles, which have gaps. -/
theorem Registered.idxOf_lt (registered : graph.Registered declared) {first second : Nat}
    (firstLive : graph.contains first) (secondLive : graph.contains second)
    (less : first < second) :
    graph.ids.idxOf (graph.profilerId first) < graph.ids.idxOf (graph.profilerId second) := by
  obtain ⟨m, firstInside, rfl⟩ := List.getElem_of_mem (mem_handles.mpr firstLive)
  obtain ⟨n, secondInside, rfl⟩ := List.getElem_of_mem (mem_handles.mpr secondLive)
  rw [registered.idxOf_profilerId m firstInside, registered.idxOf_profilerId n secondInside]
  have ascending := List.pairwise_iff_getElem.mp graph.handles_ascending
  rcases Nat.lt_trichotomy m n with ahead | rfl | behind
  · exact ahead
  · exact absurd less (Nat.lt_irrefl _)
  · exact absurd less (Nat.lt_asymm (ascending n m secondInside firstInside behind))

/-- Edges are listed in the order of their ids. -/
theorem Consistent.edges_ordered (consistent : graph.Consistent)
    (registered : graph.Registered declared) :
    (Snapshot.ofGraph graph).edges.Pairwise (Snapshot.Before graph.ids) := by
  rw [Snapshot.ofGraph, edges, List.pairwise_map, List.pairwise_flatMap]
  constructor
  · intro caller _
    rw [List.pairwise_map]
    have ascending := List.pairwise_map.mp (graph.callees_ascending caller)
    refine ascending.imp_of_mem fun first second less => .inr ⟨rfl, ?_⟩
    exact registered.idxOf_lt (consistent.contains_ends (mem_successors.mp first)).2
      (consistent.contains_ends (mem_successors.mp second)).2 less
  · refine graph.handles_ascending.imp_of_mem fun first second less => ?_
    rintro _ here _ there
    obtain ⟨_, _, rfl⟩ := List.mem_map.mp here
    obtain ⟨_, _, rfl⟩ := List.mem_map.mp there
    exact .inl (registered.idxOf_lt (mem_handles.mp first) (mem_handles.mp second) less)

theorem Consistent.shows_ofGraph (consistent : graph.Consistent)
    (registered : graph.Registered declared) : (Snapshot.ofGraph graph).Shows graph where
  nodup_ids := (ids_ofGraph graph).symm ▸ registered.nodup_ids
  node_eq := registered.node_ofGraph
  node_eq_none_iff id := by
    rw [registered.node_ofGraph, Option.map_eq_none_iff]
    cases found : graph.lookup? id with
    | none => exact iff_of_true rfl rfl
    | some handle =>
      obtain ⟨node, held, _⟩ := idAt_eq_some_iff.mp (registered.lookup_iff.mp found)
      simp [held]
  ends_live _ _ _ listed := consistent.contains_ends (mem_edges.mp listed)
  ends_listed edge listed := by
    obtain ⟨source, target, weight⟩ := edge
    obtain ⟨caller, callee, first, last, _⟩ := (consistent.mem_edges_iff registered).mp listed
    rw [ids_ofGraph]
    exact ⟨registered.mem_ids_iff.mpr ⟨caller, first⟩,
      registered.mem_ids_iff.mpr ⟨callee, last⟩⟩
  nodup_ends := List.pairwise_map.mpr
    ((consistent.edges_ordered registered).imp Snapshot.Before.ends_ne)
  mem_edges_iff _ _ _ := consistent.mem_edges_iff registered

end CallGraph
end ProfileGraph
