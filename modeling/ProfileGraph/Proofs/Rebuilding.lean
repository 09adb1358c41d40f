import Mathlib.Data.List.Nodup
import ProfileGraph.Proofs.Magnitudes
import ProfileGraph.Proofs.SnapshotContents

/-! A graph built again from a snapshot of another. The listed nodes get the
handles from zero on, in the order in which they are listed, so gaps between
handles close up and the order of the nodes is kept. Edges are then added to
nothing, which changes the sign of a negative zero and no other weight. -/
namespace ProfileGraph

/-- The same number, with the positive zero for both zeros. -/
def Binary64.plain (x : Binary64) : Binary64 :=
  if Quantity.isZero x then signedZero false else x

/-- What the first weight of an edge becomes. -/
theorem Binary64.zero_add_eq_plain (x : Binary64) : signedZero false + x = x.plain := by
  cases x with
  | nan => rfl
  | infinity negative => rfl
  | finite negative units magnitude =>
    rw [plain]
    cases negative with
    | false =>
      rw [signedZero_add_finite]
      split
      next zero =>
        obtain rfl := isZero_finite.mp zero
        rfl
      next => rfl
    | true =>
      show (if units < 0 then rounded false (0 - units) 1 else
        if 0 < units then rounded true (units - 0) 1 else signedZero false) = _
      simp only [isZero_finite]
      rw [if_neg (Nat.not_lt_zero units)]
      rcases Nat.eq_zero_or_pos units with rfl | pos
      · rw [if_neg (Nat.lt_irrefl 0), if_pos rfl]
      · rw [if_pos pos, if_neg pos.ne', Nat.sub_zero, rounded_of_isMagnitude]

/-- What a declaration says of a node. -/
def NodeSnapshot.attributes (node : NodeSnapshot) : String × String × Binary64 × Binary64 :=
  (node.id, node.name, node.coverage, node.selfCoverage)

/-- The edge, with the positive zero for both zeros. -/
def EdgeSnapshot.plain (edge : EdgeSnapshot) : EdgeSnapshot :=
  { edge with weight := edge.weight.plain }

namespace CallGraph

/-- Declares a listed node. -/
def declareListed (graph : CallGraph Binary64) (node : NodeSnapshot) :
    Except GraphError (CallGraph Binary64) :=
  (graph.addNode node.id node.name node.selfCoverage node.coverage).map (·.2)

/-- Adds a listed edge between the nodes with its ids. -/
def connectListed (graph : CallGraph Binary64) (edge : EdgeSnapshot) :
    Except GraphError (CallGraph Binary64) :=
  match graph.lookup? edge.source, graph.lookup? edge.target with
  | none, _ => .error (.unknownNode edge.source edge.target edge.source)
  | some _, none => .error (.unknownNode edge.source edge.target edge.target)
  | some source, some target => graph.addEdgeBetween source target edge.weight

end CallGraph

/-- Declares the listed nodes in a fresh graph and adds the listed edges. -/
def Snapshot.rebuild (snapshot : Snapshot) (marker : String) :
    Except GraphError (CallGraph Binary64) := do
  let declared ← snapshot.nodes.foldlM CallGraph.declareListed (.empty marker)
  snapshot.edges.foldlM CallGraph.connectListed declared

/-- A loop that keeps an invariant of the items behind it comes to its end. -/
theorem exists_foldlM_eq_ok {σ β ε : Type} {step : σ → β → Except ε σ} {start : σ}
    (invariant : List β → σ → Prop) (begins : invariant [] start) (items : List β)
    (runs : ∀ earlier item state, earlier ++ [item] <+: items → invariant earlier state →
      ∃ next, step state item = .ok next ∧ invariant (earlier ++ [item]) next) :
    ∃ final, items.foldlM step start = .ok final ∧ invariant items final := by
  induction items using List.reverseRecOn with
  | nil => exact ⟨start, rfl, begins⟩
  | append_singleton earlier last ih =>
    obtain ⟨middle, ran, kept⟩ := ih fun before item state inside =>
      runs before item state (inside.trans (List.prefix_append ..))
    obtain ⟨final, step, holds⟩ := runs earlier last middle List.prefix_rfl kept
    refine ⟨final, ?_, holds⟩
    rw [List.foldlM_append, ran]
    simp [bind, Except.bind, step, pure, Except.pure]

/-- Among some edges one of a given weight is listed between the ids at two places. -/
def ListsBetween (ids : List String) (edges : List EdgeSnapshot) (caller callee : Nat)
    (weight : Binary64) : Prop :=
  ∃ edge ∈ edges, ids[caller]? = some edge.source ∧ ids[callee]? = some edge.target ∧
    weight = edge.weight.plain

section ListsBetween
variable {ids : List String} {edges : List EdgeSnapshot} {edge : EdgeSnapshot}
  {caller callee : Nat} {weight : Binary64}

theorem listsBetween_concat : ListsBetween ids (edges ++ [edge]) caller callee weight ↔
    ListsBetween ids edges caller callee weight ∨ (ids[caller]? = some edge.source ∧
      ids[callee]? = some edge.target ∧ weight = edge.weight.plain) := by
  simp only [ListsBetween, List.mem_append, List.mem_singleton, or_and_right, exists_or,
    exists_eq_left]

theorem ListsBetween.mem_ends (between : ListsBetween ids edges caller callee weight)
    (first : ids[caller]? = some edge.source) (last : ids[callee]? = some edge.target) :
    edge.ends ∈ edges.map (·.ends) := by
  obtain ⟨listed, member, first', last', _⟩ := between
  refine List.mem_map.mpr ⟨listed, member, Prod.ext ?_ ?_⟩
  · exact Option.some.inj (first'.symm.trans first)
  · exact Option.some.inj (last'.symm.trans last)

end ListsBetween

namespace CallGraph
variable {graph : CallGraph Binary64} {nodes : List NodeSnapshot} {edges : List EdgeSnapshot}

/-- A graph is made of the listed nodes and edges. -/
structure MadeOf (graph : CallGraph Binary64) (nodes : List NodeSnapshot)
    (edges : List EdgeSnapshot) : Prop where
  consistent : graph.Consistent
  registered : graph.Registered (nodes.map (·.id))
  /-- A handle is the place of its node in the list. -/
  attributes_eq : ∀ handle : Nat,
    (graph.node? handle).map (fun node => (NodeSnapshot.ofNode node).attributes) =
      (nodes.map (·.attributes))[handle]?
  weight_iff : ∀ caller callee weight, graph.edgeWeight? caller callee = some weight ↔
    ListsBetween (nodes.map (·.id)) edges caller callee weight

namespace MadeOf

theorem idAt_eq (made : graph.MadeOf nodes edges) (handle : Nat) :
    graph.idAt? handle = (nodes.map (·.id))[handle]? := by
  have first := congrArg (Option.map (·.1)) (made.attributes_eq handle)
  rwa [Option.map_map, ← List.getElem?_map, List.map_map] at first

theorem lookup_iff (made : graph.MadeOf nodes edges) {id : String} {handle : Nat} :
    graph.lookup? id = some handle ↔ (nodes.map (·.id))[handle]? = some id := by
  rw [made.registered.lookup_iff, made.idAt_eq]

theorem unretired (made : graph.MadeOf nodes edges) (id : String) :
    ¬ graph.retired.contains id := by
  intro retired
  obtain ⟨handle, declared, gone⟩ := made.registered.retired_iff.mp retired
  rw [made.idAt_eq, declared] at gone
  cases gone

theorem declareListed (made : graph.MadeOf nodes []) {node : NodeSnapshot}
    (fresh : node.id ∉ nodes.map (·.id)) :
    ∃ next, graph.declareListed node = .ok next ∧ next.MadeOf (nodes ++ [node]) [] := by
  have listed : enlist (nodes.map (·.id)) node.id = (nodes ++ [node]).map (·.id) := by
    rw [enlist, if_neg fresh, List.map_append, List.map_singleton]
  rcases made.registered.addNode_spec node.id node.name node.selfCoverage node.coverage with
    ⟨retired, _⟩ | ⟨handle, next, ran, registered, placed⟩
  · exact absurd retired (made.unretired node.id)
  rw [listed] at registered placed
  have last : handle = nodes.length := by
    refine registered.handle_eq placed ?_
    rw [List.getElem?_map, List.getElem?_concat_length, Option.map_some]
  obtain ⟨held, _⟩ := made.registered.addNode_frame ran
  refine ⟨next, by rw [CallGraph.declareListed, ran]; rfl, made.consistent.addNode ran,
    registered, fun other => ?_, fun caller callee weight => ?_⟩
  · rw [held, last, List.map_append]
    split
    next here =>
      rw [here, ← List.length_map (·.attributes), List.map_singleton,
        List.getElem?_concat_length]
      rfl
    next elsewhere =>
      rw [made.attributes_eq]
      rcases Nat.lt_or_gt_of_ne elsewhere with inside | outside
      · rw [List.getElem?_append_left (by rwa [List.length_map])]
      · rw [List.getElem?_eq_none (by rw [List.length_map]; exact outside.le),
          List.getElem?_eq_none (by simpa using Nat.succ_le_of_lt outside)]
  · rw [(addNode_edges ran).1, made.weight_iff]
    simp [ListsBetween]

/-- An edge that is new to the list is new to the graph. -/
theorem strengthen (made : graph.MadeOf nodes edges) {edge : EdgeSnapshot} {source target : Nat}
    (sourceAt : (nodes.map (·.id))[source]? = some edge.source)
    (targetAt : (nodes.map (·.id))[target]? = some edge.target)
    (fresh : edge.ends ∉ edges.map (·.ends)) :
    (graph.strengthen source target edge.weight).MadeOf nodes (edges ++ [edge]) := by
  have sourceLive := contains_of_idAt ((made.idAt_eq source).trans sourceAt)
  have targetLive := contains_of_idAt ((made.idAt_eq target).trans targetAt)
  have absent : graph.edgeWeight? source target = none :=
    Option.eq_none_iff_forall_ne_some.mpr fun weight held =>
      fresh (((made.weight_iff ..).mp held).mem_ends sourceAt targetAt)
  refine ⟨made.consistent.strengthen sourceLive targetLive edge.weight,
    (reworked_writeEdge ..).registered made.registered, fun handle => ?_,
    fun caller callee weight => ?_⟩
  · rw [node_strengthen, made.attributes_eq]
  · rw [edgeWeight_strengthen sourceLive, listsBetween_concat, ← made.weight_iff]
    split
    next here =>
      obtain ⟨rfl, rfl⟩ := here
      have first : Quantity.zero + edge.weight = edge.weight.plain :=
        Binary64.zero_add_eq_plain edge.weight
      simp [absent, sourceAt, targetAt, first, eq_comm]
    next elsewhere =>
      refine (or_iff_left fun ⟨first, last, _⟩ => elsewhere ⟨?_, ?_⟩).symm
      · exact made.registered.handle_eq first sourceAt
      · exact made.registered.handle_eq last targetAt

theorem connectListed (made : graph.MadeOf nodes edges) {edge : EdgeSnapshot}
    (listed : edge.Within (nodes.map (·.id))) (fresh : edge.ends ∉ edges.map (·.ends)) :
    ∃ next, graph.connectListed edge = .ok next ∧ next.MadeOf nodes (edges ++ [edge]) := by
  obtain ⟨source, sourceAt⟩ := List.mem_iff_getElem?.mp listed.1
  obtain ⟨target, targetAt⟩ := List.mem_iff_getElem?.mp listed.2
  have sourceLive := contains_of_idAt ((made.idAt_eq source).trans sourceAt)
  have targetLive := contains_of_idAt ((made.idAt_eq target).trans targetAt)
  refine ⟨graph.strengthen source target edge.weight, ?_, made.strengthen sourceAt targetAt fresh⟩
  rw [CallGraph.connectListed, made.lookup_iff.mpr sourceAt, made.lookup_iff.mpr targetAt]
  exact addEdgeBetween_of_live sourceLive targetLive edge.weight

end MadeOf

theorem madeOf_empty (marker : String) : (empty marker : CallGraph Binary64).MadeOf [] [] where
  consistent := consistent_empty marker
  registered := registered_empty marker
  attributes_eq _ := rfl
  weight_iff _ _ _ := by simp [edgeWeight?, slot?, empty, ListsBetween]

/-! Whole lists. -/

/-- Nodes with different ids can all be declared. -/
theorem exists_declared (marker : String) (distinct : (nodes.map (·.id)).Nodup) :
    ∃ declared, nodes.foldlM declareListed (empty marker) = .ok declared ∧
      declared.MadeOf nodes [] := by
  refine exists_foldlM_eq_ok (fun earlier (graph : CallGraph Binary64) => graph.MadeOf earlier [])
    (madeOf_empty marker) nodes fun earlier node graph inside made =>
      made.declareListed fun again => ?_
  have apart := distinct.sublist (inside.sublist.map _)
  rw [List.map_append, List.nodup_append] at apart
  exact apart.2.2 _ again _ List.mem_cons_self rfl

/-- Edges with different ends can all be added, if their ends are listed. -/
theorem MadeOf.exists_connected (made : graph.MadeOf nodes [])
    (listed : ∀ edge ∈ edges, edge.Within (nodes.map (·.id)))
    (distinct : (edges.map (·.ends)).Nodup) :
    ∃ connected, edges.foldlM CallGraph.connectListed graph = .ok connected ∧
      connected.MadeOf nodes edges := by
  refine exists_foldlM_eq_ok (fun earlier (graph : CallGraph Binary64) =>
    graph.MadeOf nodes earlier) made edges fun earlier edge graph inside made =>
      made.connectListed (listed edge (inside.subset List.mem_concat_self)) fun again => ?_
  have apart := distinct.sublist (inside.sublist.map _)
  rw [List.map_append, List.nodup_append] at apart
  exact apart.2.2 _ again _ List.mem_cons_self rfl

/-! The snapshot of what was built. -/

namespace MadeOf

private theorem filterMap_getElem {β : Type} (items : List β) :
    (List.range items.length).filterMap (items[·]?) = items := by
  induction items with
  | nil => rfl
  | cons first later ih =>
    rw [List.length_cons, List.range_succ_eq_map, List.filterMap_cons, List.filterMap_map]
    simpa using ih

/-- No node is left out, and none changes its place. -/
theorem attributes_ofGraph (made : graph.MadeOf nodes edges) :
    (Snapshot.ofGraph graph).nodes.map (·.attributes) = nodes.map (·.attributes) := by
  have size : graph.slots.size = (nodes.map (·.attributes)).length := by
    rw [made.registered.size_eq, List.length_map, List.length_map]
  calc (Snapshot.ofGraph graph).nodes.map (·.attributes)
      = graph.handles.filterMap fun handle =>
          (graph.node? handle).map fun node => (NodeSnapshot.ofNode node).attributes := by
        rw [Snapshot.ofGraph, List.map_map, CallGraph.nodes, List.map_filterMap]
        rfl
    _ = (List.range graph.slots.size).filterMap fun handle =>
          (graph.node? handle).map fun node => (NodeSnapshot.ofNode node).attributes := by
        rw [handles, List.filterMap_filter]
        refine List.filterMap_congr fun handle _ => ?_
        rw [contains_eq_isSome_node]
        cases graph.node? handle <;> rfl
    _ = nodes.map (·.attributes) := by
        rw [size, List.filterMap_congr fun handle _ => made.attributes_eq handle]
        exact filterMap_getElem _

theorem ids_eq (made : graph.MadeOf nodes edges) : graph.ids = nodes.map (·.id) := by
  have first := congrArg (List.map (·.1)) made.attributes_ofGraph
  rw [List.map_map, List.map_map] at first
  exact (ids_ofGraph graph).symm.trans first

theorem mem_edges_iff (made : graph.MadeOf nodes edges)
    (listed : ∀ edge ∈ edges, edge.Within (nodes.map (·.id)))
    (edge : EdgeSnapshot) :
    edge ∈ (Snapshot.ofGraph graph).edges ↔ edge ∈ edges.map (·.plain) := by
  obtain ⟨source, target, weight⟩ := edge
  simp only [made.consistent.mem_edges_iff made.registered, made.lookup_iff, made.weight_iff,
    ListsBetween, List.mem_map]
  constructor
  · rintro ⟨caller, callee, first, second, edge, member, source_eq, target_eq, rfl⟩
    obtain rfl := Option.some.inj (first.symm.trans source_eq)
    obtain rfl := Option.some.inj (second.symm.trans target_eq)
    exact ⟨edge, member, rfl⟩
  · rintro ⟨edge, member, same⟩
    cases same
    obtain ⟨caller, first⟩ := List.mem_iff_getElem?.mp (listed edge member).1
    obtain ⟨callee, second⟩ := List.mem_iff_getElem?.mp (listed edge member).2
    exact ⟨caller, callee, first, second, edge, member, first, second, rfl⟩

/-- Edges come back in the order in which they were listed, since that is the
order of the ids. -/
theorem edges_ofGraph (made : graph.MadeOf nodes edges)
    (listed : ∀ edge ∈ edges, edge.Within (nodes.map (·.id)))
    (ordered : edges.Pairwise (Snapshot.Before (nodes.map (·.id)))) :
    (Snapshot.ofGraph graph).edges = edges.map (·.plain) := by
  have here := made.consistent.edges_ordered made.registered
  rw [made.ids_eq] at here
  have there : (edges.map (·.plain)).Pairwise (Snapshot.Before (nodes.map (·.id))) :=
    List.pairwise_map.mpr (ordered.imp id)
  have same := (List.perm_ext_iff_of_nodup (here.imp Snapshot.Before.ne)
    (there.imp Snapshot.Before.ne)).mpr (made.mem_edges_iff listed)
  exact same.eq_of_pairwise (fun _ _ _ _ ahead behind => absurd behind ahead.asymm) here there

end MadeOf

/-- The snapshot of a reachable graph shows it: its ids are different, they
lead to the fields of the nodes that the graph finds by them, and the listed
edges are those of the graph, each once and between listed ids. Building a graph
from the snapshot, whatever the marker, gives the same ids, names and coverages
and the same edges, with the positive zero for a negative one. -/
theorem Reachable.ofGraph_faithful (reachable : graph.Reachable) :
    (Snapshot.ofGraph graph).Shows graph ∧
    ∀ marker, ∃ rebuilt, (Snapshot.ofGraph graph).rebuild marker = .ok rebuilt ∧
      (Snapshot.ofGraph rebuilt).nodes.map (·.attributes) =
        (Snapshot.ofGraph graph).nodes.map (·.attributes) ∧
      (Snapshot.ofGraph rebuilt).edges = (Snapshot.ofGraph graph).edges.map (·.plain) := by
  obtain ⟨declared, registered⟩ := reachable.registered
  have shows := reachable.consistent.shows_ofGraph registered
  refine ⟨shows, fun marker => ?_⟩
  obtain ⟨bare, declaring, madeBare⟩ := exists_declared marker shows.nodup_ids
  obtain ⟨rebuilt, connecting, made⟩ :=
    madeBare.exists_connected shows.ends_listed shows.nodup_ends
  refine ⟨rebuilt, ?_, made.attributes_ofGraph, made.edges_ofGraph shows.ends_listed ?_⟩
  · rw [Snapshot.rebuild, declaring]
    exact connecting
  · have ordered := reachable.consistent.edges_ordered registered
    rwa [← ids_ofGraph] at ordered

/-- A graph that lost its second node, with a call of weight negative zero. -/
def gapped : CallGraph Binary64 :=
  (empty "!").performAll [
    .declare "N1" "main" (.ofNat 10) (.ofNat 100), .declare "N2" "parse" (.ofNat 5) (.ofNat 5),
    .declare "N3" "scan" (.ofNat 60) (.ofNat 90), .declare "N4" "leaf!" (.ofNat 30) (.ofNat 30),
    .connect "N2" "N3" 5, .connect "N3" "N4" 30, .connect "N1" "N4" 7, .connect "N1" "N3" 60,
    .reweigh 0 3 (.signedZero true), .remove 1]

theorem reachable_gapped : gapped.Reachable := (Reachable.fresh "!").performAll _

theorem gapped_ofGraph_faithful : ∃ rebuilt,
    (Snapshot.ofGraph gapped).rebuild defaultInterestMarker = .ok rebuilt ∧
      (Snapshot.ofGraph gapped).node? "N2" = none ∧
      (Snapshot.ofGraph gapped).edges =
        [⟨"N1", "N3", .ofNat 60⟩, ⟨"N1", "N4", .signedZero true⟩, ⟨"N3", "N4", .ofNat 30⟩] ∧
      (Snapshot.ofGraph rebuilt).edges =
        [⟨"N1", "N3", .ofNat 60⟩, ⟨"N1", "N4", .signedZero false⟩, ⟨"N3", "N4", .ofNat 30⟩] := by
  obtain ⟨shows, rebuilds⟩ := reachable_gapped.ofGraph_faithful
  obtain ⟨rebuilt, ran, _, edges⟩ := rebuilds defaultInterestMarker
  have retired : gapped.lookup? "N2" = none := by decide +kernel
  have listed : (Snapshot.ofGraph gapped).edges =
      [⟨"N1", "N3", .ofNat 60⟩, ⟨"N1", "N4", .signedZero true⟩, ⟨"N3", "N4", .ofNat 30⟩] := by
    decide +kernel
  refine ⟨rebuilt, ran, (shows.node_eq_none_iff "N2").mpr retired, listed, ?_⟩
  rw [edges, listed]
  decide +kernel

end CallGraph
end ProfileGraph
