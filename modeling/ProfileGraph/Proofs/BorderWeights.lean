import Mathlib.Data.List.Nodup
import ProfileGraph.Proofs.Merging

/-! The weights that collapsing a set of nodes leaves. Each neighbour outside
ends up with one edge to the survivor and one from it at most. Its weight is
the sum, from left to right and cut down to a whole number, of what the
neighbour had with the members one by one; edges between nodes outside keep
their weights. -/
namespace ProfileGraph.CallGraph

variable {α : Type} [Quantity α] {graph : CallGraph α}

/-! Weights across the border. -/

/-- What some nodes have with one neighbour, in the order of the nodes. -/
def crossings (neighbours : Nat → List (Nat × α)) (members : List Nat) (other : Nat) : List α :=
  ((members.flatMap neighbours).filter (·.1 == other)).map (·.2)

private theorem get_add_foldl (entries : List (Nat × α)) (border : WeightMap α) (other : Nat) :
    (entries.foldl (fun border (other, weight) => border.add other weight) border).get? other =
      let weights := (entries.filter (·.1 == other)).map (·.2)
      if weights = [] then border.get? other
      else some (weights.foldl (· + ·) (border.weight other)) := by
  induction entries generalizing border with
  | nil => rfl
  | cons entry later ih =>
    obtain ⟨first, weight⟩ := entry
    rw [List.foldl_cons, ih]
    dsimp only
    by_cases same : first = other
    · subst same
      rw [List.filter_cons_of_pos (by simp), List.map_cons, if_neg (List.cons_ne_nil _ _),
        List.foldl_cons, WeightMap.weight, WeightMap.add, WeightMap.get?_insert, if_pos rfl,
        Option.getD_some]
      split
      next none => rw [none, List.foldl_nil]
      next => rfl
    · rw [List.filter_cons_of_neg (by simpa using same), WeightMap.weight, WeightMap.add,
        WeightMap.get?_insert, if_neg (Ne.symm same), WeightMap.weight]

/-- The border adds up what the members have with a neighbour, if anything. -/
theorem get_borderWeights (neighbours : Nat → List (Nat × α)) {members : List Nat} {other : Nat}
    (outside : other ∉ members) :
    (borderWeights neighbours members).get? other =
      if crossings neighbours members other = [] then none
      else some ((crossings neighbours members other).foldl (· + ·) Quantity.zero) := by
  have kept : ((members.flatMap neighbours).filter fun (other, _) => !members.contains other).filter
      (·.1 == other) = (members.flatMap neighbours).filter (·.1 == other) := by
    rw [List.filter_filter]
    refine List.filter_congr fun entry _ => ?_
    by_cases same : entry.1 = other <;> simp [same, outside]
  rw [borderWeights, get_add_foldl, kept]
  rfl

omit [Quantity α] in
private theorem filter_entries {entries : List (Nat × α)} {weight? : Option α} {other : Nat}
    (distinct : (entries.map (·.1)).Nodup)
    (held : ∀ weight, (other, weight) ∈ entries ↔ weight? = some weight) :
    (entries.filter (·.1 == other)).map (·.2) = weight?.toList := by
  cases weight? with
  | none =>
    have unlisted : entries.filter (·.1 == other) = [] := by
      refine List.filter_eq_nil_iff.mpr fun entry listed same => ?_
      obtain rfl : entry.1 = other := by simpa using same
      cases (held entry.2).mp listed
    rw [unlisted]
    rfl
  | some weight =>
    obtain ⟨before, behind, rfl⟩ := List.append_of_mem ((held weight).mpr rfl)
    rw [List.map_append, List.map_cons] at distinct
    obtain ⟨_, last, apart⟩ := List.nodup_append.mp distinct
    have noneBefore : before.filter (·.1 == other) = [] := by
      refine List.filter_eq_nil_iff.mpr fun entry listed same => ?_
      exact apart _ (List.mem_map_of_mem listed) _ List.mem_cons_self (by simpa using same)
    have noneBehind : behind.filter (·.1 == other) = [] := by
      refine List.filter_eq_nil_iff.mpr fun entry listed same => ?_
      obtain rfl : entry.1 = other := by simpa using same
      exact (List.nodup_cons.mp last).1 (List.mem_map_of_mem (f := (·.1)) listed)
    rw [List.filter_append, List.filter_cons_of_pos (by simp), noneBefore, noneBehind]
    rfl

omit [Quantity α] in
private theorem crossings_eq_filterMap {neighbours : Nat → List (Nat × α)} {other : Nat}
    {weight? : Nat → Option α}
    (each : ∀ member, ((neighbours member).filter (·.1 == other)).map (·.2) =
      (weight? member).toList) (members : List Nat) :
    crossings neighbours members other = members.filterMap weight? := by
  induction members with
  | nil => rfl
  | cons member later ih =>
    rw [crossings] at ih
    rw [crossings, List.flatMap_cons, List.filter_append, List.map_append, ih, each,
      List.filterMap_cons]
    cases weight? member <;> rfl

omit [Quantity α] in
/-- A node is called by some nodes with the weights of their edges to it. -/
theorem crossings_successors (graph : CallGraph α) (members : List Nat) (callee : Nat) :
    crossings graph.successors members callee =
      members.filterMap (graph.edgeWeight? · callee) :=
  crossings_eq_filterMap (fun member =>
    filter_entries (graph.nodup_callees member) fun _ => mem_successors) members

omit [Quantity α] in
theorem Consistent.crossings_predecessors (consistent : graph.Consistent) (members : List Nat)
    (caller : Nat) : crossings graph.predecessors members caller =
      members.filterMap (graph.edgeWeight? caller) := by
  refine crossings_eq_filterMap (fun member =>
    filter_entries (graph.nodup_callers member) fun _ => consistent.mem_predecessors) members

/-! Attaching edges. -/

theorem edgeWeight_attached {edge : Nat × Nat × α} (live : graph.EndsLive edge)
    (caller callee : Nat) : (graph.attached edge).edgeWeight? caller callee =
      if caller = edge.1 ∧ callee = edge.2.1 then
        some (Quantity.truncate ((graph.edgeWeight? caller callee).getD Quantity.zero + edge.2.2))
      else graph.edgeWeight? caller callee := by
  have strengthened := edgeWeight_strengthen live.1 edge.2.1 edge.2.2
  have held := strengthened edge.1 edge.2.1
  rw [if_pos ⟨rfl, rfl⟩] at held
  rw [attached, truncateEdge, held]
  dsimp only
  rw [edgeWeight_writeEdge, contains_strengthen]
  by_cases here : caller = edge.1 ∧ callee = edge.2.1
  · rw [if_pos ⟨here.1, here.2, live.1⟩, if_pos here, here.1, here.2]
  · rw [if_neg fun ends => here ⟨ends.1, ends.2.1⟩, if_neg here, strengthened, if_neg here]

/-- An edge that is not listed keeps its weight. -/
theorem edgeWeight_attachAll_of_unlisted {edges : List (Nat × Nat × α)} {caller callee : Nat}
    (live : ∀ edge ∈ edges, graph.EndsLive edge)
    (unlisted : (caller, callee) ∉ edges.map fun edge => (edge.1, edge.2.1)) :
    (graph.attachAll edges).edgeWeight? caller callee = graph.edgeWeight? caller callee := by
  induction edges generalizing graph with
  | nil => rfl
  | cons edge later ih =>
    obtain ⟨first, live⟩ := List.forall_mem_cons.mp live
    rw [List.map_cons, List.mem_cons, not_or] at unlisted
    have laterLive : ∀ other ∈ later, (graph.attached edge).EndsLive other := fun other member => by
      simpa [EndsLive, attached] using live other member
    refine (ih laterLive unlisted.2).trans ?_
    rw [edgeWeight_attached first, if_neg fun ends => unlisted.1 (Prod.ext ends.1 ends.2)]

/-- A listed edge, if it is listed once only, gets the listed weight on top. -/
theorem edgeWeight_attachAll_of_listed {edges : List (Nat × Nat × α)} {caller callee : Nat}
    {weight : α} (live : ∀ edge ∈ edges, graph.EndsLive edge)
    (distinct : (edges.map fun edge => (edge.1, edge.2.1)).Nodup)
    (listed : (caller, callee, weight) ∈ edges) :
    (graph.attachAll edges).edgeWeight? caller callee =
      some (Quantity.truncate
        ((graph.edgeWeight? caller callee).getD Quantity.zero + weight)) := by
  induction edges generalizing graph with
  | nil => cases listed
  | cons edge later ih =>
    obtain ⟨first, live⟩ := List.forall_mem_cons.mp live
    rw [List.map_cons, List.nodup_cons] at distinct
    have laterLive : ∀ other ∈ later, (graph.attached edge).EndsLive other := fun other member => by
      simpa [EndsLive, attached] using live other member
    rcases List.mem_cons.mp listed with rfl | listed
    · refine (edgeWeight_attachAll_of_unlisted laterLive distinct.1).trans ?_
      rw [edgeWeight_attached first, if_pos ⟨rfl, rfl⟩]
    · refine (ih laterLive distinct.2 listed).trans ?_
      have apart : ¬ (caller = edge.1 ∧ callee = edge.2.1) := by
        rintro ⟨rfl, rfl⟩
        exact distinct.1 (List.mem_map_of_mem (f := fun edge => (edge.1, edge.2.1)) listed)
      rw [edgeWeight_attached first, if_neg apart]

/-- The edges from or to all neighbours in a border, as `attachAll` sees them. -/
theorem edgeWeight_attachAll_border (border : WeightMap α) {ends : Nat → Nat × Nat}
    (injective : Function.Injective ends) {edges : List (Nat × Nat × α)}
    (made : edges = border.entries.map fun (other, weight) =>
      ((ends other).1, (ends other).2, weight))
    (live : ∀ edge ∈ edges, graph.EndsLive edge) (other : Nat)
    (absent : graph.edgeWeight? (ends other).1 (ends other).2 = none) :
    (graph.attachAll edges).edgeWeight? (ends other).1 (ends other).2 =
      (border.get? other).map fun weight => Quantity.truncate (Quantity.zero + weight) := by
  have listed : edges.map (fun edge => (edge.1, edge.2.1)) =
      (border.entries.map (·.1)).map ends := by
    rw [made, List.map_map, List.map_map]
    rfl
  cases held : border.get? other with
  | none =>
    refine (edgeWeight_attachAll_of_unlisted live fun member => ?_).trans absent
    rw [listed] at member
    obtain ⟨other', inside, same⟩ := List.mem_map.mp member
    rw [injective same, WeightMap.mem_keys, held] at inside
    cases inside
  | some weight =>
    have inside : ((ends other).1, (ends other).2, weight) ∈ edges := by
      rw [made]
      exact List.mem_map.mpr ⟨(other, weight), WeightMap.mem_entries.mpr held, rfl⟩
    rw [edgeWeight_attachAll_of_listed live ?_ inside, absent]
    · rfl
    · rw [listed]
      exact border.nodup_keys.map injective

/-! The merged graph. -/

omit [Quantity α] in
/-- No edge at a member is left, and the others are as they were. -/
theorem Consistent.edgeWeight_isolated (consistent : graph.Consistent) {members : List Nat}
    {survivor : Nat} (inside : survivor ∈ members) (caller callee : Nat) :
    (graph.isolated members survivor).edgeWeight? caller callee =
      if caller ∈ members ∨ callee ∈ members then none else graph.edgeWeight? caller callee := by
  have cleared : ∀ handle, handle ∈ members ↔
      handle = survivor ∨ handle ∈ members.filter (· != survivor) := by
    intro handle
    by_cases same : handle = survivor <;> simp [same, inside]
  rw [CallGraph.isolated, (consistent.deleteAll _).edgeWeight_detach,
    consistent.edgeWeight_deleteAll]
  simp only [cleared caller, cleared callee]
  by_cases atSurvivor : caller = survivor ∨ callee = survivor
  · rw [if_pos atSurvivor, if_pos (atSurvivor.imp .inl .inl)]
  · obtain ⟨first, last⟩ := not_or.mp atSurvivor
    rw [if_neg atSurvivor]
    simp only [first, last, false_or]

section Merged
variable {members : List Nat} {survivor caller callee : Nat}

theorem edgeWeight_merged (members : List Nat) (survivor caller callee : Nat) :
    (graph.merged members survivor).edgeWeight? caller callee =
      (graph.rejoined members survivor).edgeWeight? caller callee :=
  edgeWeight_modifyNode ..

theorem inflowCoverage_merged (members : List Nat) (survivor : Nat) :
    (graph.merged members survivor).inflowCoverage survivor =
      (graph.rejoined members survivor).inflowCoverage survivor := by
  have callers : (graph.merged members survivor).predecessors survivor =
      (graph.rejoined members survivor).predecessors survivor :=
    predecessors_congr fun caller => callerWeight_modifyNode ..
  rw [inflowCoverage, inWeight, callers]
  rfl

/-- The coverage of the survivor is that of the calls which it receives. -/
theorem coverage_merged_survivor {node : Node α}
    (held : (graph.merged members survivor).node? survivor = some node) :
    node.coverage = (graph.merged members survivor).inflowCoverage survivor := by
  rw [inflowCoverage_merged]
  rw [merged, node_modifyNode, if_pos rfl] at held
  obtain ⟨_, _, rfl⟩ := Option.map_eq_some_iff.mp held
  rfl

/-- Nodes outside call each other as before. -/
theorem Consistent.edgeWeight_merged_outside (consistent : graph.Consistent)
    (live : ∀ member ∈ members, graph.contains member) (inside : survivor ∈ members)
    (first : caller ∉ members) (last : callee ∉ members) :
    (graph.merged members survivor).edgeWeight? caller callee =
      graph.edgeWeight? caller callee := by
  obtain ⟨inLive, outLive⟩ := consistent.endsLive_border live inside
  have unattached : ∀ {edges : List (Nat × Nat × α)},
      (¬ ∃ weight, (caller, callee, weight) ∈ edges) →
      (caller, callee) ∉ edges.map fun edge => (edge.1, edge.2.1) := by
    intro edges absent member
    obtain ⟨edge, listed, same⟩ := List.mem_map.mp member
    cases same
    exact absent ⟨edge.2.2, listed⟩
  rw [edgeWeight_merged, rejoined,
    edgeWeight_attachAll_of_unlisted outLive (unattached fun listed => first ?_),
    edgeWeight_attachAll_of_unlisted inLive (unattached fun listed => last ?_),
    consistent.edgeWeight_isolated inside, if_neg (not_or.mpr ⟨first, last⟩)]
  · exact (consistent.mem_inboundEdges.mp listed).1 ▸ inside
  · exact (mem_outboundEdges.mp listed).1 ▸ inside

/-- The survivor is called with the sum of the weights with which the members
were called. -/
theorem Consistent.edgeWeight_merged_inbound (consistent : graph.Consistent)
    (live : ∀ member ∈ members, graph.contains member) (inside : survivor ∈ members)
    (outside : caller ∉ members) :
    (graph.merged members survivor).edgeWeight? caller survivor =
      if crossings graph.predecessors members caller = [] then none
      else some (Quantity.truncate (Quantity.zero +
        (crossings graph.predecessors members caller).foldl (· + ·) Quantity.zero)) := by
  obtain ⟨inLive, outLive⟩ := consistent.endsLive_border live inside
  have unattached : (caller, survivor) ∉
      (graph.outboundEdges members survivor).map fun edge => (edge.1, edge.2.1) := by
    intro member
    obtain ⟨edge, listed, same⟩ := List.mem_map.mp member
    cases same
    exact outside ((mem_outboundEdges.mp ⟨edge.2.2, listed⟩).1 ▸ inside)
  have injective : Function.Injective fun other : Nat => (other, survivor) :=
    fun _ _ same => congrArg Prod.fst same
  rw [edgeWeight_merged, rejoined, edgeWeight_attachAll_of_unlisted outLive unattached]
  refine (edgeWeight_attachAll_border (borderWeights graph.predecessors members) injective rfl
    inLive caller ?_).trans ?_
  · rw [consistent.edgeWeight_isolated inside, if_pos (.inr inside)]
  · rw [get_borderWeights graph.predecessors outside]
    split <;> rfl

/-- The survivor calls with the sum of the weights with which the members
called. -/
theorem Consistent.edgeWeight_merged_outbound (consistent : graph.Consistent)
    (live : ∀ member ∈ members, graph.contains member) (inside : survivor ∈ members)
    (outside : callee ∉ members) :
    (graph.merged members survivor).edgeWeight? survivor callee =
      if crossings graph.successors members callee = [] then none
      else some (Quantity.truncate (Quantity.zero +
        (crossings graph.successors members callee).foldl (· + ·) Quantity.zero)) := by
  obtain ⟨inLive, outLive⟩ := consistent.endsLive_border live inside
  have unattached : (survivor, callee) ∉
      (graph.inboundEdges members survivor).map fun edge => (edge.1, edge.2.1) := by
    intro member
    obtain ⟨edge, listed, same⟩ := List.mem_map.mp member
    cases same
    exact outside ((consistent.mem_inboundEdges.mp ⟨edge.2.2, listed⟩).1 ▸ inside)
  have injective : Function.Injective fun other : Nat => (survivor, other) :=
    fun _ _ same => congrArg Prod.snd same
  rw [edgeWeight_merged, rejoined]
  refine (edgeWeight_attachAll_border (borderWeights graph.successors members) injective rfl
    outLive callee ?_).trans ?_
  · rw [edgeWeight_attachAll_of_unlisted inLive unattached,
      consistent.edgeWeight_isolated inside, if_pos (.inl inside)]
  · rw [get_borderWeights graph.successors outside]
    split <;> rfl

end Merged

end ProfileGraph.CallGraph
