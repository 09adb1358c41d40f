import ProfileGraph.Proofs.Ordering
import ProfileGraph.Proofs.Steps
import ProfileGraph.Simplify.Prune

/-! What pruning leaves of the connections. One removal links every caller of
the removed node to every callee, whatever weight the new edges carry, and
touches nothing else; along a run, the edges between the nodes that are left
are then the paths of the first graph that lead through removed nodes only. -/
namespace ProfileGraph

/-- A node without its self coverage, the one field that pruning rewrites. -/
def Node.bare {α : Type} [Quantity α] (node : Node α) : Node α :=
  { node with selfCoverage := Quantity.zero }

namespace CallGraph
variable {α : Type} {graph middle result : CallGraph α}

/-! Paths through removed nodes. -/

/-- A path leads from one node to another, and all nodes between them are
among those removed. -/
inductive Bridged (graph : CallGraph α) (removed : List Nat) : Nat → Nat → Prop
  | edge {caller callee : Nat} : graph.Calls caller callee → Bridged graph removed caller callee
  | through {caller between callee : Nat} : graph.Calls caller between → between ∈ removed →
      Bridged graph removed between callee → Bridged graph removed caller callee

theorem Bridged.mono {removed more : List Nat} {caller callee : Nat}
    (bridged : graph.Bridged removed caller callee) (subset : removed ⊆ more) :
    graph.Bridged more caller callee := by
  induction bridged with
  | edge edge => exact .edge edge
  | through edge inside _ ih => exact .through edge (subset inside) ih

theorem Bridged.join {removed : List Nat} {caller between callee : Nat}
    (first : graph.Bridged removed caller between) (inside : between ∈ removed)
    (second : graph.Bridged removed between callee) : graph.Bridged removed caller callee := by
  induction first with
  | edge edge => exact .through edge inside second
  | through edge inside' _ ih => exact .through edge inside' (ih inside second)

theorem Bridged.reaches {removed : List Nat} {caller callee : Nat}
    (bridged : graph.Bridged removed caller callee) : graph.Reaches caller callee := by
  induction bridged with
  | edge edge => exact .single edge
  | through edge _ _ ih => exact .head edge ih

/-- A path through one more removed node passes it or does not. -/
theorem bridged_concat {removed : List Nat} {gone caller callee : Nat} :
    graph.Bridged (removed ++ [gone]) caller callee ↔ graph.Bridged removed caller callee ∨
      graph.Bridged removed caller gone ∧ graph.Bridged removed gone callee := by
  have subset : removed ⊆ removed ++ [gone] := List.subset_append_left ..
  constructor
  · intro bridged
    induction bridged with
    | edge edge => exact .inl (.edge edge)
    | through edge inside _ ih =>
      rcases List.mem_append.mp inside with inside | same
      · exact ih.imp (.through edge inside) fun ⟨first, second⟩ =>
          ⟨.through edge inside first, second⟩
      · cases List.mem_singleton.mp same
        exact .inr ⟨.edge edge, ih.elim id fun ⟨_, second⟩ => second⟩
  · rintro (bridged | ⟨first, second⟩)
    · exact bridged.mono subset
    · exact (first.mono subset).join (by simp) (second.mono subset)

/-- The path spelled out. -/
theorem bridged_iff_isChain {removed : List Nat} {caller callee : Nat} :
    graph.Bridged removed caller callee ↔ ∃ between : List Nat,
      (∀ node ∈ between, node ∈ removed) ∧
        (caller :: (between ++ [callee])).IsChain graph.Calls := by
  constructor
  · intro bridged
    induction bridged with
    | edge edge => exact ⟨[], by simp, by simpa using edge⟩
    | @through _ node _ edge inside _ ih =>
      obtain ⟨between, removed, chain⟩ := ih
      exact ⟨node :: between, List.forall_mem_cons.mpr ⟨inside, removed⟩,
        List.isChain_cons_cons.mpr ⟨edge, chain⟩⟩
  · rintro ⟨between, removed, chain⟩
    induction between generalizing caller with
    | nil => exact .edge (by simpa using chain)
    | cons node later ih =>
      obtain ⟨inside, removed⟩ := List.forall_mem_cons.mp removed
      obtain ⟨edge, chain⟩ := List.isChain_cons_cons.mp chain
      exact .through edge inside (ih removed chain)

variable [Quantity α]

/-! Linking. -/

/-- Some edges are created or strengthened. Other edges, and all that is noted
about nodes but their self coverage, stay as they are. -/
structure Linked (graph : CallGraph α) (added : Nat → Nat → Prop) (result : CallGraph α) :
    Prop where
  consistent : result.Consistent
  contains_eq : ∀ handle, result.contains handle = graph.contains handle
  bare_eq : ∀ handle, (result.node? handle).map Node.bare = (graph.node? handle).map Node.bare
  calls_iff : ∀ caller callee,
    result.Calls caller callee ↔ graph.Calls caller callee ∨ added caller callee
  unlinked : ∀ caller callee, ¬ added caller callee →
    result.edgeWeight? caller callee = graph.edgeWeight? caller callee
  totalSamples : result.totalSamples = graph.totalSamples

theorem Linked.refl (consistent : graph.Consistent) : graph.Linked (fun _ _ => False) graph where
  consistent := consistent
  contains_eq _ := rfl
  bare_eq _ := rfl
  calls_iff _ _ := (or_iff_left not_false).symm
  unlinked _ _ _ := rfl
  totalSamples := rfl

/-- Nodes that are not linked call each other as before. -/
theorem Linked.calls_eq (linked : graph.Linked (fun _ _ => False) result) :
    result.Calls = graph.Calls := by
  funext caller callee
  exact propext ((linked.calls_iff caller callee).trans (or_iff_left not_false))

theorem Linked.trans {first second : Nat → Nat → Prop} (before : graph.Linked first middle)
    (after : middle.Linked second result) :
    graph.Linked (fun caller callee => first caller callee ∨ second caller callee) result where
  consistent := after.consistent
  contains_eq handle := (after.contains_eq handle).trans (before.contains_eq handle)
  bare_eq handle := (after.bare_eq handle).trans (before.bare_eq handle)
  calls_iff caller callee := by rw [after.calls_iff, before.calls_iff, or_assoc]
  unlinked caller callee absent := by
    obtain ⟨early, late⟩ := not_or.mp absent
    exact (after.unlinked caller callee late).trans (before.unlinked caller callee early)
  totalSamples := after.totalSamples.trans before.totalSamples

theorem Linked.congr {added same : Nat → Nat → Prop} (linked : graph.Linked added result)
    (agree : ∀ caller callee, added caller callee ↔ same caller callee) :
    graph.Linked same result where
  consistent := linked.consistent
  contains_eq := linked.contains_eq
  bare_eq := linked.bare_eq
  calls_iff caller callee := by rw [linked.calls_iff, agree]
  unlinked caller callee absent := linked.unlinked caller callee fun present =>
    absent ((agree caller callee).mp present)
  totalSamples := linked.totalSamples

/-- If every step of a loop links some nodes and none fails, the loop links
them all. -/
theorem Consistent.forEach_linked {β : Type} (consistent : graph.Consistent)
    (step : β → CallGraph α → PassResult Unit α) (added : β → Nat → Nat → Prop) (items : List β)
    (steps : ∀ item ∈ items, ∀ middle : CallGraph α, middle.Consistent →
      (∀ handle, middle.contains handle = graph.contains handle) →
      ∃ result, step item middle = ⟨result, .ok ()⟩ ∧ middle.Linked (added item) result) :
    ∃ result, forEach step items graph = ⟨result, .ok ()⟩ ∧
      graph.Linked (fun caller callee => ∃ item ∈ items, added item caller callee) result := by
  induction items generalizing graph with
  | nil => exact ⟨graph, rfl, (Linked.refl consistent).congr fun _ _ => by simp⟩
  | cons item later ih =>
    obtain ⟨middle, ran, linked⟩ := steps item List.mem_cons_self graph consistent fun _ => rfl
    obtain ⟨result, ranOn, onward⟩ := ih linked.consistent fun other member between kept same =>
      steps other (List.mem_cons_of_mem item member) between kept fun handle =>
        (same handle).trans (linked.contains_eq handle)
    refine ⟨result, ?_, (linked.trans onward).congr fun _ _ => by simp⟩
    rw [forEach, ran]
    exact ranOn

theorem Consistent.linked_strengthen (consistent : graph.Consistent) {source target : Nat}
    (sourceLive : graph.contains source) (targetLive : graph.contains target) (weight : α) :
    graph.Linked (fun caller callee => caller = source ∧ callee = target)
      (graph.strengthen source target weight) where
  consistent := consistent.strengthen sourceLive targetLive weight
  contains_eq := by simp
  bare_eq := by simp
  calls_iff _ _ := calls_strengthen sourceLive
  unlinked _ _ other := edgeWeight_strengthen_of_ne weight other
  totalSamples := rfl

/-- Rewriting the self coverage of a node links nothing. -/
theorem Consistent.linked_modifyNode (consistent : graph.Consistent) (handle : Nat)
    {change : Node α → Node α} (bare : ∀ node, (change node).bare = node.bare) :
    graph.Linked (fun _ _ => False) (graph.modifyNode handle change) where
  consistent := consistent.modifyNode handle change
  contains_eq other := contains_modifyNode handle other change
  bare_eq other := by
    rw [node_modifyNode]
    split
    next => cases graph.node? other <;> simp [bare]
    next => rfl
  calls_iff _ _ := by rw [Calls, edgeWeight_modifyNode, ← Calls, or_false]
  unlinked _ _ _ := edgeWeight_modifyNode ..
  totalSamples := rfl

/-- Handing over to one caller never fails. -/
theorem Consistent.handOver_spec (consistent : graph.Consistent) {callees : List (Nat × α)}
    {entry : Nat × α} (live : graph.contains entry.1)
    (calleesLive : ∀ callee ∈ callees.map (·.1), graph.contains callee)
    (selfCoverage inWeight : α) :
    ∃ result, handOver selfCoverage inWeight callees entry graph = ⟨result, .ok ()⟩ ∧
      graph.Linked (fun caller callee => caller = entry.1 ∧ callee ∈ callees.map (·.1)) result := by
  obtain ⟨caller, received⟩ := entry
  have credited : graph.Linked (fun _ _ => False)
      (graph.credit caller (Quantity.roundTo 2 (received / inWeight)) selfCoverage) :=
    consistent.linked_modifyNode caller fun _ => rfl
  obtain ⟨result, ran, linked⟩ := credited.consistent.forEach_linked
    (fun edge graph => graph.attempt (graph.addEdgeBetween caller edge.1
      (Quantity.roundTo 2 (received * (edge.2 / inWeight)))))
    (fun edge source target => source = caller ∧ target = edge.1) callees
    fun edge member middle kept same => by
      have callerLive : middle.contains caller := by rw [same, credited.contains_eq, live]
      have calleeLive : middle.contains edge.1 := by
        rw [same, credited.contains_eq, calleesLive edge.1 (List.mem_map_of_mem member)]
      refine ⟨_, ?_, kept.linked_strengthen callerLive calleeLive
        (Quantity.roundTo 2 (received * (edge.2 / inWeight)))⟩
      rw [addEdgeBetween_of_live callerLive calleeLive]
      rfl
  refine ⟨result, ran, (credited.trans linked).congr fun source target => ?_⟩
  simp only [false_or, List.mem_map]
  constructor
  · rintro ⟨edge, member, first, last⟩
    exact ⟨first, edge, member, last.symm⟩
  · rintro ⟨first, edge, member, last⟩
    exact ⟨edge, member, first, last.symm⟩

/-! Removing one node. -/

/-- A node is removed, and every one of its callers calls every one of its
callees. The callers of nodes that it did not call stay as they are. -/
structure Eliminated (graph : CallGraph α) (gone : Nat) (result : CallGraph α) : Prop where
  consistent : result.Consistent
  contains_iff : ∀ handle, result.contains handle ↔ graph.contains handle ∧ handle ≠ gone
  bare_eq : ∀ handle, handle ≠ gone →
    (result.node? handle).map Node.bare = (graph.node? handle).map Node.bare
  calls_iff : ∀ caller callee, result.Calls caller callee ↔ caller ≠ gone ∧ callee ≠ gone ∧
    (graph.Calls caller callee ∨ graph.Calls caller gone ∧ graph.Calls gone callee)
  predecessors_eq : ∀ handle, handle ≠ gone → ¬ graph.Calls gone handle →
    result.predecessors handle = graph.predecessors handle
  totalSamples : result.totalSamples = graph.totalSamples

theorem Linked.eliminated {gone : Nat} (linked : graph.Linked (fun caller callee =>
    graph.Calls caller gone ∧ graph.Calls gone callee) result) (consistent : graph.Consistent) :
    graph.Eliminated gone (result.delete gone) where
  consistent := linked.consistent.delete gone
  contains_iff handle := by rw [contains_delete, linked.contains_eq]; simp
  bare_eq handle different := by rw [node_delete, if_neg different, linked.bare_eq]
  calls_iff caller callee := by
    rw [Calls, linked.consistent.edgeWeight_delete, ← linked.calls_iff]
    split
    next gone => simpa using fun first last => absurd gone (not_or.mpr ⟨first, last⟩)
    next kept =>
      obtain ⟨first, last⟩ := not_or.mp kept
      exact ⟨fun edge => ⟨first, last, edge⟩, fun kept => kept.2.2⟩
  predecessors_eq handle different uncalled := by
    refine predecessors_congr fun caller => ?_
    rw [← linked.consistent.delete gone, ← consistent, linked.consistent.edgeWeight_delete]
    split
    next gone =>
      rcases gone with rfl | same
      · exact (Option.not_isSome_iff_eq_none.mp uncalled).symm
      · exact absurd same different
    next => exact linked.unlinked caller handle fun linked => uncalled linked.2
  totalSamples := (totalSamples_delete gone).trans linked.totalSamples

/-- Handing over to all callers of a node never fails, and links each of them to
each callee. -/
theorem Consistent.handOvers_spec (consistent : graph.Consistent) (handle : Nat)
    (selfCoverage : α) :
    ∃ result, forEach (handOver selfCoverage (graph.inWeight handle) (graph.successors handle))
        (graph.predecessors handle) graph = ⟨result, .ok ()⟩ ∧
      graph.Linked (fun caller callee => graph.Calls caller handle ∧ graph.Calls handle callee)
        result := by
  obtain ⟨result, ran, linked⟩ := consistent.forEach_linked
    (handOver selfCoverage (graph.inWeight handle) (graph.successors handle))
    (fun entry caller callee =>
      caller = entry.1 ∧ callee ∈ (graph.successors handle).map (·.1))
    (graph.predecessors handle) fun entry member middle kept same => by
      refine kept.handOver_spec ?_ (fun callee called => ?_) _ _
      · have edge := consistent.mem_callers.mp (List.mem_map_of_mem (f := (·.1)) member)
        rw [same, contains_caller edge]
      · rw [same, consistent.contains_callee (mem_callees.mp called)]
  refine ⟨result, ran, linked.congr fun caller callee => ?_⟩
  rw [← consistent.mem_callers, ← mem_callees]
  simp only [List.mem_map]
  constructor
  · rintro ⟨entry, member, first, last⟩
    exact ⟨⟨entry, member, first.symm⟩, last⟩
  · rintro ⟨⟨entry, member, first⟩, last⟩
    exact ⟨entry, member, first.symm, last⟩

/-- Removing a live node never fails. -/
theorem Consistent.removeAndBridge_spec (consistent : graph.Consistent) {handle : Nat}
    (live : graph.contains handle) (node : Node α) :
    ∃ result, graph.removeAndBridge handle node = ⟨result, .ok ()⟩ ∧
      graph.Eliminated handle result := by
  obtain ⟨result, ran, bridged⟩ := consistent.handOvers_spec handle node.selfCoverage
  refine ⟨result.delete handle, ?_, bridged.eliminated consistent⟩
  rw [removeAndBridge, ran]
  exact removal_of_live (by rw [bridged.contains_eq, live])

/-! Removing many nodes. -/

/-- What is left of a graph once some of its nodes are removed one after the
other. -/
structure Pruned (graph : CallGraph α) (removed : List Nat) (result : CallGraph α) : Prop where
  consistent : result.Consistent
  live : ∀ handle ∈ removed, graph.contains handle
  contains_iff : ∀ handle, result.contains handle ↔ graph.contains handle ∧ handle ∉ removed
  bare_eq : ∀ handle, handle ∉ removed →
    (result.node? handle).map Node.bare = (graph.node? handle).map Node.bare
  calls_iff : ∀ caller callee, caller ∉ removed → callee ∉ removed →
    (result.Calls caller callee ↔ graph.Bridged removed caller callee)
  totalSamples : result.totalSamples = graph.totalSamples

theorem Pruned.refl (consistent : graph.Consistent) : graph.Pruned [] graph where
  consistent := consistent
  live := by simp
  contains_iff := by simp
  bare_eq _ _ := rfl
  calls_iff caller callee _ _ := by
    refine ⟨.edge, fun bridged => ?_⟩
    cases bridged with
    | edge edge => exact edge
    | through _ inside _ => cases inside
  totalSamples := rfl

/-- The bridges of one removal are the callers and callees of later ones. -/
theorem Pruned.eliminate {removed : List Nat} {gone : Nat} (pruned : graph.Pruned removed middle)
    (eliminated : middle.Eliminated gone result) (live : middle.contains gone) :
    graph.Pruned (removed ++ [gone]) result where
  consistent := eliminated.consistent
  live handle member := by
    rcases List.mem_append.mp member with earlier | same
    · exact pruned.live handle earlier
    · exact List.mem_singleton.mp same ▸ ((pruned.contains_iff gone).mp live).1
  contains_iff handle := by
    rw [eliminated.contains_iff, pruned.contains_iff, and_assoc]
    simp
  bare_eq handle kept := by
    simp only [List.mem_append, List.mem_singleton, not_or] at kept
    exact (eliminated.bare_eq handle kept.2).trans (pruned.bare_eq handle kept.1)
  calls_iff caller callee first last := by
    simp only [List.mem_append, List.mem_singleton, not_or] at first last
    have between := ((pruned.contains_iff gone).mp live).2
    rw [eliminated.calls_iff, and_iff_right first.2, and_iff_right last.2, bridged_concat,
      pruned.calls_iff caller callee first.1 last.1, pruned.calls_iff caller gone first.1 between,
      pruned.calls_iff gone callee between last.1]
  totalSamples := eliminated.totalSamples.trans pruned.totalSamples

/-- Every path of the first graph between nodes that are left is one of the
last graph, and the other way round. -/
theorem Pruned.reaches_iff {removed : List Nat} (pruned : graph.Pruned removed result)
    {caller callee : Nat} (first : caller ∉ removed) (last : callee ∉ removed) :
    result.Reaches caller callee ↔ graph.Reaches caller callee := by
  constructor
  · intro path
    induction path with
    | refl => exact .refl
    | @tail between callee _ edge ih =>
      have live := ((pruned.contains_iff between).mp (contains_caller edge)).2
      exact (ih live).trans ((pruned.calls_iff between callee live last).mp edge).reaches
  · intro path
    -- A path that ends among the removed nodes left the others at some node for good.
    have follow : (callee ∉ removed → result.Reaches caller callee) ∧ (callee ∈ removed →
        ∃ left, left ∉ removed ∧ result.Reaches caller left ∧
          graph.Bridged removed left callee) := by
      clear last
      induction path with
      | refl => exact ⟨fun _ => .refl, fun inside => absurd inside first⟩
      | @tail between callee _ edge ih =>
        by_cases inside : between ∈ removed
        · obtain ⟨left, outside, path, bridged⟩ := ih.2 inside
          have onward := bridged.join inside (.edge edge)
          exact ⟨fun last => path.tail ((pruned.calls_iff left callee outside last).mpr onward),
            fun _ => ⟨left, outside, path, onward⟩⟩
        · exact ⟨fun last =>
              (ih.1 inside).tail ((pruned.calls_iff between callee inside last).mpr (.edge edge)),
            fun _ => ⟨between, inside, ih.1 inside, .edge edge⟩⟩
    exact follow.1 last

end CallGraph
end ProfileGraph
