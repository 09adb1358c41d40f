import ProfileGraph.Proofs.BorderWeights
import ProfileGraph.Proofs.Magnitudes
import ProfileGraph.Proofs.MostCovered
import ProfileGraph.Proofs.Reworking

/-! Collapsing as a quotient. Whatever live nodes are listed, what is left is the
graph in which they are one node: the survivor takes the place of all of them in
every edge across their border, the edges among them are gone, and nothing else has
changed but the coverage of the survivor. -/
namespace ProfileGraph

/-! Sums from zero. -/

namespace Binary64

/-- Only zero is rounded to zero. -/
theorem roundUnits_pos {units : Nat} (some : 0 < units) : 0 < roundUnits units 1 :=
  le_roundUnits Nat.one_pos isMagnitude_one (by omega)

theorem rounded_ne_negative_zero {negative : Bool} {units : Nat}
    (some : negative = true → 0 < units) : rounded negative units 1 ≠ signedZero true := by
  rw [rounded, ofUnits, signedZero]
  split
  next =>
    intro same
    obtain ⟨rfl, none⟩ := Binary64.finite.inj same
    exact absurd none (Nat.ne_of_gt (roundUnits_pos (some rfl)))
  next => exact Binary64.noConfusion

/-- What is added to a number other than the negative zero does not make it one. -/
theorem add_ne_negative_zero {total : Binary64} (ne : total ≠ signedZero true) (term : Binary64) :
    total + term ≠ signedZero true := by
  cases total with
  | nan => exact Binary64.noConfusion
  | infinity s =>
    cases term with
    | nan => exact Binary64.noConfusion
    | infinity t => cases s <;> cases t <;> exact Binary64.noConfusion
    | finite => exact Binary64.noConfusion
  | finite s a inRange =>
    cases term with
    | nan => exact Binary64.noConfusion
    | infinity t => exact Binary64.noConfusion
    | finite t b fits =>
      show Binary64.add _ _ ≠ _
      rw [Binary64.add]
      split
      next same =>
        refine rounded_ne_negative_zero fun below => Nat.add_pos_left ?_ b
        refine Nat.pos_of_ne_zero fun none => ne ?_
        subst below none
        rfl
      next =>
        split
        next less => exact rounded_ne_negative_zero fun _ => Nat.sub_pos_of_lt less
        next =>
          split
          next less => exact rounded_ne_negative_zero fun _ => Nat.sub_pos_of_lt less
          next => simp [signedZero]

/-- The positive zero changes no number but the negative zero. -/
theorem zero_add_of_ne {total : Binary64} (ne : total ≠ signedZero true) :
    signedZero false + total = total := by
  cases total with
  | nan => rfl
  | infinity => rfl
  | finite negative units magnitude =>
    cases negative with
    | false => exact signedZero_add_finite false magnitude
    | true =>
      have some : 0 < units := Nat.pos_of_ne_zero fun none => ne (by subst none; rfl)
      show Binary64.add _ _ = _
      rw [signedZero, Binary64.add, if_neg (by decide), if_neg (Nat.not_lt_zero units), if_pos some,
        Nat.sub_zero, rounded_of_isMagnitude true magnitude]

theorem foldl_ne_negative_zero (terms : List Binary64) {total : Binary64}
    (ne : total ≠ signedZero true) : terms.foldl (· + ·) total ≠ signedZero true := by
  induction terms generalizing total with
  | nil => exact ne
  | cons term later ih => exact ih (add_ne_negative_zero ne term)

end Binary64

/-! The quotient. -/

namespace CallGraph

variable {graph result : CallGraph Binary64} {members : List Nat} {survivor : Nat}

/-- The weight of the edge that takes the place of others: their weights summed from
left to right and cut down to a whole number. No edge takes the place of none. -/
def joinedWeight (weights : List Binary64) : Option Binary64 :=
  if weights = [] then none
  else some (weights.foldl (· + ·) (Binary64.signedZero false)).truncate

/-- A graph is another one in which some nodes, each given once, have become one of
them. -/
structure IsQuotient (graph : CallGraph Binary64) (members : List Nat) (survivor : Nat)
    (result : CallGraph Binary64) : Prop where
  consistent : result.Consistent
  contains_iff : ∀ handle, result.contains handle ↔
    graph.contains handle ∧ (handle ∈ members → handle = survivor)
  calls_survivor : ∀ caller ∉ members,
    (result.Calls caller survivor ↔ ∃ member ∈ members, graph.Calls caller member)
  survivor_calls : ∀ callee ∉ members,
    (result.Calls survivor callee ↔ ∃ member ∈ members, graph.Calls member callee)
  inbound : ∀ caller ∉ members, result.edgeWeight? caller survivor =
    joinedWeight (members.filterMap (graph.edgeWeight? caller))
  outbound : ∀ callee ∉ members, result.edgeWeight? survivor callee =
    joinedWeight (members.filterMap (graph.edgeWeight? · callee))
  inner : ∀ caller ∈ members, ∀ callee ∈ members, result.edgeWeight? caller callee = none
  deleted : ∀ member ∈ members, member ≠ survivor → ∀ other,
    result.edgeWeight? member other = none ∧ result.edgeWeight? other member = none
  outer : ∀ caller ∉ members, ∀ callee ∉ members,
    result.edgeWeight? caller callee = graph.edgeWeight? caller callee
  node_outer : ∀ handle ∉ members, result.node? handle = graph.node? handle
  node_survivor : ∀ node, graph.node? survivor = some node →
    result.node? survivor = some { node with
      coverage := (Binary64.ofNat 100 * result.inWeight survivor
        / Binary64.ofNat result.totalSamples).roundTo 1 }
  fields : result.interestMarker = graph.interestMarker ∧
    result.totalSamples = graph.totalSamples ∧ result.coverage = graph.coverage ∧
    result.selector = graph.selector

/-- Where the weights of the border are added up, and then put on top of no edge, one
sum is left. -/
theorem joinedWeight_eq (weights : List Binary64) :
    (if weights = [] then none
      else some (Quantity.truncate (Quantity.zero + weights.foldl (· + ·) Quantity.zero))) =
      joinedWeight weights := by
  have start : Binary64.signedZero false ≠ Binary64.signedZero true := by decide
  have total := Binary64.zero_add_of_ne (Binary64.foldl_ne_negative_zero weights start)
  rw [joinedWeight]
  split
  next => rfl
  next => exact congrArg (fun sum : Binary64 => some sum.truncate) total

theorem Merged.calls_survivor (left : graph.Merged members survivor result) {caller : Nat}
    (outside : caller ∉ members) :
    result.Calls caller survivor ↔ ∃ member ∈ members, graph.Calls caller member := by
  have apart : caller ≠ survivor := fun same => outside (same ▸ left.inside)
  simp [left.calls_iff, left.inside, outside, apart]

theorem Merged.survivor_calls (left : graph.Merged members survivor result) {callee : Nat}
    (outside : callee ∉ members) :
    result.Calls survivor callee ↔ ∃ member ∈ members, graph.Calls member callee := by
  have apart : callee ≠ survivor := fun same => outside (same ▸ left.inside)
  simp [left.calls_iff, left.inside, outside, apart]

theorem Merged.inner (left : graph.Merged members survivor result) {caller callee : Nat}
    (first : caller ∈ members) (last : callee ∈ members) :
    result.edgeWeight? caller callee = none := by
  refine Option.not_isSome_iff_eq_none.mp fun (edge : result.Calls caller callee) => ?_
  simp [left.calls_iff, first, last] at edge

theorem Merged.deleted (left : graph.Merged members survivor result) {member : Nat}
    (inside : member ∈ members) (apart : member ≠ survivor) (other : Nat) :
    result.edgeWeight? member other = none ∧ result.edgeWeight? other member = none := by
  refine ⟨Option.not_isSome_iff_eq_none.mp fun (edge : result.Calls member other) => ?_,
    Option.not_isSome_iff_eq_none.mp fun (edge : result.Calls other member) => ?_⟩
  all_goals simp [left.calls_iff, inside, apart] at edge

/-- Merging live nodes makes their quotient. -/
theorem Consistent.isQuotient_merged (consistent : graph.Consistent) (distinct : members.Nodup)
    (live : ∀ member ∈ members, graph.contains member) (inside : survivor ∈ members) :
    graph.IsQuotient members survivor (graph.merged members survivor) := by
  obtain ⟨ran, left⟩ := consistent.merge_spec distinct live inside
  have reworked : graph.Reworked (graph.merged members survivor) := by
    have made : graph.Reworked _ := reworked_merge members survivor
    rwa [ran] at made
  refine
    { consistent := left.consistent
      contains_iff := left.contains_iff
      calls_survivor := fun _ => left.calls_survivor
      survivor_calls := fun _ => left.survivor_calls
      inbound := fun caller outside => ?_
      outbound := fun callee outside => ?_
      inner := fun _ first _ last => left.inner first last
      deleted := fun _ inside apart => left.deleted inside apart
      outer := fun _ first _ last => consistent.edgeWeight_merged_outside live inside first last
      node_outer := left.node_eq
      node_survivor := fun node held => ?_
      fields := reworked.fields }
  · rw [consistent.edgeWeight_merged_inbound live inside outside,
      consistent.crossings_predecessors, joinedWeight_eq]
  · rw [consistent.edgeWeight_merged_outbound live inside outside, crossings_successors,
      joinedWeight_eq]
  · obtain ⟨coverage, kept⟩ := left.survivor_eq node held
    have found : coverage = _ := coverage_merged_survivor kept
    rw [kept, found]
    rfl

/-- In a reachable graph with samples, any listed live nodes whose coverages are
numbers collapse into their quotient. The survivor is the one listed first among those
with most coverage; the others are reported once each, in the order in which they are
first listed. -/
theorem Reachable.collapseCycle_isQuotient (reachable : graph.Reachable)
    (samples : 0 < graph.totalSamples) {listed : List Nat} (nonempty : listed ≠ [])
    (live : ∀ handle ∈ listed, graph.contains handle)
    (numbers : ∀ handle ∈ listed, graph.coverageOf? handle ≠ some .nan) :
    ∃ members survivor cycle result, graph.collapseCycle listed = .ok (cycle, result) ∧
      ListsOnce listed members ∧ graph.IsMostCovered listed survivor ∧
      graph.IsQuotient members survivor result ∧
      cycle.survivor = graph.profilerId survivor ∧
      cycle.removed = (members.filter (· != survivor)).map graph.profilerId ∧
      result.coverageOf? survivor = some cycle.coverage := by
  have consistent := reachable.consistent
  have lists := listsOnce_eraseDups listed
  have comparable : graph.Comparable listed := by
    intro handle inside
    obtain ⟨node, held⟩ := contains_iff_node.mp (live handle inside)
    have covered : graph.coverageOf? handle = some node.coverage := by rw [coverageOf?, held]; rfl
    exact ⟨node.coverage, covered, fun none => numbers handle inside (none ▸ covered)⟩
  obtain ⟨survivor, chosen, most⟩ := comparable.mostCovered nonempty
  have inside := (lists.mem_iff survivor).mpr most.mem
  have membersLive : ∀ member ∈ listed.eraseDups, graph.contains member := fun member once =>
    live member ((lists.mem_iff member).mp once)
  have quotient := consistent.isQuotient_merged lists.nodup membersLive inside
  obtain ⟨merged, left⟩ := consistent.merge_spec lists.nodup membersLive inside
  have present : listed.find? (fun handle => !graph.contains handle) = none :=
    List.find?_eq_none.mpr fun handle member => by simp [live handle member]
  have ran : graph.collapse listed = graph.merge listed.eraseDups survivor := by
    rw [collapse, if_neg (Nat.ne_of_gt samples), present]
    dsimp only
    rw [chosen]
  obtain ⟨node, held⟩ := contains_iff_node.mp (live survivor most.mem)
  have succeeds := (congrArg PassResult.toExcept (ran.trans merged))
  refine ⟨listed.eraseDups, survivor, _, _, succeeds, lists, most, quotient, rfl, rfl, ?_⟩
  rw [← inflowCoverage_merged, coverageOf?, quotient.node_survivor node held]
  rfl

/-- Two functions that call each other are listed, one of them twice; the one between
them and the start calls itself. -/
theorem recursive_collapseCycle_isQuotient :
    ∃ members survivor cycle result,
      recursive.collapseCycle [2, 1, 2] = .ok (cycle, result) ∧
      ListsOnce [2, 1, 2] members ∧ recursive.IsMostCovered [2, 1, 2] survivor ∧
      recursive.IsQuotient members survivor result ∧
      cycle.survivor = recursive.profilerId survivor := by
  have samples : 0 < recursive.totalSamples := by decide +kernel
  have live : ∀ handle ∈ [2, 1, 2], recursive.contains handle := by decide +kernel
  have numbers : ∀ handle ∈ [2, 1, 2], recursive.coverageOf? handle ≠ some .nan := by
    decide +kernel
  obtain ⟨members, survivor, cycle, result, ran, lists, most, quotient, named, _⟩ :=
    reachable_recursive.collapseCycle_isQuotient samples (List.cons_ne_nil 2 [1, 2]) live numbers
  exact ⟨members, survivor, cycle, result, ran, lists, most, quotient, named⟩

end CallGraph
end ProfileGraph
