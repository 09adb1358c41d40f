import ProfileGraph.Proofs.Reworking

/-! The registry of profiler ids. Three parts of a graph speak of ids: the live
nodes, the index and the set of retired ids. They are kept together by the list
of all ids in the order of their first declaration, which the history alone
determines: a handle is a position in this list for good, and its id is found
by the index or is retired. -/
namespace ProfileGraph

/-- The ids that some operations declare, each at its first declaration. -/
def declaredIds {α : Type} (operations : List (Operation α)) : List String :=
  (operations.filterMap Operation.declaredId?).eraseDups

/-- Puts an id behind others, unless it is one of them. -/
def enlist (declared : List String) (id : String) : List String :=
  if id ∈ declared then declared else declared ++ [id]

theorem eraseDups_concat (ids : List String) (id : String) :
    (ids ++ [id]).eraseDups = enlist ids.eraseDups id := by
  rw [List.eraseDups_append, enlist]
  simp only [List.mem_eraseDups]
  by_cases member : id ∈ ids <;> simp [List.removeAll, member, List.eraseDups_cons]

theorem declaredIds_concat {α : Type} (operations : List (Operation α)) (operation : Operation α) :
    declaredIds (operations ++ [operation]) =
      operation.declaredId?.elim (declaredIds operations) (enlist (declaredIds operations)) := by
  rw [declaredIds, List.filterMap_append]
  cases declared : operation.declaredId? with
  | none => simp [declaredIds, declared]
  | some id => simpa [declaredIds, declared] using eraseDups_concat _ id

/-- What was declared in a history keeps its place, however that goes on. -/
theorem getElem_declaredIds_append {α : Type} {history : List (Operation α)} {handle : Nat}
    {id : String} (first : (declaredIds history)[handle]? = some id)
    (continuation : List (Operation α)) :
    (declaredIds (history ++ continuation))[handle]? = some id := by
  rw [declaredIds, List.filterMap_append, List.eraseDups_append]
  exact List.getElem?_append_left (List.getElem?_eq_some_iff.mp first).1 ▸ first

namespace CallGraph
variable {α : Type} {graph result : CallGraph α} {declared : List String}

/-- The registry of a graph whose ids were first declared in the given order. -/
structure Registered (graph : CallGraph α) (declared : List String) : Prop where
  /-- Handles are given out one after the other. -/
  size_eq : graph.slots.size = declared.length
  /-- No id gets two handles. -/
  distinct : declared.Nodup
  /-- A live node has the id for which its handle was given out. -/
  declared_eq : ∀ {handle id}, graph.idAt? handle = some id → declared[handle]? = some id
  /-- The index holds the ids of the live nodes and leads to their handles. -/
  lookup_iff : ∀ {id handle}, graph.lookup? id = some handle ↔ graph.idAt? handle = some id
  /-- The retired ids are those whose nodes are not there any more. -/
  retired_iff : ∀ {id}, graph.retired.contains id ↔
    ∃ handle : Nat, declared[handle]? = some id ∧ graph.idAt? handle = none

/-- The graph with one more node, which gets the next handle. -/
def enroll (graph : CallGraph α) (slot : Slot α) : CallGraph α :=
  { graph with
    slots := graph.slots.push (some slot)
    index := graph.index.insert slot.node.profilerId graph.slots.size }

/-! What is seen of ids after a change. -/

theorem idAt_eq_none_iff {handle : Nat} : graph.idAt? handle = none ↔ ¬ graph.contains handle := by
  rw [contains_eq_isSome_node, idAt?, Option.map_eq_none_iff, Option.not_isSome_iff_eq_none]

theorem idAt_eq_some_iff {handle : Nat} {id : String} : graph.idAt? handle = some id ↔
    ∃ node, graph.node? handle = some node ∧ node.profilerId = id :=
  Option.map_eq_some_iff

private theorem idAt_eq (handle : Nat) :
    graph.idAt? handle = (graph.slot? handle).map (·.node.profilerId) := by
  rw [idAt?, node?, Option.map_map]
  rfl

theorem idAt_modifySlot {handle : Nat} {change : Slot α → Slot α}
    (keepsId : ∀ slot, (change slot).node.profilerId = slot.node.profilerId) (other : Nat) :
    (graph.modifySlot handle change).idAt? other = graph.idAt? other := by
  rw [idAt_eq, idAt_eq, slot?, slot?, modifySlot, Array.getElem?_modify]
  split
  next => rcases graph.slots[other]? with _ | _ | slot <;> simp [keepsId]
  next => rfl

theorem idAt_vacate (handle other : Nat) (id : String) :
    (graph.vacate handle id).idAt? other = if other = handle then none else graph.idAt? other := by
  rw [idAt_eq, idAt_eq, slot?, slot?, vacate, Array.getElem?_setIfInBounds]
  split
  next same =>
    subst same
    rw [if_pos rfl]
    split <;> rfl
  next different => rw [if_neg (Ne.symm different)]

theorem lookup_vacate (handle : Nat) (id other : String) :
    (graph.vacate handle id).lookup? other = if id = other then none else graph.lookup? other := by
  simp only [lookup?, vacate, Std.ExtTreeMap.getElem?_erase, Std.LawfulEqCmp.compare_eq_iff_eq]

theorem retired_vacate (handle : Nat) (id other : String) :
    (graph.vacate handle id).retired.contains other ↔ id = other ∨ graph.retired.contains other := by
  simp only [vacate, Std.ExtTreeSet.contains_insert, Bool.or_eq_true, beq_iff_eq,
    Std.LawfulEqCmp.compare_eq_iff_eq]

theorem idAt_enroll (slot : Slot α) (handle : Nat) : (graph.enroll slot).idAt? handle =
    if handle = graph.slots.size then some slot.node.profilerId else graph.idAt? handle := by
  rw [idAt_eq, idAt_eq, slot?, slot?, enroll, Array.getElem?_push]
  split <;> rfl

theorem lookup_enroll (slot : Slot α) (id : String) : (graph.enroll slot).lookup? id =
    if slot.node.profilerId = id then some graph.slots.size else graph.lookup? id := by
  simp only [lookup?, enroll, Std.ExtTreeMap.getElem?_insert, Std.LawfulEqCmp.compare_eq_iff_eq]

theorem idAt_size : graph.idAt? graph.slots.size = none := by simp [idAt_eq, slot?]

/-! What the registry says. -/

theorem Registered.handle_eq (registered : graph.Registered declared) {first second : Nat}
    {id : String} (here : declared[first]? = some id) (there : declared[second]? = some id) :
    first = second := by
  obtain ⟨inside, _⟩ := List.getElem?_eq_some_iff.mp here
  exact (List.getElem?_inj inside registered.distinct).mp (here.trans there.symm)

/-- No retired id is in the index. -/
theorem Registered.lookup_eq_none (registered : graph.Registered declared) {id : String}
    (retired : graph.retired.contains id) : graph.lookup? id = none := by
  refine Option.eq_none_iff_forall_not_mem.mpr fun handle found => ?_
  have held := registered.lookup_iff.mp found
  obtain ⟨other, first, gone⟩ := registered.retired_iff.mp retired
  rw [registered.handle_eq (registered.declared_eq held) first, gone] at held
  cases held

/-- An id that is neither retired nor in the index was never declared. -/
theorem Registered.not_mem (registered : graph.Registered declared) {id : String}
    (unretired : ¬ graph.retired.contains id) (absent : graph.lookup? id = none) :
    id ∉ declared := by
  intro member
  obtain ⟨handle, first⟩ := List.mem_iff_getElem?.mp member
  cases held : graph.idAt? handle with
  | none => exact unretired (registered.retired_iff.mpr ⟨handle, first, held⟩)
  | some other =>
    have same : other = id := Option.some.inj ((registered.declared_eq held).symm.trans first)
    rw [registered.lookup_iff.mpr (same ▸ held)] at absent
    cases absent

/-! Changes of the registry. -/

/-- The registry depends on the ids of the live nodes, not on what else is
noted of them. -/
theorem Registered.congr (registered : graph.Registered declared)
    (sizes : result.slots.size = graph.slots.size) (indices : result.index = graph.index)
    (retired : result.retired = graph.retired)
    (ids : ∀ handle, result.idAt? handle = graph.idAt? handle) : result.Registered declared where
  size_eq := sizes.trans registered.size_eq
  distinct := registered.distinct
  declared_eq := by
    intro handle id held
    exact registered.declared_eq ((ids handle).symm.trans held)
  lookup_iff := by
    intro id handle
    rw [lookup?, indices, ids]
    exact registered.lookup_iff
  retired_iff := by
    intro id
    simp only [retired, ids]
    exact registered.retired_iff

theorem Registered.vacate (registered : graph.Registered declared) {handle : Nat} {id : String}
    (held : graph.idAt? handle = some id) : (graph.vacate handle id).Registered declared where
  size_eq := Array.size_setIfInBounds.trans registered.size_eq
  distinct := registered.distinct
  declared_eq := by
    intro other named left
    rw [idAt_vacate] at left
    split at left
    next => cases left
    next => exact registered.declared_eq left
  lookup_iff := by
    intro named other
    rw [lookup_vacate, idAt_vacate]
    by_cases here : other = handle
    · -- The emptied slot was the only one that the index gave for its id.
      rw [if_pos here]
      refine iff_of_false (fun found => ?_) (by simp)
      split at found
      next => cases found
      next different =>
        have again := registered.lookup_iff.mp found
        rw [here, held] at again
        exact different (Option.some.inj again)
    · rw [if_neg here]
      split
      next same =>
        refine iff_of_false (by simp) fun left => here ?_
        exact registered.handle_eq (registered.declared_eq left)
          (same ▸ registered.declared_eq held)
      next => exact registered.lookup_iff
  retired_iff := by
    intro named
    rw [retired_vacate]
    simp only [idAt_vacate]
    constructor
    · rintro (rfl | before)
      · exact ⟨handle, registered.declared_eq held, if_pos rfl⟩
      · obtain ⟨other, first, gone⟩ := registered.retired_iff.mp before
        exact ⟨other, first, by rw [gone, ite_self]⟩
    · rintro ⟨other, first, gone⟩
      split at gone
      next here =>
        exact .inl (Option.some.inj ((registered.declared_eq held).symm.trans (here ▸ first)))
      next => exact .inr (registered.retired_iff.mpr ⟨other, first, gone⟩)

/-- A node that was not declared before gets the next handle. -/
theorem Registered.enroll (registered : graph.Registered declared) {slot : Slot α}
    (unretired : ¬ graph.retired.contains slot.node.profilerId)
    (absent : graph.lookup? slot.node.profilerId = none) :
    (graph.enroll slot).Registered (declared ++ [slot.node.profilerId]) := by
  have fresh := registered.not_mem unretired absent
  have unused : declared[graph.slots.size]? = none := by rw [registered.size_eq]; simp
  have listed : ∀ handle : Nat, (declared ++ [slot.node.profilerId])[handle]? =
      if handle = graph.slots.size then some slot.node.profilerId else declared[handle]? := by
    intro handle
    rw [registered.size_eq]
    grind
  refine ⟨?_, ?_, ?_, ?_, ?_⟩
  · rw [CallGraph.enroll, Array.size_push, registered.size_eq, List.length_append,
      List.length_singleton]
  · refine List.nodup_append.mpr ⟨registered.distinct, List.nodup_singleton _, ?_⟩
    rintro id member _ same rfl
    exact fresh (List.mem_singleton.mp same ▸ member)
  · intro handle id held
    rw [idAt_enroll] at held
    rw [listed]
    split at held
    next here => rw [if_pos here, held]
    next elsewhere => rw [if_neg elsewhere, registered.declared_eq held]
  · intro id handle
    rw [lookup_enroll, idAt_enroll]
    split
    next same =>
      rw [Option.some.injEq, eq_comm, ← same]
      split
      next here => exact iff_of_true here rfl
      next elsewhere =>
        refine iff_of_false elsewhere fun held => ?_
        rw [registered.lookup_iff.mpr held] at absent
        cases absent
    next different =>
      split
      next here =>
        refine iff_of_false (fun found => ?_) fun same => different (Option.some.inj same)
        have held := registered.lookup_iff.mp found
        rw [here, idAt_size] at held
        cases held
      next => exact registered.lookup_iff
  · intro id
    refine registered.retired_iff.trans (exists_congr fun handle => ?_)
    rw [listed, idAt_enroll]
    split
    next here =>
      rw [here, unused]
      simp
    next => rfl

/-! Passes. -/

/-- Passes give out no handle. -/
theorem Reworked.registered (reworked : graph.Reworked result)
    (registered : graph.Registered declared) : result.Registered declared := by
  induction reworked with
  | refl => exact registered
  | edit handle change keepsId _ ih =>
    exact ih.congr Array.size_modify rfl rfl (idAt_modifySlot keepsId)
  | vacate held _ ih => exact ih.vacate held

/-- No id comes back from retirement. -/
theorem Reworked.retired_mono (reworked : graph.Reworked result) {id : String}
    (retired : graph.retired.contains id) : result.retired.contains id := by
  induction reworked with
  | refl => exact retired
  | edit _ _ _ _ ih => exact ih
  | vacate _ _ ih => exact (retired_vacate ..).mpr (.inr ih)

/-- No node comes back or changes its id. -/
theorem Reworked.idAt_eq_of_some (reworked : graph.Reworked result) {handle : Nat} {id : String}
    (left : result.idAt? handle = some id) : graph.idAt? handle = some id := by
  induction reworked with
  | refl => exact left
  | edit other change keepsId _ ih => exact ih (idAt_modifySlot keepsId handle ▸ left)
  | vacate _ _ ih =>
    rw [idAt_vacate] at left
    split at left
    next => cases left
    next => exact ih left

/-! Declarations. -/

/-- A retired id is refused, any other one has a handle afterwards: its own, or
the next one if it was never declared. -/
theorem Registered.addNode_spec (registered : graph.Registered declared) (id name : String)
    (selfCoverage coverage : α) :
    (graph.retired.contains id ∧ graph.addNode id name selfCoverage coverage =
      .error (.retiredId id)) ∨
    ∃ handle next, graph.addNode id name selfCoverage coverage = .ok (handle, next) ∧
      next.Registered (enlist declared id) ∧ (enlist declared id)[handle]? = some id := by
  rw [addNode]
  split
  next retired => exact .inl ⟨retired, rfl⟩
  next unretired =>
    refine .inr ?_
    dsimp only
    split
    next handle found =>
      have held := registered.lookup_iff.mp found
      have first := registered.declared_eq held
      have known : enlist declared id = declared := if_pos (List.mem_of_getElem? first)
      rw [known]
      refine ⟨handle, _, rfl, ?_, first⟩
      refine registered.congr Array.size_modify rfl rfl fun other => ?_
      rw [idAt?, node_modifyNode]
      split
      next here =>
        obtain ⟨node, live, _⟩ := idAt_eq_some_iff.mp held
        rw [here, held, live]
        rfl
      next => rfl
    next absent =>
      have fresh : enlist declared id = declared ++ [id] :=
        if_neg (registered.not_mem unretired absent)
      refine ⟨_, _, rfl, ?_, ?_⟩
      · rw [fresh]
        exact registered.enroll unretired absent
      · rw [fresh, registered.size_eq, List.getElem?_concat_length]

theorem retired_addNode {id name : String} {selfCoverage coverage : α} {handle : Nat}
    (ran : graph.addNode id name selfCoverage coverage = .ok (handle, result)) :
    result.retired = graph.retired := by
  rw [addNode] at ran
  split at ran
  next => cases ran
  next =>
    dsimp only at ran
    split at ran <;> cases ran <;> rfl

/-- What a declaration changes besides the registry: the attributes of one node. -/
theorem Registered.addNode_frame (registered : graph.Registered declared)
    {id name : String} {selfCoverage coverage : α} {handle : Nat}
    (ran : graph.addNode id name selfCoverage coverage = .ok (handle, result)) :
    (∀ other, result.node? other = if other = handle then
      some ⟨id, name, coverage, selfCoverage, graph.isInterestName name, {}⟩
      else graph.node? other) ∧
    result.interestMarker = graph.interestMarker ∧ result.totalSamples = graph.totalSamples := by
  rw [addNode] at ran
  split at ran
  next => cases ran
  next =>
    dsimp only at ran
    split at ran
    next found =>
      cases ran
      refine ⟨fun other => ?_, rfl, rfl⟩
      rw [node_modifyNode]
      split
      next here =>
        obtain ⟨node, live, _⟩ := idAt_eq_some_iff.mp (registered.lookup_iff.mp found)
        rw [here, live]
        rfl
      next => rfl
    next =>
      cases ran
      refine ⟨fun other => ?_, rfl, rfl⟩
      rw [node?, slot?, Array.getElem?_push]
      split <;> rfl

/-! Histories. -/

variable [Quantity α]

theorem Registered.perform (registered : graph.Registered declared) (operation : Operation α) :
    (graph.perform operation).Registered
      (operation.declaredId?.elim declared (enlist declared)) := by
  rcases graph.perform_cases operation with
    ⟨id, name, selfCoverage, coverage, rfl⟩ | ⟨samples, rfl⟩ | ⟨none, reworked⟩
  · rw [CallGraph.perform]
    rcases registered.addNode_spec id name selfCoverage coverage with
      ⟨retired, refused⟩ | ⟨handle, next, ran, enlisted, _⟩
    · obtain ⟨handle, first, _⟩ := registered.retired_iff.mp retired
      have known : enlist declared id = declared := if_pos (List.mem_of_getElem? first)
      rw [refused]
      exact (known.symm ▸ registered : graph.Registered (enlist declared id))
    · rw [ran]
      exact enlisted
  · exact registered.congr rfl rfl rfl fun _ => rfl
  · rw [none]
    exact reworked.registered registered

theorem retired_perform (operation : Operation α) {id : String}
    (retired : graph.retired.contains id) : (graph.perform operation).retired.contains id := by
  rcases graph.perform_cases operation with
    ⟨other, name, selfCoverage, coverage, rfl⟩ | ⟨samples, rfl⟩ | ⟨_, reworked⟩
  · rw [perform]
    cases ran : graph.addNode other name selfCoverage coverage with
    | error error => exact retired
    | ok pair => exact (retired_addNode ran).symm ▸ retired
  · exact retired
  · exact reworked.retired_mono retired

theorem registered_empty (marker : String) : (empty marker : CallGraph α).Registered [] where
  size_eq := rfl
  distinct := List.nodup_nil
  declared_eq := by simp [idAt?, node?, slot?, empty]
  lookup_iff := by simp [idAt?, node?, slot?, empty, lookup?]
  retired_iff := by simp [empty]

/-- The ids that a history declares say which handle belongs to which id. -/
theorem registered_performAll (marker : String) (history : List (Operation α)) :
    ((empty marker : CallGraph α).performAll history).Registered (declaredIds history) := by
  induction history using List.reverseRecOn with
  | nil => exact registered_empty marker
  | append_singleton earlier operation ih =>
    rw [performAll, List.foldl_append, declaredIds_concat]
    exact ih.perform operation

theorem Reachable.registered (reachable : graph.Reachable) :
    ∃ declared, graph.Registered declared := by
  induction reachable with
  | fresh marker => exact ⟨[], registered_empty marker⟩
  | step operation _ ih =>
    obtain ⟨declared, registered⟩ := ih
    exact ⟨_, registered.perform operation⟩

theorem retired_performAll (operations : List (Operation α)) {id : String}
    (retired : graph.retired.contains id) : (graph.performAll operations).retired.contains id := by
  induction operations generalizing graph with
  | nil => exact retired
  | cons operation later ih => exact ih (retired_perform operation retired)

/-- Along every history, failed operations included, the index holds the ids of
the live nodes, the retired ids are those of the deleted nodes, and handles
count first declarations. However the history goes on, a node keeps its handle
and its id until it is deleted, a deleted node stays deleted, and a retired id
is not found and cannot be declared. -/
theorem performAll_registers (marker : String) (history continuation : List (Operation α)) :
    let graph : CallGraph α := (empty marker).performAll history
    let later := graph.performAll continuation
    graph.Registered (declaredIds history) ∧
    (∀ id, graph.retired.contains id → graph.lookup? id = none) ∧
    (∀ id name selfCoverage coverage handle next,
      graph.addNode id name selfCoverage coverage = .ok (handle, next) →
      (declaredIds (history ++ [.declare id name selfCoverage coverage]))[handle]? = some id) ∧
    (∀ handle id, graph.idAt? handle = some id →
      later.idAt? handle = some id ∨ ¬ later.contains handle ∧ later.retired.contains id) ∧
    (∀ handle, handle < graph.slots.size → ¬ graph.contains handle → ¬ later.contains handle) ∧
    ∀ id, graph.retired.contains id → later.lookup? id = none ∧
      ∀ name selfCoverage coverage,
        later.addNode id name selfCoverage coverage = .error (.retiredId id) := by
  intro graph later
  have registered : graph.Registered (declaredIds history) := registered_performAll marker history
  have onward : later.Registered (declaredIds (history ++ continuation)) := by
    have whole := registered_performAll (α := α) marker (history ++ continuation)
    rwa [performAll, List.foldl_append] at whole
  have stays : ∀ {id}, graph.retired.contains id → later.retired.contains id :=
    retired_performAll continuation
  refine ⟨registered, fun id => registered.lookup_eq_none, ?_, ?_, ?_, ?_⟩
  · intro id name selfCoverage coverage handle next ran
    rcases registered.addNode_spec id name selfCoverage coverage with
      ⟨_, refused⟩ | ⟨_, _, same, _, first⟩
    · cases ran.symm.trans refused
    · cases ran.symm.trans same
      rw [declaredIds_concat]
      exact first
  · intro handle id held
    have first := getElem_declaredIds_append (registered.declared_eq held) continuation
    cases left : later.idAt? handle with
    | none => exact .inr ⟨idAt_eq_none_iff.mp left, onward.retired_iff.mpr ⟨handle, first, left⟩⟩
    | some other =>
      exact .inl (first.symm.trans (onward.declared_eq left)).symm
  · intro handle inside gone alive
    rw [registered.size_eq] at inside
    have first := List.getElem?_eq_getElem inside
    have retired := stays (registered.retired_iff.mpr ⟨handle, first, idAt_eq_none_iff.mpr gone⟩)
    obtain ⟨other, again, absent⟩ := onward.retired_iff.mp retired
    have same := onward.handle_eq (getElem_declaredIds_append first continuation) again
    exact idAt_eq_none_iff.mp absent (same ▸ alive)
  · intro id retired
    refine ⟨onward.lookup_eq_none (stays retired), fun name selfCoverage coverage => ?_⟩
    rw [addNode, if_pos (stays retired)]

/-- A history in which the first of two functions is deleted. -/
def deletion : List (Operation Binary64) := [
  .declare "N1" "main" (.ofNat 10) (.ofNat 100), .declare "N2" "leaf!" (.ofNat 90) (.ofNat 90),
  .connect "N1" "N2" 90, .remove 0]

theorem deletion_performAll_registers :
    let graph := (empty "!").performAll deletion
    let later := graph.performAll [.declare "N1" "main" (.ofNat 10) (.ofNat 100), .collapseAll]
    graph.retired.contains "N1" ∧ later.lookup? "N1" = none ∧
      graph.idAt? 1 = some "N2" ∧ ¬ later.contains 0 := by
  obtain ⟨_, _, _, _, deleted, retired⟩ := performAll_registers "!" deletion
    [.declare "N1" "main" (.ofNat 10) (.ofNat 100), .collapseAll]
  have gone : ((empty "!").performAll deletion).retired.contains "N1" := by decide +kernel
  exact ⟨gone, (retired "N1" gone).1, by decide +kernel,
    deleted 0 (by decide +kernel) (by decide +kernel)⟩

end CallGraph
end ProfileGraph
