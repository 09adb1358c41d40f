import ProfileGraph.Proofs.Histories

/-! The search for a cycle in the order of work in which it is carried out: no
recursion, but marks for all nodes, the path on which it stands, and for every
node of the path the callees that it has still to look at. Its states are those
of the recursive search with its arguments written out, so both end alike. The
marks agree with the path and with the nodes done with, which is why a node
marked as on the path is always found there. -/
namespace ProfileGraph
open Relation

/-- How far a search has come with a node. -/
inductive Mark where
  | fresh
  | onPath
  | done
deriving DecidableEq, Repr

/-- A search under way. -/
structure CycleSearch where
  /-- For each handle, how far the search has come with it. -/
  marks : Array Mark
  /-- The path on which the search stands, the last node first. -/
  path : List Nat
  /-- For each node of the path, the callees that are still to look at. -/
  frames : List (List Nat)
  /-- The nodes that are still to start from. -/
  starts : List Nat

/-- What stops a search. -/
inductive SearchEnd where
  | exhausted
  | cycle (members : List Nat)
  /-- A node marked as on the path does not stand there. -/
  | lost
  /-- A handle has no mark. -/
  | unmarked
deriving DecidableEq, Repr

/-- The last node of the path is done with. -/
def CycleSearch.retreat (state : CycleSearch) : CycleSearch :=
  match state.path with
  | [] => state
  | handle :: path => { state with marks := state.marks.setIfInBounds handle .done, path }

namespace CallGraph
variable {α : Type} {graph : CallGraph α}

/-- Goes on to a node. -/
def advance (graph : CallGraph α) (state : CycleSearch) (handle : Nat) : CycleSearch :=
  { state with
    marks := state.marks.setIfInBounds handle .onPath
    path := handle :: state.path
    frames := (graph.successors handle).map (·.1) :: state.frames }

/-- One step of the search, or its end. -/
def searchStep (graph : CallGraph α) (state : CycleSearch) : Except SearchEnd CycleSearch :=
  match state.frames, state.starts with
  | [], [] => .error .exhausted
  | [], start :: starts =>
    match state.marks[start]? with
    | none => .error .unmarked
    | some .fresh => .ok (graph.advance { state with path := [], starts } start)
    | some _ => .ok { state with starts }
  | [] :: frames, _ => .ok { state with frames }.retreat
  | (next :: later) :: frames, _ =>
    match state.marks[next]? with
    | none => .error .unmarked
    | some .fresh => .ok (graph.advance { state with frames := later :: frames } next)
    | some .done => .ok { state with frames := later :: frames }
    | some .onPath =>
      match state.path.reverse.idxOf? next with
      | none => .error .lost
      | some position => .error (.cycle (state.path.reverse.drop position))

/-- The search before its first step. -/
def searchStart (graph : CallGraph α) : CycleSearch where
  marks := (Array.range graph.slots.size).map fun _ => .fresh
  path := []
  frames := []
  starts := graph.handles

/-- Steps lead from one state to another. -/
abbrev Leads (graph : CallGraph α) : CycleSearch → CycleSearch → Prop :=
  ReflTransGen fun state next => graph.searchStep state = .ok next

/-- The search comes from a state to an end. -/
def Ends (graph : CallGraph α) (state : CycleSearch) (ended : SearchEnd) : Prop :=
  ∃ last, graph.Leads state last ∧ graph.searchStep last = .error ended

theorem Leads.ends {state next : CycleSearch} {ended : SearchEnd} (leads : graph.Leads state next)
    (ends : graph.Ends next ended) : graph.Ends state ended := by
  obtain ⟨last, onward, stopped⟩ := ends
  exact ⟨last, leads.trans onward, stopped⟩

/-- A search takes one course, so it has one end. -/
theorem Ends.unique {state : CycleSearch} {one other : SearchEnd} (first : graph.Ends state one)
    (second : graph.Ends state other) : one = other := by
  obtain ⟨last, leads, stopped⟩ := first
  induction leads using ReflTransGen.head_induction_on with
  | refl =>
    obtain ⟨_, onward, stoppedThere⟩ := second
    rcases onward.cases_head with rfl | ⟨next, step, _⟩
    · exact Except.error.inj (stopped.symm.trans stoppedThere)
    · cases stopped.symm.trans step
  | head step _ ih =>
    obtain ⟨end', onward, stoppedThere⟩ := second
    rcases onward.cases_head with rfl | ⟨next, step', onward⟩
    · cases step.symm.trans stoppedThere
    · cases step.symm.trans step'
      exact ih ⟨end', onward, stoppedThere⟩

/-! The states of the recursive search. -/

/-- The marks of a search with a path and with nodes that are done with. -/
def markings (graph : CallGraph α) (path done : List Nat) : Array Mark :=
  (Array.range graph.slots.size).map fun handle =>
    if handle ∈ path then .onPath else if handle ∈ done then .done else .fresh

theorem markings_of_live (path done : List Nat) {handle : Nat} (live : graph.contains handle) :
    (graph.markings path done)[handle]? =
      some (if handle ∈ path then .onPath else if handle ∈ done then .done else .fresh) := by
  have inside : handle < graph.slots.size :=
    List.mem_range.mp (List.mem_filter.mp (mem_handles.mpr live)).1
  simp [markings, inside]

theorem markings_advance (path done : List Nat) (handle : Nat) :
    (graph.markings path done).setIfInBounds handle .onPath =
      graph.markings (handle :: path) done := by
  refine Array.ext_getElem? fun node => ?_
  by_cases inside : node < graph.slots.size
  · by_cases same : handle = node
    · simp [markings, inside, same]
    · simp [markings, inside, same, Ne.symm same]
  · simp [markings, inside]

theorem markings_retreat {path : List Nat} (done : List Nat) {handle : Nat}
    (fresh : handle ∉ path) :
    (graph.markings (handle :: path) done).setIfInBounds handle .done =
      graph.markings path (handle :: done) := by
  refine Array.ext_getElem? fun node => ?_
  by_cases inside : node < graph.slots.size
  · by_cases same : handle = node
    · subst same
      simp [markings, inside, fresh]
    · simp [markings, inside, same, Ne.symm same]
  · simp [markings, inside]

/-- The part of a path from a node on begins where the node is found. -/
theorem idxOf_pathFrom {path : List Nat} {handle : Nat} (met : handle ∈ path) :
    ∃ position, path.reverse.idxOf? handle = some position ∧
      path.reverse.drop position = pathFrom handle path := by
  refine ⟨path.reverse.idxOf handle, ?_, ?_⟩
  · rw [List.idxOf?, List.findIdx?_eq_some_iff_findIdx_eq]
    exact ⟨List.idxOf_lt_length_of_mem (List.mem_reverse.mpr met), rfl⟩
  · have same : (fun node => !(node != handle)) = (· == handle) := by
      funext node
      simp [bne]
    rw [pathFrom, List.dropWhile_eq_drop_findIdx_not, same, List.idxOf]

/-- What a walk owes to the search that it stands for: the state behind the
nodes done with, or the end with the same cycle. -/
def Carries (graph : CallGraph α) (state : CycleSearch) (behind : List Nat → CycleSearch) :
    WalkResult → Prop
  | .explored done => graph.Leads state (behind done)
  | .cycle members => graph.Ends state (.cycle members)

theorem Leads.carries {state next : CycleSearch} {behind : List Nat → CycleSearch}
    {result : WalkResult} (leads : graph.Leads state next)
    (carries : graph.Carries next behind result) : graph.Carries state behind result := by
  cases result with
  | explored done => exact leads.trans carries
  | cycle members => exact Leads.ends leads carries

/-- Walks to several nodes in turn are carried out if each single one is. The
search looks at the nodes from the states `state handles done`. -/
theorem walkEach_carries {walk : Nat → List Nat → WalkResult} {path : List Nat}
    (state : List Nat → List Nat → CycleSearch) {handles done : List Nat}
    (closes : ∀ handle ∈ handles, ∀ later done, handle ∈ path →
      graph.Ends (state (handle :: later) done) (.cycle (pathFrom handle path)))
    (skips : ∀ handle ∈ handles, ∀ later done, handle ∉ path → handle ∈ done →
      graph.Leads (state (handle :: later) done) (state later done))
    (walks : ∀ handle ∈ handles, ∀ later done, handle ∉ path → handle ∉ done →
      graph.Carries (state (handle :: later) done) (state later) (walk handle done)) :
    graph.Carries (state handles done) (state []) (walkEach walk path handles done) := by
  induction handles generalizing done with
  | nil => exact ReflTransGen.refl
  | cons handle later ih =>
    have laterCarried : ∀ done,
        graph.Carries (state later done) (state []) (walkEach walk path later done) := fun done =>
      ih (fun node member => closes node (List.mem_cons_of_mem _ member))
        (fun node member => skips node (List.mem_cons_of_mem _ member))
        (fun node member => walks node (List.mem_cons_of_mem _ member))
    rw [walkEach]
    split
    next met => exact closes handle List.mem_cons_self later done (List.contains_iff_mem.mp met)
    next unmet =>
      have fresh : handle ∉ path := fun member => unmet (List.contains_iff_mem.mpr member)
      split
      next finished =>
        exact Leads.carries (skips handle List.mem_cons_self later done fresh
          (List.contains_iff_mem.mp finished)) (laterCarried done)
      next unfinished =>
        have carried := walks handle List.mem_cons_self later done fresh
          (fun member => unfinished (List.contains_iff_mem.mpr member))
        cases walked : walk handle done with
        | cycle members =>
          rw [walked] at carried
          exact carried
        | explored after =>
          rw [walked] at carried
          exact Leads.carries carried (laterCarried after)

/-- The state of the search that stands behind a path and has some callees of
its last node still to look at. -/
def standing (graph : CallGraph α) (path : List Nat) (frames : List (List Nat))
    (starts callees done : List Nat) : CycleSearch :=
  ⟨graph.markings path done, path, callees :: frames, starts⟩

/-- The state of the search between two starts. -/
def between (graph : CallGraph α) (starts done : List Nat) : CycleSearch :=
  ⟨graph.markings [] done, [], [], starts⟩

theorem searchStep_closes {path : List Nat} (frames : List (List Nat)) (starts later done : List Nat)
    {handle : Nat} (live : graph.contains handle) (met : handle ∈ path) :
    graph.searchStep (graph.standing path frames starts (handle :: later) done) =
      .error (.cycle (pathFrom handle path)) := by
  obtain ⟨position, found, cut⟩ := idxOf_pathFrom met
  simp [searchStep, standing, markings_of_live path done live, met, found, cut]

theorem searchStep_skips {path : List Nat} (frames : List (List Nat)) (starts later : List Nat)
    {done : List Nat} {handle : Nat} (live : graph.contains handle) (fresh : handle ∉ path)
    (finished : handle ∈ done) :
    graph.searchStep (graph.standing path frames starts (handle :: later) done) =
      .ok (graph.standing path frames starts later done) := by
  simp [searchStep, standing, markings_of_live path done live, fresh, finished]

theorem searchStep_advances {path : List Nat} (frames : List (List Nat)) (starts later : List Nat)
    {done : List Nat} {handle : Nat} (live : graph.contains handle) (fresh : handle ∉ path)
    (unfinished : handle ∉ done) :
    graph.searchStep (graph.standing path frames starts (handle :: later) done) =
      .ok (graph.standing (handle :: path) (later :: frames) starts
        ((graph.successors handle).map (·.1)) done) := by
  simp [searchStep, standing, markings_of_live path done live, fresh, unfinished, advance,
    markings_advance]

/-- After the last callee of a node the search goes back to the node before. -/
theorem searchStep_retreats {path : List Nat} (frames : List (List Nat)) (starts done : List Nat)
    {handle : Nat} (fresh : handle ∉ path) :
    graph.searchStep (graph.standing (handle :: path) frames starts [] done) =
      .ok ⟨graph.markings path (handle :: done), path, frames, starts⟩ := by
  simp [searchStep, standing, CycleSearch.retreat, markings_retreat done fresh]

theorem searchStep_passes (starts : List Nat) {done : List Nat} {handle : Nat}
    (live : graph.contains handle) (finished : handle ∈ done) :
    graph.searchStep (graph.between (handle :: starts) done) = .ok (graph.between starts done) := by
  simp [searchStep, between, markings_of_live [] done live, finished]

theorem searchStep_starts (starts : List Nat) {done : List Nat} {handle : Nat}
    (live : graph.contains handle) (unfinished : handle ∉ done) :
    graph.searchStep (graph.between (handle :: starts) done) =
      .ok (graph.standing [handle] [] starts ((graph.successors handle).map (·.1)) done) := by
  simp [searchStep, between, standing, markings_of_live [] done live, unfinished, advance,
    markings_advance]

/-- From behind a node on the search goes through everything that a walk from
that node goes through, and then it stands where it stood before. -/
theorem Consistent.walk_carries (consistent : graph.Consistent) (fuel : Nat) (path : List Nat)
    (handle : Nat) (done : List Nat) (frames : List (List Nat)) (starts : List Nat)
    (trail : graph.Trail path handle) (live : graph.contains handle) (fresh : handle ∉ path)
    (enough : graph.nodeCount ≤ path.length + fuel) :
    graph.Carries
      (graph.standing (handle :: path) frames starts ((graph.successors handle).map (·.1)) done)
      (fun done => ⟨graph.markings path done, path, frames, starts⟩)
      (graph.walk fuel path handle done) := by
  induction fuel generalizing path handle done frames with
  | zero => exact absurd (trail.length_lt live fresh) (by omega)
  | succ fuel ih =>
    have trails : ∀ callee ∈ (graph.successors handle).map (·.1),
        graph.Trail (handle :: path) callee ∧ graph.contains callee := fun callee member =>
      ⟨trail.extend fresh (mem_callees.mp member),
        consistent.contains_callee (mem_callees.mp member)⟩
    have carried : graph.Carries
        (graph.standing (handle :: path) frames starts ((graph.successors handle).map (·.1)) done)
        (graph.standing (handle :: path) frames starts [])
        (walkEach (graph.walk fuel (handle :: path)) (handle :: path) _ done) := walkEach_carries
      (graph.standing (handle :: path) frames starts)
      (fun callee member later done met =>
        ⟨_, .refl, searchStep_closes frames starts later done (trails callee member).2 met⟩)
      (fun callee member later done unmet finished =>
        .single (searchStep_skips frames starts later (trails callee member).2 unmet finished))
      (fun callee member later done unmet unfinished =>
        Leads.carries (.single (searchStep_advances frames starts later (trails callee member).2
          unmet unfinished))
          (ih (handle :: path) callee done (later :: frames) (trails callee member).1
            (trails callee member).2 unmet (by simp only [List.length_cons]; omega)))
    rw [walk]
    split
    next after walked =>
      rw [walked] at carried
      exact carried.tail (searchStep_retreats frames starts after fresh)
    next members walked =>
      rw [walked] at carried
      exact carried

/-- The end that the recursive search announces. -/
def searchEnd (graph : CallGraph α) : SearchEnd :=
  match graph.findCycle? with
  | none => .exhausted
  | some members => .cycle members

theorem Consistent.ends_searchEnd (consistent : graph.Consistent) :
    graph.Ends graph.searchStart graph.searchEnd := by
  have carried : graph.Carries (graph.between graph.handles []) (graph.between [])
      (walkEach (graph.walk graph.nodeCount []) [] graph.handles []) := walkEach_carries
    graph.between
    (fun handle _ later done met => absurd met List.not_mem_nil)
    (fun handle member later done _ finished =>
      .single (searchStep_passes later (mem_handles.mp member) finished))
    (fun handle member later done unmet unfinished =>
      Leads.carries (.single (searchStep_starts later (mem_handles.mp member) unfinished))
        (consistent.walk_carries graph.nodeCount [] handle done [] later
          ⟨.singleton handle, List.nodup_nil, by simp⟩ (mem_handles.mp member) unmet (by simp)))
  have start : graph.between graph.handles [] = graph.searchStart := by
    simp [between, searchStart, markings]
  rw [start] at carried
  rw [searchEnd, findCycle?]
  cases walked : walkEach (graph.walk graph.nodeCount []) [] graph.handles [] with
  | explored done =>
    rw [walked] at carried
    exact ⟨_, carried, rfl⟩
  | cycle members =>
    rw [walked] at carried
    exact carried

/-- A cycle is closed by an edge from its last member to its first, which is a
self-loop exactly if there is one member only. -/
theorem IsCycle.closing {members : List Nat} (cycle : graph.IsCycle members) :
    ∃ first last, members.head? = some first ∧ members.getLast? = some last ∧
      graph.Calls last first ∧ (members.length = 1 ↔ last = first) := by
  cases members with
  | nil => exact cycle.elim
  | cons first rest =>
    obtain ⟨distinct, chain⟩ := cycle
    rcases List.eq_nil_or_concat' rest with rfl | ⟨between, last, rfl⟩
    · exact ⟨first, first, rfl, rfl, by simpa using chain, by simp⟩
    · have loop : graph.Calls last first := by
        rw [List.append_assoc, ← List.cons_append] at chain
        simpa using chain.right_of_append
      have apart : last ≠ first := fun same => by simp [same] at distinct
      have ends : (first :: (between ++ [last])).getLast? = some last := by
        rw [← List.cons_append, List.getLast?_concat]
      exact ⟨first, last, rfl, ends, loop, by simp [apart]⟩

theorem IsCycle.chain {members : List Nat} (cycle : graph.IsCycle members) :
    members.Nodup ∧ members.IsChain graph.Calls := by
  cases members with
  | nil => exact cycle.elim
  | cons first rest => exact ⟨cycle.1, cycle.2.left_of_append⟩

variable [Quantity α]

/-- In every reachable graph the search comes to exactly one end, and that is
the answer of the recursive search, never the lookup of a node that is not on
the path. It finds no cycle exactly if there is none, and a cycle that it finds
lists live nodes, each once, along edges and with an edge from the last back to
the first, which is a self-loop exactly if there is one member only. -/
theorem Reachable.findCycle_decides (reachable : graph.Reachable) :
    (∀ ended, graph.Ends graph.searchStart ended ↔ ended = graph.searchEnd) ∧
      (∀ state, graph.Leads graph.searchStart state → graph.searchStep state ≠ .error .lost) ∧
      (graph.findCycle? = none ↔ graph.Acyclic) ∧
      ∀ members, graph.findCycle? = some members →
        members.Nodup ∧ (∀ member ∈ members, graph.contains member) ∧
          members.IsChain graph.Calls ∧
          ∃ first last, members.head? = some first ∧ members.getLast? = some last ∧
            graph.Calls last first ∧ (members.length = 1 ↔ last = first) := by
  have consistent := reachable.consistent
  have ends := consistent.ends_searchEnd
  refine ⟨fun ended => ⟨fun other => other.unique ends, fun same => same ▸ ends⟩,
    fun state leads stopped => ?_, consistent.findCycle_eq_none_iff, fun members found => ?_⟩
  · have lost : .lost = graph.searchEnd := Ends.unique ⟨state, leads, stopped⟩ ends
    rw [searchEnd] at lost
    split at lost <;> cases lost
  · have cycle := consistent.isCycle_of_findCycle found
    obtain ⟨distinct, chain⟩ := cycle.chain
    exact ⟨distinct, cycle.live consistent, chain, cycle.closing⟩

theorem recursive_findCycle_decides :
    recursive.findCycle? = some [1] ∧ recursive.Calls 1 1 ∧ ¬ recursive.Acyclic ∧
      recursive.Ends recursive.searchStart (.cycle [1]) := by
  have found : recursive.findCycle? = some [1] := by decide +kernel
  obtain ⟨ends, _, absent, cycles⟩ := reachable_recursive.findCycle_decides
  obtain ⟨_, _, _, first, last, firstEq, lastEq, loop, _⟩ := cycles [1] found
  cases firstEq
  cases lastEq
  refine ⟨found, loop, fun acyclic => ?_, (ends _).mpr ?_⟩
  · cases found.symm.trans (absent.mpr acyclic)
  · rw [searchEnd, found]

end CallGraph
end ProfileGraph
