import Mathlib.Data.List.Chain
import Mathlib.Data.List.Nodup
import Mathlib.Data.List.Perm.Subperm
import Mathlib.Logic.Relation
import ProfileGraph.Graph.Cycle
import ProfileGraph.Proofs.Adjacency

/-! The search for a cycle finds one exactly when there is one. Cycles are
defined by the edges alone, without the search; the search is followed along
its recursion, on the path on which it stands and the nodes it is done with.
From a node that is done with no infinite path starts, so none lies on a
cycle. -/
namespace ProfileGraph.CallGraph
open Relation

variable {α : Type} {graph : CallGraph α}

/-- A path of any length leads from one node to another. -/
abbrev Reaches (graph : CallGraph α) : Nat → Nat → Prop := ReflTransGen graph.Calls

/-- No path of at least one edge leads from a node back to itself. -/
def Acyclic (graph : CallGraph α) : Prop := ∀ handle, ¬ TransGen graph.Calls handle handle

/-- The members of an elementary cycle in path order, each once. -/
def IsCycle (graph : CallGraph α) : List Nat → Prop
  | [] => False
  | first :: rest =>
    (first :: rest).Nodup ∧ (first :: (rest ++ [first])).IsChain graph.Calls

/-- Every member of a cycle reaches every other. -/
theorem IsCycle.reaches {members : List Nat} (cycle : graph.IsCycle members) {a b : Nat}
    (aMember : a ∈ members) (bMember : b ∈ members) : graph.Reaches a b := by
  cases members with
  | nil => exact cycle.elim
  | cons first rest =>
    have onward : graph.Reaches first b :=
      cycle.2.induction (graph.Reaches first) _ (fun _ _ edge path => path.tail edge)
        (fun _ => .refl) b (List.mem_append_left [first] bMember)
    have back : graph.Reaches a first :=
      cycle.2.backwards_concat_induction (graph.Reaches · first) (first :: rest)
        (fun _ _ edge path => .head edge path) .refl a aMember
    exact back.trans onward

/-- A member of a cycle reaches itself by at least one edge. -/
theorem IsCycle.returns {members : List Nat} (cycle : graph.IsCycle members) :
    ∃ member ∈ members, TransGen graph.Calls member member := by
  cases members with
  | nil => exact cycle.elim
  | cons first rest =>
    cases rest with
    | nil => exact ⟨first, List.mem_singleton_self first, .single (by simpa using cycle.2)⟩
    | cons second rest =>
      have edge : graph.Calls first second := by
        have chain := cycle.2
        rw [List.cons_append, List.isChain_cons_cons] at chain
        exact chain.1
      exact ⟨first, List.mem_cons_self, .head' edge (cycle.reaches (by simp) (by simp))⟩

theorem IsCycle.live (consistent : graph.Consistent) {members : List Nat}
    (cycle : graph.IsCycle members) : ∀ member ∈ members, graph.contains member := by
  intro member mem
  obtain ⟨closing, closingMember, loop⟩ := cycle.returns
  obtain ⟨_, first, _⟩ := TransGen.head'_iff.mp loop
  rcases (cycle.reaches closingMember mem).cases_tail with same | ⟨_, _, edge⟩
  · exact same ▸ contains_caller first
  · exact consistent.contains_callee edge

/-! The walk along one path. -/

/-- A search stands at a node behind a path of live nodes, listed with the
last one first. -/
structure Trail (graph : CallGraph α) (path : List Nat) (handle : Nat) : Prop where
  chain : (path.reverse ++ [handle]).IsChain graph.Calls
  nodup : path.Nodup
  live : ∀ node ∈ path, graph.contains node

theorem Trail.extend {path : List Nat} {handle callee : Nat} (trail : graph.Trail path handle)
    (fresh : handle ∉ path) (edge : graph.Calls handle callee) :
    graph.Trail (handle :: path) callee where
  chain := by
    rw [List.reverse_cons]
    exact trail.chain.append (.singleton callee) (by simpa using edge)
  nodup := List.nodup_cons.mpr ⟨fresh, trail.nodup⟩
  live := by
    intro node member
    rcases List.mem_cons.mp member with rfl | earlier
    · exact contains_caller edge
    · exact trail.live node earlier

/-- An edge back to the path closes a cycle. -/
theorem Trail.closes {path : List Nat} {handle : Nat} (trail : graph.Trail path handle)
    (met : handle ∈ path) : graph.IsCycle (pathFrom handle path) := by
  obtain ⟨before, behind, split⟩ := List.append_of_mem (List.mem_reverse.mpr met)
  have distinct := List.nodup_reverse.mpr trail.nodup
  have chain := trail.chain
  rw [split] at distinct chain
  have absent : handle ∉ before := fun early =>
    (List.nodup_append.mp distinct).2.2 handle early handle List.mem_cons_self rfl
  have cut : pathFrom handle path = handle :: behind := by
    rw [pathFrom, split, List.dropWhile_append_of_pos, List.dropWhile_cons_of_neg]
    · simp
    · intro node member
      simpa using fun same : node = handle => absent (same ▸ member)
  rw [cut]
  refine ⟨(List.nodup_append.mp distinct).2.1, ?_⟩
  rw [List.append_assoc] at chain
  exact chain.right_of_append

/-- A path visits no node twice, so it is no longer than the graph has nodes. -/
theorem Trail.length_lt {path : List Nat} {handle : Nat} (trail : graph.Trail path handle)
    (live : graph.contains handle) (fresh : handle ∉ path) : path.length < graph.nodeCount := by
  have distinct : (handle :: path).Nodup := List.nodup_cons.mpr ⟨fresh, trail.nodup⟩
  refine (List.Nodup.subperm distinct fun node member => mem_handles.mpr ?_).length_le
  rcases List.mem_cons.mp member with rfl | earlier
  · exact live
  · exact trail.live node earlier

/-! The search as a whole. -/

/-- From the listed nodes no infinite path starts. -/
def Settled (graph : CallGraph α) (done : List Nat) : Prop :=
  ∀ handle ∈ done, Acc (fun callee caller => graph.Calls caller callee) handle

/-- What a walk to some targets owes: a cycle of the graph, or a longer list
of nodes that are done with, the targets among them. -/
def Answers (graph : CallGraph α) (targets done : List Nat) : WalkResult → Prop
  | .explored after => done ⊆ after ∧ targets ⊆ after ∧ graph.Settled after
  | .cycle members => graph.IsCycle members

theorem walkEach_answers {walk : Nat → List Nat → WalkResult} {path handles done : List Nat}
    (trails : ∀ handle ∈ handles, graph.Trail path handle)
    (step : ∀ handle ∈ handles, handle ∉ path → ∀ done, graph.Settled done →
      graph.Answers [handle] done (walk handle done))
    (settled : graph.Settled done) :
    graph.Answers handles done (walkEach walk path handles done) := by
  induction handles generalizing done with
  | nil => exact ⟨List.Subset.refl _, List.nil_subset _, settled⟩
  | cons handle later ih =>
    have laterTrails := fun node member => trails node (List.mem_cons_of_mem _ member)
    have laterStep := fun node member => step node (List.mem_cons_of_mem _ member)
    -- What is owed for the later targets is owed for all of them once this one is done with.
    have onward : ∀ {middle result}, done ⊆ middle → handle ∈ middle →
        graph.Answers later middle result → graph.Answers (handle :: later) done result := by
      intro middle result grown reached answered
      cases result with
      | cycle members => exact answered
      | explored after =>
        obtain ⟨kept, targets, settled⟩ := answered
        exact ⟨List.Subset.trans grown kept, List.cons_subset.mpr ⟨kept reached, targets⟩, settled⟩
    rw [walkEach]
    split
    next met => exact (trails handle List.mem_cons_self).closes (List.contains_iff_mem.mp met)
    next unmet =>
      split
      next finished =>
        exact onward (List.Subset.refl _) (List.contains_iff_mem.mp finished)
          (ih laterTrails laterStep settled)
      next =>
        have answered := step handle List.mem_cons_self
          (fun member => unmet (List.contains_iff_mem.mpr member)) done settled
        cases found : walk handle done with
        | cycle members =>
          rw [found] at answered
          exact answered
        | explored after =>
          rw [found] at answered
          obtain ⟨kept, reached, settledAfter⟩ := answered
          exact onward kept (reached List.mem_cons_self) (ih laterTrails laterStep settledAfter)

/-- A walk with steps for every node outside its path does what it owes. -/
theorem Consistent.walk_answers (consistent : graph.Consistent) (fuel : Nat) (path : List Nat)
    (handle : Nat) (done : List Nat) (trail : graph.Trail path handle)
    (live : graph.contains handle) (fresh : handle ∉ path)
    (enough : graph.nodeCount ≤ path.length + fuel) (settled : graph.Settled done) :
    graph.Answers [handle] done (graph.walk fuel path handle done) := by
  induction fuel generalizing path handle done with
  | zero => exact absurd (trail.length_lt live fresh) (by omega)
  | succ fuel ih =>
    have edges : ∀ callee ∈ (graph.successors handle).map (·.1), graph.Calls handle callee :=
      fun callee member => mem_callees.mp member
    have answered : graph.Answers ((graph.successors handle).map (·.1)) done
        (walkEach (graph.walk fuel (handle :: path)) (handle :: path) _ done) := walkEach_answers
      (fun callee member => trail.extend fresh (edges callee member))
      (fun callee member unmet done settled => ih (handle :: path) callee done
        (trail.extend fresh (edges callee member))
        (consistent.contains_callee (edges callee member)) unmet
        (by simp only [List.length_cons]; omega) settled) settled
    rw [walk]
    split
    next after found =>
      rw [found] at answered
      obtain ⟨kept, callees, settledAfter⟩ := answered
      refine ⟨List.Subset.trans kept (List.subset_cons_self ..), by simp, ?_⟩
      intro node member
      rcases List.mem_cons.mp member with rfl | earlier
      · exact .intro node fun callee edge => settledAfter callee (callees (mem_callees.mpr edge))
      · exact settledAfter node earlier
    next members found =>
      rw [found] at answered
      exact answered

private theorem not_rel_self_of_acc {relation : Nat → Nat → Prop} {a : Nat}
    (accessible : Acc relation a) : ¬ relation a a := by
  induction accessible with
  | intro a _ ih => exact fun loop => ih a loop loop

private theorem acyclic_of_settled (settled : graph.Settled graph.handles) : graph.Acyclic := by
  intro handle loop
  obtain ⟨_, edge, _⟩ := TransGen.head'_iff.mp loop
  have accessible := (settled handle (mem_handles.mpr (contains_caller edge))).transGen
  exact not_rel_self_of_acc accessible (transGen_swap.mpr loop)

/-- What the search finds is a cycle, and where it finds none there is none. -/
theorem Consistent.findCycle_spec (consistent : graph.Consistent) :
    match graph.findCycle? with
    | none => graph.Acyclic
    | some members => graph.IsCycle members := by
  have answered : graph.Answers graph.handles []
      (walkEach (graph.walk graph.nodeCount []) [] graph.handles []) := walkEach_answers
    (fun handle _ => ⟨.singleton handle, List.nodup_nil, by simp⟩)
    (fun handle member unmet done settled => consistent.walk_answers graph.nodeCount [] handle done
      ⟨.singleton handle, List.nodup_nil, by simp⟩ (mem_handles.mp member) unmet (by simp) settled)
    (by simp [Settled])
  rw [findCycle?]
  cases found : walkEach (graph.walk graph.nodeCount []) [] graph.handles [] with
  | cycle members =>
    rw [found] at answered
    exact answered
  | explored after =>
    rw [found] at answered
    obtain ⟨_, targets, settled⟩ := answered
    exact acyclic_of_settled fun handle member => settled handle (targets member)

theorem Consistent.isCycle_of_findCycle (consistent : graph.Consistent) {members : List Nat}
    (found : graph.findCycle? = some members) : graph.IsCycle members := by
  have spec := consistent.findCycle_spec
  rw [found] at spec
  exact spec

/-- The search comes back without a cycle exactly in a graph without cycles. -/
theorem Consistent.findCycle_eq_none_iff (consistent : graph.Consistent) :
    graph.findCycle? = none ↔ graph.Acyclic := by
  have spec := consistent.findCycle_spec
  cases found : graph.findCycle? with
  | none =>
    rw [found] at spec
    exact ⟨fun _ => spec, fun _ => rfl⟩
  | some members =>
    rw [found] at spec
    obtain ⟨member, _, loop⟩ := spec.returns
    exact ⟨fun absent => by simp at absent, fun acyclic => absurd loop (acyclic member)⟩

end ProfileGraph.CallGraph
