import ProfileGraph.Proofs.Bridging

/-! Runs of pruning along an order of the nodes. The order is fixed before the
first removal; it stays topological, because a bridge leads from a node before
the removed one to a node behind it. So removals change no caller of a node
that was visited before, and what was found of it stays true. -/
namespace ProfileGraph.CallGraph

variable {α : Type} [Quantity α]

/-- An instrumented region. -/
def IsInterest (graph : CallGraph α) (handle : Nat) : Prop :=
  ∃ node, graph.node? handle = some node ∧ node.isInterestPoint = true

/-- A run of pruning: nodes are visited in order and stay, end the run or are
removed. -/
inductive PruneRun (policy : RootPolicy) :
    CallGraph α → PruneReport → List Nat → PassResult PruneReport α → Prop
  | finished {graph : CallGraph α} {report : PruneReport} :
      PruneRun policy graph report [] ⟨graph, .ok report⟩
  | absent {graph : CallGraph α} {report : PruneReport} {handle : Nat} {later : List Nat}
      {ended : PassResult PruneReport α} :
      graph.node? handle = none →
      PruneRun policy graph report later ended →
      PruneRun policy graph report (handle :: later) ended
  | interest {graph : CallGraph α} {report : PruneReport} {handle : Nat} {later : List Nat}
      {ended : PassResult PruneReport α} :
      graph.IsInterest handle →
      PruneRun policy graph report later ended →
      PruneRun policy graph report (handle :: later) ended
  | retained {graph : CallGraph α} {report : PruneReport} {handle : Nat} {later : List Nat}
      {ended : PassResult PruneReport α} {node : Node α} :
      graph.node? handle = some node → ¬ node.isInterestPoint → graph.isRoot handle →
      policy = .retain →
      PruneRun policy graph { report with
        retainedRoots := report.retainedRoots ++ [node.profilerId] } later ended →
      PruneRun policy graph report (handle :: later) ended
  | forbidden {graph : CallGraph α} {report : PruneReport} {handle : Nat} {later : List Nat}
      {node : Node α} :
      graph.node? handle = some node → ¬ node.isInterestPoint → graph.isRoot handle →
      policy = .forbid →
      PruneRun policy graph report (handle :: later)
        ⟨graph, .error (.unprunableRoot node.profilerId)⟩
  | removed {graph next : CallGraph α} {report : PruneReport} {handle : Nat} {later : List Nat}
      {ended : PassResult PruneReport α} {node : Node α} :
      graph.node? handle = some node → ¬ node.isInterestPoint → ¬ graph.isRoot handle →
      graph.removeAndBridge handle node = ⟨next, .ok ()⟩ → graph.Eliminated handle next →
      PruneRun policy next { report with
        removed := report.removed ++ [node.profilerId]
        bridgedEdges := report.bridgedEdges +
          (graph.predecessors handle).length * (graph.successors handle).length } later ended →
      PruneRun policy graph report (handle :: later) ended

variable {graph start : CallGraph α} {policy : RootPolicy} {report : PruneReport}
  {later : List Nat} {ended : PassResult PruneReport α}

/-- Pruning is such a run: no removal fails. -/
theorem Consistent.pruneAlong_run (consistent : graph.Consistent) (policy : RootPolicy)
    (report : PruneReport) (order : List Nat) :
    PruneRun policy graph report order (graph.pruneAlong policy report order) := by
  induction order generalizing graph report with
  | nil => exact .finished
  | cons handle later ih =>
    rw [pruneAlong]
    split
    next absent => exact .absent absent (ih consistent report)
    next node held =>
      split
      next interest => exact .interest ⟨node, held, interest⟩ (ih consistent report)
      next plain =>
        split
        next root =>
          cases policy with
          | retain => exact .retained held plain root rfl (ih consistent _)
          | forbid => exact .forbidden held plain root rfl
        next inner =>
          have live := contains_iff_node.mpr ⟨node, held⟩
          obtain ⟨next, ran, eliminated⟩ := consistent.removeAndBridge_spec live node
          dsimp only
          rw [ran]
          exact .removed held plain inner ran eliminated (ih eliminated.consistent _)

/-- A run ends with a report, or at a root under the policy that forbids it. -/
theorem PruneRun.outcome (run : PruneRun policy graph report later ended) :
    (∃ final, ended.outcome = .ok final) ∨
      policy = .forbid ∧ ∃ id, ended.outcome = .error (.unprunableRoot id) := by
  induction run with
  | finished => exact .inl ⟨_, rfl⟩
  | absent _ _ ih | interest _ _ ih | retained _ _ _ _ _ ih => exact ih
  | removed _ _ _ _ _ _ ih => exact ih
  | forbidden _ _ _ forbid => exact .inr ⟨forbid, _, rfl⟩

/-- A run removes some of the nodes that it visits, in their order, bridges the
rest, and reports the ids of those that it removed. -/
theorem PruneRun.pruned (run : PruneRun policy graph report later ended) {before : List Nat}
    (pruned : start.Pruned before graph) :
    ∃ removed : List Nat, removed.Sublist later ∧ start.Pruned (before ++ removed) ended.graph ∧
      ∀ final, ended.outcome = .ok final →
        final.removed = report.removed ++ removed.map start.profilerId := by
  induction run generalizing before with
  | finished =>
    refine ⟨[], List.nil_sublist _, by simpa using pruned, fun final ended => ?_⟩
    cases ended
    simp
  | @absent _ _ handle _ _ _ _ ih
  | @interest _ _ handle _ _ _ _ ih
  | @retained _ _ handle _ _ _ _ _ _ _ _ ih =>
    obtain ⟨removed, visited, left, reported⟩ := ih pruned
    exact ⟨removed, visited.cons handle, left, reported⟩
  | forbidden => exact ⟨[], List.nil_sublist _, by simpa using pruned, by simp⟩
  | @removed graph _ _ handle _ _ node held _ _ _ eliminated _ ih =>
    have live := contains_iff_node.mpr ⟨node, held⟩
    obtain ⟨removed, visited, left, reported⟩ := ih (pruned.eliminate eliminated live)
    refine ⟨handle :: removed, visited.cons_cons handle, by simpa using left,
      fun final ended => ?_⟩
    have kept := pruned.bare_eq handle ((pruned.contains_iff handle).mp live).2
    have named : start.profilerId handle = node.profilerId := by
      rw [held] at kept
      rw [profilerId]
      cases same : start.node? handle with
      | none => simp [same] at kept
      | some first =>
        rw [same, Option.map_some, Option.map_some, Option.some.injEq] at kept
        exact (congrArg (·.profilerId) kept).symm
    rw [reported final ended, List.map_cons, named, List.append_assoc]
    rfl

/-- Pruning an acyclic graph is a run along a topological order of it. -/
theorem Consistent.prune_run (consistent : graph.Consistent) (acyclic : graph.Acyclic)
    (policy : RootPolicy) :
    ∃ order, graph.IsTopological order ∧ PruneRun policy graph {} order (graph.prune policy) := by
  obtain ⟨order, ordered, topological⟩ := consistent.exists_topologicalOrder acyclic
  refine ⟨order, topological, ?_⟩
  rw [CallGraph.prune, ordered]
  exact consistent.pruneAlong_run policy {} order

/-- Where roots stay, it succeeds. -/
theorem Consistent.prune_retain (consistent : graph.Consistent) (acyclic : graph.Acyclic) :
    ∃ order report result, graph.IsTopological order ∧
      graph.prune .retain = ⟨result, .ok report⟩ ∧
      PruneRun .retain graph {} order ⟨result, .ok report⟩ := by
  obtain ⟨order, topological, run⟩ := consistent.prune_run acyclic .retain
  rcases run.outcome with ⟨report, ended⟩ | ⟨forbid, _⟩
  · refine ⟨order, report, (graph.prune .retain).graph, topological, ?_, ?_⟩
    · rw [← ended]
    · rwa [← ended]
  · cases forbid

/-- A node that is left has been live all along, and only its self coverage may
have changed. -/
theorem Pruned.node_before {removed : List Nat} {result : CallGraph α}
    (pruned : start.Pruned removed result) {handle : Nat} {after : Node α}
    (left : result.node? handle = some after) :
    ∃ before, start.node? handle = some before ∧ before.bare = after.bare := by
  have live := (pruned.contains_iff handle).mp (contains_iff_node.mpr ⟨after, left⟩)
  have same := pruned.bare_eq handle live.2
  rw [left, Option.map_some] at same
  exact Option.map_eq_some_iff.mp same.symm

/-! What stays. -/

/-- A node that pruning has no cause to touch. -/
def Kept (graph : CallGraph α) (handle : Nat) : Prop :=
  graph.IsInterest handle ∨ graph.isRoot handle

theorem Eliminated.isInterest {gone handle : Nat} {next : CallGraph α}
    (eliminated : graph.Eliminated gone next) (different : handle ≠ gone)
    (interest : graph.IsInterest handle) : next.IsInterest handle := by
  obtain ⟨node, held, marked⟩ := interest
  have kept := eliminated.bare_eq handle different
  rw [held, Option.map_some, Option.map_eq_some_iff] at kept
  obtain ⟨after, held, same⟩ := kept
  exact ⟨after, held, (congrArg (·.isInterestPoint) same).trans marked⟩

/-- An interest point is never removed. -/
theorem PruneRun.isInterest (run : PruneRun policy graph report later ended) {handle : Nat}
    (interest : graph.IsInterest handle) : ended.graph.IsInterest handle := by
  induction run with
  | finished | forbidden => exact interest
  | absent _ _ ih | interest _ _ ih | retained _ _ _ _ _ ih => exact ih interest
  | @removed _ _ _ gone _ _ node held plain _ _ eliminated _ ih =>
    have different : handle ≠ gone := by
      rintro rfl
      obtain ⟨same, held', marked⟩ := interest
      cases held.symm.trans held'
      exact plain marked
    exact ih (eliminated.isInterest different interest)

private theorem mem_iff_mem_cons {visited : List Nat} {retained : List Nat} {stays : Nat → Prop}
    (retains : ∀ handle, handle ∈ retained ↔ handle ∈ visited ∧ stays handle) {first : Nat}
    (leaves : ¬ stays first) (handle : Nat) :
    handle ∈ retained ↔ handle ∈ first :: visited ∧ stays handle := by
  rw [retains, List.mem_cons]
  refine and_congr_left fun stays => ⟨.inr, fun visited => visited.resolve_left ?_⟩
  rintro rfl
  exact leaves stays

/-- The visited nodes that are left and are no interest points are the roots that the
report says are retained, in their order. -/
theorem PruneRun.exists_retained (run : PruneRun policy graph report later ended)
    (consistent : graph.Consistent) (distinct : later.Nodup) {final : PruneReport}
    (succeeded : ended.outcome = .ok final) : ∃ retained : List Nat, retained.Sublist later ∧
      final.retainedRoots = report.retainedRoots ++ retained.map ended.graph.profilerId ∧
      ∀ handle, handle ∈ retained ↔ handle ∈ later ∧ ended.graph.contains handle ∧
        ¬ ended.graph.IsInterest handle := by
  induction run with
  | finished =>
    cases succeeded
    exact ⟨[], List.nil_sublist _, by simp, by simp⟩
  | forbidden => cases succeeded
  | @absent graph _ handle _ ended absent run ih =>
    obtain ⟨_, _, pruned, _⟩ := run.pruned (.refl consistent)
    obtain ⟨retained, visited, reported, retains⟩ :=
      ih consistent (List.nodup_cons.mp distinct).2 succeeded
    refine ⟨retained, visited.cons handle, reported, mem_iff_mem_cons retains fun left => ?_⟩
    have live := ((pruned.contains_iff handle).mp left.1).1
    rw [contains_eq_isSome_node, absent] at live
    cases live
  | @interest graph _ handle _ ended interest run ih =>
    obtain ⟨retained, visited, reported, retains⟩ :=
      ih consistent (List.nodup_cons.mp distinct).2 succeeded
    refine ⟨retained, visited.cons handle, reported, mem_iff_mem_cons retains fun left => ?_⟩
    exact left.2 (run.isInterest interest)
  | @retained graph _ handle later ended node held plain _ _ run ih =>
    obtain ⟨removed, removedVisited, pruned, _⟩ := run.pruned (.refl consistent)
    obtain ⟨fresh, distinct⟩ := List.nodup_cons.mp distinct
    obtain ⟨retained, visited, reported, retains⟩ := ih consistent distinct succeeded
    have kept := pruned.bare_eq handle fun inside => fresh (removedVisited.subset inside)
    rw [held, Option.map_some, Option.map_eq_some_iff] at kept
    obtain ⟨after, left, same⟩ := kept
    have unmarked : ¬ after.isInterestPoint := (congrArg (·.isInterestPoint) same) ▸ plain
    have named : ended.graph.profilerId handle = node.profilerId := by
      rw [profilerId, left]
      exact congrArg (·.profilerId) same
    refine ⟨handle :: retained, visited.cons_cons handle, ?_, fun other => ?_⟩
    · rw [reported, List.map_cons, named, List.append_assoc]
      rfl
    · rw [List.mem_cons, retains, List.mem_cons, or_and_right]
      refine or_congr (Iff.symm (and_iff_left_of_imp ?_)) Iff.rfl
      rintro rfl
      refine ⟨contains_iff_node.mpr ⟨after, left⟩, fun ⟨found, again, marked⟩ => unmarked ?_⟩
      cases left.symm.trans again
      exact marked
  | @removed graph next _ handle _ ended node held _ _ _ eliminated run ih =>
    obtain ⟨_, _, pruned, _⟩ := run.pruned (.refl eliminated.consistent)
    obtain ⟨retained, visited, reported, retains⟩ :=
      ih eliminated.consistent (List.nodup_cons.mp distinct).2 succeeded
    refine ⟨retained, visited.cons handle, reported, mem_iff_mem_cons retains fun left => ?_⟩
    have stays := ((pruned.contains_iff handle).mp left.1).1
    exact ((eliminated.contains_iff handle).mp stays).2 rfl

theorem PruneRun.mem_retainedRoots (run : PruneRun policy graph report later ended)
    (consistent : graph.Consistent) (distinct : later.Nodup) {final : PruneReport}
    (succeeded : ended.outcome = .ok final) (id : String) :
    id ∈ final.retainedRoots ↔ id ∈ report.retainedRoots ∨
      ∃ handle ∈ later, ∃ node, ended.graph.node? handle = some node ∧
        ¬ node.isInterestPoint ∧ node.profilerId = id := by
  obtain ⟨retained, _, reported, retains⟩ := run.exists_retained consistent distinct succeeded
  rw [reported, List.mem_append, List.mem_map]
  refine or_congr Iff.rfl (exists_congr fun handle => ?_)
  rw [retains, and_assoc]
  refine and_congr_right fun _ => ?_
  constructor
  · rintro ⟨⟨left, plain⟩, named⟩
    obtain ⟨node, held⟩ := contains_iff_node.mp left
    rw [profilerId, held] at named
    exact ⟨node, held, fun marked => plain ⟨node, held, marked⟩, named⟩
  · rintro ⟨node, held, unmarked, rfl⟩
    refine ⟨⟨contains_iff_node.mpr ⟨node, held⟩, fun ⟨found, again, marked⟩ => unmarked ?_⟩, ?_⟩
    · cases held.symm.trans again
      exact marked
    · rw [profilerId, held]

theorem Eliminated.isRoot_eq {gone handle : Nat} {next : CallGraph α}
    (eliminated : graph.Eliminated gone next) (different : handle ≠ gone)
    (uncalled : ¬ graph.Calls gone handle) : next.isRoot handle = graph.isRoot handle := by
  simp only [isRoot, inWeight, eliminated.predecessors_eq handle different uncalled]

/-- An order stays topological, because bridges lead forward too. -/
theorem Eliminated.forward {gone : Nat} {next : CallGraph α} {order : List Nat}
    (eliminated : graph.Eliminated gone next) (forward : graph.Forward order) :
    next.Forward order := by
  intro caller callee edge
  obtain ⟨_, _, edge | ⟨first, last⟩⟩ := (eliminated.calls_iff caller callee).mp edge
  · exact forward caller callee edge
  · exact Nat.lt_trans (forward caller gone first) (forward gone callee last)

private theorem kept_concat {done : List Nat} {handle : Nat}
    (kept : ∀ other ∈ done, graph.contains other → graph.Kept other)
    (settled : graph.contains handle → graph.Kept handle) :
    ∀ other ∈ done ++ [handle], graph.contains other → graph.Kept other := by
  intro other member live
  rcases List.mem_append.mp member with earlier | same
  · exact kept other earlier live
  · cases List.mem_singleton.mp same
    exact settled live

/-- Along a topological order, a run leaves an acyclic graph whose visited
nodes are all interest points or roots. -/
theorem PruneRun.kept (run : PruneRun policy graph report later ended) (done : List Nat)
    (distinct : (done ++ later).Nodup) (forward : graph.Forward (done ++ later))
    (kept : ∀ handle ∈ done, graph.contains handle → graph.Kept handle) :
    ended.graph.Forward (done ++ later) ∧ ∀ final, ended.outcome = .ok final →
      ∀ handle ∈ done ++ later, ended.graph.contains handle → ended.graph.Kept handle := by
  induction run generalizing done with
  | finished => exact ⟨forward, fun _ _ handle member => kept handle (by simpa using member)⟩
  | absent absent _ ih =>
    rw [List.append_cons] at distinct forward ⊢
    refine ih _ distinct forward (kept_concat kept fun live => ?_)
    rw [contains_eq_isSome_node, absent] at live
    cases live
  | interest interest _ ih =>
    rw [List.append_cons] at distinct forward ⊢
    exact ih _ distinct forward (kept_concat kept fun _ => .inl interest)
  | retained _ _ root _ _ ih =>
    rw [List.append_cons] at distinct forward ⊢
    exact ih _ distinct forward (kept_concat kept fun _ => .inr root)
  | forbidden => exact ⟨forward, fun _ failed => by cases failed⟩
  | @removed graph next _ handle later _ _ _ _ _ _ eliminated _ ih =>
    rw [List.append_cons] at distinct forward ⊢
    refine ih _ distinct (eliminated.forward forward) (kept_concat (fun other earlier live => ?_)
      fun live => absurd rfl ((eliminated.contains_iff handle).mp live).2)
    obtain ⟨live, different⟩ := (eliminated.contains_iff other).mp live
    -- A node visited before stands before the removed one, so it is none of its callees.
    have uncalled : ¬ graph.Calls handle other := fun edge => by
      have ahead := forward handle other edge
      rw [← List.append_cons] at distinct ahead
      have unvisited : handle ∉ done := fun early =>
        (List.nodup_append.mp distinct).2.2 handle early handle List.mem_cons_self rfl
      rw [List.idxOf_append_of_notMem unvisited, List.idxOf_append_of_mem earlier] at ahead
      have inside := List.idxOf_lt_length_of_mem earlier
      omega
    rcases kept other earlier live with interest | root
    · exact .inl (eliminated.isInterest different interest)
    · exact .inr ((eliminated.isRoot_eq different uncalled).trans root)

end ProfileGraph.CallGraph
