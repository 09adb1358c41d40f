import ProfileGraph.Proofs.Moments

/-! What the stages divide by. Collapsing and correcting state coverages as shares
of all samples, and pruning splits what a removed node received by the weight
that it received. Each looks first whether that is zero, and then does not
divide: it refuses, or it leaves the node alone. -/
namespace ProfileGraph

theorem PassResult.forall_mem_onward {ρ α γ : Type} {first : PassResult ρ α}
    {list : ρ → CallGraph α → List γ} {p : γ → Prop}
    (each : ∀ report, first.outcome = .ok report → ∀ x ∈ list report first.graph, p x) :
    ∀ x ∈ first.onward list, p x := by
  rw [onward]
  cases ended : first.outcome with
  | error error => simp
  | ok report => exact each report ended

namespace CallGraph
variable {α : Type} [Quantity α] {graph next : CallGraph α}

/-- What collapsing cycles, at most `fuel` of them, divides by: each new coverage
is a share of all samples. -/
def collapseDivisors : Nat → CallGraph α → List α
  | 0, _ => []
  | fuel + 1, graph =>
    match graph.findCycle? with
    | none => []
    | some members => (graph.collapse members).onward fun _ graph =>
      Quantity.ofCount graph.totalSamples :: collapseDivisors fuel graph

/-- What correcting self coverage divides by: each self coverage found anew is a
share of all samples. -/
def correctDivisors (graph : CallGraph α) : List α :=
  match graph.fixSelfCoverage with
  | .error _ => []
  | .ok (report, _) => List.replicate report.updated (Quantity.ofCount graph.totalSamples)

/-- What visiting nodes in order divides by: the weight that a removed node
received, for all of its callers. -/
def pruneAlongDivisors (policy : RootPolicy) (graph : CallGraph α) : List Nat → List α
  | [] => []
  | handle :: later =>
    match graph.node? handle with
    | none => pruneAlongDivisors policy graph later
    | some node =>
      if node.isInterestPoint then pruneAlongDivisors policy graph later
      else if graph.isRoot handle then
        match policy with
        | .retain => pruneAlongDivisors policy graph later
        | .forbid => []
      else graph.inWeight handle ::
        (graph.removeAndBridge handle node).onward fun () graph =>
          pruneAlongDivisors policy graph later

/-- What a stage divides by. -/
def stageDivisors (graph : CallGraph α) : Stage → List α
  | .collapse => collapseDivisors (2 * graph.nodeCount + 1) graph
  | .correct => graph.correctDivisors
  | .prune policy =>
    match graph.topologicalOrder with
    | .error _ => []
    | .ok order => graph.pruneAlongDivisors policy order

/-- What several stages divide by. -/
def stagesDivisors (graph : CallGraph α) (stages : List Stage) : List α :=
  listAlong (fun graph (stage : Stage) => graph.perform stage.operation) stageDivisors stages graph

/-! None of it is zero. -/

/-- Cycles are collapsed only if there are samples. -/
theorem collapse_samples {listed : List Nat} {cycle : CollapsedCycle α}
    (ran : (graph.collapse listed).outcome = .ok cycle) :
    (graph.collapse listed).graph.totalSamples ≠ 0 := by
  have journey := (allValues_true graph).journey_collapse Quantity.keeps_true listed
  rw [journey.fields.1]
  intro lack
  rw [collapse, if_pos lack] at ran
  cases ran

/-- Self coverage is found anew only if there are samples. -/
theorem fixSelfCoverage_samples {report : CorrectionReport}
    (ran : graph.fixSelfCoverage = .ok (report, next)) (updated : report.updated ≠ 0) :
    graph.totalSamples ≠ 0 := by
  rw [fixSelfCoverage] at ran
  split at ran
  next => cases ran
  next order _ =>
    dsimp only at ran
    split at ran
    next => cases ran
    next enough =>
      cases ran
      exact fun lack => enough ⟨lack, fun none => updated (by simp [none])⟩

theorem pruneAlongDivisors_nonzero (policy : RootPolicy) (order : List Nat) :
    ∀ divisor ∈ graph.pruneAlongDivisors policy order, ¬ Quantity.isZero divisor := by
  induction order generalizing graph with
  | nil => simp [pruneAlongDivisors]
  | cons handle later ih =>
    unfold pruneAlongDivisors
    cases graph.node? handle with
    | none => exact ih
    | some node =>
      dsimp only
      by_cases interest : node.isInterestPoint
      · rw [if_pos interest]
        exact ih
      · rw [if_neg interest]
        by_cases root : graph.isRoot handle
        · rw [if_pos root]
          cases policy with
          | retain => exact ih
          | forbid => simp
        · rw [if_neg root]
          exact List.forall_mem_cons.mpr ⟨root, PassResult.forall_mem_onward fun _ _ => ih⟩

section Counts
variable (counts : ∀ n : Nat, n ≠ 0 → ¬ Quantity.isZero (Quantity.ofCount n : α))
include counts

theorem collapseDivisors_nonzero (fuel : Nat) :
    ∀ divisor ∈ collapseDivisors fuel graph, ¬ Quantity.isZero divisor := by
  induction fuel generalizing graph with
  | zero => simp [collapseDivisors]
  | succ fuel ih =>
    rw [collapseDivisors]
    cases graph.findCycle? with
    | none => simp
    | some members =>
      refine PassResult.forall_mem_onward fun cycle ran => ?_
      exact List.forall_mem_cons.mpr ⟨counts _ (collapse_samples ran), ih⟩

theorem correctDivisors_nonzero :
    ∀ divisor ∈ graph.correctDivisors, ¬ Quantity.isZero divisor := by
  rw [correctDivisors]
  split
  next => simp
  next report _ ran =>
    intro divisor listed
    obtain ⟨updated, rfl⟩ := List.mem_replicate.mp listed
    exact counts _ (fixSelfCoverage_samples ran updated)

/-- Whatever stages are run on whatever graph, none of them divides by zero. -/
theorem stagesDivisors_nonzero (stages : List Stage) :
    ∀ divisor ∈ graph.stagesDivisors stages, ¬ Quantity.isZero divisor := by
  rw [stagesDivisors]
  induction stages generalizing graph with
  | nil => simp [listAlong]
  | cons stage later ih =>
    rw [listAlong]
    refine List.forall_mem_append.mpr ⟨?_, ih⟩
    cases stage with
    | collapse => exact collapseDivisors_nonzero counts _
    | correct => exact correctDivisors_nonzero counts
    | prune policy =>
      rw [stageDivisors]
      cases graph.topologicalOrder with
      | error error => simp
      | ok order => exact pruneAlongDivisors_nonzero policy order

end Counts

end CallGraph
end ProfileGraph
