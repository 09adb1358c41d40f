import ProfileGraph.Graph.Basic

/-! Passes: changes of a graph that go step by step and can be ended half-way
by an error. What a pass changed before the error stays changed. -/
namespace ProfileGraph

/-- The result of a pass that changes the graph step by step: the graph as far
as the pass came, and its report or the error that ended it. -/
structure PassResult (ρ α : Type) where
  graph : CallGraph α
  outcome : Except GraphError ρ

namespace PassResult
variable {ρ σ α : Type}

/-- Goes on with the graph and the report of a pass, unless it failed. -/
def andThen (result : PassResult ρ α) (next : ρ → CallGraph α → PassResult σ α) :
    PassResult σ α :=
  match result.outcome with
  | .ok report => next report result.graph
  | .error error => ⟨result.graph, .error error⟩

theorem andThen_assoc {τ : Type} (result : PassResult ρ α) (next : ρ → CallGraph α → PassResult σ α)
    (last : σ → CallGraph α → PassResult τ α) :
    (result.andThen next).andThen last =
      result.andThen fun report graph => (next report graph).andThen last := by
  obtain ⟨graph, report | error⟩ := result <;> rfl

/-- The report together with the graph, for a pass that changes nothing when
it fails. -/
def toExcept (result : PassResult ρ α) : Except GraphError (ρ × CallGraph α) :=
  result.outcome.map fun report => (report, result.graph)

end PassResult

namespace CallGraph
variable {ρ α : Type}

/-- A pass that ends before it changes anything. -/
def refuse (graph : CallGraph α) (error : GraphError) : PassResult ρ α := ⟨graph, .error error⟩

/-- An operation as a step of a pass: when it is refused, the graph stays as
it was. -/
def attempt (graph : CallGraph α) : Except GraphError (CallGraph α) → PassResult Unit α
  | .ok changed => ⟨changed, .ok ()⟩
  | .error error => graph.refuse error

/-- Takes one step for each item in turn, up to the first that fails. -/
def forEach {β : Type} (step : β → CallGraph α → PassResult Unit α) :
    List β → CallGraph α → PassResult Unit α
  | [], graph => ⟨graph, .ok ()⟩
  | item :: later, graph => (step item graph).andThen fun () graph => forEach step later graph

/-- Deletes a node as a step of a pass. -/
def removal (handle : Nat) (graph : CallGraph α) : PassResult Unit α :=
  graph.attempt ((graph.removeNode handle).map (·.2))

end CallGraph
end ProfileGraph
