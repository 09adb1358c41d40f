import ProfileGraph.Pipeline.Report
import ProfileGraph.Snapshot.Basic

/-! A run of the whole pipeline: a graph is built from a rendered profile,
simplified and reported. Its snapshot is handed to a sink once after building
and once after simplification. -/
namespace ProfileGraph

/-- The label of the snapshot taken after building. -/
def debugLabel : String := "debug"

/-- The label of the snapshot taken after simplification. -/
def finalLabel : String := "final"

/-- A receiver of labelled snapshots. It may change the state it keeps even
when it fails. -/
structure Sink (σ : Type) where
  emit : String → Snapshot → σ → Except SinkError Unit × σ

/-- Keeps every snapshot, in the order of arrival. -/
def Sink.memory : Sink (List (String × Snapshot)) where
  emit label snapshot kept := (.ok (), kept ++ [(label, snapshot)])

/-- The first snapshot kept under a label. -/
def keptSnapshot? (label : String) (kept : List (String × Snapshot)) : Option Snapshot :=
  (kept.find? (·.1 == label)).map (·.2)

/-- How graphs are made: the patterns of lines, the marker of interest points
and the treatment of roots. -/
structure Pipeline where
  patterns : RecordPatterns := .standard
  interestMarker : String := defaultInterestMarker
  rootPolicy : RootPolicy := .retain

/-- The state of the sink after a run, and the graph with its report or the
error that ended the run. -/
structure RunResult (σ : Type) where
  state : σ
  outcome : Except PipelineError (CallGraph Binary64 × PipelineReport)

namespace Pipeline

/-- The report of a build. -/
def buildReport (stats : ParseStats) (graph : CallGraph Binary64) : PipelineReport where
  parse := stats
  totalSamples := graph.totalSamples
  parsedNodes := graph.nodeCount
  parsedEdges := graph.edgeCount
  parsedSelfCoverage := graph.totalSelfCoverage

/-- The report completed by the sizes of the simplified graph. -/
def finalReport (report : PipelineReport) (graph : CallGraph Binary64) : PipelineReport :=
  { report with
    finalNodes := graph.nodeCount
    finalEdges := graph.edgeCount
    finalSelfCoverage := graph.totalSelfCoverage }

/-- Goes on with what building led to: the graph is handed to the sink, simplified and
handed to the sink again. -/
def finish {σ : Type} (pipeline : Pipeline) (sink : Sink σ) (built : BuildResult Binary64)
    (state : σ) : RunResult σ :=
  match built.outcome with
  | .error error => ⟨state, .error error⟩
  | .ok graph =>
    match sink.emit debugLabel (.ofGraph graph) state with
    | (.error error, state) => ⟨state, .error (.sink error)⟩
    | (.ok (), state) =>
      let simplified := graph.simplify pipeline.rootPolicy
      let report := (buildReport built.stats graph).withPasses simplified
      match simplified.error with
      | some error => ⟨state, .error (.simplify error)⟩
      | none =>
        match sink.emit finalLabel (.ofGraph simplified.graph) state with
        | (.error error, state) => ⟨state, .error (.sink error)⟩
        | (.ok (), state) =>
          ⟨state, .ok (simplified.graph, finalReport report simplified.graph)⟩

/-- Runs the pipeline on a rendered profile. -/
def run {σ : Type} (pipeline : Pipeline) (sink : Sink σ) (source : ByteSource) (state : σ) :
    RunResult σ :=
  pipeline.finish sink (CallGraph.build pipeline.patterns pipeline.interestMarker source) state

end Pipeline
end ProfileGraph
