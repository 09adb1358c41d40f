import ProfileGraph.Graph.Basic
import ProfileGraph.Record.Patterns
import ProfileGraph.Text.Bytes
import ProfileGraph.Workspace.OsError

/-! Building a graph from a rendered profile. Lines are read one after the
other; the first one that is malformed or does not fit the graph ends the
build. Every line read is counted, and so is every record recognised. -/
namespace ProfileGraph

/-- Counts of lines and records. -/
structure ParseStats where
  lines : Nat := 0
  nodesWithInclusive : Nat := 0
  nodesSelfOnly : Nat := 0
  edges : Nat := 0
  legends : Nat := 0
  ignored : Nat := 0
deriving DecidableEq, Repr, Inhabited

/-- Counts a record of a kind. -/
def ParseStats.count (stats : ParseStats) : RecordKind → ParseStats
  | .nodeWithInclusive => { stats with nodesWithInclusive := stats.nodesWithInclusive + 1 }
  | .nodeSelfOnly => { stats with nodesSelfOnly := stats.nodesSelfOnly + 1 }
  | .edge => { stats with edges := stats.edges + 1 }
  | .legend => { stats with legends := stats.legends + 1 }
  | .ignored => { stats with ignored := stats.ignored + 1 }

/-- Why a snapshot could not be stored. -/
inductive SinkError where
  | io (path : String) (cause : OsError)
deriving DecidableEq, Repr

/-- The text for a snapshot that cannot be kept. -/
def SinkError.message : SinkError → String
  | .io path cause => "Failed to write " ++ path ++ ": " ++ cause.message

/-- Why a run ends without a graph. -/
inductive PipelineError where
  /-- A line is malformed. -/
  | parse (error : RecordError)
  /-- A line does not fit the graph. -/
  | graph (line : Nat) (error : GraphError)
  | simplify (error : GraphError)
  | sink (error : SinkError)
  /-- Reading the profile failed for the given reason. -/
  | io (reason : String)
deriving DecidableEq, Repr

/-- The text for a run that fails. -/
def PipelineError.message : PipelineError → String
  | .parse error => error.message
  | .graph line error => "Line " ++ toString line ++ ": " ++ error.message
  | .simplify error => "Call graph simplification failed: " ++ error.message
  | .sink error => error.message
  | .io reason => "Failed to read profiler output: " ++ reason

/-- The messages of an error and of its causes, from the outside in. -/
def PipelineError.messages : PipelineError → List String
  | .parse error => [error.message]
  | .graph line error => [message (.graph line error), error.message]
  | .simplify error => [message (.simplify error), error.message]
  | .sink (.io path cause) => [message (.sink (.io path cause)), cause.message]
  | .io reason => [message (.io reason), reason]

/-- A rendered profile: its bytes, and the reason for which reading fails
behind them, if it does. -/
structure ByteSource where
  bytes : List UInt8
  failure : Option String := none

/-- The lines that are read from a source. If reading fails, the unfinished
line before the failure is lost. -/
def ByteSource.lines (source : ByteSource) : List (List UInt8) :=
  let lines := Text.Lines.ofBytes source.bytes
  match source.failure with
  | none => lines.all
  | some _ => lines.finished

/-- What a build counted, and the graph it made or the error that ended it. -/
structure BuildResult (α : Type) where
  stats : ParseStats
  outcome : Except PipelineError (CallGraph α)

namespace CallGraph
variable {α : Type} [Quantity α]

/-- Enters a record into a graph. -/
def enter (graph : CallGraph α) : Record → Except GraphError (CallGraph α)
  | .node declared =>
    (graph.addNode declared.id declared.name (Quantity.ofReading declared.selfPercentage)
      (Quantity.ofReading declared.coveragePercentage)).map (·.2)
  | .edge declared => graph.addEdge declared.source declared.target declared.weight
  | .legend totalSamples => .ok (graph.addSamples totalSamples)
  | .ignored => .ok graph

/-- Enters lines into a graph, counting on from `stats`. -/
def enterLines (patterns : RecordPatterns) (graph : CallGraph α) (stats : ParseStats) :
    List (List UInt8) → BuildResult α
  | [] => ⟨stats, .ok graph⟩
  | bytes :: later =>
    let stats := { stats with lines := stats.lines + 1 }
    match patterns.readLine stats.lines (Text.trimLineEnd bytes) with
    | .error error => ⟨stats, .error (.parse error)⟩
    | .ok record =>
      let line := stats.lines
      let stats := stats.count record.kind
      match graph.enter record with
      | .error error => ⟨stats, .error (.graph line error)⟩
      | .ok graph => enterLines patterns graph stats later

/-- Builds a graph from a rendered profile. -/
def build (patterns : RecordPatterns) (marker : String) (source : ByteSource) : BuildResult α :=
  let result := enterLines patterns (empty marker) {} source.lines
  match result.outcome, source.failure with
  | .ok _, some reason => ⟨result.stats, .error (.io reason)⟩
  | _, _ => result

end CallGraph
end ProfileGraph
