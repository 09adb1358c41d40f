import ProfileGraph.Numeric.Decimal
import ProfileGraph.Pipeline.Run
import ProfileGraph.Snapshot.Basic
import ProfileGraph.Snapshot.Serial
import ProfileGraph.Workspace.FileTree

/-! The drawing of a snapshot in the DOT language: one statement per node with
its coverages in percent and one per edge with its weight. Interest points are
filled. -/
namespace ProfileGraph

/-- Puts a backslash before each quote of a name. -/
def escapeLabel (name : List Char) : List Char :=
  name.flatMap fun c => if c = '"' then ['\\', '"'] else [c]

/-- A percentage with one decimal place. -/
def percentText (x : Binary64) : List Char := x.fixedText 1 ++ ['%']

/-- The statement of a node. Name and coverages stand on two lines of its
label. -/
def NodeSnapshot.dotStatement (node : NodeSnapshot) : List Char :=
  "  \"".toList ++ node.id.toList ++ "\" [label=\"".toList ++ escapeLabel node.name.toList
    ++ "\\n".toList ++ percentText node.selfCoverage ++ " / ".toList ++ percentText node.coverage
    ++ ['"'] ++ (if node.isInterestPoint then ", style=filled, fillcolor=lightblue".toList else [])
    ++ "];\n".toList

/-- The statement of an edge. -/
def EdgeSnapshot.dotStatement (edge : EdgeSnapshot) : List Char :=
  "  \"".toList ++ edge.source.toList ++ "\" -> \"".toList ++ edge.target.toList
    ++ "\" [label=\"".toList ++ edge.weight.plainText ++ "\"];\n".toList

/-- The text of the drawing of a snapshot. -/
def Snapshot.dotText (snapshot : Snapshot) : List Char :=
  "digraph callgraph \x7b\n  graph [label=\"total samples: ".toList
    ++ Nat.toDigits 10 snapshot.totalSamples ++ "\"];\n  node [shape=box];\n".toList
    ++ snapshot.nodes.flatMap (·.dotStatement) ++ snapshot.edges.flatMap (·.dotStatement)
    ++ "\x7d\n".toList

/-- The drawing of a snapshot. -/
def Snapshot.dotFile (snapshot : Snapshot) : String := String.ofList snapshot.dotText

end ProfileGraph

/-! Snapshots as files. A file sink writes each snapshot into a file of its
directory, in one of two formats; a sink set hands each snapshot to several
sinks and stops at the first one that fails. -/
namespace ProfileGraph

/-- The formats of snapshot files. -/
inductive SnapshotFormat where
  /-- Holds everything a later stage needs. -/
  | data
  /-- Can be drawn. -/
  | drawing
deriving DecidableEq, Repr

namespace SnapshotFormat

/-- The end of the names of files in a format. -/
def extension : SnapshotFormat → String
  | .data => ".json"
  | .drawing => ".dot"

/-- The text of a snapshot in a format. -/
def render : SnapshotFormat → Snapshot → String
  | .data => Snapshot.dataFile
  | .drawing => Snapshot.dotFile

end SnapshotFormat

/-- Writes snapshots into a directory. -/
structure FileSink where
  directory : String
  format : SnapshotFormat
deriving DecidableEq, Repr

namespace FileSink

/-- The path of the file for a label. -/
def path (sink : FileSink) (label : String) : String :=
  Path.join sink.directory ("graph_" ++ label ++ sink.format.extension)

/-- Writes snapshots as files; directories are made as they are needed. -/
def toSink (sink : FileSink) : Sink FileTree where
  emit label snapshot tree :=
    let path := sink.path label
    match tree.makeParents path with
    | .error cause => (.error (.io path cause), tree)
    | .ok tree =>
      match tree.write path (Text.encode (sink.format.render snapshot).toList) with
      | .error cause => (.error (.io path cause), tree)
      | .ok tree => (.ok (), tree)

end FileSink

/-- Several sinks that share a state. -/
structure SinkSet (σ : Type) where
  sinks : List (Sink σ) := []

namespace SinkSet
variable {σ : Type}

/-- Adds a sink behind the others. -/
def push (set : SinkSet σ) (sink : Sink σ) : SinkSet σ := ⟨set.sinks ++ [sink]⟩

/-- The number of sinks. -/
def size (set : SinkSet σ) : Nat := set.sinks.length

/-- Whether there are no sinks. -/
def isEmpty (set : SinkSet σ) : Bool := set.sinks.isEmpty

/-- The set as shown to a developer. -/
def description (set : SinkSet σ) : String :=
  "SinkSet \x7b sinks: " ++ toString set.size ++ " \x7d"

/-- Hands a snapshot to sinks one after the other. -/
def emitEach (label : String) (snapshot : Snapshot) :
    List (Sink σ) → σ → Except SinkError Unit × σ
  | [], state => (.ok (), state)
  | sink :: later, state =>
    match sink.emit label snapshot state with
    | (.ok (), state) => emitEach label snapshot later state
    | failed => failed

/-- The sinks as one, which hands a snapshot to each in turn. -/
def toSink (set : SinkSet σ) : Sink σ where
  emit label snapshot := emitEach label snapshot set.sinks

end SinkSet
end ProfileGraph
