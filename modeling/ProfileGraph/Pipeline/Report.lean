import ProfileGraph.Json.Basic
import ProfileGraph.Pipeline.Build
import ProfileGraph.Pipeline.Simplify

/-! The report of a run: what was parsed, what each pass did, and how the
graph looked before and after. It can be written as JSON or summed up for
readers. -/
namespace ProfileGraph

/-- The report of a run. -/
structure PipelineReport where
  parse : ParseStats := {}
  totalSamples : Nat := 0
  parsedNodes : Nat := 0
  parsedEdges : Nat := 0
  parsedSelfCoverage : Binary64 := Binary64.signedZero false
  collapse : CollapseReport Binary64 := {}
  correction : CorrectionReport := {}
  prune : PruneReport := {}
  finalNodes : Nat := 0
  finalEdges : Nat := 0
  finalSelfCoverage : Binary64 := Binary64.signedZero false

/-- The counts of lines as an object. -/
def ParseStats.toJson (stats : ParseStats) : Json :=
  .object [
    ("lines", .count stats.lines),
    ("nodes_with_inclusive", .count stats.nodesWithInclusive),
    ("nodes_self_only", .count stats.nodesSelfOnly),
    ("edges", .count stats.edges),
    ("legends", .count stats.legends),
    ("ignored", .count stats.ignored)]

/-- A collapsed cycle as an object. -/
def CollapsedCycle.toJson (cycle : CollapsedCycle Binary64) : Json :=
  .object [
    ("survivor", .string cycle.survivor),
    ("removed", .texts cycle.removed),
    ("coverage", .real cycle.coverage)]

/-- The collapsed cycles as an object. -/
def CollapseReport.toJson (report : CollapseReport Binary64) : Json :=
  .object [
    ("cycles", .array (report.cycles.map (·.toJson))),
    ("self_loops_stripped", .count report.selfLoopsStripped),
    ("nodes_removed", .count report.nodesRemoved)]

/-- The counts of corrections as an object. -/
def CorrectionReport.toJson (report : CorrectionReport) : Json :=
  .object [
    ("updated", .count report.updated),
    ("roots_skipped", .count report.rootsSkipped),
    ("clamped", .texts report.clamped)]

/-- The counts of removals as an object. -/
def PruneReport.toJson (report : PruneReport) : Json :=
  .object [
    ("removed", .texts report.removed),
    ("retained_roots", .texts report.retainedRoots),
    ("bridged_edges", .count report.bridgedEdges)]

namespace PipelineReport

/-- A report as an object with a part for each pass. -/
def toJson (report : PipelineReport) : Json :=
  .object [
    ("parse", report.parse.toJson),
    ("total_samples", .count report.totalSamples),
    ("parsed_nodes", .count report.parsedNodes),
    ("parsed_edges", .count report.parsedEdges),
    ("parsed_self_coverage", .real report.parsedSelfCoverage),
    ("collapse", report.collapse.toJson),
    ("correction", report.correction.toJson),
    ("prune", report.prune.toJson),
    ("final_nodes", .count report.finalNodes),
    ("final_edges", .count report.finalEdges),
    ("final_self_coverage", .real report.finalSelfCoverage)]

/-- The report with what the passes did. -/
def withPasses (report : PipelineReport) (result : SimplifyResult Binary64) : PipelineReport :=
  { report with
    collapse := result.collapse
    correction := result.correction
    prune := result.prune }

/-- A text with blanks in front, to fill a column. -/
def column (width : Nat) (text : String) : String :=
  String.ofList (List.replicate (width - text.length) ' ') ++ text

/-- A count in a column of the summary. -/
def countColumn (n : Nat) : String := column 6 (toString n)

/-- The sizes of a graph, as a line of the summary states them. -/
def sizes (nodes edges : Nat) (selfCoverage : Binary64) : String :=
  countColumn nodes ++ " nodes " ++ countColumn edges ++ " edges  self coverage "
    ++ column 7 (String.ofList (selfCoverage.fixedText 2)) ++ "%\n"

/-- The summary of a run in five lines. -/
def summary (report : PipelineReport) : String :=
  "Call graph: " ++ toString report.totalSamples ++ " samples\n"
    ++ "  parsed:    " ++ sizes report.parsedNodes report.parsedEdges report.parsedSelfCoverage
    ++ "  collapsed: " ++ countColumn report.collapse.cycles.length ++ " cycles ("
    ++ toString report.collapse.selfLoopsStripped ++ " self-recursive), "
    ++ toString report.collapse.nodesRemoved ++ " nodes removed\n"
    ++ "  pruned:    " ++ countColumn report.prune.removed.length ++ " nodes, "
    ++ toString report.prune.retainedRoots.length ++ " roots retained\n"
    ++ "  final:     " ++ sizes report.finalNodes report.finalEdges report.finalSelfCoverage

end PipelineReport
end ProfileGraph
