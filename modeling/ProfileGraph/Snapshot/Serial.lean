import ProfileGraph.Json.Basic
import ProfileGraph.Json.Reader
import ProfileGraph.Snapshot.Basic

/-! The data file of a snapshot: how snapshots are written as JSON and read
back. A reader passes over fields it does not know and needs all others, the
selector and the error message of a selection apart. -/
namespace ProfileGraph

namespace SelectionState

/-- The object with all the fields. -/
def toJson (selection : SelectionState) : Json :=
  .object [
    ("matching", .bool selection.matching),
    ("error", .real selection.error),
    ("error_message", .optionalText selection.errorMessage),
    ("to_test", .bool selection.toTest),
    ("tested", .bool selection.tested),
    ("transferred", .bool selection.transferred),
    ("small", .bool selection.small),
    ("selected", .bool selection.selected),
    ("invivo", .real selection.invivo),
    ("invitro", .real selection.invitro),
    ("invocations", .array (selection.invocations.map .count))]

/-- The names of the fields, in their order. -/
def fieldNames : List String :=
  ["matching", "error", "error_message", "to_test", "tested", "transferred", "small", "selected",
    "invivo", "invitro", "invocations"]

/-- Reads what `toJson` gives. -/
def ofJson? (value : Json) : Option SelectionState := do
  match ← value.recordFields? fieldNames with
  | [matching, error, errorMessage, toTest, tested, transferred, small, selected, invivo, invitro,
      invocations] =>
    return {
      matching := ← (← matching).bool?
      error := ← (← error).real?
      errorMessage := ← Json.optionalString? errorMessage
      toTest := ← (← toTest).bool?
      tested := ← (← tested).bool?
      transferred := ← (← transferred).bool?
      small := ← (← small).bool?
      selected := ← (← selected).bool?
      invivo := ← (← invivo).real?
      invitro := ← (← invitro).real?
      invocations := ← (← invocations).counts? }
  | _ => none

end SelectionState

namespace NodeSnapshot

/-- The object with all the fields. -/
def toJson (node : NodeSnapshot) : Json :=
  .object [
    ("id", .string node.id),
    ("name", .string node.name),
    ("coverage", .real node.coverage),
    ("self_coverage", .real node.selfCoverage),
    ("is_interest_point", .bool node.isInterestPoint),
    ("selection", node.selection.toJson)]

/-- The names of the fields in their order. -/
def fieldNames : List String :=
  ["id", "name", "coverage", "self_coverage", "is_interest_point", "selection"]

/-- Reads what `toJson` gives. -/
def ofJson? (value : Json) : Option NodeSnapshot := do
  match ← value.recordFields? fieldNames with
  | [id, name, coverage, selfCoverage, isInterestPoint, selection] =>
    return {
      id := ← (← id).string?
      name := ← (← name).string?
      coverage := ← (← coverage).real?
      selfCoverage := ← (← selfCoverage).real?
      isInterestPoint := ← (← isInterestPoint).bool?
      selection := ← SelectionState.ofJson? (← selection) }
  | _ => none

end NodeSnapshot

namespace EdgeSnapshot

/-- The object with all the fields. -/
def toJson (edge : EdgeSnapshot) : Json :=
  .object [
    ("from", .string edge.source),
    ("to", .string edge.target),
    ("weight", .real edge.weight)]

/-- The names of the fields in their order. -/
def fieldNames : List String := ["from", "to", "weight"]

/-- Reads what `toJson` gives. -/
def ofJson? (value : Json) : Option EdgeSnapshot := do
  match ← value.recordFields? fieldNames with
  | [source, target, weight] =>
    return {
      source := ← (← source).string?
      target := ← (← target).string?
      weight := ← (← weight).real? }
  | _ => none

end EdgeSnapshot

namespace Snapshot

/-- The object with all the fields. -/
def toJson (snapshot : Snapshot) : Json :=
  .object [
    ("total_samples", .count snapshot.totalSamples),
    ("coverage", .real snapshot.coverage),
    ("selector", .optionalText snapshot.selector),
    ("nodes", .array (snapshot.nodes.map (·.toJson))),
    ("edges", .array (snapshot.edges.map (·.toJson)))]

/-- The names of the fields in their order. -/
def fieldNames : List String := ["total_samples", "coverage", "selector", "nodes", "edges"]

/-- Reads what `toJson` gives. -/
def ofJson? (value : Json) : Option Snapshot := do
  match ← value.recordFields? fieldNames with
  | [totalSamples, coverage, selector, nodes, edges] =>
    return {
      totalSamples := ← (← totalSamples).count?
      coverage := ← (← coverage).real?
      selector := ← Json.optionalString? selector
      nodes := ← (← (← nodes).array?).mapM NodeSnapshot.ofJson?
      edges := ← (← (← edges).array?).mapM EdgeSnapshot.ofJson? }
  | _ => none

/-- The text of the data file of a snapshot. -/
def dataFile (snapshot : Snapshot) : String := snapshot.toJson.pretty

/-- Reads the text of a data file. -/
def read? (text : String) : Option Snapshot := (Json.parse? text).bind ofJson?

end Snapshot
end ProfileGraph
