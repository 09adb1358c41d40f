import Mathlib.Data.List.DropRight
import ProfileGraph.Pipeline.Build
import ProfileGraph.Proofs.Cutting

/-! What a build reads of its source. The bytes of a line count only through the
text that they make without their line end, and the patterns only through the
way in which they tell such texts apart. So two sources with the same texts are
built alike, and what holds of every way to tell texts apart holds of all
patterns. -/
namespace ProfileGraph

/-! Texts of lines. -/

namespace Text

/-- The text of a line without its line end. -/
def ofLine (bytes : List UInt8) : List Char := decode (trimLineEnd bytes)

theorem trimLineEnd_concat (bytes : List UInt8) {byte : UInt8} (ending : isLineEnd byte) :
    trimLineEnd (bytes ++ [byte]) = trimLineEnd bytes :=
  List.rdropWhile_concat_pos isLineEnd bytes byte ending

theorem ofLine_lineFeed (bytes : List UInt8) : ofLine (bytes ++ [lineFeed]) = ofLine bytes := by
  rw [ofLine, trimLineEnd_concat bytes (by decide), ofLine]

theorem ofLine_carriageReturn (bytes : List UInt8) :
    ofLine (bytes ++ [carriageReturn]) = ofLine bytes := by
  rw [ofLine, trimLineEnd_concat bytes (by decide), ofLine]

end Text

namespace ByteSource
variable {bodies : List (List UInt8)} {rest : List UInt8}
  (unbroken : ∀ body ∈ bodies, Text.lineFeed ∉ body) (unfinished : Text.lineFeed ∉ rest)
  (failure : Option String)
include unbroken unfinished

/-- The rest behind the last line feed is read if it is not empty and reading does
not fail behind it. -/
theorem lines_eq : lines ⟨bodies.flatMap (· ++ [Text.lineFeed]) ++ rest, failure⟩ =
    bodies.map (· ++ [Text.lineFeed]) ++ if failure = none ∧ rest ≠ [] then [rest] else [] := by
  rw [lines, Text.Lines.ofBytes_flatMap unbroken unfinished]
  cases failure with
  | none => cases rest <;> simp [Text.Lines.all]
  | some reason => simp

theorem texts_eq :
    (lines ⟨bodies.flatMap (· ++ [Text.lineFeed]) ++ rest, failure⟩).map Text.ofLine =
      bodies.map Text.ofLine ++ if failure = none ∧ rest ≠ [] then [Text.ofLine rest] else [] := by
  have ended : Text.ofLine ∘ (· ++ [Text.lineFeed]) = Text.ofLine :=
    funext Text.ofLine_lineFeed
  rw [lines_eq unbroken unfinished, List.map_append, List.map_map, ended]
  split <;> rfl

end ByteSource

/-! Entering texts. -/

/-- A way to tell the kind of a text and to find its groups. -/
abbrev Matcher : Type := List Char → Option (RecordKind × Match)

/-- Reads a text that is told apart by a matcher. -/
def Matcher.read (matcher : Matcher) (line : Nat) (text : List Char) : Except RecordError Record :=
  match matcher text with
  | some (kind, found) => RecordPatterns.record line kind found
  | none => .ok .ignored

namespace CallGraph
variable {α : Type} [Quantity α]

/-- Enters texts into a graph, counting on from `stats`. -/
def enterTexts (matcher : Matcher) (graph : CallGraph α) (stats : ParseStats) :
    List (List Char) → BuildResult α
  | [] => ⟨stats, .ok graph⟩
  | text :: later =>
    let stats := { stats with lines := stats.lines + 1 }
    match matcher.read stats.lines text with
    | .error error => ⟨stats, .error (.parse error)⟩
    | .ok record =>
      match graph.enter record with
      | .error error => ⟨stats.count record.kind, .error (.graph stats.lines error)⟩
      | .ok graph => enterTexts matcher graph (stats.count record.kind) later

/-- Builds a graph from a source whose texts are told apart by a matcher. -/
def buildBy (matcher : Matcher) (marker : String) (source : ByteSource) : BuildResult α :=
  let result := enterTexts matcher (empty marker) {} (source.lines.map Text.ofLine)
  match result.outcome, source.failure with
  | .ok _, some reason => ⟨result.stats, .error (.io reason)⟩
  | _, _ => result

theorem enterLines_eq_enterTexts (patterns : RecordPatterns) (graph : CallGraph α)
    (stats : ParseStats) (lines : List (List UInt8)) :
    enterLines patterns graph stats lines =
      enterTexts patterns.match? graph stats (lines.map Text.ofLine) := by
  induction lines generalizing graph stats with
  | nil => rfl
  | cons bytes later ih =>
    rw [List.map_cons, enterLines, enterTexts]
    have read : patterns.readLine (stats.lines + 1) (Text.trimLineEnd bytes) =
        Matcher.read patterns.match? (stats.lines + 1) (Text.ofLine bytes) := rfl
    rw [← read]
    cases patterns.readLine (stats.lines + 1) (Text.trimLineEnd bytes) with
    | error error => rfl
    | ok record =>
      dsimp only
      cases graph.enter record with
      | error error => rfl
      | ok graph => exact ih graph _

theorem build_eq_buildBy (patterns : RecordPatterns) (marker : String) (source : ByteSource) :
    (build patterns marker source : BuildResult α) = buildBy patterns.match? marker source := by
  unfold build buildBy
  rewrite [enterLines_eq_enterTexts]
  rfl

/-- Sources with the same texts are built alike. -/
theorem build_congr (patterns : RecordPatterns) (marker : String) {source other : ByteSource}
    (texts : source.lines.map Text.ofLine = other.lines.map Text.ofLine)
    (failure : source.failure = other.failure) :
    (build patterns marker source : BuildResult α) = build patterns marker other := by
  rw [build_eq_buildBy, build_eq_buildBy, buildBy, buildBy, texts, failure]

end CallGraph
end ProfileGraph
