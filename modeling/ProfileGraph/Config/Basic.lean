import ProfileGraph.Graph.Basic
import ProfileGraph.Json.Basic
import ProfileGraph.Simplify.Prune
import ProfileGraph.Text.Characters

/-! The settings of a run and the conditions that they must meet before the
run starts. -/
namespace ProfileGraph

/-- The settings of a run. -/
structure Config where
  /-- Runs the application; only used to find its binary. -/
  runCommand : String := ""
  buildCommand : String := ""
  /-- Removes what an earlier build made. -/
  cleanCommand : String := ""
  /-- Put behind the build command when building for the profiler. -/
  buildMode : String := "CERE_MODE=\"original --instrument --instrument-app\""
  /-- The file that the profiler left. -/
  profileFile : String := "cere_profile/app.prof"
  /-- The command that renders a profile as text. -/
  renderer : String := "pprof"
  /-- The directory for snapshot files. -/
  outputDirectory : String := "cere_profile"
  interestMarker : String := defaultInterestMarker
  rootPolicy : RootPolicy := .retain
  /-- Uses the binary that is there instead of building it. -/
  skipRebuild : Bool := false
deriving DecidableEq, Repr, Inhabited

/-- Why settings are refused. -/
inductive ConfigError where
  | noInterestMarker
  | noRenderer
  | noRunCommand
  | noBuildCommand
deriving DecidableEq, Repr

/-- The text for a configuration that is refused. -/
def ConfigError.message : ConfigError → String
  | .noInterestMarker => "interest_marker must not be empty"
  | .noRenderer => "pprof must name a renderer executable"
  | .noRunCommand => "run_cmd is not set; it is needed to locate the binary"
  | .noBuildCommand =>
    "build_cmd is not set; pass --skip-rebuild to use the existing binary"

/-- Whether a text holds blanks only. -/
def isUnset (text : String) : Bool := text.toList.all Text.isBlank

namespace Config

/-- Checks what every run needs. -/
def validate (config : Config) : Except ConfigError Unit :=
  if isUnset config.interestMarker then .error .noInterestMarker
  else if isUnset config.renderer then .error .noRenderer
  else .ok ()

/-- Checks what a run that calls the renderer needs. -/
def validateCommands (config : Config) : Except ConfigError Unit :=
  if isUnset config.runCommand then .error .noRunCommand
  else if !config.skipRebuild && isUnset config.buildCommand then .error .noBuildCommand
  else .ok ()

/-- The shell script that rebuilds the application: the build command with the
build mode behind it, after the clean command if there is one. -/
def rebuildScript (config : Config) : String :=
  let build := Text.trimmed
    (Text.trimmed config.buildCommand ++ " " ++ Text.trimmed config.buildMode)
  if isUnset config.cleanCommand then build
  else Text.trimmed config.cleanCommand ++ " && " ++ build

/-- A configuration as an object with all its settings. -/
def toJson (config : Config) : Json :=
  .object [
    ("run_cmd", .string config.runCommand),
    ("build_cmd", .string config.buildCommand),
    ("clean_cmd", .string config.cleanCommand),
    ("build_mode", .string config.buildMode),
    ("profile_file", .string config.profileFile),
    ("pprof", .string config.renderer),
    ("output_dir", .string config.outputDirectory),
    ("interest_marker", .string config.interestMarker),
    ("root_policy", .string config.rootPolicy.name),
    ("skip_rebuild", .bool config.skipRebuild)]

end Config
end ProfileGraph
