import ProfileGraph.Config.Basic
import ProfileGraph.Runner.Surroundings

/-! Settings read from TOML text and from JSON values. Settings that are not
given keep their defaults, and keys that name no setting are passed over. -/
namespace ProfileGraph

/-- How settings are read from the values of a format. -/
structure SettingReader (ν : Type) where
  text? : ν → Option String
  truth? : ν → Option Bool
  rootPolicy? : ν → Option RootPolicy

namespace Config

/-- Reads a value that may be missing. -/
def given {ν τ : Type} (read? : ν → Option τ) (fallback : τ) : Option ν → Option τ
  | none => some fallback
  | some value => read? value

/-- The keys of the settings. -/
def keys : List String :=
  ["run_cmd", "build_cmd", "clean_cmd", "build_mode", "profile_file", "pprof", "output_dir",
    "interest_marker", "root_policy", "skip_rebuild"]

/-- Settings read from the value of each key. -/
def ofValues? {ν : Type} (reader : SettingReader ν) (value? : String → Option ν) :
    Option Config := do
  let defaults : Config := {}
  let text (key : String) (fallback : String) : Option String :=
    given reader.text? fallback (value? key)
  return {
    runCommand := ← text "run_cmd" defaults.runCommand
    buildCommand := ← text "build_cmd" defaults.buildCommand
    cleanCommand := ← text "clean_cmd" defaults.cleanCommand
    buildMode := ← text "build_mode" defaults.buildMode
    profileFile := ← text "profile_file" defaults.profileFile
    renderer := ← text "pprof" defaults.renderer
    outputDirectory := ← text "output_dir" defaults.outputDirectory
    interestMarker := ← text "interest_marker" defaults.interestMarker
    rootPolicy := ← given reader.rootPolicy? defaults.rootPolicy (value? "root_policy")
    skipRebuild := ← given reader.truth? defaults.skipRebuild (value? "skip_rebuild") }

/-- Whether a value is a table or an array without parts. -/
def isEmptyToml : Toml → Bool
  | .table _ [] | .array [] | .tables [] => true
  | _ => false

/-- A root policy in TOML: its name, or the name as the only key of a table
with nothing behind it. -/
def tomlRootPolicy? : Toml → Option RootPolicy
  | .string name => RootPolicy.ofName? name
  | .table _ [(name, value)] => if isEmptyToml value then RootPolicy.ofName? name else none
  | _ => none

/-- Settings are read from a table. -/
def tomlReader : SettingReader Toml where
  text?
    | .string text => some text
    | _ => none
  truth?
    | .bool value => some value
    | _ => none
  rootPolicy? := tomlRootPolicy?

/-- Settings from TOML text. -/
def ofToml? (surroundings : Surroundings) (text : String) : Option Config := do
  let entries ← surroundings.readToml text
  ofValues? tomlReader fun key => Toml.value? key entries

/-- A root policy in JSON: its name, or the name as the only field of an object
with null behind it. -/
def jsonRootPolicy? : Json → Option RootPolicy
  | .string name => RootPolicy.ofName? name
  | .object [(name, .null)] => RootPolicy.ofName? name
  | _ => none

/-- Settings are read from an object. -/
def jsonReader : SettingReader Json where
  text? := Json.string?
  truth? := Json.bool?
  rootPolicy? := jsonRootPolicy?

/-- Settings from a JSON object, or from a JSON array of values in the order of
the keys. -/
def ofJson? (value : Json) : Option Config := do
  let fields := keys.zip (← value.recordFields? keys)
  ofValues? jsonReader fun key => ((fields.find? (·.1 == key)).map (·.2)).join

end Config
end ProfileGraph
