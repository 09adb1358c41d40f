import ProfileGraph.Config.Basic

/-! What the command line can say, and how it changes the settings of a
run. -/
namespace ProfileGraph

/-- What the command line says. -/
structure Options where
  /-- The file that holds settings. -/
  config : Option String := none
  runCommand : Option String := none
  buildCommand : Option String := none
  cleanCommand : Option String := none
  profileFile : Option String := none
  renderer : Option String := none
  outputDirectory : Option String := none
  marker : Option String := none
  rootPolicy : Option RootPolicy := none
  /-- The rendered profile to read instead of calling the renderer. -/
  input : Option String := none
  skipRebuild : Bool := false
  /-- Prints the report as JSON. -/
  json : Bool := false
  debug : Bool := false
deriving DecidableEq, Repr, Inhabited

/-- Why a command line does not start a run. -/
inductive UsageError where
  | unknownArgument
  /-- A value is missing or not one of those that are allowed. -/
  | invalidValue
  /-- An option is given twice. -/
  | argumentConflict
  /-- A flag is given a value. -/
  | tooManyValues
  | displayHelp
  | displayVersion
deriving DecidableEq, Repr

/-- The options that take a value. -/
inductive ValueOption where
  | config
  | runCommand
  | buildCommand
  | cleanCommand
  | profileFile
  | renderer
  | outputDirectory
  | marker
  | rootPolicy
  | input
deriving DecidableEq, Repr

/-- The options without a value. -/
inductive Flag where
  | skipRebuild
  | json
  | debug
  | help
  | version
deriving DecidableEq, Repr

namespace Options

/-- Whether an option has been given. -/
def has (options : Options) : ValueOption → Bool
  | .config => options.config.isSome
  | .runCommand => options.runCommand.isSome
  | .buildCommand => options.buildCommand.isSome
  | .cleanCommand => options.cleanCommand.isSome
  | .profileFile => options.profileFile.isSome
  | .renderer => options.renderer.isSome
  | .outputDirectory => options.outputDirectory.isSome
  | .marker => options.marker.isSome
  | .rootPolicy => options.rootPolicy.isSome
  | .input => options.input.isSome

/-- A path, which must not be empty. -/
def path? (text : String) : Option String := if text.isEmpty then none else some text

/-- The options with a value added, if the value is allowed. -/
def assign? (options : Options) (value : String) : ValueOption → Option Options
  | .config => (path? value).map fun path => { options with config := some path }
  | .runCommand => some { options with runCommand := some value }
  | .buildCommand => some { options with buildCommand := some value }
  | .cleanCommand => some { options with cleanCommand := some value }
  | .profileFile => (path? value).map fun path => { options with profileFile := some path }
  | .renderer => some { options with renderer := some value }
  | .outputDirectory =>
    (path? value).map fun path => { options with outputDirectory := some path }
  | .marker => some { options with marker := some value }
  | .rootPolicy =>
    (RootPolicy.ofName? value).map fun policy => { options with rootPolicy := some policy }
  | .input => (path? value).map fun path => { options with input := some path }

/-- The settings with those replaced that the command line gives. -/
def applyTo (options : Options) (config : Config) : Config where
  runCommand := options.runCommand.getD config.runCommand
  buildCommand := options.buildCommand.getD config.buildCommand
  cleanCommand := options.cleanCommand.getD config.cleanCommand
  buildMode := config.buildMode
  profileFile := options.profileFile.getD config.profileFile
  renderer := options.renderer.getD config.renderer
  outputDirectory := options.outputDirectory.getD config.outputDirectory
  interestMarker := options.marker.getD config.interestMarker
  rootPolicy := options.rootPolicy.getD config.rootPolicy
  skipRebuild := options.skipRebuild || config.skipRebuild

end Options
end ProfileGraph
