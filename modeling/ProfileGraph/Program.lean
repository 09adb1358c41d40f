import ProfileGraph.CommandLine.Reader
import ProfileGraph.Config.Reader
import ProfileGraph.Runner.Render
import ProfileGraph.Snapshot.Files

/-! The whole program as a function of its arguments, its input, the files that it
finds and the programs that it calls: it loads the settings, runs the pipeline on a rendered profile
and prints a report. -/
namespace ProfileGraph.Program

/-- An error with its causes, from the outside in. -/
abbrev Failure := List String

/-- What the program leaves behind. -/
structure Outcome where
  code : Nat
  output : String := ""
  errors : List UInt8 := []
  tree : FileTree

/-- A cause in the report of an error, indented, and numbered if there are
several. -/
def causeText (number : Option Nat) (cause : String) : String :=
  match number with
  | none => "    " ++ "\n    ".intercalate (cause.splitOn "\n")
  | some n => PipelineReport.column 5 (toString n) ++ ": "
    ++ "\n       ".intercalate (cause.splitOn "\n")

/-- The causes in the report of an error. -/
def causeLines : List String → List String
  | [cause] => [causeText none cause]
  | causes => causes.mapIdx fun n cause => causeText (some n) cause

/-- The report of an error. -/
def failureText : Failure → String
  | [] => "Error: \n"
  | [error] => "Error: " ++ error ++ "\n"
  | error :: causes =>
    "Error: " ++ error ++ "\n\nCaused by:\n" ++ "\n".intercalate (causeLines causes) ++ "\n"

section Settings
variable (surroundings : Surroundings)

/-- Reads a file of settings. -/
def readConfig (tree : FileTree) (path : String) : Except Failure Config :=
  match tree.read path with
  | .error cause => .error ["Failed to read " ++ path, cause.message]
  | .ok bytes =>
    let text := Text.decode bytes
    if Text.encode text != bytes then
      .error ["Failed to read " ++ path, OsError.notText.message]
    else match Config.ofToml? surroundings (String.ofList text) with
      | some config => .ok config
      | none =>
        .error ["Invalid configuration in " ++ path, "Failed to parse TOML", "TOML parse error"]

/-- The settings of a run: those of the file, if one is given, and those of
the command line on top. -/
def loadConfig (tree : FileTree) (options : Options) : Except Failure Config := do
  let config ← match options.config with
    | some path => readConfig surroundings tree path
    | none => pure {}
  let config := options.applyTo config
  match config.validate with
  | .ok () => return config
  | .error error => throw [error.message]

end Settings

/-- The rendered profile that the command line names; a dash means the
input. -/
def openInput (tree : FileTree) (path : String) (input : List UInt8) :
    Except Failure ByteSource :=
  if Path.isName path "-" then .ok ⟨input, none⟩
  else match tree.find path with
    | .error cause => .error ["Failed to open " ++ path, cause.message]
    | .ok (_, entry) =>
      match FileTree.contents entry with
      | .ok bytes => .ok ⟨bytes, none⟩
      | .error cause => .ok ⟨[], some cause.message⟩

/-- Writes both kinds of snapshot files. -/
def snapshotSinks (config : Config) : SinkSet FileTree :=
  ⟨[FileSink.toSink ⟨config.outputDirectory, .data⟩,
    FileSink.toSink ⟨config.outputDirectory, .drawing⟩]⟩

/-- What a run left behind: the files, what the renderer complained, and the
report or the error that ended the run. -/
structure Run where
  tree : FileTree
  complaints : List UInt8 := []
  outcome : Except Failure PipelineReport

/-- Runs the pipeline on the profile that the command line names. -/
def runOnInput (config : Config) (tree : FileTree) (source : ByteSource) : Run :=
  let result := config.pipeline.run (snapshotSinks config).toSink source tree
  { tree := result.state
    outcome := match result.outcome with
      | .ok (_, report) => .ok report
      | .error error => .error error.messages }

variable (surroundings : Surroundings)

/-- Runs the pipeline on what the renderer prints. -/
def runOnRenderer (config : Config) (tree : FileTree) (input : List UInt8) : Run :=
  match config.rendering surroundings tree input with
  | (.error error, tree) => { tree, outcome := .error error.messages }
  | (.ok rendering, _) =>
    let result := config.runOnRendering rendering (snapshotSinks config).toSink
      rendering.finished.tree
    { tree := result.state
      complaints := rendering.finished.errors
      outcome := match result.outcome with
        | .ok (_, report) => .ok report
        | .error error => .error error.messages }

/-- Runs the program with options that have been read. -/
def runWith (options : Options) (tree : FileTree) (input : List UInt8) : Run :=
  match loadConfig surroundings tree options with
  | .error failure => { tree, outcome := .error failure }
  | .ok config =>
    match options.input with
    | none => runOnRenderer surroundings config tree input
    | some path =>
      match openInput tree path input with
      | .error failure => { tree, outcome := .error failure }
      | .ok source => runOnInput config tree source

/-- Bytes of a text. -/
def bytesOf (text : String) : List UInt8 := Text.encode text.toList

/-- Runs the program. -/
def run (arguments : List String) (input : List UInt8) (tree : FileTree) : Outcome :=
  match CommandLine.read arguments with
  | .error .displayHelp => { code := 0, output := CommandLine.helpText, tree }
  | .error .displayVersion => { code := 0, output := CommandLine.versionText, tree }
  | .error error => { code := 2, errors := bytesOf (CommandLine.usageMessage error), tree }
  | .ok options =>
    let run := runWith surroundings options tree input
    match run.outcome with
    | .error failure =>
      { code := 1, errors := run.complaints ++ bytesOf (failureText failure), tree := run.tree }
    | .ok report =>
      if options.json then
        { code := 0, output := report.toJson.pretty ++ "\n", errors := run.complaints,
          tree := run.tree }
      else
        { code := 0, errors := run.complaints ++ bytesOf report.summary, tree := run.tree }

end ProfileGraph.Program
