import ProfileGraph.Config.Basic
import ProfileGraph.Pipeline.Run
import ProfileGraph.Runner.Surroundings

/-! What must hold before a profile can be rendered: the application is
rebuilt unless the settings say otherwise, its binary is found in the run
command, and the profile is there. The first condition that fails ends the
preparation; files that commands made before stay. -/
namespace ProfileGraph

/-- What the renderer is called with. -/
structure PreparedProfile where
  binary : String
  profileFile : String
deriving DecidableEq, Repr

/-- Why a run with the renderer fails. -/
inductive RunnerError where
  | config (error : ConfigError)
  | binaryMissing (runCommand : String)
  | profileMissing (path : String)
  | rebuildFailed (status : ExitStatus) (errors : String)
  | rebuildNotStarted (script : String) (cause : OsError)
  | noRenderer
  | rendererNotStarted (program : String) (cause : OsError)
  | rendererFailed (program : String) (status : ExitStatus)
  | pipeline (error : PipelineError)
deriving DecidableEq, Repr

namespace RunnerError

/-- The messages of an error and of its causes, from the outside in. -/
def messages : RunnerError → List String
  | .config error => [error.message]
  | .binaryMissing runCommand =>
    ["Cannot find the binary in run command `" ++ runCommand
      ++ "`. Configure run_cmd with the binary path."]
  | .profileMissing path => ["No profiling file at " ++ path ++ ". Run the profiler first."]
  | .rebuildFailed status errors => ["Rebuild failed (" ++ status.message ++ "): " ++ errors]
  | .rebuildNotStarted script cause =>
    ["Failed to launch rebuild command `" ++ script ++ "`", cause.message]
  | .noRenderer => [ConfigError.noRenderer.message]
  | .rendererNotStarted program cause =>
    ["Failed to launch profile renderer `" ++ program ++ "`", cause.message]
  | .rendererFailed program status =>
    ["Profile renderer `" ++ program ++ "` exited with " ++ status.message]
  | .pipeline error => error.messages

end RunnerError

/-- The first word of a command that names an executable file. -/
def FileTree.binaryIn? (tree : FileTree) (command : String) : Option String :=
  (Text.words command).find? tree.isExecutable

namespace Config
variable (surroundings : Surroundings)

/-- Cleans and rebuilds the application. What the commands print is dropped,
save in the report of a failure. -/
def rebuild (config : Config) (tree : FileTree) : Except RunnerError Unit × FileTree :=
  let script := config.rebuildScript
  match surroundings.launch tree "sh" ["-c", script] [] with
  | .error cause => (.error (.rebuildNotStarted script cause), tree)
  | .ok finished =>
    if finished.status.isSuccess then (.ok (), finished.tree)
    else
      let errors := String.ofList (Text.trim (Text.decode finished.errors))
      (.error (.rebuildFailed finished.status errors), finished.tree)

/-- Finds the binary and the profile. -/
def locate (config : Config) (tree : FileTree) : Except RunnerError PreparedProfile :=
  match tree.binaryIn? config.runCommand with
  | none => .error (.binaryMissing config.runCommand)
  | some binary =>
    if tree.isFile config.profileFile then .ok ⟨binary, config.profileFile⟩
    else .error (.profileMissing config.profileFile)

/-- Checks every condition, after a rebuild unless it is to be skipped. -/
def prepare (config : Config) (tree : FileTree) :
    Except RunnerError PreparedProfile × FileTree :=
  match config.validateCommands with
  | .error error => (.error (.config error), tree)
  | .ok () =>
    if config.skipRebuild then (config.locate tree, tree)
    else match config.rebuild surroundings tree with
      | (.error error, tree) => (.error error, tree)
      | (.ok (), tree) => (config.locate tree, tree)

end Config
end ProfileGraph

/-! Rendering a profile and running the pipeline on what the renderer prints.
The pipeline reads the text although the renderer may have failed, and an error
of the pipeline is reported before a failure of the renderer. -/
namespace ProfileGraph

/-- A renderer that was called, by the first word of its command, and what it
left behind. -/
structure Rendering where
  program : String
  finished : Finished

/-- The state of the sink after a run with the renderer, and the graph with its
report or the error that ended the run. -/
structure RenderedResult (σ : Type) where
  state : σ
  outcome : Except RunnerError (CallGraph Binary64 × PipelineReport)

namespace Config

/-- The pipeline that the settings describe. -/
def pipeline (config : Config) : Pipeline where
  interestMarker := config.interestMarker
  rootPolicy := config.rootPolicy

variable (surroundings : Surroundings)

/-- Calls the renderer on a prepared profile. Its command may hold arguments,
which come first. -/
def callRenderer (config : Config) (tree : FileTree) (input : List UInt8)
    (prepared : PreparedProfile) : Except RunnerError Rendering :=
  match Text.words config.renderer with
  | [] => .error .noRenderer
  | program :: given =>
    let arguments := given ++ ["-dot", prepared.binary, prepared.profileFile]
    match surroundings.launch tree program arguments input with
    | .error cause => .error (.rendererNotStarted program cause)
    | .ok finished => .ok ⟨program, finished⟩

/-- Prepares a profile and renders it. The tree is the one before the renderer
was called. -/
def rendering (config : Config) (tree : FileTree) (input : List UInt8) :
    Except RunnerError Rendering × FileTree :=
  match config.prepare surroundings tree with
  | (.error error, tree) => (.error error, tree)
  | (.ok prepared, tree) => (config.callRenderer surroundings tree input prepared, tree)

/-- Runs the pipeline on what the renderer printed. -/
def runOnRendering {σ : Type} (config : Config) (rendering : Rendering) (sink : Sink σ)
    (state : σ) : RenderedResult σ :=
  let result := config.pipeline.run sink ⟨rendering.finished.output, none⟩ state
  ⟨result.state, match result.outcome with
    | .error error => .error (.pipeline error)
    | .ok built =>
      if rendering.finished.status.isSuccess then .ok built
      else .error (.rendererFailed rendering.program rendering.finished.status)⟩

end Config
end ProfileGraph
