import ProfileGraph.CommandLine.Basic

/-! The reader of command lines. An option that awaits its value takes the
next argument that does not look like an option. Its value is checked when the
next known option or the end of the line settles it; an argument that fits
nowhere is reported before the value of an option in front of it. -/
namespace ProfileGraph.CommandLine

/-- The long names of options that take a value. -/
def longValueOption? : String → Option ValueOption
  | "config" => some .config
  | "run-cmd" => some .runCommand
  | "build-cmd" => some .buildCommand
  | "clean-cmd" => some .cleanCommand
  | "profile-file" => some .profileFile
  | "pprof" => some .renderer
  | "output-dir" => some .outputDirectory
  | "marker" => some .marker
  | "root-policy" => some .rootPolicy
  | "input" => some .input
  | _ => none

/-- The long names of flags. -/
def longFlag? : String → Option Flag
  | "skip-rebuild" => some .skipRebuild
  | "json" => some .json
  | "debug" => some .debug
  | "help" => some .help
  | "version" => some .version
  | _ => none

/-- The letters of options that take a value. -/
def shortValueOption? : Char → Option ValueOption
  | 'c' => some .config
  | 'o' => some .outputDirectory
  | 'i' => some .input
  | _ => none

/-- The letters of flags. Each of them ends the reading, so that no letter
matters that stands behind one. -/
def shortFlag? : Char → Option Flag
  | 'h' => some .help
  | 'V' => some .version
  | _ => none

/-- How an argument looks. -/
inductive Argument where
  | long (name : String) (value : Option String)
  | short (letter : Char) (rest : List Char)
  | plain (text : String)
deriving DecidableEq, Repr

namespace Argument

/-- Cuts an argument into its parts. A single dash is a value. -/
def ofText (text : String) : Argument :=
  match text.toList with
  | '-' :: '-' :: rest =>
    let (name, value) := rest.span (· != '=')
    .long (String.ofList name) (match value with
      | [] => none
      | _ :: value => some (String.ofList value))
  | '-' :: letter :: rest => .short letter rest
  | _ => .plain text

end Argument

/-- An option that is not settled yet, with its value if that has come. -/
structure Pending where
  option : ValueOption
  value : Option String := none
deriving DecidableEq, Repr

/-- What has been read: the settled options and the one that is pending. -/
structure Progress where
  options : Options := {}
  pending : Option Pending := none
deriving DecidableEq, Repr

/-- Gives an option its value. -/
def settle (options : Options) (option : ValueOption) (value : String) :
    Except UsageError Options :=
  if options.has option then .error .argumentConflict
  else match options.assign? value option with
    | some options => .ok options
    | none => .error .invalidValue

/-- Settles the pending option. -/
def settlePending (progress : Progress) : Except UsageError Options :=
  match progress.pending with
  | none => .ok progress.options
  | some ⟨_, none⟩ => .error .invalidValue
  | some ⟨option, some value⟩ => settle progress.options option value

/-- Sets a flag. -/
def raise (options : Options) : Flag → Except UsageError Options
  | .skipRebuild =>
    if options.skipRebuild then .error .argumentConflict
    else .ok { options with skipRebuild := true }
  | .json =>
    if options.json then .error .argumentConflict else .ok { options with json := true }
  | .debug =>
    if options.debug then .error .argumentConflict else .ok { options with debug := true }
  | .help => .error .displayHelp
  | .version => .error .displayVersion

/-- Meets an option that takes a value, which may be attached to it. -/
def meetOption (progress : Progress) (option : ValueOption) (value : Option String) :
    Except UsageError Progress := do
  let options ← settlePending progress
  match value with
  | some value => return { options := ← settle options option value }
  | none => return { options, pending := some ⟨option, none⟩ }

/-- Meets a flag. -/
def meetFlag (progress : Progress) (flag : Flag) : Except UsageError Progress := do
  return { options := ← raise (← settlePending progress) flag }

/-- The value attached to a letter; an equals sign in front is not part of
it. -/
def attached : List Char → Option String
  | [] => none
  | '=' :: value => some (String.ofList value)
  | value => some (String.ofList value)

/-- Meets one argument. -/
def meet (progress : Progress) (argument : Argument) : Except UsageError Progress :=
  match argument with
  | .long name value =>
    match longValueOption? name, longFlag? name, value with
    | some option, _, value => meetOption progress option value
    | none, some _, some _ => .error .tooManyValues
    | none, some flag, none => meetFlag progress flag
    | none, none, _ => .error .unknownArgument
  | .short letter rest =>
    match shortValueOption? letter, shortFlag? letter with
    | some option, _ => meetOption progress option (attached rest)
    | none, some flag => meetFlag progress flag
    | none, none => .error .unknownArgument
  | .plain text =>
    match progress.pending with
    | some ⟨option, none⟩ => .ok { progress with pending := some ⟨option, some text⟩ }
    | _ => .error .unknownArgument

/-- Reads arguments one after the other. Nothing may follow two dashes, behind
which every argument would be a value. -/
def readFrom (progress : Progress) : List String → Except UsageError Options
  | [] => settlePending progress
  | text :: later =>
    if text == "--" then
      if later.isEmpty then settlePending progress else .error .unknownArgument
    else match meet progress (Argument.ofText text) with
      | .error error => .error error
      | .ok progress => readFrom progress later

/-- Reads the arguments of the program. -/
def read (arguments : List String) : Except UsageError Options := readFrom {} arguments

end ProfileGraph.CommandLine

/-! The texts that the program prints about itself. -/
namespace ProfileGraph.CommandLine

/-- The name of the program. -/
def programName : String := "codelet-callgraph"

/-- What is printed for the version. -/
def versionText : String := programName ++ " 0.1.0\n"

/-- An option with its help, in columns. -/
def helpLine (option description : String) : String :=
  "  " ++ option ++ String.ofList (List.replicate (33 - option.length) ' ') ++ description ++ "\n"

/-- What is printed for help. -/
def helpText : String :=
  "Build a weighted, acyclic call graph of instrumented regions from profiler output\n\nUsage: "
    ++ programName ++ " [OPTIONS]\n\nOptions:\n"
    ++ String.join [
      helpLine "-c, --config <FILE>" "TOML configuration file",
      helpLine "    --run-cmd <CMD>"
        "Command that runs the application (used to locate the binary)",
      helpLine "    --build-cmd <CMD>" "Command that builds the application",
      helpLine "    --clean-cmd <CMD>" "Command that cleans the application build",
      helpLine "    --profile-file <PATH>" "Captured binary profile",
      helpLine "    --pprof <CMD>" "Profile renderer executable",
      helpLine "-o, --output-dir <DIR>" "Directory receiving graph snapshots",
      helpLine "    --marker <TOKEN>" "Symbol-name token marking interest points",
      helpLine "    --root-policy <ROOT_POLICY>"
        ("How to treat roots that are not interest points when pruning"
          ++ " [possible values: retain, forbid]"),
      helpLine "    --skip-rebuild" "Use the binary already on disk instead of rebuilding",
      helpLine "-i, --input <FILE>"
        ("Read renderer dot output from a file (\"-\" for stdin) instead of running"
          ++ " the renderer"),
      helpLine "    --json" "Print the run report as JSON on stdout",
      helpLine "    --debug" "Enable debug tracing output",
      helpLine "-h, --help" "Print help",
      helpLine "-V, --version" "Print version"]

/-- What is said about a command line that does not start a run. -/
def usageMessage : UsageError → String
  | .unknownArgument => "error: unexpected argument found\n"
  | .invalidValue => "error: a value is missing or not allowed\n"
  | .argumentConflict => "error: an argument cannot be used multiple times\n"
  | .tooManyValues => "error: an unexpected value was found\n"
  | .displayHelp => helpText
  | .displayVersion => versionText

end ProfileGraph.CommandLine
