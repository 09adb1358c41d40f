import ProfileGraph.StandIn.Host.Launch
import ProfileGraph.StandIn.Shell.Start
import ProfileGraph.StandIn.Toml.Reader
import ProfileGraph.StandIn.Utility.Table

/-! A system that stands in for the one around the program: the programs that it
has, the file tree in which they are found, and the reader of settings. It lets the
program run; what is proved of the program does not depend on it. -/
namespace ProfileGraph.Host

/-- The program of the system with a name. -/
def systemProgram? (name : String) : Option Program :=
  if name == "sh" || name == "dash" then some Shell.program else Utility.find? name

/-- The names of the programs of the system. -/
def systemPrograms : List String := "sh" :: "dash" :: Utility.names

/-- When the files of the system were made, in seconds. -/
def startMoment : Nat := 1750000000

/-- A tree with the programs of the system and an empty working directory. -/
def systemTree : FileTree :=
  let directories := [["work"], ["tmp"], ["root"], ["etc"], ["usr"], ["usr", "bin"], ["usr", "lib"],
    ["dev"]]
  let bare : FileTree := { workingDirectory := ["work"], clock := startMoment }
  let tree := directories.foldl (fun tree place =>
    tree.put place .directory FileTree.directoryMode) bare
  let tree := tree.put ["bin"] (.link "usr/bin") 0o777
  let tree := [("null", Device.null), ("zero", .zero), ("full", .full)].foldl
    (fun tree (name, device) => tree.put ["dev", name] (.device device) 0o666) tree
  systemPrograms.foldl (fun tree name =>
    tree.put ["usr", "bin", name] (.program name) 0o755) tree

/-- What a run finds on the system. -/
def surroundings : Surroundings where
  launch := run systemProgram?
  readToml := Toml.read?

end ProfileGraph.Host
