import ProfileGraph.StandIn.Utility.Concatenate
import ProfileGraph.StandIn.Utility.Naming
import ProfileGraph.StandIn.Utility.Removal
import ProfileGraph.StandIn.Utility.Creation
import ProfileGraph.StandIn.Utility.Copying
import ProfileGraph.StandIn.Utility.Listing
import ProfileGraph.StandIn.Utility.Counting
import ProfileGraph.StandIn.Utility.Sorting
import ProfileGraph.StandIn.Utility.Columns
import ProfileGraph.StandIn.Utility.Characters
import ProfileGraph.StandIn.Utility.Printing
import ProfileGraph.StandIn.Utility.Dump
import ProfileGraph.StandIn.Utility.Search
import ProfileGraph.StandIn.Utility.Edit.Run
import ProfileGraph.StandIn.Utility.Arguments
import ProfileGraph.StandIn.Utility.Blocks
import ProfileGraph.StandIn.Utility.Dates
import ProfileGraph.StandIn.Utility.Relations
import ProfileGraph.StandIn.Utility.Checks
import ProfileGraph.StandIn.Utility.Surroundings
import ProfileGraph.StandIn.Utility.Difference.Run
import ProfileGraph.StandIn.Utility.Expression
import ProfileGraph.StandIn.Utility.Find.Run
import ProfileGraph.StandIn.Utility.Make.Start
import ProfileGraph.StandIn.Utility.Scan.Start

/-! The utilities by their names. -/
namespace ProfileGraph.Utility
open Host

/-- The utilities that start no other programs, by their names. -/
def jobs : List (String × Job Nat) := [
  ("true", return 0),
  ("false", return 1),
  ("sleep", return 0),
  ("cat", concatenate),
  ("tac", concatenateBackwards),
  ("rev", reverseLines),
  ("tee", copyToAll),
  ("nl", numberLines),
  ("yes", repeatForever),
  ("head", head),
  ("tail", tail),
  ("basename", printLastParts),
  ("dirname", printFrontParts),
  ("rm", removeFiles),
  ("rmdir", removeDirectories),
  ("unlink", unlinkFile),
  ("mkdir", makeDirectories),
  ("touch", touch),
  ("ln", makeLinks),
  ("link", linkFile),
  ("mktemp", makeTemporary),
  ("truncate", truncateFiles),
  ("cp", copyFiles),
  ("mv", moveFiles),
  ("install", install),
  ("chmod", changeModes),
  ("chown", changeOwners false),
  ("chgrp", changeOwners true),
  ("ls", list),
  ("stat", tellStatus),
  ("readlink", readLinks),
  ("realpath", printRealPaths),
  ("pwd", printWorkingDirectory),
  ("wc", countText),
  ("uniq", dropRepetitions),
  ("sort", sort),
  ("cut", cutLines),
  ("paste", pasteLines),
  ("fold", foldLines),
  ("expand", expand),
  ("comm", compareSorted),
  ("tr", mapCharacters),
  ("seq", printSequence),
  ("od", dump),
  ("grep", Search.searchLines none),
  ("egrep", Search.searchLines (some "-E")),
  ("fgrep", Search.searchLines (some "-F")),
  ("sed", Edit.editStream),
  ("echo", echo),
  ("printf", printFormatted),
  ("test", test),
  ("[", testInBrackets),
  ("expr", Expression.printValue),
  ("printenv", printEnvironment),
  ("diff", Difference.tellDifferences),
  ("cmp", Difference.tellFirstDifference),
  ("cksum", printCheckNumbers),
  ("sum", printSums),
  ("md5sum", printDigests ⟨"MD5", Digest.fourWords⟩),
  ("sha1sum", printDigests ⟨"SHA1", Digest.fiveWords⟩),
  ("sha256sum", printDigests ⟨"SHA256", Digest.eightWords⟩),
  ("base64", convertSixBits),
  ("uname", tellSystem),
  ("arch", tellMachine),
  ("whoami", tellUser),
  ("id", tellIdentity),
  ("groups", tellGroups),
  ("tty", tellTerminal),
  ("sync", return 0),
  ("dd", copyBlocks),
  ("split", splitIntoPieces),
  ("tsort", orderWords),
  ("join", joinLines),
  ("date", printDate),
  ("which", tellLocations)]

/-- The utilities that start other programs, by their names. -/
def starters : List (String × Program) := [
  ("make", Make.makeTargets),
  ("env", startInEnvironment),
  ("find", Find.findFiles),
  ("xargs", Arguments.runWithArguments),
  ("awk", Scan.scan),
  ("mawk", Scan.scan),
  ("nohup", startLasting),
  ("nice", startNicely),
  ("timeout", startLimited)]

/-- The utility with a name. -/
def find? (name : String) : Option Program :=
  (jobs.lookup name).map .ofJob <|> starters.lookup name

/-- The names of the utilities. -/
def names : List String := jobs.map (·.1) ++ starters.map (·.1)

end ProfileGraph.Utility
