import SetupScript.CommandLine.Outcome
import SetupScript.Settings.Standard
import SetupScript.Template.Standard

/-!
# The command line

The program around the library, with the libraries at hand.  It reads the files that an invocation
names, and prints what the invocation comes to.  It starts nothing itself: the exit statuses of the
commands are read from standard input, one a line, and every start is printed with its shell.
-/

namespace SetupScript.Main

/-- What a path of the file system leads to. -/
def look (path : String) : IO Entry := do
  try return .file (← IO.FS.readBinFile path).toList
  catch
    | .inappropriateType _ 20 _ => return .notDirectory
    | .inappropriateType .. => return .directory
    | _ => return .missing

/-- The exit statuses on standard input. -/
def readStatuses (input : IO.FS.Stream) : IO (List Int) := do
  let content ← input.readToEnd
  return (content.splitOn "\n").filterMap String.toInt?

/-- The numbers that a seed gives, in order. -/
def drawsFrom (seed index : Nat) : Nat :=
  (randNat (mkStdGen (seed + index)) 0 (Settings.stagingRange - 1)).1

/-- Answer the arguments of the command line. -/
def answer (arguments : List String) : IO UInt32 := do
  let request := Request.read arguments
  let entries ← request.paths.mapM fun path => do return (path, ← look path)
  let statuses ← if request.startsCommands then readStatuses (← IO.getStdin) else pure []
  let seed ← IO.rand 0 (Settings.stagingRange - 1)
  let directory ← IO.currentDir
  let temporaryDirectory := (← IO.getEnv "TMPDIR").getD "/tmp"
  let outcome := outcomeOf Request.read arguments {
    look := fun path => (entries.lookup path).getD .missing
    workingDirectory := directory.toString
    draws := drawsFrom seed
    statuses := statuses
    reader := .standard temporaryDirectory
    renderer := .standard }
  for start in outcome.starts do IO.println s!"{start.shell} -c {Text.quotedString start.command}"
  IO.print outcome.output
  IO.eprint outcome.messages
  return outcome.status.toUInt32

end SetupScript.Main

/-- The program. -/
def main (arguments : List String) : IO UInt32 :=
  SetupScript.Main.answer arguments
