import SetupScript.Notice
import SetupScript.Plan

/-!
# Execution

Running the commands of a plan in order.  The outside world answers each start with an exit status;
here the answers are given in advance, and every start is recorded.  An execution stops at the
first failure, unless it is told to keep going.
-/

namespace SetupScript

/-! ## Options and state -/

/-- How commands are run. -/
structure Execution.Options where
  dryRun : Bool := false
  keepGoing : Bool := false
  shell : String := "/bin/sh"

/-- A command handed to a shell. -/
structure Execution.Start where
  command : String
  shell : String
deriving DecidableEq

/-- A command that ended with an exit status other than zero. -/
structure Execution.Failure where
  command : String
  status : Int
deriving DecidableEq

/-- The wording of a failure that stops an execution. -/
def Execution.Failure.message (failure : Execution.Failure) : String :=
  s!"command failed with exit status {failure.status}: {failure.command}"

/-- An execution under way: the exit statuses to come, the starts so far, and the notices. -/
structure Execution where
  statuses : List Int
  starts : List Execution.Start := []
  notices : List Notice := []

namespace Execution

/-- Note something for the log. -/
def note (execution : Execution) (notice : Notice) : Execution :=
  { execution with notices := execution.notices ++ [notice] }

/-- Start a command.  Its exit status is the next one to come, and zero when none is left.  Every
start succeeds: that the system refuses one, as for a command with a null character or a shell that
is missing, is not among the answers. -/
def start (options : Options) (command : String) (execution : Execution) : Int × Execution :=
  (execution.statuses.headD 0,
    { execution with
      statuses := execution.statuses.tail
      starts := execution.starts ++ [⟨command, options.shell⟩] })

/-- Run one command; a dry run only says so and counts as a success. -/
def runCommand (options : Options) (command : String) (execution : Execution) : Int × Execution :=
  if options.dryRun then (0, execution.note (.wouldStart command))
  else start options command (execution.note (.starting command))

/-- Run commands in order and answer the failed ones, or the failure that stopped the run. -/
def runAll (options : Options) :
    List String → Execution → Except Failure (List String) × Execution
  | [], execution => (.ok [], execution)
  | command :: commands, execution =>
    let (status, reached) := runCommand options command execution
    if status = 0 then runAll options commands reached
    else if options.keepGoing then
      let (result, last) := runAll options commands (reached.note (.continuing status command))
      (result.map (command :: ·), last)
    else (.error ⟨command, status⟩, reached)

/-- The exit statuses of commands run one by one, whatever they are. -/
def statusesOf (options : Options) : List String → Execution → List Int × Execution
  | [], execution => ([], execution)
  | command :: commands, execution =>
    let (status, reached) := runCommand options command execution
    let (statuses, last) := statusesOf options commands reached
    (status :: statuses, last)

end Execution

/-- Run the commands of a plan. -/
def Plan.execute (plan : Plan) (options : Execution.Options) (execution : Execution) :
    Except Execution.Failure (List String) × Execution :=
  Execution.runAll options plan.commands
    (execution.note (.executing plan.commands.length plan.filename))

end SetupScript
