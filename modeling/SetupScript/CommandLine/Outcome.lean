import SetupScript.CommandLine.Invocation
import SetupScript.Execution
import SetupScript.Loading
import SetupScript.Text.Terminal

/-!
# Outcomes

What an invocation comes to: its exit status, its output, what it says in case of failure, and the
commands that it starts.  The output is that for a file: a terminal gets its sequences as they are.
-/

namespace SetupScript

/-! ## Definitions on the command line -/

/-- The name and the value of a definition, which an equals sign separates. -/
def definition? (text : String) : Option (String × String) :=
  let name := text.toList.takeWhile (· != '=')
  match text.toList.dropWhile (· != '=') with
  | _ :: value =>
    if name.isEmpty then none else some (String.ofList name, String.ofList value)
  | [] => none

/-- The bindings that definitions make, later ones replacing earlier ones. -/
def definitions? (texts : List String) : Option Bindings :=
  (texts.mapM definition?).map Bindings.ofList

/-! ## Outcomes -/

/-- How the program is used. -/
def usage : String :=
  "usage: (compile | run) [-c FILE] [-V NAME=VALUE] [-D NAME=VALUE] [-v] SCRIPT\n" ++
    "       run also takes --dry-run and --keep-going\n"

/-- What an invocation comes to.  The log holds the notices that are shown. -/
inductive Outcome
  | refused
  | helped
  | completed (status : Nat)
  | failed (failure : Loading.Failure) (log : List Notice)
  | compiled (commands : List String) (log : List Notice)
  | executed (result : Except Execution.Failure (List String)) (starts : List Execution.Start)
    (log : List Notice)

namespace Outcome

/-- The exit status of the program. -/
def status : Outcome → Nat
  | refused => 2
  | helped | compiled .. => 0
  | completed status => status
  | failed .. => 1
  | executed (.ok []) .. => 0
  | executed .. => 1

/-- The commands that were started. -/
def starts : Outcome → List Execution.Start
  | executed _ starts _ => starts
  | _ => []

/-- A line without the sequences for terminals. -/
def line (text : String) : String :=
  String.ofList (Text.withoutSequences text.toList) ++ "\n"

/-- What is printed: the compiled commands, one a line, or the help that was asked for. -/
def output : Outcome → String
  | compiled commands _ => String.join (commands.map line)
  | helped => usage
  | _ => ""

/-- The notices that are shown. -/
def log : Outcome → List Notice
  | failed _ log | compiled _ log | executed _ _ log => log
  | _ => []

/-- What is said last in case of failure. -/
def complaint? : Outcome → Option String
  | failed failure _ => failure.message?
  | executed (.error failure) .. => some failure.message
  | executed (.ok []) .. => none
  | executed (.ok commands) .. => some s!"{commands.length} command(s) failed"
  | _ => none

/-- What is said beside the output: the log as it stands, then the complaint as it is printed, one a
line; to an invocation that is refused, how the program is used. -/
def messages : Outcome → String
  | refused => usage
  | outcome =>
    String.join (outcome.log.map (fun notice => notice.line ++ "\n") ++
      (outcome.complaint?.map line).toList)

end Outcome

/-! ## Invocations -/

/-- Where an invocation takes place: what paths lead to, where it runs, the numbers that are drawn,
the exit statuses of the commands to be started, the libraries, and the exit status for the
completion of a shell. -/
structure World where
  look : String → Entry
  workingDirectory : String
  draws : Nat → Nat
  statuses : List Int := []
  reader : Settings.Reader
  renderer : Renderer
  completion : Nat := 0

namespace Invocation

/-- The notices that an invocation shows: all of them only if it is verbose. -/
def shown (invocation : Invocation) (notices : List Notice) : List Notice :=
  notices.filter fun notice => invocation.verbose || notice.level != .debug

/-- The settings of an invocation. -/
def settings (invocation : Invocation) (world : World) : Except Loading.Failure Settings :=
  match invocation.config with
  | none => .ok (.standard world.reader.temporaryDirectory)
  | some config => Settings.load world.reader world.look config

/-- What is noted of the settings of an invocation: where they were read from. -/
def settingsNotices (invocation : Invocation) (world : World) (settings : Settings) :
    List Notice :=
  invocation.config.toList.map fun config =>
    .configured (Path.tidy config) (world.reader.describe settings)

/-- What is to become of a plan. -/
def finish (invocation : Invocation) (world : World) (settings : Settings) (plan : Plan)
    (notices : List Notice) : Outcome :=
  match invocation.verb with
  | .compile => .compiled plan.commands (invocation.shown notices)
  | .run =>
    let options : Execution.Options :=
      ⟨invocation.dryRun, invocation.keepGoing, settings.shell⟩
    let (result, after) := plan.execute options ⟨world.statuses, [], notices⟩
    .executed result after.starts (invocation.shown after.notices)

/-- Compile the script of an invocation and go on with the plan.  The script is a template if there
are definitions for it. -/
def perform (invocation : Invocation) (world : World) (presets definitions : Bindings) :
    Outcome :=
  match invocation.settings world with
  | .error failure => .failed failure []
  | .ok settings =>
    let context := if invocation.definitions.isEmpty then none
      else some (definitions.entries.map fun entry => (entry.1, Datum.text entry.2))
    let (result, loading) := Script.load world.renderer world.look invocation.script context
      { settings := settings
        presets := presets
        workingDirectory := world.workingDirectory
        draws := world.draws }
    let notices := invocation.settingsNotices world settings ++ loading
    match result with
    | .error failure => .failed failure (invocation.shown notices)
    | .ok plan => invocation.finish world settings plan notices

/-- What an invocation comes to.  Its files must be there under the paths as they are given, and its
definitions well formed. -/
def outcome (invocation : Invocation) (world : World) : Outcome :=
  let files := invocation.script :: invocation.config.toList
  if files.all fun file => (world.look file).isFile then
    match definitions? invocation.presets, definitions? invocation.definitions with
    | some presets, some definitions => invocation.perform world presets definitions
    | _, _ => .refused
  else .refused

end Invocation

/-- The paths that a request leads to, as they are given and in their tidy form. -/
def Request.paths : Request → List String
  | .invocation asked =>
    (asked.script :: asked.config.toList).flatMap fun file => [file, Path.tidy file]
  | _ => []

/-- Whether a request starts commands. -/
def Request.startsCommands : Request → Bool
  | .invocation asked => asked.verb = .run && !asked.dryRun
  | _ => false

/-- What a request comes to. -/
def Request.outcome (request : Request) (world : World) : Outcome :=
  match request with
  | .refusal => .refused
  | .help => .helped
  | .completion => .completed world.completion
  | .invocation asked => asked.outcome world

/-- What the arguments of the command line come to, with a reader of the arguments. -/
def outcomeOf (read : List String → Request) (arguments : List String) (world : World) : Outcome :=
  (read arguments).outcome world

end SetupScript
