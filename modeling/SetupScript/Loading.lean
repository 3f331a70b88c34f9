import SetupScript.Directory
import SetupScript.Session
import SetupScript.Settings.Reading

/-!
# Loading

Settings and scripts from files.  A script is rendered as a template only when there are data for
it; else its text is compiled as it stands (`Script.textOf_none`).  A path is looked up, and printed,
in its tidy form.
-/

namespace SetupScript

/-! ## Failures -/

/-- Why settings could not be loaded from a file or a text. -/
inductive Settings.Fault
  | unreadable (reason : Unreadable)
  | illFormed (error : Raised)
  | invalid (problems : List (String × Settings.Problem)) (report : String)
deriving DecidableEq

/-- The wording of a fault in the settings of a source. -/
def Settings.Fault.message (source : String) : Settings.Fault → String
  | unreadable reason => reason.message source
  | illFormed error => error.message
  | invalid _ report => report

/-- What breaks loading off: a path that is none, settings that are no text or whose variables are
no blocks, and an error that a template raises and that is none of the template language. -/
inductive Loading.Escape
  | malformedPath
  | undecodable (content : List UInt8)
  | notBlocks
  | raised (error : Raised)
deriving DecidableEq

/-- What went wrong on the way to a plan.  Only an escape is not a failure of the program's own, and
is let through to whoever runs it. -/
inductive Loading.Failure
  | settings (source : String) (fault : Settings.Fault)
  | script (source : String) (reason : Unreadable)
  | template (source : String) (error : Raised)
  | diagnostic (diagnostic : Diagnostic)
  | escape (escape : Loading.Escape)
deriving DecidableEq

namespace Loading.Failure

/-- The wording of a failure of the program's own. -/
def message? : Failure → Option String
  | settings source fault => some (source ++ ": " ++ fault.message source)
  | script source reason => some (source ++ ": " ++ reason.message source)
  | template source error => some (source ++ ": " ++ error.message)
  | .diagnostic found => some found.message
  | escape _ => none

/-- Whether a failure is one of the program's own. -/
def isReported : Failure → Bool
  | escape _ => false
  | _ => true

end Loading.Failure

/-! ## Settings -/

namespace Settings

/-- The settings of a text, read under the name of a source. -/
def parse (reader : Reader) (text source : String) : Except Loading.Failure Settings :=
  match reader.document text with
  | .error error => .error (.settings source (.illFormed error))
  | .ok datum =>
    (ofDatum reader datum).mapError fun
      | .problems fields => .settings source (.invalid fields (reader.report fields))
      | .notBlocks => .escape .notBlocks

/-- What comes of a file that gives no text for settings. -/
def failureOf (source : String) : Unreadable → Loading.Failure
  | .malformedPath => .escape .malformedPath
  | .undecodable content => .escape (.undecodable content)
  | reason => .settings source (.unreadable reason)

/-- Load settings from a file. -/
def load (reader : Reader) (look : String → Entry) (file : String) :
    Except Loading.Failure Settings :=
  let source := Path.tidy file
  match (look source).text with
  | .error reason => .error (failureOf source reason)
  | .ok text => parse reader text source

end Settings

/-! ## Scripts -/

namespace Script

/-- Scripts are rendered strictly, to the line feed at their end and without escapes. -/
def rendering : Renderer.Options where
  strict := true
  keepsLastLineFeed := true
  escapes := false

/-- Render a text as a template named by its source. -/
def render (renderer : Renderer) (text : String) (context : List (String × Datum))
    (source : String) : Except Loading.Failure String :=
  (renderer.render rendering text context).mapError fun
    | .own error => .template source error
    | .foreign error => .escape (.raised error)

/-- The text of a script to be compiled: rendered if there are data for it. -/
def textOf (renderer : Renderer) (text : String) (context : Option (List (String × Datum)))
    (source : String) : Except Loading.Failure String :=
  match context with
  | none => .ok text
  | some context => render renderer text context source

/-- Without data for a template, a text is compiled as it stands. -/
@[simp]
theorem textOf_none (renderer : Renderer) (text source : String) :
    textOf renderer text none source = .ok text := rfl

/-- How a script is compiled beside its text. -/
structure Surroundings where
  settings : Settings
  presets : Bindings := .empty
  workingDirectory : String
  draws : Nat → Nat

/-- Compile a text; the answer comes with the notices. -/
def compile (text filename : String) (around : Surroundings) :
    Except Diagnostic Plan × List Notice :=
  let session := Session.start filename (Scanner.ofString text) around.settings around.presets
    around.workingDirectory around.draws
  let (result, after) := Session.compile.run session
  (result, after.cursor.notices)

/-- What comes of a file that gives no text for a script. -/
def failureOf (source : String) : Unreadable → Loading.Failure
  | .malformedPath => .escape .malformedPath
  | reason => .script source reason

/-- Load a script from a file and compile it; the answer comes with the notices. -/
def load (renderer : Renderer) (look : String → Entry) (file : String)
    (context : Option (List (String × Datum))) (around : Surroundings) :
    Except Loading.Failure Plan × List Notice :=
  let source := Path.tidy file
  let loading := Notice.loading source
  match (look source).text with
  | .error reason => (.error (failureOf source reason), [loading])
  | .ok content =>
    match textOf renderer content context source with
    | .error failure => (.error failure, [loading])
    | .ok text =>
      let (result, notices) := compile text source around
      (result.mapError .diagnostic, loading :: notices)

end Script

end SetupScript
