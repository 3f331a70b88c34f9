import SetupScript.Position

/-!
# Notices

What the library has to tell while it works.  A notice is a value; its line for the log is written
in one place.
-/

namespace SetupScript

/-! ## Notices -/

/-- How much a notice matters. -/
inductive Notice.Level
  | debug
  | info
  | warning
deriving DecidableEq

/-- Something worth a line in the log. -/
inductive Notice
  | configured (source description : String)
  | loading (path : String)
  | skippingComment (position : Position)
  | unboundReference (name : String)
  | binding (name path : String)
  | cloning (url path : String)
  | running (command : String)
  | extracting (source destination : String)
  | setting (name value : String)
  | compiled (commands bindings : Nat) (filename : String)
  | executing (commands : Nat) (filename : String)
  | wouldStart (command : String)
  | starting (command : String)
  | continuing (status : Int) (command : String)
deriving DecidableEq

namespace Notice

/-- The level of a notice. -/
def level : Notice → Level
  | executing .. | wouldStart .. | starting .. => .info
  | continuing .. => .warning
  | _ => .debug

/-- The name of a level in the log. -/
def Level.name : Level → String
  | debug => "DEBUG"
  | info => "INFO"
  | warning => "WARNING"

/-- The part of the program that a notice comes from, as the log names it. -/
def origin : Notice → String
  | configured .. => "depscript.config"
  | loading .. => "depscript.loader"
  | skippingComment .. => "depscript.cursor"
  | unboundReference .. => "depscript.resolve"
  | executing .. => "depscript.plan"
  | wouldStart .. | starting .. | continuing .. => "depscript.runner"
  | _ => "depscript.interpreter"

/-- The wording of a notice. -/
def message : Notice → String
  | configured source description => s!"Loaded settings from {source}: {description}"
  | loading path => s!"Loading script {path}"
  | skippingComment position => "Skipping comment at " ++ position.text
  | unboundReference name => s!"Leaving unbound reference '{name}' in place"
  | binding name path => s!"Binding '{name}' to staging path {path}"
  | cloning url path => s!"clone {url} -> {path}"
  | running command => s!"run {command}"
  | extracting source destination => s!"extract {source} -> {destination}"
  | setting name value => s!"set {name}={value}"
  | compiled commands bindings filename =>
    s!"Compiled {commands} command(s) and {bindings} variable(s) from '{filename}'"
  | executing commands filename => s!"Executing {commands} command(s) from '{filename}'"
  | wouldStart command => s!"[DRY RUN] Would run: {command}"
  | starting command => s!"Running: {command}"
  | continuing status command =>
    s!"Command failed with exit status {status}; continuing: {command}"

/-- The line of a notice in the log. -/
def line (notice : Notice) : String :=
  notice.level.name ++ " " ++ notice.origin ++ ": " ++ notice.message

end Notice

end SetupScript
