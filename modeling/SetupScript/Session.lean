import SetupScript.Cursor
import SetupScript.Declaration
import SetupScript.Plan
import SetupScript.Reference

/-!
# Sessions

A session compiles a script: it reads declarations through a cursor and keeps the commands and the
table built so far.  A session may be asked again after a failure, and then goes on where its
scanner stands.  Every declaration read leaves less to read (`pending_lt_of_declaration`), so that
compilation is a total function of the session.
-/

namespace SetupScript

/-! ## State -/

/-- The state of a compilation.  The staging numbers are drawn in order from `draws`. -/
structure Session where
  settings : Settings
  workingDirectory : String
  draws : Nat → Nat
  cursor : Cursor
  drawn : Nat
  commands : List String
  bindings : Bindings

namespace Session

/-- A session at the start of a text, the presets overriding the variables of the settings. -/
def start (filename : String) (scanner : Scanner) (settings : Settings) (presets : Bindings)
    (workingDirectory : String) (draws : Nat → Nat) : Session where
  settings := settings
  workingDirectory := workingDirectory
  draws := draws
  cursor := .unprimed filename scanner []
  drawn := 0
  commands := []
  bindings := settings.bindings.overriddenBy presets

/-- A step of a compilation. -/
abbrev Step := Procedure Session Diagnostic

/-- How much the session has still to read. -/
def pending (session : Session) : Nat :=
  session.cursor.pending

/-! ## Elementary steps -/

/-- The session with another cursor. -/
def withCursor (session : Session) (cursor : Cursor) : Session :=
  { session with cursor := cursor }

/-- A step that concerns the cursor alone. -/
def reading {Result : Type} (procedure : Procedure Cursor Diagnostic Result) : Step Result :=
  procedure.within cursor withCursor

/-- Note something for the log. -/
def note (notice : Notice) : Step Unit :=
  .change fun session => session.withCursor (session.cursor.note notice)

/-- Add a command. -/
def emit (command : String) : Step Unit :=
  .change fun session => { session with commands := session.commands ++ [command] }

/-- Bind a name. -/
def bind (name value : String) : Step Unit :=
  .change fun session => { session with bindings := session.bindings.insert name value }

/-- Draw the staging path of a clone. -/
def drawStagingPath : Step String := do
  let session ← Procedure.look
  Procedure.change fun session => { session with drawn := session.drawn + 1 }
  return session.settings.stagingPath (session.draws session.drawn)

/-- Take the keyword at hand and the string literal behind it. -/
def argumentToken : Procedure Cursor Diagnostic Token := do
  let _ ← Cursor.advance
  Cursor.expect .string

/-- The string literal behind the keyword at hand. -/
def argument : Step Token :=
  reading argumentToken

/-- Note every reference of a text that is not bound. -/
def noteUnbound (names : List String) : Step Unit :=
  .change fun session =>
    session.withCursor (names.foldl (fun cursor name => cursor.note (.unboundReference name))
      session.cursor)

/-- A text with its bound references replaced. -/
def substitute (text : String) : Step String := do
  let session ← Procedure.look
  noteUnbound (Reference.unbound session.bindings text.toList)
  return Reference.resolve session.bindings text

/-- The two parts of a literal's substituted text. -/
def twoParts (form : Diagnostic.Form) (literal : Token) : Step (String × String) := do
  let text ← substitute literal.text
  match Declaration.twoParts form text with
  | .ok parts => return parts
  | .error count =>
    Procedure.fail
      ⟨(← Procedure.look).cursor.filename, literal.position, .argumentCount form count⟩

/-! ## Declarations -/

/-- Bind the name that an `as` introduces, if there is one, to the path of a clone. -/
def bindClone (path : String) : Step Unit := do
  if ← reading (Cursor.allow .as) then
    let name ← reading (Cursor.expect .string)
    note (.binding name.text path)
    bind name.text path

/-- What follows the argument of a clone. -/
def clone (literal : Token) : Step Unit := do
  let path ← drawStagingPath
  let source := Declaration.source literal.text
  bindClone path
  note (.cloning source.url path)
  emit (Declaration.cloneCommand (← Procedure.look).settings source path)

/-- What follows the argument of a run. -/
def run (literal : Token) : Step Unit := do
  let command ← substitute literal.text
  note (.running command)
  emit command

/-- What follows the argument of an extract. -/
def extract (literal : Token) : Step Unit := do
  let (source, target) ← twoParts .spaced literal
  let destination := Declaration.destination (← Procedure.look).workingDirectory target
  note (.extracting source destination)
  emit (Declaration.moveCommand source destination)

/-- What follows the argument of a set. -/
def set (literal : Token) : Step Unit := do
  let (name, value) ← twoParts .assignment literal
  note (.setting name value)
  bind name value

/-- What follows the argument of a declaration. -/
def effect (keyword : Token.Kind) (literal : Token) : Step Unit :=
  match keyword with
  | .clone => clone literal
  | .run => run literal
  | .extract => extract literal
  | .set => set literal
  | _ => pure ()

/-- A declaration whose keyword is at hand. -/
def declaration (keyword : Token.Kind) : Step Unit := do
  let literal ← argument
  effect keyword literal

/-- A semicolon, which may be missing. -/
def separator : Step Unit := do
  let _ ← reading (Cursor.allow .semicolon)

/-! ## Progress -/

theorem lowers_reading {Result : Type} {procedure : Procedure Cursor Diagnostic Result}
    (low : procedure.Lowers Cursor.pending) : (reading procedure).Lowers pending :=
  Procedure.lowers_within (fun _ _ => rfl) low

/-- What a step on the cursor alone does to the cursor. -/
theorem run_cursor_of_reading {Result : Type} {procedure : Procedure Cursor Diagnostic Result}
    {session reached : Session} {outcome : Except Diagnostic Result}
    (step : (reading procedure).run session = (outcome, reached)) :
    procedure.run session.cursor = (outcome, reached.cursor) :=
  congrArg (fun result => (result.1, result.2.cursor)) step

theorem lowers_note (notice : Notice) : (note notice).Lowers pending :=
  Procedure.lowers_change fun _ => rfl

theorem lowers_emit (command : String) : (emit command).Lowers pending :=
  Procedure.lowers_change fun _ => rfl

theorem lowers_bind (name value : String) : (bind name value).Lowers pending :=
  Procedure.lowers_change fun _ => rfl

theorem lowers_drawStagingPath : drawStagingPath.Lowers pending :=
  Procedure.lowers_bind (Procedure.lowers_look _) fun _ =>
    Procedure.lowers_bind (Procedure.lowers_change fun _ => rfl) fun _ =>
      Procedure.lowers_pure _ _

theorem pending_foldl_note (names : List String) (cursor : Cursor) :
    (names.foldl (fun cursor name => cursor.note (.unboundReference name)) cursor).pending =
      cursor.pending := by
  induction names generalizing cursor with
  | nil => rfl
  | cons name rest ih => exact ih (cursor.note (.unboundReference name))

theorem lowers_noteUnbound (names : List String) : (noteUnbound names).Lowers pending :=
  Procedure.lowers_change fun session => pending_foldl_note names session.cursor

theorem lowers_substitute (text : String) : (substitute text).Lowers pending :=
  Procedure.lowers_bind (Procedure.lowers_look _) fun _ =>
    Procedure.lowers_bind (lowers_noteUnbound _) fun _ => Procedure.lowers_pure _ _

theorem lowers_twoParts (form : Diagnostic.Form) (literal : Token) :
    (twoParts form literal).Lowers pending := by
  refine Procedure.lowers_bind (lowers_substitute _) fun text => ?_
  split
  · exact Procedure.lowers_pure _ _
  · exact Procedure.lowers_bind (Procedure.lowers_look _) fun _ => Procedure.lowers_fail _ _

theorem lowers_bindClone (path : String) : (bindClone path).Lowers pending := by
  refine Procedure.lowers_bind (lowers_reading (Cursor.lowers_allow _)) fun named => ?_
  split
  · exact Procedure.lowers_bind (lowers_reading (Cursor.lowers_expect _)) fun _ =>
      Procedure.lowers_bind (lowers_note _) fun _ => lowers_bind _ _
  · exact Procedure.lowers_pure _ _

theorem lowers_effect (keyword : Token.Kind) (literal : Token) :
    (effect keyword literal).Lowers pending := by
  unfold effect
  split
  · exact Procedure.lowers_bind lowers_drawStagingPath fun _ =>
      Procedure.lowers_bind (lowers_bindClone _) fun _ =>
        Procedure.lowers_bind (lowers_note _) fun _ =>
          Procedure.lowers_bind (Procedure.lowers_look _) fun _ => lowers_emit _
  · exact Procedure.lowers_bind (lowers_substitute _) fun _ =>
      Procedure.lowers_bind (lowers_note _) fun _ => lowers_emit _
  · exact Procedure.lowers_bind (lowers_twoParts _ _) fun _ =>
      Procedure.lowers_bind (Procedure.lowers_look _) fun _ =>
        Procedure.lowers_bind (lowers_note _) fun _ => lowers_emit _
  · exact Procedure.lowers_bind (lowers_twoParts _ _) fun _ =>
      Procedure.lowers_bind (lowers_note _) fun _ => lowers_bind _ _
  · exact Procedure.lowers_pure _ _

theorem lowers_separator : separator.Lowers pending :=
  Procedure.lowers_bind (lowers_reading (Cursor.lowers_allow _)) fun _ =>
    Procedure.lowers_pure _ _

/-- The argument of a declaration is taken together with its keyword. -/
theorem pending_lt_of_argument {session reached : Session} {literal : Token}
    (notFinal : session.cursor.current.kind ≠ .endOfInput)
    (step : argument.run session = (.ok literal, reached)) :
    reached.pending < session.pending := by
  have inner := run_cursor_of_reading step
  show reached.cursor.pending < session.cursor.pending
  exact Procedure.lt_of_run_bind
    (fun _ _ pulled => Cursor.pending_lt_of_advance notFinal pulled)
    (fun _ => Cursor.lowers_expect _) inner

/-- A declaration leaves less to read. -/
theorem pending_lt_of_declaration {session reached : Session} {keyword : Token.Kind}
    (notFinal : session.cursor.current.kind ≠ .endOfInput)
    (step : (declaration keyword).run session = (.ok (), reached)) :
    reached.pending < session.pending := by
  rw [declaration, Procedure.run_bind] at step
  split at step
  · rename_i literal after taken
    have bound := lowers_effect keyword literal after
    rw [step] at bound
    exact Nat.lt_of_le_of_lt bound (pending_lt_of_argument notFinal taken)
  · cases step

/-! ## Compilation -/

/-- One declaration and the semicolon that may follow it, if a keyword is at hand; the answer says
whether there was one. -/
def declaration? : Step Bool := do
  let kind ← reading Cursor.peekKind
  if kind.opensDeclaration then
    declaration kind
    separator
    return true
  else return false

/-- After a declaration there is less to read. -/
theorem pending_lt_of_declaration? {session reached : Session}
    (step : declaration?.run session = (.ok true, reached)) :
    reached.pending < session.pending := by
  rw [declaration?, Procedure.run_bind] at step
  split at step
  · rename_i kind after peeked
    have bound := lowers_reading Cursor.lowers_peekKind session
    rw [peeked] at bound
    have atHand : after.cursor.current.kind = kind :=
      Cursor.kind_of_peekKind (run_cursor_of_reading peeked)
    split at step
    · rename_i opens
      have notFinal : after.cursor.current.kind ≠ .endOfInput := by
        rw [atHand]
        rintro rfl
        cases opens
      refine Nat.lt_of_lt_of_le (Procedure.lt_of_run_bind
        (fun _ _ taken => pending_lt_of_declaration notFinal taken) (fun _ => ?_) step) bound
      exact Procedure.lowers_bind lowers_separator fun _ => Procedure.lowers_pure _ _
    · cases step
  · cases step

/-- All declarations from here on. -/
def declarations (session : Session) : Except Diagnostic Unit × Session :=
  match _ : declaration?.run session with
  | (.ok true, reached) => reached.declarations
  | (.ok false, reached) => (.ok (), reached)
  | (.error error, reached) => (.error error, reached)
termination_by session.pending
decreasing_by exact pending_lt_of_declaration? ‹_›

/-- Put the cursor in front of the next token of the source. -/
def prime : Step Unit := do
  Procedure.change fun session =>
    session.withCursor
      (.unprimed session.cursor.filename session.cursor.scanner session.cursor.notices)
  let _ ← reading Cursor.advance

/-- The plan made so far. -/
def plan (session : Session) : Plan where
  filename := session.cursor.filename
  commands := session.commands
  bindings := session.bindings

/-- Compile what is left of the source: declarations, a semicolon that may be missing, and the
end of the input. -/
def compile : Step Plan := do
  prime
  ⟨declarations⟩
  separator
  let _ ← reading (Cursor.expect .endOfInput)
  let session ← Procedure.look
  note (.compiled session.commands.length session.bindings.size session.cursor.filename)
  return session.plan

end Session

end SetupScript
