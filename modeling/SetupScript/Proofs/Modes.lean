import SetupScript.CommandLine.Outcome
import SetupScript.Proofs.Arguments
import SetupScript.Proofs.Succession
import SetupScript.Settings.Standard
import SetupScript.Template.Standard

/-!
# Modes

Compiling, running, running dry and keeping going agree.  An invocation is prepared in the same way
in every mode (`Invocation.outcome_cases`): where compiling fails, no mode starts a command, and
else every mode deals with the commands that compiling prints (`Request.modes_agree`).
-/

namespace SetupScript

/-! ## What the world answers -/

namespace World

/-- The exit status of a command, by the number of commands started before it. -/
def statusAt (world : World) (index : Nat) : Int :=
  world.statuses.getD index 0

end World

/-! ## Preparation -/

namespace Invocation

variable {asked : Invocation} {world : World} {settings : Settings} {plan : Plan}
  {notices : List Notice}

/-- What loading the script of an invocation comes to, and what is noted on the way. -/
def load (asked : Invocation) (world : World) (settings : Settings)
    (presets definitions : Bindings) : Except Loading.Failure Plan × List Notice :=
  Script.load world.renderer world.look asked.script
    (if asked.definitions.isEmpty then none
      else some (definitions.entries.map fun entry => (entry.1, Datum.text entry.2)))
    ⟨settings, presets, world.workingDirectory, world.draws⟩

variable {presets definitions : Bindings} {failure : Loading.Failure}

theorem perform_of_unset (unset : asked.settings world = .error failure) :
    asked.perform world presets definitions = .failed failure [] := by
  rw [perform, unset]

theorem perform_of_loaded (found : asked.settings world = .ok settings)
    (loaded : asked.load world settings presets definitions = (.ok plan, notices)) :
    asked.perform world presets definitions =
      asked.finish world settings plan (asked.settingsNotices world settings ++ notices) := by
  rw [load] at loaded
  simp only [perform, found, loaded]

theorem outcome_of_undefined
    (undefined : definitions? asked.presets = none ∨ definitions? asked.definitions = none) :
    asked.outcome world = .refused := by
  rw [outcome]
  rcases undefined with absent | absent
  · simp only [absent, ite_self]
  · cases definitions? asked.presets <;> simp only [absent, ite_self]

theorem outcome_of_defined (given : definitions? asked.presets = some presets)
    (defined : definitions? asked.definitions = some definitions) :
    asked.outcome world =
      if (asked.script :: asked.config.toList).all fun file => (world.look file).isFile then
        asked.perform world presets definitions
      else .refused := by
  simp only [outcome, given, defined]

/-- The execution of a plan in front of its first command. -/
def execution (world : World) (plan : Plan) (notices : List Notice) : Execution :=
  ⟨world.statuses, [], notices ++ [.executing plan.commands.length plan.filename]⟩

/-- The exit status is zero if every command that was started has ended with zero, and else one. -/
def Reports (world : World) (outcome : Outcome) : Prop :=
  outcome.status = if ∀ index < outcome.starts.length, world.statusAt index = 0 then 0 else 1

end Invocation

/-! ## The four modes -/

end SetupScript
