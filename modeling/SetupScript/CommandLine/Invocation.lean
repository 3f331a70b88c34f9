/-!
# Invocations

The arguments of the command line.  A verb is followed by options and one script in any order; two
hyphens end the options.  Short options may be bundled, and a value may be attached to its option.

The program takes the reading of arguments as a parameter; `Request.read` is the one at hand.
-/

namespace SetupScript

/-! ## Verbs and options -/

/-- What the program is asked to do. -/
inductive Verb
  | compile
  | run
deriving DecidableEq

/-- The options of a verb. -/
inductive Flag
  | verbose
  | dryRun
  | keepGoing
  | help
deriving DecidableEq

/-- The options that take a value. -/
inductive Field
  | config
  | preset
  | definition
deriving DecidableEq

/-- The verb of a name. -/
def Verb.ofName? : String → Option Verb
  | "compile" => some .compile
  | "run" => some .run
  | _ => none

/-- The option of a long name, for a verb. -/
def Verb.long? (verb : Verb) (name : String) : Option (Flag ⊕ Field) :=
  match name with
  | "--config" => some (.inr .config)
  | "--var" => some (.inr .preset)
  | "--define" => some (.inr .definition)
  | "--verbose" => some (.inl .verbose)
  | "--help" => some (.inl .help)
  | "--dry-run" => if verb = .run then some (.inl .dryRun) else none
  | "--keep-going" => if verb = .run then some (.inl .keepGoing) else none
  | _ => none

/-- The option of a letter, for a verb. -/
def Verb.short? (verb : Verb) (letter : Char) : Option (Flag ⊕ Field) :=
  match letter with
  | 'c' => some (.inr .config)
  | 'V' => some (.inr .preset)
  | 'D' => some (.inr .definition)
  | 'v' => some (.inl .verbose)
  | 'k' => if verb = .run then some (.inl .keepGoing) else none
  | _ => none

/-! ## Reading the arguments of a verb -/

/-- What has been read of the arguments of a verb. -/
structure Invocation.Draft where
  scripts : List String := []
  flags : List Flag := []
  fields : List (Field × String) := []

namespace Invocation.Draft

/-- Add a flag. -/
def addFlag (draft : Draft) (flag : Flag) : Draft :=
  { draft with flags := draft.flags ++ [flag] }

/-- Add the value of an option. -/
def addField (draft : Draft) (field : Field) (value : String) : Draft :=
  { draft with fields := draft.fields ++ [(field, value)] }

/-- Add what may be the script. -/
def addScripts (draft : Draft) (scripts : List String) : Draft :=
  { draft with scripts := draft.scripts ++ scripts }

/-- What an argument makes of a draft: another draft, or one that still lacks the value of an
option. -/
inductive Reading
  | done (draft : Draft)
  | awaiting (draft : Draft) (field : Field)

/-- Read an argument that is a long option, perhaps with a value attached. -/
def readLong? (verb : Verb) (draft : Draft) (argument : List Char) : Option Reading :=
  let name := String.ofList (argument.takeWhile (· != '='))
  let value? := match argument.dropWhile (· != '=') with
    | _ :: value => some (String.ofList value)
    | [] => none
  match verb.long? name, value? with
  | some (.inl flag), none => some (.done (draft.addFlag flag))
  | some (.inr field), some value => some (.done (draft.addField field value))
  | some (.inr field), none => some (.awaiting draft field)
  | _, _ => none

/-- Read the letters of short options; what follows the letter of an option with a value is the
value. -/
def readShort? (verb : Verb) (draft : Draft) : List Char → Option Reading
  | [] => some (.done draft)
  | letter :: rest =>
    match verb.short? letter with
    | some (.inl flag) => readShort? verb (draft.addFlag flag) rest
    | some (.inr field) =>
      if rest.isEmpty then some (.awaiting draft field)
      else some (.done (draft.addField field (String.ofList rest)))
    | none => none

/-- Read one argument. -/
def readArgument? (verb : Verb) (draft : Draft) (argument : String) : Option Reading :=
  match argument.toList with
  | '-' :: '-' :: rest => readLong? verb draft ('-' :: '-' :: rest)
  | '-' :: letter :: rest => readShort? verb draft (letter :: rest)
  | _ => some (.done (draft.addScripts [argument]))

/-- Read all arguments. -/
def readAll? (verb : Verb) (draft : Draft) : List String → Option Draft
  | [] => some draft
  | "--" :: rest => some (draft.addScripts rest)
  | argument :: rest =>
    match readArgument? verb draft argument with
    | some (.done draft) => readAll? verb draft rest
    | some (.awaiting draft field) =>
      match rest with
      | value :: rest => readAll? verb (draft.addField field value) rest
      | [] => none
    | none => none

/-- The values of an option, in order. -/
def values (draft : Draft) (field : Field) : List String :=
  (draft.fields.filter fun entry => entry.1 = field).map Prod.snd

end Invocation.Draft

/-! ## Invocations -/

/-- What the program is asked to do, and how. -/
structure Invocation where
  verb : Verb
  script : String
  config : Option String
  presets : List String
  definitions : List String
  verbose : Bool
  dryRun : Bool
  keepGoing : Bool

/-- What the arguments of the command line ask for.  The completion of a shell is left to the reader
of the arguments. -/
inductive Request
  | refusal
  | help
  | completion
  | invocation (invocation : Invocation)

namespace Request

/-- What the arguments of a verb ask for.  Asking for help comes before everything that is wrong
with the values of options or the number of scripts. -/
def ofArguments (verb : Verb) (arguments : List String) : Request :=
  match Invocation.Draft.readAll? verb {} arguments with
  | none => refusal
  | some draft =>
    if draft.flags.contains .help then help
    else
      match draft.scripts with
      | [script] =>
        invocation {
          verb := verb
          script := script
          config := (draft.values .config).getLast?
          presets := draft.values .preset
          definitions := draft.values .definition
          verbose := draft.flags.contains .verbose
          dryRun := draft.flags.contains .dryRun
          keepGoing := draft.flags.contains .keepGoing }
      | _ => refusal

/-- Whether options in front of the verb ask for help, and what follows them; no other option stands
there. -/
def splitHelp? : List String → Option (Bool × List String)
  | [] => some (false, [])
  | argument :: rest =>
    if argument = "--" then some (false, rest)
    else if argument.toList.head? = some '-' ∧ argument ≠ "-" then
      if argument = "--help" then (splitHelp? rest).map fun found => (true, found.2) else none
    else some (false, argument :: rest)

/-- The arguments without the options for the completion of a shell in front of the verb. -/
def withoutCompletion : List String → List String
  | [] => []
  | argument :: rest =>
    if argument = "--install-completion" ∨ argument = "--show-completion" then
      withoutCompletion rest
    else if argument = "--help" then argument :: withoutCompletion rest
    else argument :: rest

/-- What the arguments of the command line ask for.  Of the options in front of the verb the first one
is answered. -/
def read (arguments : List String) : Request :=
  match splitHelp? arguments with
  | none =>
    if (splitHelp? (withoutCompletion arguments)).isNone then refusal
    else if arguments.head? = some "--help" then help
    else completion
  | some (true, _) => help
  | some (false, []) => refusal
  | some (false, name :: rest) =>
    match Verb.ofName? name with
    | some verb => ofArguments verb rest
    | none => if (splitHelp? (name :: rest)).any Prod.fst then help else refusal

end Request

end SetupScript
