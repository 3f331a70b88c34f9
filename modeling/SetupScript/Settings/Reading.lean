import SetupScript.Libraries

/-!
# Reading settings

Settings are read from a mapping of field names to data.  Each field is checked on its own, and all
problems are reported together.  The variables may be one mapping or a list of blocks, of which the
later ones override the earlier.
-/

namespace SetupScript.Settings

/-- Why data are not settings: their fields have problems, or the variables are blocks that hold
something else than pairs of names and values, so that checking breaks off. -/
inductive Rejection
  | problems (fields : List (String × Problem))
  | notBlocks
deriving DecidableEq

/-! ## Texts and numbers -/

/-- A text is what the reader takes for one. -/
def readText (reader : Reader) (datum : Datum) : Except Problem String :=
  (reader.text datum).mapError .unsuitable

/-- A clone depth is a positive integer. -/
def readDepth (reader : Reader) (datum : Datum) : Except Problem { depth : Nat // 0 < depth } := do
  let depth ← (reader.integer datum).mapError .unsuitable
  if positive : 0 < depth.toNat then return ⟨depth.toNat, positive⟩
  else throw .tooSmall

/-! ## Blocks of variables -/

/-- What may be wrong with a block of variables. -/
inductive BlockFault
  | notPairs
  | notBlock

/-- The key and the value of an item of a block: the two members of a list, the two characters of a
text or the two keys of a mapping. -/
def pairOfItem : Datum → Except BlockFault (Datum.Key × Datum)
  | .list [key, value] =>
    match key.key? with
    | some key => .ok (key, value)
    | none => .error .notBlock
  | .list _ => .error .notPairs
  | .text text =>
    match text.toList with
    | [key, value] => .ok (.text key.toString, .text value.toString)
    | _ => .error .notPairs
  | .mapping [(key, _), (value, _)] => .ok (key, value.datum)
  | .mapping _ => .error .notPairs
  | _ => .error .notBlock

/-- The keys and values of a block. -/
def pairsOfBlock : Datum → Except BlockFault (List (Datum.Key × Datum))
  | .mapping entries => .ok entries
  | .list items => items.mapM pairOfItem
  | .text text => if text = "" then .ok [] else .error .notPairs
  | _ => .error .notBlock

/-- The pairs of all blocks, the later ones overriding the earlier. -/
def mergeBlocks (blocks : List Datum) : Except BlockFault (List (Datum.Key × Datum)) := do
  let pairs ← blocks.mapM pairsOfBlock
  return pairs.flatten.foldl Datum.putEntry []

/-- The table of keys and values in their plain forms. -/
def bindingsOf (pairs : List (Datum.Key × Datum)) : Bindings :=
  .ofList (pairs.map fun pair => (pair.1.display, pair.2.display))

/-- Why variables cannot be read. -/
inductive VariablesFault
  | problem (problem : Problem)
  | notBlocks

/-- Variables are a mapping, or a list of blocks. -/
def readVariables : Datum → Except VariablesFault Bindings
  | .mapping entries => .ok (bindingsOf entries)
  | .list blocks =>
    match mergeBlocks blocks with
    | .ok pairs => .ok (bindingsOf pairs)
    | .error .notPairs => .error (.problem .notPairs)
    | .error .notBlock => .error .notBlocks
  | _ => .error (.problem .notMapping)

/-! ## All fields -/

/-- The names of the fields. -/
def fieldNames : List String :=
  ["staging_root", "staging_prefix", "clone_depth", "shell", "variables"]

/-- The problem of a field, or its value; the default stands for a field that is missing. -/
def readField {Value : Type} (entries : List (String × Datum)) (name : String)
    (read : Datum → Except Problem Value) (default : Value) : Except (String × Problem) Value :=
  match entries.lookup name with
  | some datum => (read datum).mapError fun problem => (name, problem)
  | none => .ok default

/-- The problem in a result, if it is one. -/
def problem? {Value : Type} : Except (String × Problem) Value → List (String × Problem)
  | .ok _ => []
  | .error problem => [problem]

/-- The variables among the fields. -/
def readVariablesField (entries : List (String × Datum)) :
    Except Rejection (Except (String × Problem) Bindings) :=
  match entries.lookup "variables" with
  | none => .ok (.ok .empty)
  | some datum =>
    match readVariables datum with
    | .ok bindings => .ok (.ok bindings)
    | .error (.problem problem) => .ok (.error ("variables", problem))
    | .error .notBlocks => .error .notBlocks

/-- What is wrong with an entry that has no place in settings: its key is no name, or no field has
that name. -/
def unknownField? (key : Datum.Key) : Option (String × Problem) :=
  match key with
  | .text name => if fieldNames.contains name then none else some (name, .unknownField)
  | key => some (key.display, .notName)

/-- The entries that have no place in settings. -/
def unknownFields (entries : List (Datum.Key × Datum)) : List (String × Problem) :=
  entries.filterMap fun entry => unknownField? entry.1

/-- Read settings from the entries of a mapping.  The problems are those of the fields, in their
order, and then those of the entries that are no fields. -/
def ofEntries (reader : Reader) (entries : List (Datum.Key × Datum)) :
    Except Rejection Settings := do
  let fields := Datum.fields entries
  let bindings ← readVariablesField fields
  let root := readField fields "staging_root" (readText reader) reader.temporaryDirectory
  let stem := readField fields "staging_prefix" (readText reader) "depscript-"
  let depth := readField fields "clone_depth" (readDepth reader) ⟨1, Nat.zero_lt_one⟩
  let shell := readField fields "shell" (readText reader) "/bin/sh"
  match root, stem, depth, shell, bindings, unknownFields entries with
  | .ok root, .ok stem, .ok depth, .ok shell, .ok bindings, [] =>
    return {
      stagingRoot := root
      stagingStem := stem
      cloneDepth := depth.val
      cloneDepth_pos := depth.property
      shell := shell
      bindings := bindings }
  | root, stem, depth, shell, bindings, unknown =>
    throw (.problems (problem? root ++ problem? stem ++ problem? depth ++ problem? shell ++
      problem? bindings ++ unknown))

/-- Read settings from a value, which must be a mapping. -/
def ofDatum (reader : Reader) : Datum → Except Rejection Settings
  | .mapping entries => ofEntries reader entries
  | _ => .error (.problems [("", .notFields)])

end SetupScript.Settings
