import SetupScript.Bindings

/-!
# References

A reference is `$[name]`, the name holding no square bracket.  A text is a sequence of pieces, each
a plain character or a reference; substitution puts the bound value in place of each reference in
one pass, so that inserted values are never looked at again.
-/

namespace SetupScript.Reference

/-! ## Pieces -/

/-- A piece of a text: a character that stands for itself, or a reference. -/
inductive Piece
  | plain (character : Char)
  | reference (name : List Char)
deriving DecidableEq

/-- The characters that a name may hold. -/
def isNameCharacter (character : Char) : Bool :=
  character != '[' && character != ']'

/-- The name and the rest behind a reference's opening `$[`, if it is closed. -/
def readName? (text : List Char) : Option (List Char × List Char) :=
  match text.dropWhile isNameCharacter with
  | ']' :: rest => some (text.takeWhile isNameCharacter, rest)
  | _ => none

/-- What follows a reference is shorter than what follows its opening. -/
theorem length_lt_of_readName? {text name rest : List Char}
    (read : readName? text = some (name, rest)) : rest.length < text.length := by
  unfold readName? at read
  split at read
  · rename_i tail closed
    cases read
    have bound := (List.dropWhile_suffix isNameCharacter (l := text)).length_le
    rw [closed, List.length_cons] at bound
    omega
  · cases read

/-- The pieces of a text. -/
def pieces : List Char → List Piece
  | [] => []
  | '$' :: '[' :: rest =>
    match _ : readName? rest with
    | some (name, rest) => .reference name :: pieces rest
    | none => .plain '$' :: .plain '[' :: pieces rest
  | character :: rest => .plain character :: pieces rest
termination_by text => text.length
decreasing_by
  · have bound := length_lt_of_readName? ‹_›
    simp only [List.length_cons]
    omega
  · simp only [List.length_cons]
    omega
  · simp only [List.length_cons]
    omega

/-! ## Substitution -/

/-- The text of a piece when it is not replaced. -/
def Piece.source : Piece → List Char
  | plain character => [character]
  | reference name => '$' :: '[' :: name ++ [']']

/-- The text that takes the place of a piece: a bound reference gives its value, all else stays. -/
def Piece.value (bindings : Bindings) : Piece → List Char
  | plain character => [character]
  | reference name =>
    match bindings.get? (String.ofList name) with
    | some value => value.toList
    | none => (reference name).source

/-- The text with every bound reference replaced. -/
def substitute (bindings : Bindings) (text : List Char) : List Char :=
  (pieces text).flatMap (Piece.value bindings)

/-- The names of a text's references that are not bound, in order. -/
def unbound (bindings : Bindings) (text : List Char) : List String :=
  (pieces text).filterMap fun
    | .plain _ => none
    | .reference name =>
      if (bindings.get? (String.ofList name)).isNone then some (String.ofList name) else none

/-- Whether the opening of a reference occurs in a text. -/
def hasOpening : List Char → Bool
  | [] => false
  | '$' :: '[' :: _ => true
  | _ :: rest => hasOpening rest

/-- The string with every bound reference replaced.  A string without the opening of a reference is
answered at once. -/
def resolve (bindings : Bindings) (text : String) : String :=
  if hasOpening text.toList then String.ofList (substitute bindings text.toList) else text

/-- The pieces of a text put together again are the text. -/
theorem flatMap_source_pieces (text : List Char) : (pieces text).flatMap Piece.source = text := by
  fun_induction pieces text with
  | case1 => rfl
  | case2 rest name tail read ih =>
    rw [List.flatMap_cons, ih]
    unfold readName? at read
    split at read
    · rename_i after closed
      cases read
      have whole := List.takeWhile_append_dropWhile (p := isNameCharacter) (l := rest)
      rw [closed] at whole
      simp only [Piece.source, List.cons_append, List.append_assoc, List.nil_append, whole]
    · cases read
  | case3 rest _ ih => simp only [List.flatMap_cons, Piece.source, ih, List.singleton_append]
  | case4 character rest _ ih => simp only [List.flatMap_cons, Piece.source, ih,
      List.singleton_append]

end SetupScript.Reference
