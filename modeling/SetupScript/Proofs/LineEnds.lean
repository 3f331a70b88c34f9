import SetupScript.Proofs.Loading

/-!
# Line ends

A text whose lines end in one way or another.  However they end in a file, what is read from it
ends them with line feeds; so a script that is no template compiles from a file to the plan, or fails
with the diagnostic, that its text has (`Script.load_endLines`).
-/

namespace SetupScript

namespace Text

/-! ## Ending lines -/

/-- How lines end. -/
inductive LineEnd
  | lineFeed
  | both
  | carriageReturn
deriving DecidableEq

/-- The characters at the end of a line. -/
def LineEnd.characters : LineEnd → List Char
  | lineFeed => ['\n']
  | both => ['\r', '\n']
  | carriageReturn => ['\r']

/-- The text with its lines ended in this way instead of with line feeds. -/
def endLines (lineEnd : LineEnd) (text : List Char) : List Char :=
  text.flatMap fun character =>
    if character = '\n' then lineEnd.characters else [character]

@[simp]
theorem endLines_nil (lineEnd : LineEnd) : endLines lineEnd [] = [] := rfl

@[simp]
theorem endLines_lineFeed_cons (lineEnd : LineEnd) (rest : List Char) :
    endLines lineEnd ('\n' :: rest) = lineEnd.characters ++ endLines lineEnd rest := rfl

theorem endLines_cons_of_ne {character : Char} (inside : character ≠ '\n') (lineEnd : LineEnd)
    (rest : List Char) :
    endLines lineEnd (character :: rest) = character :: endLines lineEnd rest := by
  rw [endLines, List.flatMap_cons, if_neg inside]
  rfl

@[simp]
theorem endLines_append (lineEnd : LineEnd) (front behind : List Char) :
    endLines lineEnd (front ++ behind) = endLines lineEnd front ++ endLines lineEnd behind :=
  List.flatMap_append

/-- Without line feeds there is nothing to end. -/
theorem endLines_eq_self {text : List Char} (single : '\n' ∉ text) (lineEnd : LineEnd) :
    endLines lineEnd text = text := by
  induction text with
  | nil => rfl
  | cons character rest ih =>
    rw [List.mem_cons, not_or] at single
    rw [endLines_cons_of_ne (Ne.symm single.1), ih single.2]

/-- Lines that end with carriage returns hold no line feeds. -/
theorem lineFeed_notMem_endLines (text : List Char) : '\n' ∉ endLines .carriageReturn text := by
  rw [endLines, List.mem_flatMap]
  rintro ⟨character, _, found⟩
  split at found
  · exact absurd found (by decide)
  · rename_i inside
    exact inside (List.mem_singleton.1 found).symm

/-! ## Reading them back -/

theorem normalizeLineEnds_cons_of_ne {character : Char} (other : character ≠ '\r')
    (rest : List Char) :
    normalizeLineEnds (character :: rest) = character :: normalizeLineEnds rest := by
  rw [normalizeLineEnds]
  · exact fun _ same => absurd same other
  · exact fun same => absurd same other

/-- A carriage return is a line end of its own unless a line feed is next. -/
theorem normalizeLineEnds_carriageReturn {rest : List Char} (alone : rest.head? ≠ some '\n') :
    normalizeLineEnds ('\r' :: rest) = '\n' :: normalizeLineEnds rest := by
  rw [normalizeLineEnds]
  rintro behind rfl
  exact alone rfl

theorem normalizeLineEnds_characters (lineEnd : LineEnd) (text : List Char) :
    normalizeLineEnds (lineEnd.characters ++ endLines lineEnd text) =
      '\n' :: normalizeLineEnds (endLines lineEnd text) := by
  cases lineEnd with
  | lineFeed => exact normalizeLineEnds_cons_of_ne (by decide) _
  | both => rfl
  | carriageReturn =>
    exact normalizeLineEnds_carriageReturn fun next =>
      lineFeed_notMem_endLines text (List.mem_of_head? next)

/-- However its lines end, a text is read back. -/
theorem normalizeLineEnds_endLines {text : List Char} (plain : '\r' ∉ text) (lineEnd : LineEnd) :
    normalizeLineEnds (endLines lineEnd text) = text := by
  induction text with
  | nil => rfl
  | cons character rest ih =>
    rw [List.mem_cons, not_or] at plain
    by_cases ends : character = '\n'
    · rw [ends, endLines_lineFeed_cons, normalizeLineEnds_characters, ih plain.2]
    · rw [endLines_cons_of_ne ends, normalizeLineEnds_cons_of_ne (Ne.symm plain.1), ih plain.2]

end Text

/-! ## Files -/

/-- A file of encoded lines gives the text, however they end. -/
theorem Entry.holds_endLines {text : String} (plain : '\r' ∉ text.toList)
    (lineEnd : Text.LineEnd) :
    (Entry.file (encoded (Text.endLines lineEnd text.toList))).Holds text := by
  have holds := Holds.file (Text.endLines lineEnd text.toList)
  rwa [Text.normalizeLineEnds_endLines plain, String.ofList_toList] at holds

namespace Script

variable {renderer : Renderer} {look : String → Entry} {file text : String}

/-- Without data for a template, loading a script is to compile the text of its file. -/
theorem load_none (holds : (look (Path.tidy file)).Holds text) (around : Surroundings) :
    load renderer look file none around =
      ((compile text (Path.tidy file) around).1.mapError .diagnostic,
        .loading (Path.tidy file) :: (compile text (Path.tidy file) around).2) := by
  simp only [load, Entry.text_eq_ok_iff.2 holds, textOf_none]

/-- Without data for a template, a script reaches the compiler as it is, whatever it holds: from a
file that encodes its lines, however they end, it has the plan or the diagnostic of its text. -/
theorem load_endLines (plain : '\r' ∉ text.toList) (lineEnd : Text.LineEnd)
    (found : look (Path.tidy file) = .file (encoded (Text.endLines lineEnd text.toList)))
    (around : Surroundings) :
    load renderer look file none around =
      ((compile text (Path.tidy file) around).1.mapError .diagnostic,
        .loading (Path.tidy file) :: (compile text (Path.tidy file) around).2) := by
  refine load_none ?_ around
  rw [found]
  exact Entry.holds_endLines plain lineEnd

/-- A script in a directory, with both characters at the ends of its lines and with braces. -/
theorem load_endLines_both :
    '\r' ∉ "// c\nrun \"\x7b\x7b x \x7d\x7d\"\n".toList ∧
    (Directory.addFile {} "s.ds" (encoded (Text.endLines .both
        "// c\nrun \"\x7b\x7b x \x7d\x7d\"\n".toList))).look (Path.tidy "./s.ds") =
      .file (encoded "// c\r\nrun \"\x7b\x7b x \x7d\x7d\"\r\n".toList) ∧
    (load .standard (Directory.addFile {} "s.ds" (encoded (Text.endLines .both
        "// c\nrun \"\x7b\x7b x \x7d\x7d\"\n".toList))).look "./s.ds" none
        ⟨.standard "/tmp", .empty, "/w", id⟩).1 =
      .ok ⟨"s.ds", ["\x7b\x7b x \x7d\x7d"], .empty⟩ := by
  have plain : '\r' ∉ "// c\nrun \"\x7b\x7b x \x7d\x7d\"\n".toList := by decide +kernel
  have found : (Directory.addFile {} "s.ds" (encoded (Text.endLines .both
        "// c\nrun \"\x7b\x7b x \x7d\x7d\"\n".toList))).look (Path.tidy "./s.ds") =
      .file (encoded "// c\r\nrun \"\x7b\x7b x \x7d\x7d\"\r\n".toList) := by
    decide +kernel
  refine ⟨plain, found, ?_⟩
  rw [load_endLines plain .both found]
  with_unfolding_all rfl

end Script

end SetupScript
