import SetupScript.Path
import SetupScript.Text.Encoding
import SetupScript.Text.LineEnding

/-!
# Directories

A directory tree with the contents of its files, and what a path leads to in it.  Two dots lead one
directory up; above the tree there are directories in which nothing is found.
-/

namespace SetupScript

/-! ## Entries -/

/-- What a path leads to. -/
inductive Entry
  | file (content : List UInt8)
  | directory
  | missing
  | notDirectory
  | malformedPath
deriving DecidableEq

/-- A directory tree: its files and directories, each under the parts of its path. -/
structure Directory where
  files : List (List String × List UInt8) := []
  directories : List (List String) := []

namespace Directory

/-- Add a file. -/
def addFile (directory : Directory) (path : String) (content : List UInt8) : Directory :=
  { directory with files := (Path.parts path, content) :: directory.files }

/-- Add a directory. -/
def addDirectory (directory : Directory) (path : String) : Directory :=
  { directory with directories := Path.parts path :: directory.directories }

/-- Whether there is a directory under the parts of a path: it was added, or something stands in
it. -/
def hasDirectory (directory : Directory) (parts : List String) : Bool :=
  parts.isEmpty || directory.directories.any parts.isPrefixOf ||
    directory.files.any fun file => parts.isPrefixOf file.1 && parts != file.1

/-! ## Looking up -/

/-- Where a walk along a path has come: above the tree, or under the parts of a path in it. -/
inductive Place
  | above
  | inside (parts : List String)

/-- What stands at a place. -/
def entryAt (directory : Directory) (place : Place) : Entry :=
  match place with
  | .above => .directory
  | .inside parts =>
    match directory.files.lookup parts with
    | some content => .file content
    | none => if directory.hasDirectory parts then .directory else .missing

/-- The place one step further, in a directory. -/
def step? (place : Place) (part : String) : Option Place :=
  if part = "" ∨ part = "." then some place
  else
    match place with
    | .above => if part = ".." then some .above else none
    | .inside parts =>
      if part = ".." then
        some (if parts.isEmpty then .above else .inside parts.dropLast)
      else some (.inside (parts ++ [part]))

/-- What the parts of a path lead to from a place.  One can only go on from a directory. -/
def walk (directory : Directory) (place : Place) : List String → Entry
  | [] => directory.entryAt place
  | part :: rest =>
    match directory.entryAt place with
    | .directory =>
      match step? place part with
      | some place => walk directory place rest
      | none => .missing
    | .missing => .missing
    | _ => .notDirectory

/-- What a path leads to; an absolute one starts above the tree.  No path holds a null character. -/
def look (directory : Directory) (path : String) : Entry :=
  if path = "" then .missing
  else if path.toList.contains '\x00' then .malformedPath
  else
    let start := if path.toList.head? = some '/' then Place.above else .inside []
    directory.walk start (Text.stringFields '/' path)

end Directory

/-! ## Reading texts -/

/-- Why a path gives no text. -/
inductive Unreadable
  | missing
  | directory
  | notDirectory
  | malformedPath
  | undecodable (content : List UInt8)
deriving DecidableEq

namespace Entry

/-- The text of a file, with line ends made line feeds. -/
def text : Entry → Except Unreadable String
  | file content =>
    match String.fromUTF8? ⟨content.toArray⟩ with
    | some text => .ok (String.ofList (Text.normalizeLineEnds text.toList))
    | none => .error (.undecodable content)
  | directory => .error .directory
  | missing => .error .missing
  | notDirectory => .error .notDirectory
  | malformedPath => .error .malformedPath

/-- Whether there is something that may be a file. -/
def isFile : Entry → Bool
  | file _ => true
  | _ => false

end Entry

namespace Unreadable

/-! ## Wordings -/

/-- The first byte that no character goes on with, at its position and with those behind it.  Some
bytes at the front may belong to a character that has been passed. -/
def foreignByte? (position passed : Nat) : List UInt8 → Option (Nat × UInt8 × List UInt8)
  | [] => none
  | byte :: rest =>
    if 0 < passed then foreignByte? (position + 1) (passed - 1) rest
    else
      match Text.Encoding.frontOfBytes byte rest with
      | ⟨some _, size⟩ => foreignByte? (position + 1) (size - 1) rest
      | ⟨none, _⟩ => some (position, byte, rest)

/-- How many bytes from a byte on are no character together, and why. -/
def foreignSpan (byte : UInt8) (rest : List UInt8) : Nat × String :=
  match Text.Encoding.leadOf? byte.toNat with
  | none => (1, "invalid start byte")
  | some (count, least, greatest) =>
    let found := Text.Encoding.continuation least greatest count rest
    (found + 1,
      if found < rest.length then "invalid continuation byte" else "unexpected end of data")

/-- The wording for bytes that encode no text. -/
def undecodableMessage (content : List UInt8) : String :=
  match foreignByte? 0 0 content with
  | none => ""
  | some (position, byte, rest) =>
    let (size, reason) := foreignSpan byte rest
    let place :=
      if size = 1 then
        s!"byte 0x{String.ofList (Text.hexadecimal 2 byte.toNat)} in position {position}"
      else s!"bytes in position {position}-{position + size - 1}"
    s!"'utf-8' codec can't decode {place}: {reason}"

/-- The wording of a reason why the path of a source gives no text. -/
def message (source : String) : Unreadable → String
  | missing => "[Errno 2] No such file or directory: " ++ Text.quotedString source
  | directory => "[Errno 21] Is a directory: " ++ Text.quotedString source
  | notDirectory => "[Errno 20] Not a directory: " ++ Text.quotedString source
  | malformedPath => "embedded null byte"
  | undecodable content => undecodableMessage content

end Unreadable

end SetupScript
