import ScriptLint.Path

/-!
# Documents

A document is a script with the path it came from, its file name and the script name that its header
has to declare.  It is read through two views of its lines: the physical lines and the normalized
ones.
-/

namespace ScriptLint

/-- A script under lint. -/
structure Document where
  /-- Path of the script. -/
  path : String
  /-- Last name in the path. -/
  fileName : String
  /-- Name that the header has to declare. -/
  scriptName : String
  /-- Text of the script. -/
  content : String
deriving DecidableEq

namespace Document

/-- The document of a path and its content; both names come from the path and are empty where the
path names no entry. -/
def ofPath (path content : String) : Document :=
  let name := (Path.fileName? path).getD ""
  { path, fileName := name, scriptName := Path.stem name, content }

/-- The physical lines. -/
def rawLines (doc : Document) : List (List Char) := Text.lines doc.content.toList

/-- The trimmed lines that carry code. -/
def normalizedLines (doc : Document) : List (List Char) := Text.normalize doc.content.toList

/-- Number of bytes of the content. -/
def byteLength (doc : Document) : Nat := Text.byteLength doc.content.toList

end Document
end ScriptLint
