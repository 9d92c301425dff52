import ScriptLint.Document
import ScriptLint.Workspace

/-!
# Loading scripts

A script is loaded from a file whose extension is `psc`.  The document carries the absolute path.
-/

namespace ScriptLint
namespace Document

/-- Extension of a script. -/
def scriptExtension : String := "psc"

/-- Why a script cannot be loaded. -/
inductive LoadError where
  /-- Nothing is at the path. -/
  | notFound (path : String)
  /-- A directory is at the path. -/
  | isDirectory (path : String)
  /-- The file is no script by its name. -/
  | wrongExtension (fileName : String)
  /-- The name of the file is no UTF-8. -/
  | badFileName (path : String)
  /-- The file cannot be read. -/
  | unreadable (path : String) (failure : Failure)
deriving DecidableEq

namespace LoadError

/-- The words for an error. -/
def message : LoadError → String
  | .notFound path =>
      s!"cannot create parser: cannot read file {Path.display path}, no such file or directory"
  | .isDirectory path =>
      s!"cannot create parser: cannot use {Path.display path}, path is directory"
  | .wrongExtension fileName =>
      s!"cannot create parser: cannot use file {fileName}, file does not have .psc extension"
  | .badFileName path =>
      s!"cannot create parser: file name of {Path.display path} is not valid UTF-8"
  | .unreadable path failure =>
      s!"cannot create parser: cannot read file {Path.display path}: {failure.message}"

/-- The words for what is behind an error. -/
def cause? : LoadError → Option String
  | .unreadable _ failure => some failure.message
  | _ => none

end LoadError

/-- Load the script at a path. -/
def load (workspace : Workspace) (path : String) : Except LoadError Document :=
  let path := workspace.absolute path
  match workspace.find path with
  | .error _ => .error (.notFound path)
  | .ok (.directory _) => .error (.isDirectory path)
  | .ok (.file text) =>
      match Path.fileName? path with
      | none => .error (.badFileName path)
      | some fileName =>
          if !Path.isText fileName then .error (.badFileName path)
          else if Path.extension? fileName ≠ some scriptExtension then
            .error (.wrongExtension fileName)
          else
            match text with
            | none => .error (.unreadable path .notText)
            | some content =>
                .ok { path, fileName, scriptName := Path.stem fileName, content }

end Document
end ScriptLint
