import ScriptLint.Event
import ScriptLint.Settings.Reading
import ScriptLint.Workspace

/-!
# Settings files

Settings are looked for in three places: at a path that is given, next to the scripts, and in the
user's directory.  The first place that has them counts; if none has, the settings are empty.
-/

namespace ScriptLint
namespace Settings

/-- Why settings cannot be loaded. -/
inductive LoadError where
  /-- The file cannot be read. -/
  | unreadable (path : String) (failure : Failure)
  /-- The file does not hold settings. -/
  | malformed
deriving DecidableEq

namespace LoadError

/-- The words for an error. -/
def message : LoadError → String
  | .unreadable path failure => s!"Failed to read config file {path}: {failure.message}"
  | .malformed => "Failed to parse config:"

/-- The words for what is behind an error. -/
def cause? : LoadError → Option String
  | .unreadable _ failure => some failure.message
  | .malformed => none

end LoadError

/-- Load the settings at a path. -/
def load (workspace : Workspace) (path : String) : Except LoadError Settings :=
  match workspace.read path with
  | .error failure => .error (.unreadable path failure)
  | .ok text =>
      match parse? text with
      | none => .error .malformed
      | some settings => .ok settings

/-! ## Where settings are -/

/-- A place that has settings. -/
inductive Source where
  /-- The path was given. -/
  | given (path : String)
  /-- Next to the scripts. -/
  | project (path : String)
  /-- In the user's directory. -/
  | user (path : String)
  /-- Nowhere. -/
  | nowhere
deriving DecidableEq

/-- Path of the settings. -/
def Source.path? : Source → Option String
  | .given path | .project path | .user path => some path
  | .nowhere => none

/-- What is to be told when settings are found. -/
def Source.foundEvents : Source → List Event
  | .project path => [.foundProjectSettings path]
  | .user path => [.foundGlobalSettings path]
  | .given _ | .nowhere => []

/-- What is to be told when settings are used. -/
def Source.useEvents : Source → List Event
  | .user path => [.usingGlobalSettings path]
  | .given _ | .project _ | .nowhere => []

/-- Name of the settings file next to scripts. -/
def fileName : String := "papyrus-lint.toml"

/-- Names under which settings may lie next to scripts, the first one first. -/
def projectNames : List String := [fileName, "." ++ fileName]

/-- Name of the settings file in the user's directory. -/
def userName : String := "config.toml"

/-- The directory next to whose scripts settings are looked for: the first path if it is a
directory, or the directory of the first path. -/
def projectDirectory (workspace : Workspace) (paths : List String) : String :=
  match paths with
  | [] => "."
  | first :: _ =>
      if workspace.isDirectory first then first
      else
        match Path.parent? first with
        | none | some "" => "."
        | some parent => parent

/-- Look for settings. -/
def locate (workspace : Workspace) (given userDirectory : Option String) (paths : List String) :
    Source :=
  match given with
  | some path => .given path
  | none =>
      let directory := projectDirectory workspace paths
      match (projectNames.map (Path.join directory)).find? workspace.contains with
      | some path => .project path
      | none =>
          match userDirectory.map fun directory => Path.join directory userName with
          | none => .nowhere
          | some path => if workspace.contains path then .user path else .nowhere

end Settings
end ScriptLint
