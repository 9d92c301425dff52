import ScriptLint.Command.Run

/-!
# What a program call looks at

A program call needs to know only a part of the files there are: what its paths lead to, and the
places in which settings may lie.
-/

namespace ScriptLint
namespace Command

/-- The character has a meaning of its own in a pattern. -/
def isWildcard (c : Char) : Bool := c == '*' || c == '?' || c == '['

/-- The part of a path in front of the first piece with a wildcard. -/
def fixedPart (path : String) : String :=
  let pieces := Path.pieces path
  let fixed := pieces.takeWhile fun piece => !piece.toList.any isWildcard
  if fixed.length = pieces.length then path
  else if fixed = [""] then "/"
  else if fixed.isEmpty then "."
  else "/".intercalate fixed

/-- The paths at which settings may lie next to a path. -/
def settingsBeside (path : String) : List String :=
  let directories := [path, (Path.parent? path).getD ".", "."]
  directories.flatMap fun directory => Settings.projectNames.map (Path.join directory)

/-- The paths that a program call may look at, with all that is below them. -/
def footprint (environment : Environment) (invocation : Invocation) : List String :=
  match invocation.task with
  | .check paths .. =>
      let user := environment.userDirectory?.map fun directory =>
        Path.join directory Settings.userName
      invocation.settingsPath.toList ++ user.toList ++ paths.flatMap settingsBeside ++
        paths.map fixedPart
  | .listRules => []
  | .init _ => [Settings.fileName]

end Command
end ScriptLint
