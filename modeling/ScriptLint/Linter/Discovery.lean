import ScriptLint.Glob.Walk
import ScriptLint.Linter

/-!
# Finding scripts

A directory is searched for scripts by a pattern that starts with its path.  What the linter
excludes is left out, and the scripts are listed in the order of their paths.
-/

namespace ScriptLint

namespace Text

/-- The first text occurs in the second. -/
def occursIn (part : List Char) : List Char → Bool
  | [] => part.isEmpty
  | c :: rest => part.isPrefixOf (c :: rest) || occursIn part rest

/-- The text without every pair of stars. -/
def dropDoubleStars : List Char → List Char
  | '*' :: '*' :: rest => dropDoubleStars rest
  | c :: rest => c :: dropDoubleStars rest
  | [] => []

end Text

/-- The pattern leaves out the path: it matches the path as a whole, or the path contains what is
left of it without double stars. -/
def excludes (pattern path : String) : Bool :=
  let isMatch :=
    match Glob.Pattern.parse pattern with
    | .ok pattern => pattern.isMatch path
    | .error _ => false
  let plain := Text.dropDoubleStars pattern.toList
  isMatch || (!plain.isEmpty && plain != ['/'] && Text.occursIn plain path.toList)

/-- What a search comes to. -/
structure Discovery where
  /-- The scripts in the order of their paths. -/
  scripts : List String
  /-- What was excluded, in the order of the search. -/
  excluded : List String
deriving DecidableEq

namespace Linter

/-- The linter leaves out the path, which is looked at as it is shown. -/
def isExcluded (linter : Linter) (path : String) : Bool :=
  linter.excludes.any fun pattern => ScriptLint.excludes pattern (Path.display path)

/-- The pattern of the scripts under a directory, which is taken as it is shown. -/
def searchPattern (root : String) : String := Path.display root ++ "/**/*.psc"

/-- Search a directory for scripts. -/
def discover (linter : Linter) (workspace : Workspace) (root : String) :
    Except Glob.Fault Discovery :=
  (Glob.search workspace (searchPattern root)).map fun places =>
    let (excluded, kept) := places.partition fun place => linter.isExcluded place.path
    { scripts :=
        ((kept.filter fun place => place.node.isFile).map Glob.Place.path).mergeSort Path.le
      excluded := excluded.map Glob.Place.path }

/-- The scripts that paths stand for: those under a directory, and any other path itself. -/
def collect (linter : Linter) (workspace : Workspace) :
    List String → Logged (Except Glob.Fault (List String))
  | [] => { value := .ok [] }
  | path :: rest =>
      if workspace.isDirectory path then
        match linter.discover workspace path with
        | .error fault => { value := .error fault }
        | .ok found =>
            let later := linter.collect workspace rest
            { value := later.value.map (found.scripts ++ ·)
              events := found.excluded.map .excluding ++ later.events }
      else
        let later := linter.collect workspace rest
        { later with value := later.value.map (path :: ·) }

end Linter
end ScriptLint
