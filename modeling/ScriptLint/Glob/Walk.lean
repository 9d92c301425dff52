import ScriptLint.Glob.Pattern
import ScriptLint.Workspace

/-!
# Walking a workspace by a pattern

A pattern for paths is cut at its slashes, and its components are followed one by one from the
working directory or the root.  A component without wildcards is looked up, `**` leads to everything
below, and any other component to the entries whose names it matches.  Paths are spelled by joining
the components.
-/

namespace ScriptLint
namespace Glob

/-- A node together with the spelling of the path that led to it. -/
structure Place where
  /-- The path as it is spelled. -/
  path : String
  /-- What is there. -/
  node : Node

namespace Place

/-- The spelling of an entry of the place at a path; a path `.` disappears in front of it. -/
def spell (path entry : String) : String :=
  if Path.components path = [.current] then entry else Path.join path entry

/-- The place that an entry leads to from a path. -/
def find? (workspace : Workspace) (path entry : String) : Option Place :=
  match workspace.find (spell path entry) with
  | .ok node => some ⟨spell path entry, node⟩
  | .error _ => none

mutual

/-- What is below a node at a path: each entry, followed by what is below it. -/
def below (path : String) : Node → List (String × Place)
  | .file _ => []
  | .directory entries => belowEntries path entries

/-- What is below the entries of a directory. -/
def belowEntries (path : String) : List (String × Node) → List (String × Place)
  | [] => []
  | (name, node) :: rest =>
      (name, ⟨spell path name, node⟩) :: (below (spell path name) node ++ belowEntries path rest)

end

/-- The entries of a place. -/
def children (place : Place) : List (String × Place) :=
  place.node.entries.map fun (name, node) => (name, ⟨spell place.path name, node⟩)

end Place

/-- The name is text and matched by the pattern. -/
def matchesName (pattern : Pattern) (name : String) : Bool :=
  Path.isText name && pattern.isMatch name

/-- The places that components lead to from a place. -/
def walk (workspace : Workspace) : List Pattern → Place → List Place
  | [], place => [place]
  | pattern :: rest, place =>
      match pattern.literal? with
      | some entry => (Place.find? workspace place.path entry).toList.flatMap (walk workspace rest)
      | none =>
          if pattern.isRecursive then
            let found := Place.below place.path place.node
            match rest with
            | [] => (found.map Prod.snd).filter fun place => place.node.isDirectory
            | next :: rest =>
                (found.filter fun entry => matchesName next entry.1).flatMap fun entry =>
                  walk workspace rest entry.2
          else
            let dots :=
              if pattern.startsWithDot && place.node.isDirectory then
                (["..", "."].filter pattern.isMatch).filterMap fun entry =>
                  (workspace.find (Path.join place.path entry)).toOption.map fun node =>
                    (⟨Path.join place.path entry, node⟩ : Place)
              else
                []
            let named := place.children.filter fun entry => matchesName pattern entry.1
            (dots ++ named.map Prod.snd).flatMap (walk workspace rest)

/-- Leave out every component for directories that follows another one. -/
def mergeRecursive : List Pattern → List Pattern
  | first :: second :: rest =>
      if first.isRecursive && second.isRecursive then mergeRecursive (second :: rest)
      else first :: mergeRecursive (second :: rest)
  | patterns => patterns

/-- All places of a workspace that a pattern leads to.  The pattern has to be right as a whole and
in each of its components. -/
def search (workspace : Workspace) (pattern : String) : Except Fault (List Place) := do
  let _ ← Pattern.parse pattern
  let pieces := Path.pieces pattern
  let components ← (if Path.isAbsolute pattern then pieces.tail else pieces).mapM Pattern.parse
  let path := if Path.isAbsolute pattern then "/" else "."
  match workspace.find path with
  | .error _ => .ok []
  | .ok node => .ok (walk workspace (mergeRecursive components) ⟨path, node⟩)

end Glob
end ScriptLint
