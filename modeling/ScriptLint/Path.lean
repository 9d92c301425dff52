import ScriptLint.Path.Name

/-!
# Paths

A path is a text whose pieces between slashes name its components.  Empty pieces and `.` pieces name
none, except a `.` that starts a relative path.  Names, parents and the order of paths are read off
the components; joining and parents keep the spelling of the rest.
-/

namespace ScriptLint
namespace Path

/-- One step of a path. -/
inductive Component where
  /-- The slash that starts an absolute path. -/
  | root
  /-- The `.` that starts a relative path. -/
  | current
  /-- A `..`. -/
  | parent
  /-- The name of an entry of a directory. -/
  | name (text : String)
deriving DecidableEq

/-- The path starts at the root directory. -/
def isAbsolute (path : String) : Bool := path.toList.head? == some '/'

/-- The pieces of the path between its slashes. -/
def pieces (path : String) : List String := (Text.split '/' path.toList).map String.ofList

/-- The component that a piece names behind the start of a path. -/
def ofPiece? (piece : String) : Option Component :=
  if piece = "" ∨ piece = "." then none
  else if piece = ".." then some .parent
  else some (.name piece)

/-- The components of the path in order. -/
def components (path : String) : List Component :=
  let start : List Component :=
    if isAbsolute path then [.root]
    else if (pieces path).head? = some "." then [.current]
    else []
  start ++ (pieces path).filterMap ofPiece?

/-- The name that the path ends in; none for a path that ends in `..` or names no entry. -/
def fileName? (path : String) : Option String :=
  match (components path).getLast? with
  | some (.name text) => some text
  | _ => none

/-- A file name cut at its last dot: the stem, and the extension unless there is no dot or only one
that starts the name. -/
def cutExtension (name : String) : String × Option String :=
  let reversed := name.toList.reverse
  match reversed.dropWhile (· != '.') with
  | _ :: c :: before =>
      (String.ofList (c :: before).reverse,
        some (String.ofList (reversed.takeWhile (· != '.')).reverse))
  | _ => (name, none)

/-- The file name without its extension. -/
def stem (name : String) : String := (cutExtension name).1

/-- The text behind the last dot of the file name. -/
def extension? (name : String) : Option String := (cutExtension name).2

/-- The path of an entry reached from a base path; an absolute entry replaces the base. -/
def join (base entry : String) : String :=
  if isAbsolute entry then entry
  else if base = "" ∨ base.toList.getLast? = some '/' then base ++ entry
  else base ++ "/" ++ entry

/-- The names that lead from the root to what an absolute path means, with every `..` taken out
together with the name in front of it. -/
def resolve (path : String) : List String :=
  (components path).foldl
    (fun names component =>
      match component with
      | .name text => names ++ [text]
      | .parent => names.dropLast
      | .root | .current => names)
    []

/-- The pieces, last one first, without those at the end of the path that name no component.  The
first piece of the path stays. -/
def dropIdle : List String → List String
  | piece :: first :: rest =>
      if piece = "" ∨ piece = "." then dropIdle (first :: rest) else piece :: first :: rest
  | pieces => pieces

/-- The path without its last component, in its own spelling; none for the empty path and the root.
-/
def parent? (path : String) : Option String :=
  match dropIdle (pieces path).reverse with
  | _ :: first :: rest =>
      match dropIdle (first :: rest) with
      | [""] => some "/"
      | kept => some (String.ofList (List.intercalate ['/'] (kept.reverse.map String.toList)))
  | [first] => if first = "" then none else some ""
  | [] => none

/-- Rank of the kinds of component in the order of paths. -/
def Component.rank : Component → Nat
  | .root => 0
  | .current => 1
  | .parent => 2
  | .name _ => 3

/-- Order of two components: by kind, and names by their bytes. -/
def Component.order : Component → Component → Ordering
  | .name left, .name right => orderNames left right
  | left, right => compare left.rank right.rank

/-- The first path comes no later than the second, component by component. -/
def le (left right : String) : Bool :=
  List.compareLex Component.order (components left) (components right) != .gt

end Path
end ScriptLint
