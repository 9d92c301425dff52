import ScriptLint.Path

/-!
# Workspaces

A workspace is a tree of directories and files together with a working directory.  Paths are
followed from the root: every step needs a directory, `.` and empty pieces stay, and `..` goes up.
A directory lists its entries in the order in which it holds them; entries are put in by ascending
name.
-/

namespace ScriptLint

/-- A file or a directory. -/
inductive Node where
  /-- A file with its text, if its bytes are UTF-8. -/
  | file (text : Option String)
  /-- A directory with its entries. -/
  | directory (entries : List (String × Node))

namespace Node

/-- The node is a directory. -/
def isDirectory : Node → Bool
  | .directory _ => true
  | .file _ => false

/-- The node is a file. -/
def isFile (node : Node) : Bool := !node.isDirectory

/-- The entries of a directory; a file has none. -/
def entries : Node → List (String × Node)
  | .directory entries => entries
  | .file _ => []

/-- Put an entry at its place in an ascending list, instead of one with its name. -/
def putEntry (name : String) (node : Node) : List (String × Node) → List (String × Node)
  | [] => [(name, node)]
  | first :: rest =>
      if Path.orderNames name first.1 = .lt then (name, node) :: first :: rest
      else if name = first.1 then (name, node) :: rest
      else first :: putEntry name node rest

/-- Put a node into a tree under a list of names; directories on the way are made. -/
def put (node : Node) : List String → Node → Node
  | [], _ => node
  | name :: rest, tree =>
      let inner := (tree.entries.lookup name).getD (.directory [])
      .directory (putEntry name (put node rest inner) tree.entries)

/-- Take what is under a list of names out of a tree. -/
def erase : List String → Node → Node
  | name :: rest, .directory entries =>
      match rest, entries.lookup name with
      | [], _ => .directory (entries.filter fun entry => entry.1 ≠ name)
      | _, none => .directory entries
      | rest, some inner => .directory (putEntry name (erase rest inner) entries)
  | _, tree => tree

end Node

/-- What can be wrong with the use of a path. -/
inductive Failure where
  /-- Nothing is there. -/
  | missing
  /-- The path goes through a file. -/
  | notDirectory
  /-- A directory is where a file should be. -/
  | isDirectory
  /-- The file holds no UTF-8. -/
  | notText
deriving DecidableEq

/-- The words for a failure. -/
def Failure.message : Failure → String
  | .missing => "No such file or directory (os error 2)"
  | .notDirectory => "Not a directory (os error 20)"
  | .isDirectory => "Is a directory (os error 21)"
  | .notText => "stream did not contain valid UTF-8"

/-- Follow the pieces of a path from a node; the nodes above it are given innermost first. -/
def Node.follow (above : List Node) (node : Node) : List String → Except Failure Node
  | [] => .ok node
  | piece :: rest =>
      match node with
      | .file _ => .error .notDirectory
      | .directory entries =>
          if piece = "" ∨ piece = "." then follow above node rest
          else if piece = ".." then
            match above with
            | [] => follow [] node rest
            | parent :: above => follow above parent rest
          else
            match entries.lookup piece with
            | none => .error .missing
            | some inner => follow (node :: above) inner rest

/-- A tree of files with a working directory. -/
structure Workspace where
  /-- The root directory. -/
  root : Node := .directory []
  /-- Absolute path of the working directory. -/
  directory : String := "/"

namespace Workspace

/-- The path from the root. -/
def absolute (workspace : Workspace) (path : String) : String := Path.join workspace.directory path

/-- The node that a path leads to. -/
def find (workspace : Workspace) (path : String) : Except Failure Node :=
  if path = "" then .error .missing
  else Node.follow [] workspace.root (Path.pieces (workspace.absolute path))

/-- Something is at the path. -/
def contains (workspace : Workspace) (path : String) : Bool := (workspace.find path).toBool

/-- The path leads to a directory. -/
def isDirectory (workspace : Workspace) (path : String) : Bool :=
  match workspace.find path with
  | .ok node => node.isDirectory
  | .error _ => false

/-- The text of a file. -/
def read (workspace : Workspace) (path : String) : Except Failure String :=
  match workspace.find path with
  | .error failure => .error failure
  | .ok (.directory _) => .error .isDirectory
  | .ok (.file none) => .error .notText
  | .ok (.file (some text)) => .ok text

/-- The names that a path runs through from the root. -/
def names (workspace : Workspace) (path : String) : List String :=
  Path.resolve (workspace.absolute path)

/-- Put a node at a path, with the directories on the way. -/
def put (workspace : Workspace) (path : String) (node : Node) : Workspace :=
  { workspace with root := Node.put node (workspace.names path) workspace.root }

/-- Write a file where no directory is. -/
def write (workspace : Workspace) (path text : String) : Except Failure Workspace :=
  if workspace.isDirectory path then .error .isDirectory
  else .ok (workspace.put path (.file (some text)))

/-- Take out what is at a path. -/
def remove (workspace : Workspace) (path : String) : Workspace :=
  { workspace with root := Node.erase (workspace.names path) workspace.root }

end Workspace
end ScriptLint
