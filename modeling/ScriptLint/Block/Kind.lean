import ScriptLint.Text.Scan

/-!
# Block families

Four families of blocks are known by the keywords that open and close them.  Functions and events
are named and take arguments; `if` and `while` carry a test.
-/

namespace ScriptLint
namespace Block

/-- A family of blocks. -/
inductive Kind where
  | function
  | event
  | ifTest
  | whileLoop
deriving DecidableEq

namespace Kind

/-- The families in the order of the keyword table. -/
def all : List Kind := [.function, .event, .ifTest, .whileLoop]

/-- Keyword that opens a block. -/
def opening : Kind → String
  | .function => "Function"
  | .event => "Event"
  | .ifTest => "if"
  | .whileLoop => "while"

/-- Keyword that closes a block. -/
def closing : Kind → String
  | .function => "EndFunction"
  | .event => "EndEvent"
  | .ifTest => "endif"
  | .whileLoop => "endwhile"

/-- The line closes a block: for named blocks it is the closing keyword alone, for tests it starts
with it. -/
def isCloser (kind : Kind) (line : List Char) : Bool :=
  match kind with
  | .function | .event => line == kind.closing.toList
  | .ifTest | .whileLoop => kind.closing.toList.isPrefixOf line

/-- Message for a block that is never closed. -/
def unclosedMessage (kind : Kind) (label : String) : String :=
  match kind with
  | .function | .event => s!"{label} error: {kind.opening} is not closed"
  | .ifTest | .whileLoop => s!"{label} is not closed (missing {kind.closing})"

end Kind
end Block
end ScriptLint
