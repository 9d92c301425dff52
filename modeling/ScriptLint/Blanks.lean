import ScriptLint.Block.Kind
import ScriptLint.Header

/-!
# Stray blanks

Spaces and tabs may not stand on an otherwise empty line, nor in front of or behind a line that
starts a function, an event or the script.  Other lines are indented freely.
-/

namespace ScriptLint
namespace Blanks

/-- The character is a space or a tab. -/
def isBlank (c : Char) : Bool := c == ' ' || c == '\t'

/-- The line without blanks at either end. -/
def strip (line : List Char) : List Char := Text.dropEndWhile isBlank (line.dropWhile isBlank)

/-- The keywords of lines that may not be indented. -/
def keywords : List String :=
  [Block.Kind.function.opening, Block.Kind.event.opening, Header.keyword]

/-- Blanks around the stripped line are faults. -/
def inScope (stripped : List Char) : Bool :=
  stripped.isEmpty || keywords.any fun keyword => keyword.toList.isPrefixOf stripped

/-- Where a line has stray blanks. -/
inductive Fault where
  | onEmptyLine
  | atBeginning
  | atEnd
deriving DecidableEq

/-- The words for a fault. -/
def Fault.message : Fault → String
  | .onEmptyLine => "on empty line"
  | .atBeginning => "at the beginning of the line"
  | .atEnd => "at the end of the line"

/-- The first fault of a line and its column: behind the blanks in front, or at the first blank at
the end. -/
def fault? (line : List Char) : Option (Nat × Fault) :=
  let stripped := strip line
  if !inScope stripped then
    none
  else
    let leading := (line.takeWhile isBlank).length
    let content := Text.dropEndWhile isBlank line
    if 0 < leading then
      some (leading + 1, if stripped.isEmpty then .onEmptyLine else .atBeginning)
    else if Text.byteLength content < Text.byteLength line then
      some (Text.byteLength content + 1, .atEnd)
    else
      none

end Blanks
end ScriptLint
