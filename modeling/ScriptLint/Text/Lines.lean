import ScriptLint.Text.Space

/-!
# Pieces, lines and lengths

A text falls into pieces at a separator.  Its physical lines are the pieces at line feeds without a
carriage return that stands directly before the line feed and without a last empty piece.  Its
normalized lines are trimmed, and those that are empty or start a comment are left out.  Lengths and
offsets count the bytes of the UTF-8 encoding.
-/

namespace ScriptLint
namespace Text

/-- Number of bytes of the text in UTF-8. -/
def byteLength : List Char → Nat
  | [] => 0
  | c :: rest => c.utf8Size + byteLength rest

/-- The pieces of the text between the occurrences of a separator; never an empty list. -/
abbrev split (separator : Char) (text : List Char) : List (List Char) := text.splitOn separator

/-- The piece without a carriage return at its end. -/
def dropReturn (piece : List Char) : List Char :=
  if piece.getLast? = some '\r' then piece.dropLast else piece

/-- The lines made of the pieces between line feeds: a carriage return belongs to the line feed that
follows it, and nothing after the last line feed is no line. -/
def linesOfPieces : List (List Char) → List (List Char)
  | [] => []
  | [last] => if last.isEmpty then [] else [last]
  | piece :: pieces => dropReturn piece :: linesOfPieces pieces

/-- The physical lines of the text. -/
def lines (text : List Char) : List (List Char) := linesOfPieces (split '\n' text)

/-- The character that starts a comment line. -/
def commentMarker : Char := ';'

/-- The line carries code: it is neither empty nor a comment. -/
def isCode (line : List Char) : Bool := !line.isEmpty && line.head? != some commentMarker

/-- The trimmed lines of the text that carry code. -/
def normalize (text : List Char) : List (List Char) :=
  ((lines (trim text)).map trim).filter isCode

/-- Offset at which the piece with this index starts, each piece before it being followed by a
one-byte separator. -/
def pieceStart : List (List Char) → Nat → Nat
  | piece :: pieces, index + 1 => byteLength piece + 1 + pieceStart pieces index
  | _, _ => 0

/-- Byte offset of a line and column counted from one, clamped to the text.  Line zero is the start
of the text, column zero the start of the line. -/
def offsetOf (text : List Char) (line column : Nat) : Nat :=
  match line with
  | 0 => 0
  | index + 1 =>
      let pieces := split '\n' text
      match pieces[index]? with
      | some piece => pieceStart pieces index + min (column - 1) (byteLength piece)
      | none => byteLength text

end Text
end ScriptLint
