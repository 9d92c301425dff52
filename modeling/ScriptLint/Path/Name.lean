import ScriptLint.Text.Lines
import ScriptLint.Text.Utf8

/-!
# Names of files

A name is a list of bytes that holds neither a slash nor a zero byte, and it need not be UTF-8.  A
name that is UTF-8 is written as its text.  Any other name is written byte by byte: ASCII stands for
itself, and every other byte is a character of the last private area behind a zero character.  No
name that is text holds a zero character, so different names are written differently.
-/

namespace ScriptLint
namespace Path

/-- The character of a byte beyond ASCII, behind a zero character. -/
def byteChar (byte : Nat) : Char := Char.ofNat (0x10FF00 + byte)

/-- The byte beyond ASCII that two characters write. -/
def byteOf? (zero c : Char) : Option Nat :=
  if zero.toNat = 0 ∧ 0x10FF80 ≤ c.toNat then some (c.toNat - 0x10FF00) else none

/-- The name or path consists of text. -/
def isText (name : String) : Bool :=
  (name.toList.zip name.toList.tail).all fun (zero, c) => (byteOf? zero c).isNone

/-- A byte of a name that is no text, as it is written. -/
def writeByte (byte : Nat) : List Char :=
  if byte < 0x80 then [Char.ofNat byte] else ['\x00', byteChar byte]

/-- The name with these bytes. -/
def nameOfBytes (bytes : List Nat) : String :=
  match Text.ofBytes? bytes with
  | some text => text
  | none => String.ofList (bytes.flatMap writeByte)

/-- The path with these bytes, whose names are cut at the slashes. -/
def ofBytes (bytes : List Nat) : String :=
  let pieces := Text.split '/' (bytes.map Char.ofNat)
  "/".intercalate (pieces.map fun piece => nameOfBytes (piece.map Char.toNat))

/-- The bytes of a name or a path. -/
def bytes : List Char → List Nat
  | first :: second :: rest =>
      match byteOf? first second with
      | some byte => byte :: bytes rest
      | none => (String.utf8EncodeChar first).map UInt8.toNat ++ bytes (second :: rest)
  | [last] => (String.utf8EncodeChar last).map UInt8.toNat
  | [] => []

/-- The name or path as it is shown, with a replacement character for every sequence of bytes that
is no UTF-8. -/
def display (path : String) : String :=
  if isText path then path else Text.ofBytesLossy (bytes path.toList)

/-- Order of two names by their bytes. -/
def orderNames (left right : String) : Ordering :=
  List.compareLex compare (bytes left.toList) (bytes right.toList)

end Path
end ScriptLint
