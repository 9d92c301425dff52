/-!
# Text on a terminal

A terminal takes some control characters for commands: it rings, moves the cursor, clears or
recolours the screen.  Where foreign text is shown on one, these characters are written as their
code points.  Line breaks, tabs and the controls that do nothing stay.
-/

namespace ScriptLint
namespace Text

/-- An ASCII character that a terminal obeys: bell, backspace, form feed, escape and delete. -/
def isCommand (c : Char) : Bool :=
  c == '\x07' || c == '\x08' || c == '\x0c' || c == '\x1b' || c == '\x7f'

/-- A character beyond ASCII that a terminal obeys: one of the second set of controls. -/
def isLateCommand (c : Char) : Bool := 0x80 ≤ c.toNat && c.toNat ≤ 0x9F

/-- A character as it is shown. -/
def disarmChar (c : Char) : List Char :=
  if isCommand c then
    ['\\', 'x', Nat.digitChar (c.toNat / 16), Nat.digitChar (c.toNat % 16)]
  else if isLateCommand c then
    "\\u\x7b".toList ++ Nat.toDigits 16 c.toNat ++ ['\x7d']
  else
    [c]

/-- The text as it is shown. -/
def disarm (text : String) : String := String.ofList (text.toList.flatMap disarmChar)

end Text
end ScriptLint
