import ScriptLint.Json.Value

/-!
# Writing JSON

A value is written on one line without blanks, or spread over lines that are indented by two blanks
a level.  Quotation marks, backslashes and control characters are escaped, and all else stands for
itself.
-/

namespace ScriptLint
namespace Json

/-- The character with its escape, where it has one. -/
def escape (c : Char) : List Char :=
  if c = '"' then ['\\', '"']
  else if c = '\\' then ['\\', '\\']
  else if c = '\n' then ['\\', 'n']
  else if c = '\t' then ['\\', 't']
  else if c = '\r' then ['\\', 'r']
  else if c = '\x08' then ['\\', 'b']
  else if c = '\x0c' then ['\\', 'f']
  else if c.toNat < 0x20 then
    ['\\', 'u', '0', '0', Nat.digitChar (c.toNat / 16), Nat.digitChar (c.toNat % 16)]
  else [c]

/-- A string in quotation marks; one that is no text is written as half of a surrogate pair. -/
def quoted : Option String → List Char
  | some text => '"' :: text.toList.flatMap escape ++ ['"']
  | none => "\"\\ud800\"".toList

/-- How a value is laid out. -/
inductive Layout where
  /-- On one line without blanks. -/
  | compact
  /-- One item or member a line. -/
  | pretty
deriving DecidableEq

namespace Layout

/-- What stands in front of an item or a closing bracket at this level. -/
def gap : Layout → Nat → List Char
  | .compact, _ => []
  | .pretty, level => '\n' :: List.replicate (2 * level) ' '

/-- What separates a key from its value. -/
def colon : Layout → List Char
  | .compact => [':']
  | .pretty => [':', ' ']

end Layout

mutual

/-- Write a value that stands at a level. -/
def write (layout : Layout) (level : Nat) : Value → List Char
  | .null => "null".toList
  | .bool truth => (if truth then "true" else "false").toList
  | .number none => "-0".toList
  | .number (some natural) => Nat.toDigits 10 natural
  | .string text => quoted text
  | .array [] => ['[', ']']
  | .array (first :: rest) =>
      '[' :: layout.gap (level + 1) ++ write layout (level + 1) first ++
        writeItems layout level rest
  | .object [] => ['\x7b', '\x7d']
  | .object ((key, first) :: rest) =>
      '\x7b' :: layout.gap (level + 1) ++ quoted key ++ layout.colon ++
        write layout (level + 1) first ++ writeMembers layout level rest

/-- Write the items of an array behind the first one. -/
def writeItems (layout : Layout) (level : Nat) : List Value → List Char
  | [] => layout.gap level ++ [']']
  | item :: rest =>
      ',' :: layout.gap (level + 1) ++ write layout (level + 1) item ++
        writeItems layout level rest

/-- Write the members of an object behind the first one. -/
def writeMembers (layout : Layout) (level : Nat) : List (Option String × Value) → List Char
  | [] => layout.gap level ++ ['\x7d']
  | (key, value) :: rest =>
      ',' :: layout.gap (level + 1) ++ quoted key ++ layout.colon ++
        write layout (level + 1) value ++ writeMembers layout level rest

end

/-- The text of a value. -/
def Value.text (layout : Layout) (value : Value) : String := String.ofList (write layout 0 value)

end Json
end ScriptLint
