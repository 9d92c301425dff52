/-!
# Reading from the front of a text

A reader takes what it reads off the front of a text and gives the rest back, or nothing if the text
does not start with such a thing.  The readers of the two data formats share the ones here.
-/

namespace ScriptLint
namespace Text

/-- Read a text and keep the rest. -/
abbrev Reader (α : Type) := List Char → Option (α × List Char)

/-- The rest of the text if it starts with this character. -/
def after? (c : Char) : List Char → Option (List Char)
  | first :: rest => if first = c then some rest else none
  | [] => none

/-- A hexadecimal digit in either case. -/
def isHexDigit (c : Char) : Bool :=
  c.isDigit || ('a' ≤ c && c ≤ 'f') || ('A' ≤ c && c ≤ 'F')

/-- The value of a hexadecimal digit. -/
def digitValue (c : Char) : Nat :=
  if c.isDigit then c.toNat - '0'.toNat
  else if 'a' ≤ c && c ≤ 'f' then c.toNat - 'a'.toNat + 10
  else c.toNat - 'A'.toNat + 10

/-- The number that digits spell in a base. -/
def numberOf (base : Nat) (digits : List Char) : Nat :=
  digits.foldl (fun number digit => number * base + digitValue digit) 0

/-- The character with this code point, unless it is a surrogate or out of range. -/
def scalar? (code : Nat) : Option Char :=
  if code < 0xD800 ∨ (0xDFFF < code ∧ code < 0x110000) then some (Char.ofNat code) else none

/-- A number of a fixed count of hexadecimal digits. -/
def hexNumber? (count : Nat) (text : List Char) : Option (Nat × List Char) :=
  let digits := text.take count
  if digits.length = count ∧ digits.all isHexDigit then
    some (numberOf 16 digits, text.drop count)
  else
    none

/-- Read units one after the other until the text closes them.  Closing may add a last part of its
own; the limit has to exceed the number of units. -/
def until? {α : Type} (close unit : Reader (List α)) : Nat → Reader (List α)
  | 0, _ => none
  | limit + 1, text =>
      match close text with
      | some closed => some closed
      | none =>
          match unit text with
          | none => none
          | some (part, rest) =>
              (until? close unit limit rest).map fun (more, rest) => (part ++ more, rest)

end Text
end ScriptLint
