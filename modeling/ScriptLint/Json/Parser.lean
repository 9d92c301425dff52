import ScriptLint.Json.Value
import ScriptLint.Text.Reader

/-!
# Reading JSON

Values are read by readers that take them off the front of a text.  Blanks may stand around every
part; a document is one value and nothing but blanks behind it.
-/

namespace ScriptLint
namespace Json

open Text

/-- A blank between the parts of a value. -/
def isBlank (c : Char) : Bool := c == ' ' || c == '\t' || c == '\n' || c == '\r'

/-- The text behind its initial blanks. -/
def skipBlanks (text : List Char) : List Char := text.dropWhile isBlank

/-! ## Numbers -/

/-- What follows one digit or more. -/
def afterDigits? : List Char → Option (List Char)
  | c :: rest => if c.isDigit then some (rest.dropWhile Char.isDigit) else none
  | [] => none

/-- What follows a fraction, if there is one. -/
def skipFraction? : List Char → Option (List Char)
  | '.' :: rest => afterDigits? rest
  | text => some text

/-- What follows an exponent, if there is one. -/
def skipExponent? : List Char → Option (List Char)
  | 'e' :: '+' :: rest | 'e' :: '-' :: rest | 'E' :: '+' :: rest | 'E' :: '-' :: rest
  | 'e' :: rest | 'E' :: rest => afterDigits? rest
  | text => some text

/-- The digits of a whole number: a zero alone, or digits that do not start with zero. -/
def whole? (text : List Char) : Option (List Char × List Char) :=
  match text with
  | '0' :: rest => some (['0'], rest)
  | c :: _ =>
      if c.isDigit then some (text.takeWhile Char.isDigit, text.dropWhile Char.isDigit) else none
  | [] => none

/-- Read a number.  It is natural if nothing but its digits is written. -/
def number? (text : List Char) : Option (Value × List Char) := do
  let unsigned := (after? '-' text).getD text
  let (digits, rest) ← whole? unsigned
  let behind ← (skipFraction? rest).bind skipExponent?
  let isPlain := unsigned.length = text.length ∧ behind.length = rest.length
  some (.number (if isPlain then some (numberOf 10 digits) else none), behind)

/-! ## Strings -/

/-- A quotation mark closes a string. -/
def closeString {α : Type} : Reader (List α)
  | '"' :: rest => some ([], rest)
  | _ => none

/-- The second half of a surrogate pair, written as an escape. -/
def lowSurrogate? : Reader Nat
  | '\\' :: 'u' :: rest =>
      match hexNumber? 4 rest with
      | some (code, rest) => if 0xDC00 ≤ code ∧ code ≤ 0xDFFF then some (code, rest) else none
      | none => none
  | _ => none

/-- The character of a numeric escape: of a code point, or of a surrogate pair in two escapes.  Half
of a pair alone is no character. -/
def codeUnit? (text : List Char) : Option (Option Char × List Char) :=
  match hexNumber? 4 text with
  | none => none
  | some (code, rest) =>
      if 0xD800 ≤ code ∧ code ≤ 0xDBFF then
        match lowSurrogate? rest with
        | some (low, rest) =>
            some (scalar? (0x10000 + (code - 0xD800) * 0x400 + (low - 0xDC00)), rest)
        | none => some (none, rest)
      else
        some (scalar? code, rest)

/-- The character that an escape stands for, behind its backslash. -/
def unescape? : Reader (Option Char)
  | '"' :: rest => some (some '"', rest)
  | '\\' :: rest => some (some '\\', rest)
  | '/' :: rest => some (some '/', rest)
  | 'b' :: rest => some (some '\x08', rest)
  | 'f' :: rest => some (some '\x0c', rest)
  | 'n' :: rest => some (some '\n', rest)
  | 'r' :: rest => some (some '\r', rest)
  | 't' :: rest => some (some '\t', rest)
  | 'u' :: rest => codeUnit? rest
  | _ => none

/-- One character of a string; control characters have to be escaped. -/
def stringUnit : Reader (List (Option Char))
  | '\\' :: rest => (unescape? rest).map fun (c, rest) => ([c], rest)
  | c :: rest => if 0x20 ≤ c.toNat then some ([some c], rest) else none
  | [] => none

/-- Read a string behind its opening quotation mark.  It is text if all its characters are.  The
limit has to exceed the number of characters. -/
def string? (limit : Nat) (text : List Char) : Option (Option String × List Char) :=
  (until? closeString stringUnit limit text).map fun (characters, rest) =>
    ((characters.mapM id).map String.ofList, rest)

/-! ## Values -/

/-- Read the items of an array, of which at least one and no more than the limit follow. -/
def items? (item : Reader Value) : Nat → Reader (List Value)
  | 0, _ => none
  | limit + 1, text => do
      let (first, rest) ← item text
      match skipBlanks rest with
      | ']' :: rest => some ([first], rest)
      | ',' :: rest =>
          let (others, rest) ← items? item limit rest
          some (first :: others, rest)
      | _ => none

/-- Read a key, a colon and a value. -/
def member? (value : Reader Value) (limit : Nat) (text : List Char) :
    Option ((Option String × Value) × List Char) := do
  let rest ← after? '"' (skipBlanks text)
  let (key, rest) ← string? limit rest
  let rest ← after? ':' (skipBlanks rest)
  let (value, rest) ← value rest
  some ((key, value), rest)

/-- Read the members of an object, of which at least one and no more than the limit follow. -/
def members? (value : Reader Value) : Nat → Reader (List (Option String × Value))
  | 0, _ => none
  | limit + 1, text => do
      let (first, rest) ← member? value limit text
      match skipBlanks rest with
      | '}' :: rest => some ([first], rest)
      | ',' :: rest =>
          let (others, rest) ← members? value limit rest
          some (first :: others, rest)
      | _ => none

/-- Read an array behind its opening bracket. -/
def array? (item : Reader Value) (limit : Nat) (text : List Char) : Option (Value × List Char) :=
  match skipBlanks text with
  | ']' :: rest => some (.array [], rest)
  | text => (items? item limit text).map fun (items, rest) => (.array items, rest)

/-- Read an object behind its opening brace. -/
def object? (value : Reader Value) (limit : Nat) (text : List Char) : Option (Value × List Char) :=
  match skipBlanks text with
  | '}' :: rest => some (.object [], rest)
  | text => (members? value limit text).map fun (members, rest) => (.object members, rest)

/-- Read a value from a text that is shorter than the limit.  No part of a value has more items,
members, characters or levels than its text has characters. -/
def value? : Nat → Reader Value
  | 0, _ => none
  | limit + 1, text =>
      match skipBlanks text with
      | '[' :: rest => array? (value? limit) limit rest
      | '{' :: rest => object? (value? limit) limit rest
      | '"' :: rest => (string? limit rest).map fun (text, rest) => (.string text, rest)
      | 'n' :: 'u' :: 'l' :: 'l' :: rest => some (.null, rest)
      | 't' :: 'r' :: 'u' :: 'e' :: rest => some (.bool true, rest)
      | 'f' :: 'a' :: 'l' :: 's' :: 'e' :: rest => some (.bool false, rest)
      | text => number? text

/-- Read a document. -/
def parse? (text : String) : Option Value :=
  match value? (text.toList.length + 1) text.toList with
  | some (value, rest) => if (skipBlanks rest).isEmpty then some value else none
  | none => none

end Json
end ScriptLint
