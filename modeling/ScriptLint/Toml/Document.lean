import ScriptLint.Toml.Scalar

/-!
# TOML documents

A document is a sequence of lines: headers, keys with values, comments and empty lines.  Headers
divide it into sections, and the sections are entered into one table in order.
-/

namespace ScriptLint
namespace Toml

open Text

/-- How deep arrays and tables in braces may be nested. -/
def maxDepth : Nat := 79

/-- How many parts a dotted key may have. -/
def maxKeyLength : Nat := 79

/-! ## Keys -/

/-- A character of a key without quotes. -/
def isKeyChar (c : Char) : Bool := c.isAlphanum || c == '_' || c == '-'

/-- One part of a key. -/
def simpleKey? (text : List Char) : Option (String × List Char) :=
  match text with
  | '"' :: _ | '\'' :: _ => lineString? text
  | _ =>
      let name := text.takeWhile isKeyChar
      if name.isEmpty then none else some (String.ofList name, text.dropWhile isKeyChar)

/-- The parts of a key, with blanks around dots and at both ends; the limit bounds their number. -/
def keyParts? : Nat → Reader (List String)
  | 0, _ => none
  | limit + 1, text =>
      match simpleKey? (skipBlanks text) with
      | none => none
      | some (part, rest) =>
          match skipBlanks rest with
          | '.' :: rest => (keyParts? limit rest).map fun (parts, rest) => (part :: parts, rest)
          | rest => some ([part], rest)

/-- A key: the path of all parts but the last, and the last part. -/
structure Key where
  /-- The parts in front of the last one. -/
  path : List String
  /-- The last part. -/
  name : String
deriving DecidableEq

/-- Read a key. -/
def key? (text : List Char) : Option (Key × List Char) :=
  match keyParts? maxKeyLength text with
  | none => none
  | some (parts, rest) => parts.getLast?.map fun name => (⟨parts.dropLast, name⟩, rest)

/-! ## Values -/

/-- The text behind blanks, comments and ends of lines inside an array; the limit has to be at least
its length. -/
def skipArrayGap : Nat → List Char → Option (List Char)
  | 0, text => some text
  | limit + 1, text =>
      let text := skipBlanks text
      match afterComment? text with
      | some rest => (afterNewline? rest).bind (skipArrayGap limit)
      | none =>
          match afterNewline? text with
          | some rest => skipArrayGap limit rest
          | none => some text

/-- Read the items of an array behind its opening bracket or a comma; the limit has to be at least
the length of the text. -/
def items? (item : Reader Value) : Nat → Reader (List Value)
  | 0, _ => none
  | limit + 1, text => do
      match ← skipArrayGap (limit + 1) text with
      | ']' :: rest => some ([], rest)
      | text =>
          let (first, rest) ← item text
          match ← skipArrayGap limit rest with
          | ']' :: rest => some ([first], rest)
          | ',' :: rest =>
              let (others, rest) ← items? item limit rest
              some (first :: others, rest)
          | _ => none

/-- Read a key, an equals sign and a value. -/
def pair (value : Reader Value) (text : List Char) : Option ((Key × Value) × List Char) := do
  let (key, rest) ← key? text
  let rest ← after? '=' rest
  let (value, rest) ← value (skipBlanks rest)
  some ((key, value), rest)

/-- Read the pairs of a table in braces behind its opening brace or a comma. -/
def pairs? (value : Reader Value) : Nat → Reader (List (Key × Value))
  | 0, _ => none
  | limit + 1, text => do
      let (first, rest) ← pair value text
      match skipBlanks rest with
      | '}' :: rest => some ([first], rest)
      | ',' :: rest =>
          let (others, rest) ← pairs? value limit rest
          some (first :: others, rest)
      | _ => none

/-- Enter pairs into a table one after the other. -/
def fill (origin : Origin) (pairs : List (Key × Value)) (entries : Entries) : Option Entries :=
  pairs.foldlM (fun entries (key, value) => entries.assign origin key.path key.name value) entries

/-- Read a table in braces behind its opening brace. -/
def inlineTable? (value : Reader Value) (text : List Char) : Option (Value × List Char) :=
  match skipBlanks text with
  | '}' :: rest => some (.table .inline [], rest)
  | text => do
      let (pairs, rest) ← pairs? value text.length text
      let entries ← fill .inline pairs []
      some (.table .inline entries, rest)

/-- Read a value that holds at most this many arrays and tables inside one another. -/
def value? (depth : Nat) (text : List Char) : Option (Value × List Char) :=
  match text, depth with
  | '[' :: rest, depth + 1 =>
      (items? (value? depth) text.length rest).map fun (items, rest) => (.array items, rest)
  | '{' :: rest, depth + 1 => inlineTable? (value? depth) rest
  | '"' :: _, _ | '\'' :: _, _ => (string? text).map fun (text, rest) => (.string text, rest)
  | 't' :: 'r' :: 'u' :: 'e' :: rest, _ => some (.boolean true, rest)
  | 'f' :: 'a' :: 'l' :: 's' :: 'e' :: rest, _ => some (.boolean false, rest)
  | _, _ => if startsMoment text then moment? text else number? text

/-! ## Sections -/

/-- The line that starts a section. -/
inductive Heading where
  /-- The start of the document. -/
  | top
  /-- A header in single brackets. -/
  | table (key : Key)
  /-- A header in double brackets. -/
  | item (key : Key)
deriving DecidableEq

/-- A heading and the pairs under it. -/
structure Section where
  /-- The line that starts the section. -/
  heading : Heading
  /-- The keys and values under it. -/
  pairs : List (Key × Value)

/-- What follows the end of a line behind an optional comment; the end of the text ends a line, too.
-/
def endLine? (text : List Char) : Option (List Char) :=
  let text := skipBlanks text
  match (afterComment? text).getD text with
  | [] => some []
  | rest => afterNewline? rest

/-- Read a header. -/
def heading? (text : List Char) : Option (Heading × List Char) :=
  match text with
  | '[' :: '[' :: rest => do
      let (key, rest) ← key? rest
      let rest ← after? ']' rest
      let rest ← after? ']' rest
      some (.item key, rest)
  | '[' :: rest => do
      let (key, rest) ← key? rest
      let rest ← after? ']' rest
      some (.table key, rest)
  | _ => none

/-- Read the rest of a document, which goes on in the section with this heading; the limit has to
exceed the number of its lines. -/
def sections? : Nat → Section → List Char → Option (List Section)
  | 0, _, _ => none
  | limit + 1, current, text =>
      match skipBlanks text with
      | [] => some [current]
      | '[' :: rest => do
          let (heading, rest) ← heading? ('[' :: rest)
          let rest ← endLine? rest
          let later ← sections? limit ⟨heading, []⟩ rest
          some (current :: later)
      | text =>
          match endLine? text with
          | some rest => sections? limit current rest
          | none => do
              let (entry, rest) ← pair (value? maxDepth) text
              let rest ← endLine? rest
              sections? limit { current with pairs := current.pairs ++ [entry] } rest

/-- Enter a section into the table of the document. -/
def Section.enter (part : Section) (entries : Entries) : Option Entries :=
  match part.heading with
  | .top => fill .declared part.pairs entries
  | .table key => entries.declare key.path key.name (fill .declared part.pairs)
  | .item key => entries.declareItem key.path key.name (fill .declared part.pairs)

/-- The table that a document describes.  A byte order mark in front is not part of it. -/
def parse? (text : String) : Option Entries := do
  let characters := text.toList
  let characters := if characters.head? = some '\uFEFF' then characters.tail else characters
  let sections ← sections? (characters.length + 1) ⟨.top, []⟩ characters
  sections.foldlM (fun entries part => part.enter entries) []

end Toml
end ScriptLint
