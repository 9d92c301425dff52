import ScriptLint.Text.Scan

/-!
# Script headers

The header line declares the name of the script, a parent after `extends`, and at most two flags; a
comment may follow.  Reading it either confirms the header or gives the first thing that is wrong
with it, together with the column that is blamed.
-/

namespace ScriptLint

/-- A qualifier at the end of a header or of a property. -/
inductive Flag where
  /-- Visible to condition functions. -/
  | conditional
  /-- Hidden from the editor. -/
  | hidden
deriving DecidableEq

namespace Flag

/-- The flag as it is written. -/
def spelling : Flag → String
  | .conditional => "Conditional"
  | .hidden => "Hidden"

/-- The flag that a token spells, in exactly this case. -/
def ofToken? (token : List Char) : Option Flag :=
  if token = "Conditional".toList then some .conditional
  else if token = "Hidden".toList then some .hidden
  else none

end Flag

/-- The confirmed declaration line of a script. -/
structure Header where
  /-- Declared name. -/
  name : String
  /-- Script named after `extends`. -/
  parent : Option String
  /-- Flags in the order they are written. -/
  flags : List Flag
  /-- Number of bytes of the header line. -/
  endColumn : Nat
deriving DecidableEq

namespace Header

/-- The header carries the flag. -/
def hasFlag (header : Header) (flag : Flag) : Bool := header.flags.contains flag

/-- The keyword that starts the header line. -/
def keyword : String := "Scriptname"

/-- The keyword in front of a parent. -/
def parentKeyword : String := "extends"

/-- Greatest number of flags. -/
def maxFlags : Nat := 2

/-- What can be wrong with a header line. -/
inductive Fault where
  /-- The line does not start with the keyword, or there is no line. -/
  | missing
  /-- Nothing separates the keyword from what follows. -/
  | missingSpace
  /-- No name follows the keyword. -/
  | missingName
  /-- The name is not the expected one. -/
  | wrongName (expected found : String)
  /-- No parent follows `extends`. -/
  | missingParent
  /-- A token is no flag, or one flag too many. -/
  | unknownFlag (token : String)
deriving DecidableEq

/-- The words for a fault. -/
def Fault.message : Fault → String
  | .missing => s!"no {keyword} specified"
  | .missingSpace => s!"missing space after {keyword}"
  | .missingName => "missing name"
  | .wrongName expected found =>
      s!"{keyword} must match filename, {expected} expected, got {found}"
  | .missingParent => s!"missing parent script after {parentKeyword}"
  | .unknownFlag token => s!"unknown flag {token}"

/-- A fault and the column that is blamed for it. -/
structure Blame where
  /-- Column in bytes. -/
  column : Nat
  /-- What is wrong. -/
  fault : Fault
deriving DecidableEq

/-- The `extends` clause at the start of a text. -/
structure ParentClause where
  /-- The parent, unless it is missing. -/
  parent : Option (List Char)
  /-- What follows the keyword. -/
  afterKeyword : List Char
  /-- What follows the clause. -/
  rest : List Char
deriving DecidableEq

/-- Read white space, `extends`, and a parent if one follows after white space. -/
def parentClause? (text : List Char) : Option ParentClause :=
  if Text.startsSpace text then
    match Text.afterKeyword? parentKeyword.toList (Text.afterSpace text) with
    | none => none
    | some rest =>
        let name := Text.word (Text.afterSpace rest)
        if Text.startsSpace rest && !name.isEmpty then
          some ⟨some name, rest, Text.afterWord (Text.afterSpace rest)⟩
        else
          some ⟨none, rest, rest⟩
  else
    none

/-- Read flags while there is room for them; the first token that is none is given back. -/
def readFlags : Nat → List Text.Token → Except Text.Token (List Flag)
  | _, [] => .ok []
  | room, token :: rest =>
      match Flag.ofToken? token.text, room with
      | some flag, room + 1 => (readFlags room rest).map (flag :: ·)
      | _, _ => .error token

/-- Read the part of the header line behind the name: the parent, then the flags up to a comment. -/
def readTail (line name text : List Char) : Except Blame Header :=
  let offset (rest : List Char) := Text.byteLength line - Text.byteLength rest
  let finish (parent : Option (List Char)) (rest : List Char) : Except Blame Header :=
    match readFlags maxFlags
        (Text.tokens (offset rest) (rest.takeWhile (· != Text.commentMarker))) with
    | .ok flags =>
        .ok
          { name := String.ofList name
            parent := parent.map String.ofList
            flags
            endColumn := Text.byteLength line }
    | .error token => .error ⟨token.start, .unknownFlag (String.ofList token.text)⟩
  match parentClause? text with
  | none => finish none text
  | some ⟨none, afterKeyword, _⟩ => .error ⟨offset afterKeyword, .missingParent⟩
  | some ⟨some parent, _, rest⟩ => finish (some parent) rest

/-- Read a line as the header of the script with the expected name. -/
def read (expected : String) (line : List Char) : Except Blame Header :=
  match keyword.toList.isPrefixOf? line with
  | none => .error ⟨1, .missing⟩
  | some rest =>
      if Text.startsSpace rest then
        let column := Text.byteLength line - Text.byteLength (Text.afterSpace rest)
        let name := Text.word (Text.afterSpace rest)
        if name.isEmpty then
          .error ⟨column, .missingName⟩
        else if String.ofList name = expected then
          readTail line name (Text.afterWord (Text.afterSpace rest))
        else
          .error ⟨column, .wrongName expected (String.ofList name)⟩
      else
        .error ⟨Text.byteLength keyword.toList, .missingSpace⟩

end Header
end ScriptLint
