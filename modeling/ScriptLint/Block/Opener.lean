import ScriptLint.Block.Kind

/-!
# Openers

A line that starts with the opening keyword of a family is an opener of it.  A function or an event
may have its type in front of the keyword and needs a name and a closed argument list behind it; a
test needs matching parentheses around it, or none, and no operator left over.  Reading a line says
whether it is an opener, and if so whether it is well formed.
-/

namespace ScriptLint
namespace Block

/-- What can be wrong with an opener. -/
inductive Fault where
  | missingName
  | missingOpenParenthesis
  | missingCloseParenthesis
  | trailingComma
  /-- Operators stand where nothing may follow. -/
  | extraneous (operators : String)
deriving DecidableEq

/-- The words for a fault. -/
def Fault.message : Fault → String
  | .missingName => "missing name"
  | .missingOpenParenthesis => "missing open parenthesis"
  | .missingCloseParenthesis => "missing close parenthesis"
  | .trailingComma => "trailing comma"
  | .extraneous operators => s!"extraneous {operators}"

/-- A line read as an opener. -/
inductive Opener where
  /-- A well-formed opener of the block with this label. -/
  | valid (label : String)
  /-- A faulty opener, with the column that is blamed. -/
  | invalid (label : String) (column : Nat) (fault : Fault)
deriving DecidableEq

/-- Message for a faulty opener. -/
def faultMessage (label : String) (fault : Fault) : String := s!"{label} error: {fault.message}"

/-! ## Named blocks -/

/-- The start of a named block: the type in front of the keyword, and what follows the keyword. -/
structure NamedStart where
  /-- Type in front of the keyword; empty without one. -/
  type : List Char
  /-- Text behind the keyword. -/
  rest : List Char
deriving DecidableEq

/-- Read the start of a named block.  A type in front of the keyword is read whenever that is
possible. -/
def namedStart? (keyword line : List Char) : Option NamedStart :=
  let untyped := (Text.afterKeyword? keyword line).map (NamedStart.mk [])
  match Text.typeName? line with
  | none => untyped
  | some (type, rest) =>
      match Text.afterKeyword? keyword rest with
      | some rest => some ⟨type, rest⟩
      | none => untyped

/-- The parts of a label that are not empty, separated by single spaces. -/
def label (parts : List (List Char)) : String :=
  String.ofList (List.intercalate [' '] (parts.filter (!·.isEmpty)))

/-- What is wrong with the text behind the name of a block: the argument list has to start at once,
to end, and not to end in a comma. -/
def argumentFault? (text : List Char) : Option Fault :=
  match text with
  | '(' :: rest =>
      if !rest.contains ')' then some .missingCloseParenthesis
      else if (Text.trimEnd (rest.takeWhile (· != ')'))).getLast? = some ',' then
        some .trailingComma
      else none
  | _ => some .missingOpenParenthesis

/-- Read a line as the opener of a named block. -/
def readNamed? (keyword line : List Char) : Option Opener :=
  match namedStart? keyword line with
  | none => none
  | some ⟨type, rest⟩ =>
      let name := Text.word (Text.afterSpace rest)
      if name.isEmpty then
        some (.invalid (label [type, keyword]) 1 .missingName)
      else
        let label := label [type, name, keyword]
        match argumentFault? (Text.afterWord (Text.afterSpace rest)) with
        | some fault => some (.invalid label 1 fault)
        | none => some (.valid label)

/-! ## Tests -/

/-- The character ends the body of a test: a closing parenthesis or an operator. -/
def endsBody (c : Char) : Bool := c == ')' || "|&=!\"'@#-*+".toList.contains c

/-- The character belongs to a run of left-over operators. -/
def isDangling (c : Char) : Bool := "|&=!\"'@#-*+/(".toList.contains c

/-- The parts of a test behind its keyword. -/
structure Test where
  /-- White space behind the keyword. -/
  separator : List Char
  /-- An opening parenthesis stands in front. -/
  opened : Bool
  /-- Text up to a closing parenthesis or an operator. -/
  body : List Char
  /-- Operators behind the body. -/
  dangling : List Char
  /-- A closing parenthesis follows. -/
  closed : Bool
deriving DecidableEq

/-- Take a test apart. -/
def Test.read (text : List Char) : Test :=
  let start := Text.afterSpace text
  let opened := start.head? == some '('
  let inner := if opened then start.tail else start
  let afterBody := inner.dropWhile (!endsBody ·)
  { separator := text.takeWhile Text.isSpace
    opened
    body := inner.takeWhile (!endsBody ·)
    dangling := afterBody.takeWhile isDangling
    closed := (afterBody.dropWhile isDangling).head? == some ')' }

/-- A closing parenthesis that belongs to a call at the end of the body closes the call, not the
test. -/
def Test.closeCall (test : Test) : Test :=
  if !test.opened && test.closed && test.body.getLast? == some '(' then
    { test with body := test.body ++ [')'], closed := false }
  else
    test

/-- Judge a test behind a keyword, on a line of a given length. -/
def Test.judge (keyword : List Char) (lineLength : Nat) (test : Test) : Opener :=
  let label := String.ofList keyword
  let front := Text.byteLength keyword + Text.byteLength test.separator
  if test.closed && !test.opened then
    .invalid label front .missingOpenParenthesis
  else if test.opened && !test.closed then
    .invalid label (front + Text.byteLength test.body) .missingCloseParenthesis
  else if !test.dangling.isEmpty then
    .invalid label lineLength (.extraneous (String.ofList test.dangling))
  else
    .valid label

/-- Read a line as the opener of a test. -/
def readTest? (keyword line : List Char) : Option Opener :=
  (Text.afterKeyword? keyword line).map fun rest =>
    (Test.read rest).closeCall.judge keyword (Text.byteLength line)

/-! ## All families -/

/-- Read a line as an opener of the family. -/
def Kind.readOpener? (kind : Kind) (line : List Char) : Option Opener :=
  match kind with
  | .function | .event => readNamed? kind.opening.toList line
  | .ifTest | .whileLoop => readTest? kind.opening.toList line

end Block
end ScriptLint
