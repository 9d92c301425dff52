import ScriptLint.Text.Lines
import ScriptLint.Text.Word

/-!
# Scanning a line

A reader of a line takes runs of characters off its front and goes on with the rest.  The offset of
what it found is the number of bytes in front of it.
-/

namespace ScriptLint
namespace Text

/-- The longest initial run of word characters. -/
def word (text : List Char) : List Char := text.takeWhile isWord

/-- What follows the longest initial run of word characters. -/
def afterWord (text : List Char) : List Char := text.dropWhile isWord

/-- What follows the longest initial run of white space. -/
def afterSpace (text : List Char) : List Char := text.dropWhile isSpace

/-- The text starts with white space. -/
def startsSpace (text : List Char) : Bool := text.head?.any isSpace

/-- What follows a keyword at the start of the text, provided the keyword ends a word there. -/
def afterKeyword? (keyword text : List Char) : Option (List Char) :=
  match keyword.isPrefixOf? text with
  | some rest => if rest.head?.any isWord then none else some rest
  | none => none

/-- A type name at the start of the text, with white space behind it, and what follows that: a word
that may carry a pair of brackets. -/
def typeName? (text : List Char) : Option (List Char × List Char) :=
  let base := word text
  let (name, rest) :=
    match afterWord text with
    | '[' :: ']' :: rest => (base ++ ['[', ']'], rest)
    | rest => (base, rest)
  if base.isEmpty || !startsSpace rest then none else some (name, afterSpace rest)

/-- A run of characters and the offset at which it starts. -/
structure Token where
  /-- Number of bytes in front of the run. -/
  start : Nat
  /-- The characters of the run. -/
  text : List Char
deriving DecidableEq

/-- The longest runs of characters without white space, in order, in a text that starts at an
offset. -/
def tokens (offset : Nat) : List Char → List Token
  | [] => []
  | c :: rest =>
      let later := tokens (offset + c.utf8Size) rest
      if isSpace c then
        later
      else if rest.isEmpty || startsSpace rest then
        ⟨offset, [c]⟩ :: later
      else
        match later with
        | [] => [⟨offset, [c]⟩]
        | token :: others => ⟨offset, c :: token.text⟩ :: others

end Text
end ScriptLint
