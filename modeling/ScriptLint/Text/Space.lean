/-!
# White space

The characters with the Unicode property White_Space, and the removal of a run of them from either
end of a text.  A text is a list of characters throughout the library; strings appear only in the
records that are handed out.
-/

namespace ScriptLint
namespace Text

/-- The character has the Unicode property White_Space. -/
def isSpace (c : Char) : Bool :=
  let code := c.toNat
  (9 ≤ code && code ≤ 13) || code == 0x20 || code == 0x85 || code == 0xA0 || code == 0x1680 ||
    (0x2000 ≤ code && code ≤ 0x200A) || code == 0x2028 || code == 0x2029 || code == 0x202F ||
    code == 0x205F || code == 0x3000

/-- The text without its longest final run of characters in the class. -/
def dropEndWhile (p : Char → Bool) (text : List Char) : List Char :=
  (text.reverse.dropWhile p).reverse

/-- The text without its longest final run of white space. -/
def trimEnd (text : List Char) : List Char := dropEndWhile isSpace text

/-- The text without white space at either end. -/
def trim (text : List Char) : List Char := trimEnd (text.dropWhile isSpace)

end Text
end ScriptLint
