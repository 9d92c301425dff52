import ScriptLint.Text.Lines

/-!
# Glob patterns

A pattern is a list of tokens: plain characters, `?` for any character, `*` for any run, `**` for
any number of whole directories, and classes of characters in brackets.  Matching is against a whole
text, in which a slash is a character like any other for all tokens but `**`.
-/

namespace ScriptLint
namespace Glob

/-- One element of a pattern. -/
inductive Token where
  /-- This character. -/
  | character (c : Char)
  /-- Any one character. -/
  | anyChar
  /-- Any run of characters. -/
  | anySequence
  /-- Any number of directories, with their slashes. -/
  | anyRecursive
  /-- A character in one of these ranges. -/
  | within (ranges : List (Char × Char))
  /-- A character in none of these ranges. -/
  | except (ranges : List (Char × Char))
deriving DecidableEq

/-- What can be wrong with a pattern. -/
inductive Reason where
  /-- Three stars or more in a row. -/
  | wildcards
  /-- A double star that is no whole component. -/
  | recursive
  /-- A bracket that starts no class. -/
  | range
deriving DecidableEq

/-- The words for a reason. -/
def Reason.message : Reason → String
  | .wildcards => "wildcards are either regular `*` or recursive `**`"
  | .recursive => "recursive wildcards must form a single path component"
  | .range => "invalid range pattern"

/-- Why a text is no pattern. -/
structure Fault where
  /-- Index of the blamed character. -/
  position : Nat
  /-- What is wrong. -/
  reason : Reason
deriving DecidableEq

/-- The words for a fault. -/
def Fault.message (fault : Fault) : String :=
  s!"Pattern syntax error near position {fault.position}: {fault.reason.message}"

/-- A pattern as its tokens. -/
structure Pattern where
  /-- The tokens in order. -/
  tokens : List Token
deriving DecidableEq

namespace Pattern

/-! ## Reading -/

/-- The ranges that the members of a class spell; a hyphen between two members makes a range. -/
def ranges : List Char → List (Char × Char)
  | low :: '-' :: high :: rest => (low, high) :: ranges rest
  | c :: rest => (c, c) :: ranges rest
  | [] => []

/-- The members of a class up to the closing bracket; the first one may be a bracket itself. -/
def members? : List Char → Option (List Char)
  | [] => none
  | first :: rest =>
      if rest.contains ']' then some (first :: rest.takeWhile (· != ']')) else none

/-- Read a class behind its opening bracket, with the number of characters it takes. -/
def class? : List Char → Option (Token × Nat)
  | '!' :: rest => (members? rest).map fun members => (.except (ranges members), members.length + 2)
  | text => (members? text).map fun members => (.within (ranges members), members.length + 1)

/-- Put a token in front of others, unless it repeats a token for directories. -/
def push (token : Token) (rest : List Token) : List Token :=
  if token = .anyRecursive ∧ rest.head? = some .anyRecursive then rest else token :: rest

/-- Read tokens from a position on.  The previous character is known, and so is how many characters
the last token still takes. -/
def readTokens (position : Nat) (previous : Option Char) (skip : Nat) :
    List Char → Except Fault (List Token)
  | [] => .ok []
  | c :: rest =>
      let go (token : Token) (skip : Nat) :=
        (readTokens (position + 1) (some c) skip rest).map (push token)
      match skip with
      | skip + 1 => readTokens (position + 1) (some c) skip rest
      | 0 =>
          if c = '?' then go .anyChar 0
          else if c = '*' then
            match (rest.takeWhile (· == '*')).length, rest.dropWhile (· == '*') with
            | 0, _ => go .anySequence 0
            | 1, behind =>
                if previous = none ∨ previous = some '/' then
                  match behind with
                  | [] => go .anyRecursive 1
                  | '/' :: _ => go .anyRecursive 2
                  | _ => .error ⟨position + 2, .recursive⟩
                else
                  .error ⟨position - 1, .recursive⟩
            | _, _ => .error ⟨position + 2, .wildcards⟩
          else if c = '[' then
            match class? rest with
            | some (token, length) => go token length
            | none => .error ⟨position, .range⟩
          else go (.character c) 0

/-- Read a pattern. -/
def parse (text : String) : Except Fault Pattern :=
  (readTokens 0 none 0 text.toList).map fun tokens => { tokens }

/-! ## Matching -/

/-- The text and all that is left of it after dropping characters from its front. -/
def suffixes : List Char → List (List Char)
  | [] => [[]]
  | c :: rest => (c :: rest) :: suffixes rest

/-- What can be left of the text behind its first slash or later: every rest behind a slash, and the
empty rest. -/
def restsBehindSlash : List Char → List (List Char)
  | [] => [[]]
  | c :: rest => if c = '/' then rest :: restsBehindSlash rest else restsBehindSlash rest

/-- A character is in one of the ranges. -/
def inRanges (ranges : List (Char × Char)) (c : Char) : Bool :=
  ranges.any fun range => range.1 ≤ c && c ≤ range.2

/-- The token stands for this one character. -/
def accepts (c : Char) : Token → Bool
  | .character expected => c = expected
  | .anyChar => true
  | .within ranges => inRanges ranges c
  | .except ranges => !inRanges ranges c
  | .anySequence | .anyRecursive => false

/-- The tokens match the whole text. -/
def matchTokens : List Token → List Char → Bool
  | [], text => text.isEmpty
  | .anySequence :: rest, text => (suffixes text).any (matchTokens rest)
  | .anyRecursive :: rest, text => (text :: restsBehindSlash text).any (matchTokens rest)
  | token :: rest, text =>
      match text with
      | c :: text => accepts c token && matchTokens rest text
      | [] => false

/-! ## Matching by rows

A row holds one mark for every rest of a text, the longest first.  The row of the rests that a list
of tokens matches is computed from the row of its tail, so that no rest is looked at twice for the
same tokens.
-/

/-- For every rest, whether it or a shorter one is marked. -/
def anyShorter : List Bool → List Bool
  | [] => []
  | mark :: marks =>
      let later := anyShorter marks
      (mark || later.headD false) :: later

/-- For every rest, whether the empty rest or one behind a slash in it is marked. -/
def anyBehindSlash : List Char → List Bool → List Bool
  | c :: rest, _ :: marks =>
      let later := anyBehindSlash rest marks
      ((c == '/' && marks.headD false) || later.headD false) :: later
  | _, marks => marks

/-- For every rest, whether the token stands for its first character and what follows is marked. -/
def afterFirst (token : Token) : List Char → List Bool → List Bool
  | c :: rest, _ :: marks => (accepts c token && marks.headD false) :: afterFirst token rest marks
  | _, _ => [false]

/-- For every rest of a text, whether the tokens match it. -/
def matchRow : List Token → List Char → List Bool
  | [], text => (suffixes text).map List.isEmpty
  | .anySequence :: rest, text => anyShorter (matchRow rest text)
  | .anyRecursive :: rest, text =>
      let marks := matchRow rest text
      List.zipWith (· || ·) marks (anyBehindSlash text marks)
  | token :: rest, text => afterFirst token text (matchRow rest text)

/-- The first mark of a row belongs to the whole text. -/
theorem headD_map_suffixes (mark : List Char → Bool) (text : List Char) :
    ((suffixes text).map mark).headD false = mark text := by
  cases text <;> rfl

theorem anyShorter_map (mark : List Char → Bool) (text : List Char) :
    anyShorter ((suffixes text).map mark) =
      (suffixes text).map fun rest => (suffixes rest).any mark := by
  induction text with
  | nil => simp [suffixes, anyShorter]
  | cons c rest ih =>
      rw [suffixes, List.map_cons, anyShorter, ih, headD_map_suffixes]
      simp [suffixes]

theorem anyBehindSlash_map (mark : List Char → Bool) (text : List Char) :
    anyBehindSlash text ((suffixes text).map mark) =
      (suffixes text).map fun rest => (restsBehindSlash rest).any mark := by
  induction text with
  | nil => simp [suffixes, anyBehindSlash, restsBehindSlash]
  | cons c rest ih =>
      rw [suffixes, List.map_cons, anyBehindSlash, ih, headD_map_suffixes, headD_map_suffixes]
      by_cases isSlash : c = '/' <;> simp [restsBehindSlash, isSlash]

theorem afterFirst_map (token : Token) (mark : List Char → Bool) (text : List Char) :
    afterFirst token text ((suffixes text).map mark) =
      (suffixes text).map fun rest =>
        match rest with
        | c :: rest => accepts c token && mark rest
        | [] => false := by
  induction text with
  | nil => simp [suffixes, afterFirst]
  | cons c rest ih =>
      rw [suffixes, List.map_cons, afterFirst, ih, headD_map_suffixes, List.map_cons]

/-- The row marks exactly the rests that the tokens match. -/
theorem matchRow_eq (tokens : List Token) (text : List Char) :
    matchRow tokens text = (suffixes text).map (matchTokens tokens) := by
  induction tokens with
  | nil => rfl
  | cons token rest ih =>
      cases token <;> simp only [matchRow, ih]
      case anySequence => simp only [anyShorter_map, matchTokens]
      case anyRecursive =>
          simp [anyBehindSlash_map, matchTokens, List.zipWith_map_left, List.zipWith_map_right,
            List.zipWith_self]
      all_goals
        rw [afterFirst_map]
        refine List.map_congr_left fun text _ => ?_
        cases text <;> rfl

/-- The pattern matches the whole text. -/
def isMatch (pattern : Pattern) (text : String) : Bool :=
  (matchRow pattern.tokens text.toList).headD false

theorem isMatch_eq (pattern : Pattern) (text : String) :
    pattern.isMatch text = matchTokens pattern.tokens text.toList := by
  rw [isMatch, matchRow_eq, headD_map_suffixes]

/-- The character that a token stands for if it stands for one only. -/
def character? : Token → Option Char
  | .character c => some c
  | _ => none

/-- The text that the pattern stands for if it has plain characters only. -/
def literal? (pattern : Pattern) : Option String :=
  (pattern.tokens.mapM character?).map String.ofList

/-- The pattern stands for any number of directories. -/
def isRecursive (pattern : Pattern) : Bool := pattern.tokens.contains .anyRecursive

/-- The pattern starts with a plain dot. -/
def startsWithDot (pattern : Pattern) : Bool := pattern.tokens.head? = some (.character '.')

end Pattern
end Glob
end ScriptLint
