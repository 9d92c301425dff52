import ScriptLint.Block.Opener
import ScriptLint.Proofs.Patterns.Matching

/-!
# The patterns of openers

Behind its keyword, every part of the pattern of an opener may be missing.  Each part therefore
takes what it can get from what the parts in front have left, and what is read part by part is what
the pattern keeps.  Only the type in front of a named block can be taken back: a line that goes on
behind a type with something else than the keyword may still start with the keyword.
-/

namespace ScriptLint
namespace Block

open Text Text.Pattern

/-! ## Tests -/

/-- What may follow the keyword of a test:
`(\s*)(\()?([^)|&=!"'@#\-*+]+)?([|&=!"'@#\-*+/(]+)?(\))?`. -/
def testParts : Pattern :=
  inTurn [.group 1 (many isSpace), optional (.group 2 (.literal ['('])),
    optional (.group 3 (.run (!endsBody ·))), optional (.group 4 (.run isDangling)),
    optional (.group 5 (.literal [')']))]

/-- The pattern of an opener of a test: the keyword at the start of the line, up to the end of the
word, and what may follow it. -/
def testPattern (keyword : List Char) : Pattern :=
  .seq .start (.seq (.literal keyword) (.seq .edge testParts))

/-- The parts of a test by the groups of its pattern. -/
def Test.ofCaptures (captures : Captures) : Test where
  separator := captures.text 1
  opened := (captures.lookup 2).isSome
  body := captures.text 3
  dangling := captures.text 4
  closed := (captures.lookup 5).isSome

theorem first?_testParts (line text : List Char) :
    ((testParts.first? ⟨line, text, []⟩).map Cursor.captures).map Test.ofCaptures =
      some (Test.read text) := by
  have advances := (advances_group_many 1 isSpace).seq ((advances_group_literal 2 ['(']).seq
    ((advances_group_run 3 (!endsBody ·)).seq ((advances_group_run 4 isDangling).seq
      ((advances_group_literal 5 [')']).seq advances_nil))))
  rw [testParts, inTurn, inTurn, inTurn, inTurn, inTurn, advances]
  simp [Test.ofCaptures, Test.read, Cursor.text_keep?_run, Cursor.text_keep?_many,
    Cursor.text_keep?_of_ne, isSome_isPrefixOf?_singleton, getD_isPrefixOf?_singleton, afterSpace,
    -List.isSome_isPrefixOf?_eq_isPrefixOf]

/-- A test is read as its pattern matches. -/
theorem readTest?_eq_pattern {keyword : List Char} (isKeyword : Run isWord keyword)
    (line : List Char) :
    readTest? keyword line =
      (((testPattern keyword).captures? line).map Test.ofCaptures).map fun test =>
        test.closeCall.judge keyword (byteLength line) := by
  rw [testPattern, captures?_start, first?_keyword isKeyword List.suffix_rfl, readTest?]
  cases afterKeyword? keyword line with
  | none => rfl
  | some rest =>
      have parts := first?_testParts line rest
      rw [Option.bind_some, Cursor.goTo, parts]
      rfl

/-! ## Named blocks -/

/-- What may follow the keyword of a named block: `(\s*)(\w+)?(\()?([^)]+)?(\))?`. -/
def namedParts : Pattern :=
  inTurn [.group 2 (many isSpace), optional (.group 3 (.run isWord)),
    optional (.group 4 (.literal ['('])), optional (.group 5 (.run (· != ')'))),
    optional (.group 6 (.literal [')']))]

/-- The pattern of an opener of a named block: a type and white space, `(?:(\w+(?:\[\])?)\s+)?`, the
keyword up to the end of the word, and what may follow it. -/
def namedPattern (keyword : List Char) : Pattern :=
  .seq .start (.seq (optional (.seq (.group 1 typeName) (.run isSpace)))
    (.seq (.literal keyword) (.seq .edge namedParts)))

/-- What is wrong with the argument list that is kept. -/
def keptArgumentFault? (captures : Captures) : Option Fault :=
  if (captures.lookup 4).isNone then some .missingOpenParenthesis
  else if (captures.lookup 6).isNone then some .missingCloseParenthesis
  else if (trimEnd (captures.text 5)).getLast? = some ',' then some .trailingComma
  else none

/-- Judge a named block by the groups of its pattern. -/
def judgeNamed (keyword : List Char) (captures : Captures) : Opener :=
  if (captures.lookup 3).isNone then
    .invalid (label [captures.text 1, keyword]) 1 .missingName
  else
    let label := label [captures.text 1, captures.text 3, keyword]
    match keptArgumentFault? captures with
    | some fault => .invalid label 1 fault
    | none => .valid label

/-- Judge a named block by what follows its keyword. -/
def NamedStart.judge (keyword : List Char) (start : NamedStart) : Opener :=
  let name := word (afterSpace start.rest)
  if name.isEmpty then
    .invalid (label [start.type, keyword]) 1 .missingName
  else
    let label := label [start.type, name, keyword]
    match argumentFault? (afterWord (afterSpace start.rest)) with
    | some fault => .invalid label 1 fault
    | none => .valid label

theorem readNamed?_eq_judge (keyword line : List Char) :
    readNamed? keyword line = (namedStart? keyword line).map (NamedStart.judge keyword) := by
  rw [readNamed?]
  cases namedStart? keyword line with
  | none => rfl
  | some start =>
      rw [Option.map_some, NamedStart.judge]
      dsimp only
      split_ifs with unnamed
      · rfl
      · cases argumentFault? (afterWord (afterSpace start.rest)) <;> rfl

theorem head?_dropWhile_ne (c : Char) (text : List Char) :
    ((text.dropWhile (· != c)).head? == some c) = text.contains c := by
  induction text with
  | nil => rfl
  | cons d rest ih =>
      by_cases same : d = c
      · simp [same]
      · simp [same, Ne.symm same, ih]

/-- The fault of an argument list whose groups are kept from a text behind a name. -/
theorem keptArgumentFault?_eq {captures : Captures} {text inner : List Char}
    (isInner : inner = if text.head? == some '(' then text.tail else text)
    (opened : (captures.lookup 4).isSome = (text.head? == some '('))
    (arguments : captures.text 5 = inner.takeWhile (· != ')'))
    (closed : (captures.lookup 6).isSome = inner.contains ')') :
    keptArgumentFault? captures = argumentFault? text := by
  rw [keptArgumentFault?, arguments, ← Option.not_isSome, ← Option.not_isSome, opened, closed]
  by_cases starts : text.head? = some '('
  · obtain ⟨rest, rfl⟩ := List.head?_eq_some_iff.mp starts
    obtain rfl : inner = rest := isInner
    rfl
  · have unopened : (text.head? == some '(') = false := beq_eq_false_iff_ne.mpr starts
    rw [unopened, argumentFault?.eq_2]
    · rfl
    · rintro rest rfl
      exact starts rfl

theorem first?_namedParts (keyword line rest : List Char) {captures : Captures}
    (fresh : ∀ number ∈ [2, 3, 4, 5, 6], captures.lookup number = none) :
    ((namedParts.first? ⟨line, rest, captures⟩).map Cursor.captures).map (judgeNamed keyword) =
      some (NamedStart.judge keyword ⟨captures.text 1, rest⟩) := by
  have advances := (advances_group_many 2 isSpace).seq ((advances_group_run 3 isWord).seq
    ((advances_group_literal 4 ['(']).seq ((advances_group_run 5 (· != ')')).seq
      ((advances_group_literal 6 [')']).seq advances_nil))))
  simp only [List.forall_mem_cons] at fresh
  obtain ⟨-, freshName, freshOpen, freshArguments, freshClose, -⟩ := fresh
  rw [namedParts, inTurn, inTurn, inTurn, inTurn, inTurn, advances, Option.map_some,
    Option.map_some]
  set kept := Cursor.captures _ with isKept
  have type : kept.text 1 = captures.text 1 := by simp [isKept, Cursor.text_keep?_of_ne]
  have unnamed : (kept.lookup 3).isNone = (word (afterSpace rest)).isEmpty := by
    rw [word, isEmpty_takeWhile, ← isNone_afterRun?]
    simp [isKept, freshName, afterSpace]
  have name : kept.text 3 = word (afterSpace rest) := by
    simp [isKept, freshName, Cursor.text_keep?_of_ne, Cursor.text_keep?_run, word, afterSpace]
  have fault : keptArgumentFault? kept = argumentFault? (afterWord (afterSpace rest)) := by
    apply keptArgumentFault?_eq rfl
    · simp [isKept, freshOpen, isSome_isPrefixOf?_singleton, afterWord, afterSpace,
        -List.isSome_isPrefixOf?_eq_isPrefixOf]
    · simp [isKept, freshArguments, Cursor.text_keep?_of_ne, Cursor.text_keep?_run,
        getD_isPrefixOf?_singleton, afterWord, afterSpace]
    · rw [← head?_dropWhile_ne]
      simp [isKept, freshClose, isSome_isPrefixOf?_singleton, getD_isPrefixOf?_singleton, afterWord,
        afterSpace, -List.isSome_isPrefixOf?_eq_isPrefixOf]
  rw [judgeNamed, NamedStart.judge, type, unnamed, name, fault]

/-- From the keyword on, a named block is read as its pattern matches, whatever type is kept. -/
theorem first?_namedKeyword {keyword line rest : List Char} (isKeyword : Run isWord keyword)
    (inLine : rest <:+ line) {captures : Captures}
    (fresh : ∀ number ∈ [2, 3, 4, 5, 6], captures.lookup number = none) :
    (((Pattern.seq (.literal keyword) (.seq .edge namedParts)).first?
        ⟨line, rest, captures⟩).map Cursor.captures).map (judgeNamed keyword) =
      ((afterKeyword? keyword rest).map (NamedStart.mk (captures.text 1))).map
        (NamedStart.judge keyword) := by
  rw [first?_keyword isKeyword inLine]
  cases afterKeyword? keyword rest with
  | none => rfl
  | some behind => exact first?_namedParts keyword line behind fresh

/-- A named block is read as its pattern matches. -/
theorem readNamed?_eq_pattern {keyword : List Char} (isKeyword : Run isWord keyword)
    (line : List Char) :
    readNamed? keyword line =
      ((namedPattern keyword).captures? line).map (judgeNamed keyword) := by
  have shuns : (Pattern.seq (.literal keyword) (.seq .edge namedParts)).Shuns isSpace :=
    (shuns_word isKeyword).seq _
  have untyped := @first?_namedKeyword keyword line line isKeyword List.suffix_rfl []
    (fun _ _ => rfl)
  rw [readNamed?_eq_judge, namedStart?, namedPattern, captures?_start, first?_seq_optional,
    first?_seq_seq, first?_typeName shuns]
  dsimp only
  cases typed : typeName? line with
  | none => exact untyped.symm
  | some pair =>
      obtain ⟨type, rest⟩ := pair
      obtain ⟨-, -, gap, -, whole⟩ := typeName?_eq_some_iff.mp typed
      have inLine : rest <:+ line := ⟨type ++ gap, whole.symm⟩
      have fresh : ∀ number ∈ [2, 3, 4, 5, 6],
          ([(1, ⟨Cursor.offset ⟨line, line, []⟩, type⟩)] : Captures).lookup number = none := by
        simp [List.lookup_cons]
      have afterType := first?_namedKeyword isKeyword inLine fresh
      rw [Option.bind_some, Option.map_or, Option.map_or, afterType, untyped]
      dsimp only
      cases afterKeyword? keyword rest <;> rfl

/-! ## All families -/

/-- The pattern of the openers of a family. -/
def Kind.pattern (kind : Kind) : Pattern :=
  match kind with
  | .function | .event => namedPattern kind.opening.toList
  | .ifTest | .whileLoop => testPattern kind.opening.toList

/-- Judge an opener of a family by the groups of its pattern. -/
def Kind.judge (kind : Kind) (line : List Char) (captures : Captures) : Opener :=
  match kind with
  | .function | .event => judgeNamed kind.opening.toList captures
  | .ifTest | .whileLoop =>
      (Test.ofCaptures captures).closeCall.judge kind.opening.toList (byteLength line)

theorem Kind.run_opening (kind : Kind) : Run isWord kind.opening.toList := by
  cases kind <;> exact run_of_all (by decide) (by decide)

/-- A line is an opener of a family exactly if its pattern is found in the line, and what the groups
keep decides whether it is well formed. -/
theorem Kind.readOpener?_eq_pattern (kind : Kind) (line : List Char) :
    kind.readOpener? line = (kind.pattern.captures? line).map (kind.judge line) := by
  have isKeyword := kind.run_opening
  cases kind with
  | function | event => exact readNamed?_eq_pattern isKeyword line
  | ifTest | whileLoop => exact (readTest?_eq_pattern isKeyword line).trans (Option.map_map ..)

end Block
end ScriptLint
