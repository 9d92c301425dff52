import ScriptLint.Proofs.Property
import ScriptLint.Proofs.Patterns.Matching

/-!
# The pattern of properties

Behind its keyword every part of the pattern of a property may be missing, but the last part is tied
to the end of the line: one or two words are taken for flags only if nothing follows them.  Words
can be cut short to let the pattern go on, but no cut brings the flags closer to the end of the line
than the longest words do.  So either the longest words reach the end, or the flags are left out as
a whole.
-/

namespace ScriptLint
namespace Property

open Text Text.Pattern

/-- A text in double quotes: `"[^"]*"`. -/
def quotedPattern : Pattern := .seq (.literal ['"']) (.seq (many (· != '"')) (.literal ['"']))

/-- A number or a word: `-?[\w.]+`. -/
def plainPattern : Pattern := .seq (optional (.literal ['-'])) (.run isPlain)

/-- A default value: `"[^"]*"|-?[\w.]+`. -/
def valuePattern : Pattern := .choice quotedPattern plainPattern

/-- A default: `=\s*("[^"]*"|-?[\w.]+)`. -/
def defaultPattern : Pattern :=
  .seq (.literal ['=']) (.seq (many isSpace) (.group 3 valuePattern))

/-- One or two words up to the end of the line: `(\w+)?\s*(\w+)?$`. -/
def flagsPattern : Pattern :=
  .seq (optional (.group 4 (.run isWord)))
    (.seq (many isSpace) (.seq (optional (.group 5 (.run isWord))) .finish))

/-- What may follow the keyword of a property:
`\s+(\w+)?\s*(?:` the default `)?\s*(?:` the flags `)?`. -/
def bodyPattern : Pattern :=
  .seq (.run isSpace) (inTurn [optional (.group 2 (.run isWord)), many isSpace,
    optional defaultPattern, many isSpace, optional flagsPattern])

/-- The pattern of a property: a type, `(\w+(?:\[\])?)\s+`, the keyword up to the end of the word,
and what may follow it. -/
def pattern : Pattern :=
  .seq .start (.seq (.group 1 typeName) (.seq (.run isSpace)
    (.seq (.literal "Property".toList) (.seq .edge (optional bodyPattern)))))

/-- The parts of a property by the groups of its pattern. -/
def Declaration.ofCaptures (captures : Captures) : Declaration where
  type := captures.text 1
  name := captures.text 2
  hasDefault := (captures.lookup 3).isSome
  access := captures.text 4
  visibility := captures.text 5

/-! ## The default -/

theorem first?_quotedPattern {cursor : Cursor} {others : List Char}
    (text : cursor.rest = '"' :: others) :
    quotedPattern.first? cursor = (afterValue? cursor.rest).map cursor.goTo := by
  have noQuote : (literal ['"']).Shuns (· != '"') := shuns_literal (by decide) []
  have stops := stops_dropWhile (· != '"') others
  rw [quotedPattern, first?_literal_seq, text, isPrefixOf?_singleton_self, Option.bind_some,
    first?_many_seq noQuote, first?_literal, Cursor.rest_goTo, Cursor.rest_goTo, afterValue?]
  cases closed : others.dropWhile (· != '"') with
  | nil => rfl
  | cons d rest =>
      rw [closed, stops_cons] at stops
      obtain rfl : d = '"' := by simpa using stops
      rw [isPrefixOf?_singleton_self]
      rfl

theorem first?_plainPattern {cursor : Cursor} {c : Char} {others : List Char} (unquoted : c ≠ '"')
    (text : cursor.rest = c :: others) :
    plainPattern.first? cursor = (afterValue? cursor.rest).map cursor.goTo := by
  rw [plainPattern, first?_seq_optional, first?_literal_seq, first?_run, text,
    afterValue?_cons unquoted]
  by_cases minus : c = '-'
  · subst minus
    have unsigned : afterRun? isPlain ('-' :: others) = none := rfl
    rw [isPrefixOf?_singleton_self, Option.bind_some, first?_run, unsigned, Option.map_none,
      Option.or_none, if_pos rfl]
    rfl
  · rw [isPrefixOf?_singleton_of_ne minus, Option.bind_none, Option.none_or, if_neg minus]
    rfl

theorem first?_valuePattern (cursor : Cursor) :
    valuePattern.first? cursor = (afterValue? cursor.rest).map cursor.goTo := by
  rw [valuePattern, first?_choice]
  cases text : cursor.rest with
  | nil =>
      rw [quotedPattern, plainPattern, first?_literal_seq, first?_seq_optional,
        first?_literal_seq, first?_run, text]
      rfl
  | cons c others =>
      by_cases quote : c = '"'
      · subst quote
        have noPlain : plainPattern.first? cursor = none := by
          rw [plainPattern, first?_seq_optional, first?_literal_seq, first?_run, text]
          rfl
        rw [first?_quotedPattern text, noPlain, Option.or_none, text]
      · have noQuoted : quotedPattern.first? cursor = none := by
          rw [quotedPattern, first?_literal_seq, text, isPrefixOf?_singleton_of_ne quote]
          rfl
        rw [noQuoted, Option.none_or, first?_plainPattern quote text, text]

theorem shuns_valuePattern : valuePattern.Shuns isSpace :=
  ((shuns_literal (by decide) []).seq _).choice
    ((shuns_literal (by decide) []).optional_seq (shuns_run fun _ => isSpace_of_isPlain))

/-- The place behind a default that starts at the cursor. -/
def behindDefault (cursor : Cursor) (rest : List Char) : Cursor :=
  (cursor.goTo (afterSpace cursor.rest.tail)).keep 3 (cursor.goTo rest)

theorem first?_defaultPattern (cursor : Cursor) :
    defaultPattern.first? cursor = (afterDefault? cursor.rest).map (behindDefault cursor) := by
  rw [defaultPattern, first?_literal_seq]
  by_cases equals : cursor.rest.head? = some '='
  · obtain ⟨others, text⟩ := List.head?_eq_some_iff.mp equals
    have place : behindDefault cursor = fun rest =>
        (cursor.goTo (afterSpace others)).keep 3 (cursor.goTo rest) := by
      funext rest
      rw [behindDefault, text, List.tail_cons]
    rw [place, text, isPrefixOf?_singleton_self, Option.bind_some,
      first?_many_seq (shuns_valuePattern.group 3), first?_group, first?_valuePattern,
      Option.map_map]
    rfl
  · have unequal : ['='].isPrefixOf? cursor.rest = none := by
      rw [isPrefixOf?_singleton]
      exact if_neg (by simpa using equals)
    rw [afterDefault?_of_head? equals, unequal]
    rfl

/-! ## The flags -/

section Flags

variable {cursor : Cursor}

/-- The place behind the longest words that can be flags. -/
def behindWords (cursor : Cursor) : Cursor :=
  ((cursor.keep? 4 (afterRun? isWord cursor.rest)).goTo
    (afterSpace (afterWord cursor.rest))).keep? 5
      (afterRun? isWord (afterSpace (afterWord cursor.rest)))

theorem rest_behindWords :
    (behindWords cursor).rest = afterWord (afterSpace (afterWord cursor.rest)) := by
  simp [behindWords, afterWord]

/-- One or two words without anything behind them are all passed by the longest ones. -/
theorem afterWord_of_words {first gap second : List Char} (isFirst : ∀ c ∈ first, isWord c = true)
    (blank : ∀ c ∈ gap, isSpace c = true) (isSecond : ∀ c ∈ second, isWord c = true) :
    afterWord (afterSpace (afterWord (first ++ (gap ++ second)))) = [] := by
  have noRest {text : List Char} (all : ∀ c ∈ text, isWord c = true) : afterWord text = [] :=
    List.dropWhile_eq_nil_iff.mpr all
  cases gap with
  | nil =>
      have whole : ∀ c ∈ first ++ second, isWord c = true := by
        simp only [List.mem_append]
        exact fun c member => member.elim (isFirst c) (isSecond c)
      rw [List.nil_append, noRest whole]
      rfl
  | cons d others =>
      have gapStops : Stops isWord (d :: others ++ second) :=
        stops_cons.mpr (isWord_of_isSpace (blank d List.mem_cons_self))
      have secondStops : Stops isSpace second := by
        cases second with
        | nil => exact stops_nil isSpace
        | cons c rest => exact stops_cons.mpr (isSpace_of_isWord (isSecond c List.mem_cons_self))
      rw [afterWord, afterWord, dropWhile_append_stops isFirst gapStops,
        afterSpace_append blank secondStops]
      exact noRest isSecond

/-- The words and the white space in front of the end of the line. -/
def wordsPattern : Pattern :=
  .seq (.seq (optional (.group 4 (.run isWord))) (many isSpace)) (optional (.group 5 (.run isWord)))

theorem advances_wordsPattern : wordsPattern.Advances behindWords := by
  have advances := ((advances_group_run 4 isWord).seq (advances_many isSpace)).seq
    (advances_group_run 5 isWord)
  intro cursor
  rw [wordsPattern, advances]
  simp [behindWords, afterWord, afterSpace]

theorem words_of_mem_ways {next : Cursor} (isWay : next ∈ wordsPattern.ways cursor) :
    ∃ first gap second, (∀ c ∈ first, isWord c = true) ∧ (∀ c ∈ gap, isSpace c = true) ∧
      (∀ c ∈ second, isWord c = true) ∧
      cursor.rest = first ++ (gap ++ (second ++ next.rest)) := by
  rw [wordsPattern, ways_seq, List.mem_flatMap] at isWay
  obtain ⟨behindGap, isBehindGap, isLast⟩ := isWay
  rw [ways_seq, List.mem_flatMap] at isBehindGap
  obtain ⟨behindFirst, isFirst, isGap⟩ := isBehindGap
  obtain ⟨first, firstWord, firstSplit⟩ :=
    ((passes_run isWord).group 4).optional cursor behindFirst isFirst
  obtain ⟨gap, blank, gapSplit⟩ := (passes_run isSpace).optional behindFirst behindGap isGap
  obtain ⟨second, secondWord, secondSplit⟩ :=
    ((passes_run isWord).group 5).optional behindGap next isLast
  exact ⟨first, gap, second, firstWord, blank, secondWord,
    by rw [firstSplit, gapSplit, secondSplit]⟩

/-- The flags are the longest words if these reach the end of the line, and left out otherwise. -/
theorem first?_flagsPattern :
    flagsPattern.first? cursor =
      if (afterWord (afterSpace (afterWord cursor.rest))).isEmpty then some (behindWords cursor)
      else none := by
  have found := advances_wordsPattern cursor
  rw [flagsPattern, ← first?_seq_seq, ← first?_seq_seq, ← wordsPattern]
  split_ifs with reaches
  · have ends : finish.ways (behindWords cursor) = [behindWords cursor] := by
      rw [ways_finish, rest_behindWords, if_pos reaches]
    rw [first?_seq_of_goesOn found (by simp [ends]), first?, ends]
    rfl
  · apply first?_seq_of_stuck
    intro next isWay
    obtain ⟨first, gap, second, isFirst, blank, isSecond, split⟩ := words_of_mem_ways isWay
    rw [ways_finish]
    apply if_neg
    intro ends
    rw [List.isEmpty_iff.mp ends, List.append_nil] at split
    rw [split, afterWord_of_words isFirst blank isSecond] at reaches
    exact reaches rfl

/-- The place behind flags that may be missing. -/
def afterFlags (cursor : Cursor) : Cursor := (flagsPattern.first? cursor).getD cursor

theorem lookup_afterFlags {number : Nat} (others : (number == 4) = false ∧ (number == 5) = false) :
    (afterFlags cursor).captures.lookup number = cursor.captures.lookup number := by
  rw [afterFlags, first?_flagsPattern]
  split_ifs
  · rw [Option.getD_some, behindWords, Cursor.lookup_keep?_of_ne others.2]
    exact Cursor.lookup_keep?_of_ne others.1 _
  · rfl

/-- The flags that are kept are the words that close the text. -/
theorem text_afterFlags
    (fresh : cursor.captures.lookup 4 = none ∧ cursor.captures.lookup 5 = none) :
    (afterFlags cursor).captures.text 4 = (closingWords cursor.rest).1 ∧
      (afterFlags cursor).captures.text 5 = (closingWords cursor.rest).2 := by
  rw [afterFlags, first?_flagsPattern, closingWords]
  split_ifs
  · have freshSecond : ((cursor.keep? 4 (afterRun? isWord cursor.rest)).goTo
        (afterSpace (afterWord cursor.rest))).captures.lookup 5 = none :=
      (Cursor.lookup_keep?_of_ne rfl _).trans fresh.2
    rw [Option.getD_some, behindWords, Cursor.text_keep?_of_ne rfl]
    exact ⟨Cursor.text_keep?_run fresh.1 rfl, Cursor.text_keep?_run freshSecond rfl⟩
  · rw [Option.getD_none, Captures.text, Captures.text, fresh.1, fresh.2]
    exact ⟨rfl, rfl⟩

end Flags

/-! ## The whole line -/

section Line

variable {cursor : Cursor}

/-- The place behind a default that may be missing. -/
def afterDefault (cursor : Cursor) : Cursor :=
  ((afterDefault? cursor.rest).map (behindDefault cursor)).getD cursor

theorem rest_afterDefault :
    (afterDefault cursor).rest = (afterDefault? cursor.rest).getD cursor.rest := by
  rw [afterDefault]
  cases afterDefault? cursor.rest <;> rfl

theorem isSome_lookup_afterDefault (fresh : cursor.captures.lookup 3 = none) :
    ((afterDefault cursor).captures.lookup 3).isSome = (afterDefault? cursor.rest).isSome := by
  rw [afterDefault]
  cases afterDefault? cursor.rest with
  | none => exact congrArg Option.isSome fresh
  | some rest => rfl

theorem lookup_afterDefault {number : Nat} (other : (number == 3) = false) :
    (afterDefault cursor).captures.lookup number = cursor.captures.lookup number := by
  rw [afterDefault]
  cases afterDefault? cursor.rest with
  | none => rfl
  | some rest => simp [behindDefault, Cursor.keep, Cursor.goTo, List.lookup_cons, other]

/-- The place behind the white space that follows a name and a default. -/
def beforeFlags (cursor : Cursor) : Cursor :=
  let named := cursor.keep? 2 (afterRun? isWord cursor.rest)
  let valued := afterDefault (named.goTo (afterSpace (afterWord cursor.rest)))
  valued.goTo (afterSpace valued.rest)

theorem first?_bodyPattern :
    bodyPattern.first? cursor =
      (afterRun? isSpace cursor.rest).map fun rest =>
        afterFlags (beforeFlags (cursor.goTo rest)) := by
  have advances := (advances_group_run 2 isWord).seq ((advances_many isSpace).seq
    ((advances_optional defaultPattern).seq ((advances_many isSpace).seq
      ((advances_optional flagsPattern).seq advances_nil))))
  rw [bodyPattern, inTurn, inTurn, inTurn, inTurn, inTurn,
    first?_seq_of_advances advances, first?_run, Option.map_map]
  apply congrArg (Option.map · (afterRun? isSpace cursor.rest))
  funext rest
  simp [first?_defaultPattern, afterDefault, beforeFlags, afterFlags, afterSpace, afterWord]

theorem rest_beforeFlags :
    (beforeFlags cursor).rest =
      afterSpace ((afterDefault? (afterSpace (afterWord cursor.rest))).getD
        (afterSpace (afterWord cursor.rest))) := by
  rw [beforeFlags, Cursor.rest_goTo, rest_afterDefault]
  rfl

theorem lookup_beforeFlags {number : Nat} (other : (number == 3) = false) :
    (beforeFlags cursor).captures.lookup number =
      (cursor.keep? 2 (afterRun? isWord cursor.rest)).captures.lookup number :=
  lookup_afterDefault other

/-- The groups hold what is read of a text behind the keyword. -/
theorem ofCaptures_afterFlags (starts : startsSpace cursor.rest = true)
    (fresh : ∀ number ∈ [2, 3, 4, 5], cursor.captures.lookup number = none) :
    Declaration.ofCaptures
        (afterFlags (beforeFlags (cursor.goTo (afterSpace cursor.rest)))).captures =
      readBody (cursor.captures.text 1) cursor.rest := by
  simp only [List.forall_mem_cons] at fresh
  obtain ⟨noName, noDefault, noAccess, noVisibility, -⟩ := fresh
  set start := cursor.goTo (afterSpace cursor.rest) with isStart
  have freshFlags : (beforeFlags start).captures.lookup 4 = none ∧
      (beforeFlags start).captures.lookup 5 = none := by
    rw [lookup_beforeFlags rfl, lookup_beforeFlags rfl, Cursor.lookup_keep?_of_ne rfl,
      Cursor.lookup_keep?_of_ne rfl]
    exact ⟨noAccess, noVisibility⟩
  have type : (afterFlags (beforeFlags start)).captures.text 1 = cursor.captures.text 1 := by
    rw [Captures.text, lookup_afterFlags ⟨rfl, rfl⟩, lookup_beforeFlags rfl,
      Cursor.lookup_keep?_of_ne rfl]
    rfl
  have name : (afterFlags (beforeFlags start)).captures.text 2 = word start.rest := by
    rw [Captures.text, lookup_afterFlags ⟨rfl, rfl⟩, lookup_beforeFlags rfl, ← Captures.text]
    exact Cursor.text_keep?_run noName rfl
  have default : ((afterFlags (beforeFlags start)).captures.lookup 3).isSome =
      (afterDefault? (afterSpace (afterWord start.rest))).isSome := by
    rw [lookup_afterFlags ⟨rfl, rfl⟩]
    exact isSome_lookup_afterDefault ((Cursor.lookup_keep?_of_ne rfl _).trans noDefault)
  obtain ⟨access, visibility⟩ := text_afterFlags freshFlags
  rw [rest_beforeFlags] at access visibility
  rw [Declaration.ofCaptures, type, name, default, access, visibility, readBody, if_pos starts]
  rfl

end Line

/-- A property is read as its pattern matches. -/
theorem read?_eq_pattern (line : List Char) :
    read? line = (pattern.captures? line).map Declaration.ofCaptures := by
  have isKeyword : Run isWord "Property".toList := run_of_all (by decide) (by decide)
  have shuns := (shuns_word isKeyword).seq (.seq .edge (optional bodyPattern))
  rw [pattern, captures?_start, first?_typeName shuns, read?]
  dsimp only
  cases typed : typeName? line with
  | none => rfl
  | some pair =>
      obtain ⟨type, rest⟩ := pair
      obtain ⟨-, -, gap, -, whole⟩ := typeName?_eq_some_iff.mp typed
      rw [Option.bind_some, first?_keyword isKeyword ⟨type ++ gap, whole.symm⟩]
      dsimp only
      cases afterKeyword? "Property".toList rest with
      | none => rfl
      | some behind =>
          rw [Option.bind_some, first?_optional, first?_bodyPattern, Cursor.rest_goTo, afterRun?,
            ← startsSpace]
          by_cases starts : startsSpace behind = true
          · have kept := @ofCaptures_afterFlags
              ⟨line, behind, [(1, ⟨Cursor.offset ⟨line, line, []⟩, type⟩)]⟩ starts
              (by simp [List.lookup_cons])
            rw [if_pos starts]
            exact congrArg some kept.symm
          · rw [if_neg starts, Option.map_some, readBody, if_neg starts]
            rfl

/-- Flags with something behind them are left out as a whole, the default in front stays. -/
example :
    (pattern.captures? "int[] Property P = -1.5 Auto Hidden ;".toList).map Declaration.ofCaptures =
      some
        { type := "int[]".toList, name := "P".toList, hasDefault := true, access := []
          visibility := [] } := by
  decide +kernel

end Property
end ScriptLint
