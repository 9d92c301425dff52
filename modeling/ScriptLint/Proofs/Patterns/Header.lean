import ScriptLint.Proofs.Header
import ScriptLint.Proofs.Patterns.Matching

/-!
# The pattern of headers

Behind the keyword of a header every part of its pattern may be missing, so that nothing is taken
back from one part to the next.  Inside the `extends` clause the white space in front of a word
cannot be shared with it either.  The groups therefore hold what is read part by part, and their
offsets are the columns that are blamed.
-/

namespace ScriptLint
namespace Header

open Text Text.Pattern

/-- The parent behind its keyword: `\s+(\w+)`. -/
def parentPattern : Pattern := .seq (.run isSpace) (.group 5 (.run isWord))

/-- The clause that names the parent: `\s+(extends)\b(?:\s+(\w+))?`. -/
def clausePattern : Pattern :=
  .seq (.run isSpace)
    (.seq (.group 4 (.literal parentKeyword.toList)) (.seq .edge (optional parentPattern)))

/-- What may follow the keyword of a header: `(\s+)?(\w+)?(?:` the clause `)?([^;]*)`. -/
def restPattern : Pattern :=
  inTurn [optional (.group 2 (.run isSpace)), optional (.group 3 (.run isWord)),
    optional clausePattern, .group 6 (many (· != commentMarker))]

/-- The pattern of a header: the keyword at the start of the line, and what may follow it. -/
def pattern : Pattern := .seq .start (.seq (.group 1 (.literal keyword.toList)) restPattern)

/-- Judge what follows the name of a header by the groups of its pattern. -/
def judgeTail (line : List Char) (captures : Captures) : Except Blame Header :=
  if (captures.lookup 4).isSome && (captures.lookup 5).isNone then
    .error ⟨captures.start 4 + byteLength (captures.text 4), .missingParent⟩
  else
    match readFlags maxFlags (tokens (captures.start 6) (captures.text 6)) with
    | .ok flags =>
        .ok
          { name := String.ofList (captures.text 3)
            parent := (captures.lookup 5).map fun token => String.ofList token.text
            flags
            endColumn := byteLength line }
    | .error token => .error ⟨token.start, .unknownFlag (String.ofList token.text)⟩

/-- Judge a header by the groups of its pattern. -/
def judge (expected : String) (line : List Char) (captures : Captures) : Except Blame Header :=
  if (captures.lookup 2).isNone then
    .error ⟨byteLength keyword.toList, .missingSpace⟩
  else
    let column := byteLength keyword.toList + byteLength (captures.text 2)
    if (captures.lookup 3).isNone then
      .error ⟨column, .missingName⟩
    else if String.ofList (captures.text 3) = expected then
      judgeTail line captures
    else
      .error ⟨column, .wrongName expected (String.ofList (captures.text 3))⟩

/-! ## The clause -/

/-- The place behind a clause. -/
def ParentClause.place (cursor : Cursor) (clause : ParentClause) : Cursor :=
  let start := cursor.goTo (afterSpace cursor.rest)
  let named := start.keep 4 (start.goTo clause.afterKeyword)
  let parent := named.goTo (afterSpace clause.afterKeyword)
  if clause.parent.isSome then parent.keep 5 (parent.goTo clause.rest) else named

theorem first?_parentPattern (cursor : Cursor) :
    parentPattern.first? cursor =
      if startsSpace cursor.rest && !(word (afterSpace cursor.rest)).isEmpty then
        some ((cursor.goTo (afterSpace cursor.rest)).keep 5
          (cursor.goTo (afterWord (afterSpace cursor.rest))))
      else none := by
  have shuns := (shuns_run (p := isSpace) (q := isWord) fun _ => isSpace_of_isWord).group 5
  rw [parentPattern, first?_run_seq shuns, afterRun?, ← startsSpace, ← afterSpace]
  by_cases starts : startsSpace cursor.rest = true
  · rw [if_pos starts, Option.bind_some, first?_group, first?_run, Cursor.rest_goTo, starts,
      Bool.true_and, word, isEmpty_takeWhile, ← isNone_afterRun?, afterRun?]
    by_cases named : (afterSpace cursor.rest).head?.any isWord = true
    · rw [if_pos named]
      rfl
    · rw [if_neg named]
      rfl
  · rw [if_neg starts, Bool.eq_false_iff.mpr starts]
    rfl

/-- The clause is found where it is read. -/
theorem first?_clausePattern {cursor : Cursor} (inLine : cursor.rest <:+ cursor.line) :
    clausePattern.first? cursor = (parentClause? cursor.rest).map (ParentClause.place cursor) := by
  have isKeyword : Run isWord parentKeyword.toList := run_of_all (by decide) (by decide)
  have shuns := ((shuns_word isKeyword).group 4).seq (.seq .edge (optional parentPattern))
  have inRest : (cursor.goTo (afterSpace cursor.rest)).rest <:+ cursor.line :=
    (List.dropWhile_suffix isSpace).trans inLine
  rw [clausePattern, first?_run_seq shuns, parentClause?, afterRun?, ← startsSpace, ← afterSpace]
  split_ifs with starts
  · rw [Option.bind_some, first?_group_keyword isKeyword inRest, Cursor.rest_goTo]
    cases afterKeyword? parentKeyword.toList (afterSpace cursor.rest) with
    | none => rfl
    | some behind =>
        rw [Option.bind_some, first?_optional, first?_parentPattern, Cursor.rest_keep,
          Cursor.rest_goTo]
        dsimp only
        by_cases named : (startsSpace behind && !(word (afterSpace behind)).isEmpty) = true
        · rw [if_pos named, if_pos named]
          rfl
        · rw [if_neg named, if_neg named]
          rfl
  · rfl

/-- The texts that are read of a clause stand one behind the other. -/
theorem of_parentClause? {text behind rest : List Char} {parent : Option (List Char)}
    (read : parentClause? text = some ⟨parent, behind, rest⟩) :
    afterSpace text = parentKeyword.toList ++ behind ∧
      ∀ name ∈ parent, afterSpace behind = name ++ rest := by
  rw [parentClause?] at read
  split_ifs at read with starts
  cases found : afterKeyword? parentKeyword.toList (afterSpace text) with
  | none => simp [found] at read
  | some afterKeyword =>
      simp only [found] at read
      split_ifs at read with named
      · simp only [Option.some.injEq, ParentClause.mk.injEq] at read
        obtain ⟨rfl, rfl, rfl⟩ := read
        refine ⟨(afterKeyword?_eq_some_iff.mp found).1, fun name isName => ?_⟩
        rw [← Option.some.inj isName, word_append_afterWord]
      · simp only [Option.some.injEq, ParentClause.mk.injEq] at read
        obtain ⟨rfl, rfl, rfl⟩ := read
        exact ⟨(afterKeyword?_eq_some_iff.mp found).1,
          fun name isName => absurd isName (Option.not_mem_none name)⟩

/-! ## The rest of the line -/

section Tail

variable {cursor : Cursor} {number : Nat} {behind rest parent : List Char}

/-- The place behind a clause that may be missing. -/
def afterClause (cursor : Cursor) : Cursor :=
  ((parentClause? cursor.rest).map (ParentClause.place cursor)).getD cursor

/-- The keyword of the clause as it is kept. -/
def keptKeyword (cursor : Cursor) : Token :=
  ⟨(cursor.goTo (afterSpace cursor.rest)).offset, parentKeyword.toList⟩

theorem afterClause_of_none (absent : parentClause? cursor.rest = none) :
    afterClause cursor = cursor := by
  rw [afterClause, absent]
  rfl

theorem afterClause_of_missing (missing : parentClause? cursor.rest = some ⟨none, behind, rest⟩) :
    afterClause cursor =
      ⟨cursor.line, behind, (4, keptKeyword cursor) :: cursor.captures⟩ := by
  rw [afterClause, missing]
  exact Cursor.keep_eq (of_parentClause? missing).1

theorem afterClause_of_parent
    (present : parentClause? cursor.rest = some ⟨some parent, behind, rest⟩) :
    ∃ offset, afterClause cursor =
      ⟨cursor.line, rest, (5, ⟨offset, parent⟩) :: (4, keptKeyword cursor) :: cursor.captures⟩ := by
  obtain ⟨isKeyword, isParent⟩ := of_parentClause? present
  have named : (cursor.goTo (afterSpace cursor.rest)).keep 4 (cursor.goTo behind) =
      ⟨cursor.line, behind, (4, keptKeyword cursor) :: cursor.captures⟩ :=
    Cursor.keep_eq isKeyword
  refine ⟨Cursor.offset ⟨cursor.line, afterSpace behind, []⟩, ?_⟩
  rw [afterClause, present, Option.map_some, Option.getD_some, ParentClause.place,
    if_pos Option.isSome_some, Cursor.goTo_goTo, named]
  exact Cursor.keep_eq (isParent parent rfl)

theorem lookup_afterClause (others : (number == 4) = false ∧ (number == 5) = false) :
    (afterClause cursor).captures.lookup number = cursor.captures.lookup number := by
  cases found : parentClause? cursor.rest with
  | none => rw [afterClause_of_none found]
  | some clause =>
      obtain ⟨parent?, behind, rest⟩ := clause
      cases parent? with
      | none =>
          rw [afterClause_of_missing found]
          simp [List.lookup_cons, others]
      | some parent =>
          obtain ⟨offset, place⟩ := afterClause_of_parent found
          rw [place]
          simp [List.lookup_cons, others]

/-- The keyword of the clause ends where it is read. -/
theorem end_keptKeyword {parent : Option (List Char)} (inLine : cursor.rest <:+ cursor.line)
    (found : parentClause? cursor.rest = some ⟨parent, behind, rest⟩) :
    (keptKeyword cursor).start + byteLength (keptKeyword cursor).text =
      byteLength cursor.line - byteLength behind := by
  obtain ⟨before, whole⟩ := (List.dropWhile_suffix isSpace).trans inLine
  rw [← afterSpace, (of_parentClause? found).1] at whole
  rw [keptKeyword, Cursor.offset, Cursor.rest_goTo, (of_parentClause? found).1, Cursor.goTo,
    ← whole]
  simp only [byteLength_append]
  omega

/-- A clause with its parent, or none, leaves the flags to be judged. -/
theorem judgeTail_eq_complete {line rest : List Char} {captures : Captures}
    (whole : ¬((captures.lookup 4).isSome && (captures.lookup 5).isNone) = true)
    (start : captures.start 6 = byteLength line - byteLength rest)
    (text : captures.text 6 = rest.takeWhile (· != commentMarker)) :
    judgeTail line captures =
      complete line (captures.text 3) ((captures.lookup 5).map Token.text) rest := by
  rw [judgeTail, if_neg whole, start, text, complete, Option.map_map]
  cases readFlags maxFlags (tokens (byteLength line - byteLength rest)
    (rest.takeWhile (· != commentMarker))) <;> rfl

/-- Behind the name, the groups are judged as the text is read. -/
theorem judgeTail_eq (inLine : cursor.rest <:+ cursor.line)
    (fresh : cursor.captures.lookup 4 = none ∧ cursor.captures.lookup 5 = none) :
    judgeTail cursor.line ((afterClause cursor).keep? 6
        (some ((afterClause cursor).rest.dropWhile (· != commentMarker)))).captures =
      readTail cursor.line (cursor.captures.text 3) cursor.rest := by
  obtain ⟨noKeyword, noParent⟩ := fresh
  cases found : parentClause? cursor.rest with
  | none =>
      rw [readTail_of_none found, afterClause_of_none found, judgeTail_eq_complete]
      · rw [Cursor.text_keep?_of_ne rfl, Cursor.lookup_keep?_of_ne rfl, noParent]
        rfl
      · simp [noKeyword]
      · simp [Captures.start, Cursor.offset]
      · exact Cursor.text_keep?_many rfl
  | some clause =>
      obtain ⟨parent?, behind, rest⟩ := clause
      cases parent? with
      | none =>
          have keptParent : ((4, keptKeyword cursor) :: cursor.captures).lookup 5 = none := noParent
          rw [readTail_of_missing found, afterClause_of_missing found,
            ← end_keptKeyword inLine found, judgeTail]
          simp [Captures.start, Captures.text, keptParent]
      | some parent =>
          obtain ⟨offset, place⟩ := afterClause_of_parent found
          rw [readTail_of_parent found, place, judgeTail_eq_complete]
          · rfl
          · simp [List.lookup_cons]
          · simp [Captures.start, Cursor.offset]
          · exact Cursor.text_keep?_many rfl

end Tail

/-! ## The whole line -/

section Line

variable {cursor : Cursor}

/-- The place behind the white space and the name, either of which may be missing. -/
def afterName (cursor : Cursor) : Cursor :=
  (cursor.keep? 2 (afterRun? isSpace cursor.rest)).keep? 3
    (afterRun? isWord (afterSpace cursor.rest))

theorem rest_afterName : (afterName cursor).rest = afterWord (afterSpace cursor.rest) := by
  simp [afterName, afterWord, afterSpace]

theorem line_afterName : (afterName cursor).line = cursor.line := by simp [afterName]

theorem suffix_afterName (inLine : cursor.rest <:+ cursor.line) :
    (afterName cursor).rest <:+ (afterName cursor).line := by
  rw [rest_afterName, line_afterName]
  exact (List.dropWhile_suffix isWord).trans ((List.dropWhile_suffix isSpace).trans inLine)

/-- What follows the keyword of a header is passed from any place in a line. -/
theorem first?_restPattern (inLine : cursor.rest <:+ cursor.line) :
    restPattern.first? cursor =
      some ((afterClause (afterName cursor)).keep? 6
        (some ((afterClause (afterName cursor)).rest.dropWhile (· != commentMarker)))) := by
  have advances := (advances_group_run 2 isSpace).seq ((advances_group_run 3 isWord).seq
    ((advances_optional clausePattern).seq
      ((advances_group_many 6 (· != commentMarker)).seq advances_nil)))
  have clause : (clausePattern.first? (afterName cursor)).getD (afterName cursor) =
      afterClause (afterName cursor) := by
    rw [first?_clausePattern (suffix_afterName inLine), afterClause]
  have passed : ((cursor.keep? 2 (afterRun? isSpace cursor.rest)).keep? 3
      (afterRun? isWord (cursor.keep? 2 (afterRun? isSpace cursor.rest)).rest)) =
      afterName cursor := by
    rw [Cursor.rest_keep?, getD_afterRun?]
    rfl
  rw [restPattern, inTurn, inTurn, inTurn, inTurn, advances]
  simp only [Function.comp_apply, id, passed, clause]

section Kept

variable (fresh : cursor.captures.lookup 2 = none ∧ cursor.captures.lookup 3 = none)
include fresh

theorem isNone_lookup_space :
    ((afterName cursor).captures.lookup 2).isNone = !startsSpace cursor.rest := by
  rw [startsSpace, ← isNone_afterRun?, afterName, Cursor.lookup_keep?_of_ne rfl,
    Cursor.lookup_keep?_self, fresh.1, Option.or_none, Option.isNone_map]

theorem text_space : (afterName cursor).captures.text 2 = cursor.rest.takeWhile isSpace := by
  rw [afterName, Cursor.text_keep?_of_ne rfl, Cursor.text_keep?_run fresh.1 rfl]

theorem isNone_lookup_name :
    ((afterName cursor).captures.lookup 3).isNone = (word (afterSpace cursor.rest)).isEmpty := by
  rw [word, isEmpty_takeWhile, ← isNone_afterRun?, afterName, Cursor.lookup_keep?_self,
    Cursor.lookup_keep?_of_ne rfl, fresh.2, Option.or_none, Option.isNone_map]

theorem text_name : (afterName cursor).captures.text 3 = word (afterSpace cursor.rest) := by
  have there : afterSpace cursor.rest =
      (cursor.keep? 2 (afterRun? isSpace cursor.rest)).rest := by
    rw [Cursor.rest_keep?, getD_afterRun?]
    rfl
  rw [afterName, Cursor.text_keep?_run ?_ there]
  · rfl
  · rw [Cursor.lookup_keep?_of_ne rfl, fresh.2]

end Kept

/-- Behind the keyword, the groups are judged as the line is read. -/
theorem judge_eq_read (expected : String) (whole : keyword.toList ++ cursor.rest = cursor.line)
    (fresh : ∀ number ∈ [2, 3, 4, 5], cursor.captures.lookup number = none) :
    judge expected cursor.line ((afterClause (afterName cursor)).keep? 6
        (some ((afterClause (afterName cursor)).rest.dropWhile (· != commentMarker)))).captures =
      read expected cursor.line := by
  set kept := Cursor.captures _ with isKept
  simp only [List.forall_mem_cons] at fresh
  obtain ⟨noSpace, noName, noKeyword, noParent, -⟩ := fresh
  have inLine : cursor.rest <:+ cursor.line := ⟨keyword.toList, whole⟩
  have found := List.isPrefixOf?_eq_some_iff_append_eq.mpr whole
  have freshClause : (afterName cursor).captures.lookup 4 = none ∧
      (afterName cursor).captures.lookup 5 = none := by
    simp [afterName, noKeyword, noParent]
  have same {number : Nat} (isOther : (number == 6) = false)
      (others : (number == 4) = false ∧ (number == 5) = false) :
      kept.lookup number = (afterName cursor).captures.lookup number := by
    rw [isKept, Cursor.lookup_keep?_of_ne isOther, lookup_afterClause others]
  have separator : kept.text 2 = cursor.rest.takeWhile isSpace := by
    rw [Captures.text, same rfl ⟨rfl, rfl⟩, ← Captures.text, text_space ⟨noSpace, noName⟩]
  have name : kept.text 3 = word (afterSpace cursor.rest) := by
    rw [Captures.text, same rfl ⟨rfl, rfl⟩, ← Captures.text, text_name ⟨noSpace, noName⟩]
  have tail : judgeTail cursor.line kept = readTail cursor.line (word (afterSpace cursor.rest))
      (afterWord (afterSpace cursor.rest)) := by
    have read := judgeTail_eq (suffix_afterName inLine) freshClause
    rwa [line_afterName, rest_afterName, text_name ⟨noSpace, noName⟩] at read
  have column : byteLength keyword.toList + byteLength (cursor.rest.takeWhile isSpace) =
      byteLength cursor.line - byteLength (afterSpace cursor.rest) := by
    have lengths := congrArg byteLength (space_append_afterSpace cursor.rest)
    rw [byteLength_append] at lengths
    rw [← whole, byteLength_append, ← lengths]
    omega
  rw [judge, same rfl ⟨rfl, rfl⟩, same rfl ⟨rfl, rfl⟩, isNone_lookup_space ⟨noSpace, noName⟩,
    isNone_lookup_name ⟨noSpace, noName⟩, separator, name, tail, column, read, found]
  dsimp only
  cases startsSpace cursor.rest <;> rfl

end Line

/-- A header is read as its pattern matches: without a match there is no header, and otherwise the
groups decide. -/
theorem read_eq_pattern (expected : String) (line : List Char) :
    read expected line =
      (pattern.captures? line).elim (.error ⟨1, .missing⟩) (judge expected line) := by
  rw [pattern, captures?_start, first?_group_literal_seq]
  dsimp only
  cases found : keyword.toList.isPrefixOf? line with
  | none =>
      rw [read, found]
      rfl
  | some rest =>
      have whole := List.isPrefixOf?_eq_some_iff_append_eq.mp found
      set token : Token := ⟨Cursor.offset ⟨line, line, []⟩, keyword.toList⟩
      have place : (Cursor.mk line line []).keep 1 ((Cursor.mk line line []).goTo rest) =
          ⟨line, rest, [(1, token)]⟩ := Cursor.keep_eq whole.symm
      have judged := @judge_eq_read ⟨line, rest, [(1, token)]⟩ expected whole
        (by simp [List.lookup_cons])
      rw [Option.bind_some, place, first?_restPattern ⟨keyword.toList, whole⟩]
      exact judged.symm

end Header
end ScriptLint
