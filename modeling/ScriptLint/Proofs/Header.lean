import ScriptLint.Proofs.Catalogue
import ScriptLint.Proofs.Text.Runs

/-!
# The grammar of header lines

A header line is the keyword, a name, a parent behind `extends`, at most two flags and a comment,
with white space in front of each part.  The reader takes the longest runs it can, and the parts of
a written header can be taken for each other in one way only, so that it accepts exactly the written
headers and puts on record what was written.
-/

namespace ScriptLint

open Text (Run Stops isSpace isWord)

namespace Flag

theorem ofToken?_eq_some_iff {token : List Char} {flag : Flag} :
    ofToken? token = some flag ↔ token = flag.spelling.toList := by
  constructor
  · intro read
    rw [ofToken?] at read
    split_ifs at read with isConditional isHidden
    · obtain rfl := Option.some.inj read
      exact isConditional
    · obtain rfl := Option.some.inj read
      exact isHidden
  · rintro rfl
    cases flag <;> decide

theorem run_spelling (flag : Flag) : Run isWord flag.spelling.toList := by
  cases flag <;> exact Text.run_of_all (by decide) (by decide)

end Flag

namespace Header

/-! ## The grammar -/

/-- The text of an `extends` clause with this parent; empty without one. -/
inductive WritesParent : Option (List Char) → List Char → Prop where
  | absent : WritesParent none []
  | present {gap behind parent : List Char} (isGap : Run isSpace gap)
      (isGapBehind : Run isSpace behind) (isName : Run isWord parent) :
      WritesParent (some parent) (gap ++ "extends".toList ++ behind ++ parent)

/-- The clause of the parent and what follows it; where there is no clause, what follows does not
start with its keyword. -/
structure WritesClause (parent : Option (List Char)) (clause rest : List Char) : Prop where
  writes : WritesParent parent clause
  absent : parent = none → ∀ gap behind, Run isSpace gap → Stops isWord behind →
    rest ≠ gap ++ ("extends".toList ++ behind)
  ends : Stops isWord rest

/-- The text of the flags, with white space in front of each. -/
inductive WritesFlags : List Flag → List Char → Prop where
  | nil : WritesFlags [] []
  | cons {flag : Flag} {flags : List Flag} {gap text : List Char} (isGap : Run isSpace gap)
      (later : WritesFlags flags text) :
      WritesFlags (flag :: flags) (gap ++ flag.spelling.toList ++ text)

/-- The text ends a line: white space, and behind it nothing or a comment. -/
inductive EndsLine : List Char → Prop where
  | plain {blanks : List Char} (blank : ∀ c ∈ blanks, isSpace c = true) : EndsLine blanks
  | comment {blanks : List Char} (blank : ∀ c ∈ blanks, isSpace c = true) (rest : List Char) :
      EndsLine (blanks ++ ';' :: rest)

/-- The text behind the name in a header line with this parent and these flags. -/
inductive WritesTail (parent : Option (List Char)) (flags : List Flag) : List Char → Prop where
  | intro {clause words final : List Char} (isClause : WritesParent parent clause)
      (areFlags : WritesFlags flags words) (atMostTwo : flags.length ≤ 2)
      (ends : EndsLine final) : WritesTail parent flags (clause ++ words ++ final)

/-- A header line with this name, this parent and these flags. -/
inductive Writes (name : List Char) (parent : Option (List Char)) (flags : List Flag) :
    List Char → Prop where
  | intro {gap tail : List Char} (isGap : Run isSpace gap) (isName : Run isWord name)
      (isTail : WritesTail parent flags tail) :
      Writes name parent flags ("Scriptname".toList ++ gap ++ name ++ tail)

/-! ## Where the parts end -/

theorem EndsLine.split {text : List Char} (ends : EndsLine text) :
    ∃ blanks comment, text = blanks ++ comment ∧ (∀ c ∈ blanks, isSpace c = true) ∧
      (comment = [] ∨ ∃ rest, comment = ';' :: rest) := by
  cases ends with
  | plain blank => exact ⟨text, [], (List.append_nil text).symm, blank, Or.inl rfl⟩
  | comment blank rest => exact ⟨_, _, rfl, blank, Or.inr ⟨rest, rfl⟩⟩

theorem EndsLine.stops {text : List Char} (ends : EndsLine text) : Stops isWord text := by
  obtain ⟨blanks, comment, rfl, blank, isComment⟩ := ends.split
  cases blanks with
  | nil =>
      rcases isComment with rfl | ⟨rest, rfl⟩
      · exact Text.stops_nil isWord
      · exact Text.stops_cons.mpr (by decide)
  | cons c blanks =>
      exact Text.stops_cons.mpr (Text.isWord_of_isSpace (blank c List.mem_cons_self))

theorem WritesFlags.stops_append {flags : List Flag} {words rest : List Char}
    (areFlags : WritesFlags flags words) (stops : Stops isWord rest) :
    Stops isWord (words ++ rest) := by
  cases areFlags with
  | nil => exact stops
  | cons isGap later =>
      rw [List.append_assoc, List.append_assoc]
      exact isGap.stops_append (fun c => Text.isWord_of_isSpace) _

theorem WritesTail.stops {parent : Option (List Char)} {flags : List Flag} {text : List Char}
    (isTail : WritesTail parent flags text) : Stops isWord text := by
  obtain ⟨isClause, areFlags, -, ends⟩ := isTail
  rw [List.append_assoc]
  cases isClause with
  | absent => exact areFlags.stops_append ends.stops
  | present isGap _ _ =>
      simp only [List.append_assoc]
      exact isGap.stops_append (fun c => Text.isWord_of_isSpace) _

/-! ## Reading flags -/

theorem readFlags_cons_eq_ok_iff {room : Nat} {token : Text.Token} {rest : List Text.Token}
    {flags : List Flag} :
    readFlags room (token :: rest) = .ok flags ↔
      ∃ flag space later, token.text = flag.spelling.toList ∧ room = space + 1 ∧
        readFlags space rest = .ok later ∧ flags = flag :: later := by
  constructor
  · intro read
    cases isFlag : Flag.ofToken? token.text with
    | none => simp [readFlags, isFlag] at read
    | some flag =>
        cases room with
        | zero => simp [readFlags, isFlag] at read
        | succ space =>
            rw [readFlags.eq_2 token rest flag space isFlag] at read
            cases readRest : readFlags space rest with
            | error other => simp [readRest, Except.map] at read
            | ok later =>
                rw [readRest] at read
                exact ⟨flag, space, later, Flag.ofToken?_eq_some_iff.mp isFlag, rfl, readRest,
                  (Except.ok.inj read).symm⟩
  · rintro ⟨flag, space, later, isFlag, rfl, readRest, rfl⟩
    simp [readFlags, Flag.ofToken?_eq_some_iff.mpr isFlag, readRest, Except.map]

theorem readFlags_cons_eq_error_iff {room : Nat} {first token : Text.Token}
    {rest : List Text.Token} :
    readFlags room (first :: rest) = .error token ↔
      (token = first ∧ ((∀ flag : Flag, first.text ≠ flag.spelling.toList) ∨ room = 0)) ∨
      ∃ flag : Flag, ∃ space, first.text = flag.spelling.toList ∧ room = space + 1 ∧
        readFlags space rest = .error token := by
  have spells := fun flag => @Flag.ofToken?_eq_some_iff first.text flag
  simp only [ne_eq, ← spells]
  cases isFlag : Flag.ofToken? first.text with
  | none => simp [readFlags, isFlag, eq_comm]
  | some flag =>
      cases room with
      | zero => simp [readFlags, isFlag, eq_comm]
      | succ space =>
          rw [readFlags.eq_2 first rest flag space isFlag]
          cases later : readFlags space rest <;> simp [Except.map, later]

/-- Without white space in front a flag would have gone on with the word there. -/
theorem run_gap_of_stops {gap rest : List Char} {flag : Flag} (blank : ∀ c ∈ gap, isSpace c = true)
    (stops : Stops isWord (gap ++ flag.spelling.toList ++ rest)) : Run isSpace gap := by
  refine ⟨?_, blank⟩
  rintro rfl
  obtain ⟨c, first, inWord⟩ := flag.run_spelling.head?_append rest
  rw [List.nil_append, Stops, first, Option.any_some, inWord] at stops
  cases stops

theorem stops_of_token_ends {rest : List Char} (ends : rest = [] ∨ Text.startsSpace rest = true) :
    Stops isWord rest := by
  rcases ends with rfl | starts
  · exact Text.stops_nil isWord
  · exact Text.stops_isWord_of_startsSpace starts

/-- Tokens that are read as flags were written as flags. -/
theorem writesFlags_of_readFlags {room offset : Nat} {text : List Char} {flags : List Flag}
    (stops : Stops isWord text)
    (read : readFlags room (Text.tokens offset text) = .ok flags) :
    ∃ words blanks, text = words ++ blanks ∧ WritesFlags flags words ∧ flags.length ≤ room ∧
      ∀ c ∈ blanks, isSpace c = true := by
  induction flags generalizing room offset text with
  | nil =>
      cases found : Text.tokens offset text with
      | nil => exact ⟨[], text, rfl, .nil, Nat.zero_le room, Text.tokens_eq_nil_iff.mp found⟩
      | cons token later =>
          rw [found, readFlags_cons_eq_ok_iff] at read
          obtain ⟨flag, space, others, -, -, -, impossible⟩ := read
          contradiction
  | cons flag flags ih =>
      cases found : Text.tokens offset text with
      | nil => simp [found, readFlags] at read
      | cons token later =>
          rw [found, readFlags_cons_eq_ok_iff] at read
          obtain ⟨_, space, _, isFlag, rfl, readRest, same⟩ := read
          obtain ⟨rfl, rfl⟩ := List.cons.inj same
          obtain ⟨gap, rest, rfl, blank, -, ends, -, rfl⟩ := Text.tokens_eq_cons found
          rw [isFlag] at stops ⊢
          have isGap := run_gap_of_stops blank stops
          have restStops := stops_of_token_ends ends
          obtain ⟨words, blanks, rfl, areFlags, fits, blanksBlank⟩ := ih restStops readRest
          exact ⟨_, blanks, (List.append_assoc ..).symm, .cons isGap areFlags,
            Nat.succ_le_succ fits, blanksBlank⟩

theorem WritesFlags.ends_append {flags : List Flag} {words rest : List Char}
    (areFlags : WritesFlags flags words) (ends : rest = [] ∨ Text.startsSpace rest = true) :
    words ++ rest = [] ∨ Text.startsSpace (words ++ rest) = true := by
  cases areFlags with
  | nil => exact ends
  | cons isGap _ =>
      rw [List.append_assoc, List.append_assoc]
      exact Or.inr (isGap.startsSpace_append _)

/-- A written flag is read while there is room. -/
theorem readFlags_tokens_flag {space offset : Nat} {flag : Flag} {gap rest : List Char}
    (isGap : Run isSpace gap) (ends : rest = [] ∨ Text.startsSpace rest = true) :
    readFlags (space + 1) (Text.tokens offset (gap ++ flag.spelling.toList ++ rest)) =
      (readFlags space (Text.tokens
        (offset + Text.byteLength (gap ++ flag.spelling.toList)) rest)).map (flag :: ·) := by
  have isRun : Run (!isSpace ·) flag.spelling.toList := by
    refine ⟨flag.run_spelling.nonempty, ?_⟩
    intro c member
    rw [Text.isSpace_of_isWord (flag.run_spelling.all c member)]
    rfl
  rw [List.append_assoc, Text.tokens_skip isGap.all, Text.tokens_run isRun ends,
    readFlags.eq_2 _ _ flag space (Flag.ofToken?_eq_some_iff.mpr rfl), Text.byteLength_append,
    Nat.add_assoc]

/-- Written flags are read back. -/
theorem readFlags_of_writesFlags {room offset : Nat} {words blanks : List Char}
    {flags : List Flag} (areFlags : WritesFlags flags words) (fits : flags.length ≤ room)
    (blank : ∀ c ∈ blanks, isSpace c = true) :
    readFlags room (Text.tokens offset (words ++ blanks)) = .ok flags := by
  induction areFlags generalizing room offset with
  | nil => rw [List.nil_append, Text.tokens_eq_nil_iff.mpr blank, readFlags]
  | @cons flag flags gap text isGap later ih =>
      have blanksEnd : blanks = [] ∨ Text.startsSpace blanks = true := by
        cases blanks with
        | nil => exact Or.inl rfl
        | cons c blanks => exact Or.inr (by simp [Text.startsSpace, blank c List.mem_cons_self])
      obtain ⟨space, rfl⟩ := Nat.exists_eq_add_of_le' (Nat.le_trans (Nat.le_add_left 1 _) fits)
      rw [List.append_assoc, readFlags_tokens_flag isGap (later.ends_append blanksEnd),
        ih (Nat.le_of_succ_le_succ fits)]
      rfl

theorem ne_commentMarker_of_isSpace {c : Char} (blank : isSpace c = true) :
    (c != Text.commentMarker) = true := by
  rw [bne_iff_ne]
  rintro rfl
  exact absurd blank (by decide)

theorem WritesFlags.notMem_comment {flags : List Flag} {words : List Char}
    (areFlags : WritesFlags flags words) : ∀ c ∈ words, (c != Text.commentMarker) = true := by
  have spelled : ∀ flag : Flag, ∀ c ∈ flag.spelling.toList, (c != Text.commentMarker) = true := by
    intro flag
    apply List.all_eq_true.mp
    cases flag <;> decide
  induction areFlags with
  | nil => simp
  | @cons flag flags gap text isGap later ih =>
      intro c member
      rcases List.mem_append.mp member with member | member
      · rcases List.mem_append.mp member with member | member
        · exact ne_commentMarker_of_isSpace (isGap.all c member)
        · exact spelled flag c member
      · exact ih c member

/-- The flags in front of a comment are read exactly as they are written. -/
theorem readFlags_eq_ok_iff {room offset : Nat} {text : List Char} {flags : List Flag}
    (stops : Stops isWord text) :
    readFlags room (Text.tokens offset (text.takeWhile (· != Text.commentMarker))) = .ok flags ↔
      ∃ words final, text = words ++ final ∧ WritesFlags flags words ∧ flags.length ≤ room ∧
        EndsLine final := by
  constructor
  · intro read
    obtain ⟨words, blanks, front, areFlags, fits, blank⟩ :=
      writesFlags_of_readFlags (Text.stops_takeWhile stops) read
    have whole := List.takeWhile_append_dropWhile (p := (· != Text.commentMarker)) (l := text)
    have behind := Text.stops_dropWhile (· != Text.commentMarker) text
    rw [front, List.append_assoc] at whole
    refine ⟨words, _, whole.symm, areFlags, fits, ?_⟩
    cases left : text.dropWhile (· != Text.commentMarker) with
    | nil =>
        rw [List.append_nil]
        exact .plain blank
    | cons c rest =>
        rw [left, Text.stops_cons, bne_eq_false_iff_eq] at behind
        obtain rfl : c = ';' := behind
        exact .comment blank rest
  · rintro ⟨words, final, rfl, areFlags, fits, ends⟩
    obtain ⟨blanks, comment, rfl, blank, isComment⟩ := ends.split
    have stopsThere : Stops (· != Text.commentMarker) comment := by
      rcases isComment with rfl | ⟨rest, rfl⟩
      · exact Text.stops_nil _
      · exact Text.stops_cons.mpr (by decide)
    have front : (words ++ (blanks ++ comment)).takeWhile (· != Text.commentMarker) =
        words ++ blanks := by
      rw [← List.append_assoc]
      apply Text.takeWhile_append_stops _ stopsThere
      intro c member
      rcases List.mem_append.mp member with member | member
      · exact areFlags.notMem_comment c member
      · exact ne_commentMarker_of_isSpace (blank c member)
    rw [front]
    exact readFlags_of_writesFlags areFlags fits blank

/-! ## Reading the parent -/

theorem of_parentClause?_eq_some {text parent behind rest : List Char}
    (read : parentClause? text = some ⟨some parent, behind, rest⟩) :
    ∃ clause, text = clause ++ rest ∧ WritesParent (some parent) clause ∧ Stops isWord rest := by
  rw [parentClause?] at read
  split_ifs at read with starts
  cases found : Text.afterKeyword? parentKeyword.toList (Text.afterSpace text) with
  | none => simp [found] at read
  | some afterKeyword =>
      simp only [found] at read
      split_ifs at read with named
      · simp only [Bool.and_eq_true, Bool.not_eq_true', List.isEmpty_eq_false_iff] at named
        obtain ⟨startsBehind, nonempty⟩ := named
        simp only [Option.some.injEq, ParentClause.mk.injEq] at read
        obtain ⟨rfl, rfl, rfl⟩ := read
        obtain ⟨split, -⟩ := Text.afterKeyword?_eq_some_iff.mp found
        refine ⟨_, ?_, .present (Text.run_takeWhile (Text.startsSpace_iff.mp starts))
          (Text.run_takeWhile (Text.startsSpace_iff.mp startsBehind)) (Text.run_word nonempty),
          Text.stops_afterWord _⟩
        calc
          text = text.takeWhile isSpace ++ Text.afterSpace text :=
            (Text.space_append_afterSpace text).symm
          _ = text.takeWhile isSpace ++ ("extends".toList ++ afterKeyword) := by rw [split]; rfl
          _ = _ := by
            simp only [List.append_assoc, Text.word_append_afterWord, Text.space_append_afterSpace]
      · simp at read

theorem parentClause?_of_present {gap behind parent rest : List Char} (isGap : Run isSpace gap)
    (isGapBehind : Run isSpace behind) (isName : Run isWord parent) (stops : Stops isWord rest) :
    parentClause? (gap ++ "extends".toList ++ behind ++ parent ++ rest) =
      some ⟨some parent, behind ++ (parent ++ rest), rest⟩ := by
  have afterGap : Text.afterSpace (gap ++ ("extends".toList ++ (behind ++ (parent ++ rest)))) =
      "extends".toList ++ (behind ++ (parent ++ rest)) :=
    Text.afterSpace_append isGap.all (Text.stops_cons.mpr (by decide))
  have afterGapBehind : Text.afterSpace (behind ++ (parent ++ rest)) = parent ++ rest :=
    Text.afterSpace_append isGapBehind.all (isName.stops_append (fun c => Text.isSpace_of_isWord) _)
  have found : Text.afterKeyword? parentKeyword.toList
      ("extends".toList ++ (behind ++ (parent ++ rest))) = some (behind ++ (parent ++ rest)) :=
    Text.afterKeyword?_eq_some_iff.mpr
      ⟨rfl, isGapBehind.stops_append (fun c => Text.isWord_of_isSpace) _⟩
  have nonempty : parent.isEmpty = false := List.isEmpty_eq_false_iff.mpr isName.nonempty
  rw [parentClause?]
  simp only [List.append_assoc, isGap.startsSpace_append, afterGap, found,
    isGapBehind.startsSpace_append, afterGapBehind, Text.word_append isName stops,
    Text.afterWord_append isName stops, nonempty, Bool.not_false, Bool.and_self, ↓reduceIte]

/-- A clause is read wherever its keyword stands behind white space. -/
theorem parentClause?_eq_none_iff {text : List Char} :
    parentClause? text = none ↔
      ∀ gap behind, Run isSpace gap → Stops isWord behind →
        text ≠ gap ++ ("extends".toList ++ behind) := by
  constructor
  · rintro unread gap behind isGap stops rfl
    have afterGap : Text.afterSpace (gap ++ ("extends".toList ++ behind)) =
        "extends".toList ++ behind :=
      Text.afterSpace_append isGap.all (Text.stops_cons.mpr (by decide))
    have found : Text.afterKeyword? parentKeyword.toList ("extends".toList ++ behind) =
        some behind :=
      Text.afterKeyword?_eq_some_iff.mpr ⟨rfl, stops⟩
    rw [parentClause?, if_pos (isGap.startsSpace_append _), afterGap, found] at unread
    dsimp only at unread
    split_ifs at unread
  · intro absent
    rw [parentClause?]
    split_ifs with starts
    · cases found : Text.afterKeyword? parentKeyword.toList (Text.afterSpace text) with
      | none => rfl
      | some behind =>
          obtain ⟨split, stops⟩ := Text.afterKeyword?_eq_some_iff.mp found
          refine absurd ?_ (absent _ behind (Text.run_takeWhile (Text.startsSpace_iff.mp starts))
            stops)
          exact (Text.space_append_afterSpace text).symm.trans (congrArg _ split)
    · rfl

/-- Flags and the end of a line do not read as an `extends` clause. -/
theorem parentClause?_of_absent {flags : List Flag} {words final : List Char}
    (areFlags : WritesFlags flags words) (ends : EndsLine final) :
    parentClause? (words ++ final) = none := by
  -- Behind the white space stands a flag, a comment or nothing.
  have behind : ∀ {gap text : List Char}, (∀ c ∈ gap, isSpace c = true) → Stops isSpace text →
      Stops (· == 'e') text → parentClause? (gap ++ text) = none := by
    intro gap text blank stops noKeyword
    have unread : Text.afterKeyword? parentKeyword.toList text = none := by
      rw [Option.eq_none_iff_forall_ne_some]
      intro rest found
      obtain ⟨rfl, -⟩ := Text.afterKeyword?_eq_some_iff.mp found
      exact absurd (Text.stops_cons.mp noKeyword) (by decide)
    rw [parentClause?, Text.afterSpace_append blank stops, unread]
    exact ite_self none
  cases areFlags with
  | nil =>
      obtain ⟨blanks, comment, rfl, blank, isComment⟩ := ends.split
      rw [List.nil_append]
      rcases isComment with rfl | ⟨rest, rfl⟩
      · exact behind blank (Text.stops_nil isSpace) (Text.stops_nil _)
      · exact behind blank (Text.stops_cons.mpr (by decide)) (Text.stops_cons.mpr (by decide))
  | @cons flag flags gap text isGap later =>
      simp only [List.append_assoc]
      cases flag <;>
        exact behind isGap.all (Text.stops_cons.mpr (by decide)) (Text.stops_cons.mpr (by decide))

/-! ## Reading the line -/

/-- The header that the flags in the rest of a line complete, or the first token that is none. -/
def complete (line name : List Char) (parent : Option (List Char)) (rest : List Char) :
    Except Blame Header :=
  match readFlags maxFlags
      (Text.tokens (Text.byteLength line - Text.byteLength rest)
        (rest.takeWhile (· != Text.commentMarker))) with
  | .ok flags =>
      .ok
        { name := String.ofList name
          parent := parent.map String.ofList
          flags
          endColumn := Text.byteLength line }
  | .error token => .error ⟨token.start, .unknownFlag (String.ofList token.text)⟩

section

variable {line name text parent behind rest : List Char}

theorem readTail_of_none (absent : parentClause? text = none) :
    readTail line name text = complete line name none text := by
  rw [readTail, absent]
  rfl

theorem readTail_of_missing (missing : parentClause? text = some ⟨none, behind, rest⟩) :
    readTail line name text =
      .error ⟨Text.byteLength line - Text.byteLength behind, .missingParent⟩ := by
  rw [readTail, missing]

theorem readTail_of_parent (present : parentClause? text = some ⟨some parent, behind, rest⟩) :
    readTail line name text = complete line name (some parent) rest := by
  rw [readTail, present]
  rfl

end

theorem readTail_of_clause {line name clause rest : List Char} {parent : Option (List Char)}
    (isClause : WritesClause parent clause rest) :
    readTail line name (clause ++ rest) = complete line name parent rest := by
  obtain ⟨writes, absent, ends⟩ := isClause
  cases writes with
  | absent => exact readTail_of_none (parentClause?_eq_none_iff.mpr (absent rfl))
  | present isGap isGapBehind isName =>
      exact readTail_of_parent (parentClause?_of_present isGap isGapBehind isName ends)

theorem WritesClause.stops_append {clause rest : List Char} {parent : Option (List Char)}
    (isClause : WritesClause parent clause rest) : Stops isWord (clause ++ rest) := by
  obtain ⟨writes, -, ends⟩ := isClause
  cases writes with
  | absent => exact ends
  | present isGap _ _ =>
      simp only [List.append_assoc]
      exact isGap.stops_append (fun c => Text.isWord_of_isSpace) _

/-- Behind the name stands a clause, if only an empty one, or the parent is missing. -/
theorem readTail_cases (line name : List Char) {text : List Char} (stops : Stops isWord text) :
    (∃ parent clause rest, text = clause ++ rest ∧ WritesClause parent clause rest) ∨
      ∃ column, readTail line name text = .error ⟨column, .missingParent⟩ := by
  cases found : parentClause? text with
  | none =>
      exact Or.inl ⟨none, [], text, rfl, .absent,
        fun _ => parentClause?_eq_none_iff.mp found, stops⟩
  | some clause =>
      obtain ⟨parent?, behind, rest⟩ := clause
      cases parent? with
      | none => exact Or.inr ⟨_, readTail_of_missing found⟩
      | some parent =>
          obtain ⟨clause, rfl, isClause, ends⟩ := of_parentClause?_eq_some found
          exact Or.inl ⟨some parent, clause, rest, rfl, isClause, nofun, ends⟩

theorem complete_eq_ok_iff {line name rest : List Char} {parent : Option (List Char)}
    {header : Header} (stops : Stops isWord rest) :
    complete line name parent rest = .ok header ↔
      ∃ flags words final, rest = words ++ final ∧ WritesFlags flags words ∧
        flags.length ≤ 2 ∧ EndsLine final ∧
        header = ⟨String.ofList name, parent.map String.ofList, flags, Text.byteLength line⟩ := by
  have read := fun flags => @readFlags_eq_ok_iff maxFlags
    (Text.byteLength line - Text.byteLength rest) rest flags stops
  rw [complete]
  constructor
  · intro completed
    cases found : readFlags maxFlags
        (Text.tokens (Text.byteLength line - Text.byteLength rest)
          (rest.takeWhile (· != Text.commentMarker))) with
    | error token => simp [found] at completed
    | ok flags =>
        rw [found] at completed
        obtain ⟨words, final, split, areFlags, fits, ends⟩ := (read flags).mp found
        exact ⟨flags, words, final, split, areFlags, fits, ends, (Except.ok.inj completed).symm⟩
  · rintro ⟨flags, words, final, split, areFlags, fits, ends, rfl⟩
    rw [(read flags).mpr ⟨words, final, split, areFlags, fits, ends⟩]

/-- What stands behind the name is accepted exactly if it is written by the grammar. -/
theorem readTail_eq_ok_iff {line name text : List Char} {header : Header}
    (stops : Stops isWord text) :
    readTail line name text = .ok header ↔
      ∃ parent flags, WritesTail parent flags text ∧
        header = ⟨String.ofList name, parent.map String.ofList, flags, Text.byteLength line⟩ := by
  constructor
  · intro read
    obtain ⟨parent, clause, rest, rfl, isClause⟩ | ⟨column, missing⟩ :=
      readTail_cases line name stops
    · rw [readTail_of_clause isClause, complete_eq_ok_iff isClause.ends] at read
      obtain ⟨flags, words, final, rfl, areFlags, fits, ends, isHeader⟩ := read
      rw [← List.append_assoc]
      exact ⟨parent, flags, .intro isClause.writes areFlags fits ends, isHeader⟩
    · rw [missing] at read
      contradiction
  · rintro ⟨parent, flags, ⟨writes, areFlags, fits, ends⟩, isHeader⟩
    have isClause : WritesClause parent _ (_ ++ _) :=
      ⟨writes, fun _ => parentClause?_eq_none_iff.mp (parentClause?_of_absent areFlags ends),
        areFlags.stops_append ends.stops⟩
    rw [List.append_assoc, readTail_of_clause isClause, complete_eq_ok_iff isClause.ends]
    exact ⟨flags, _, _, rfl, areFlags, fits, ends, isHeader⟩

/-- Behind the name of the script the rest of the line decides. -/
theorem read_of_named {expected : String} {gap tail : List Char} (isGap : Run isSpace gap)
    (isName : Run isWord expected.toList) (stops : Stops isWord tail) :
    read expected ("Scriptname".toList ++ gap ++ expected.toList ++ tail) =
      readTail ("Scriptname".toList ++ gap ++ expected.toList ++ tail) expected.toList tail := by
  have found : keyword.toList.isPrefixOf?
      ("Scriptname".toList ++ gap ++ expected.toList ++ tail) =
        some (gap ++ (expected.toList ++ tail)) := by
    rw [List.isPrefixOf?_eq_some_iff_append_eq, List.append_assoc, List.append_assoc]
    rfl
  have afterGap : Text.afterSpace (gap ++ (expected.toList ++ tail)) = expected.toList ++ tail :=
    Text.afterSpace_append isGap.all (isName.stops_append (fun c => Text.isSpace_of_isWord) _)
  have named : expected.toList.isEmpty = false := List.isEmpty_eq_false_iff.mpr isName.nonempty
  rw [read, found]
  simp only [isGap.startsSpace_append, afterGap, Text.word_append isName stops,
    Text.afterWord_append isName stops, named, String.ofList_toList, ↓reduceIte,
    Bool.false_eq_true]

/-- A line with the name of the script, or one that is refused before its rest is read. -/
theorem read_cases (expected : String) (line : List Char) :
    (∃ gap tail, line = "Scriptname".toList ++ gap ++ expected.toList ++ tail ∧
      Run isSpace gap ∧ Run isWord expected.toList ∧ Stops isWord tail) ∨
    ∃ column fault, read expected line = .error ⟨column, fault⟩ ∧
      ∀ token, fault ≠ .unknownFlag token := by
  rw [read]
  cases found : keyword.toList.isPrefixOf? line with
  | none => exact Or.inr ⟨_, _, rfl, nofun⟩
  | some rest =>
      dsimp only
      split_ifs with starts unnamed same
      · exact Or.inr ⟨_, _, rfl, nofun⟩
      · obtain rfl := same
        have nonempty : Text.word (Text.afterSpace rest) ≠ [] := by simpa using unnamed
        refine Or.inl ⟨_, _, ?_, Text.run_takeWhile (Text.startsSpace_iff.mp starts), ?_,
          Text.stops_afterWord (Text.afterSpace rest)⟩
        · rw [← List.isPrefixOf?_eq_some_iff_append_eq.mp found]
          simp only [List.append_assoc, String.toList_ofList, Text.word_append_afterWord,
            Text.space_append_afterSpace]
          rfl
        · rw [String.toList_ofList]
          exact Text.run_word nonempty
      · exact Or.inr ⟨_, _, rfl, nofun⟩
      · exact Or.inr ⟨_, _, rfl, nofun⟩

/-- A line is accepted as the header of a script exactly if the grammar writes it with the name of
the script. -/
theorem read_eq_ok_iff {expected : String} {line : List Char} {header : Header} :
    read expected line = .ok header ↔
      ∃ parent flags, Writes expected.toList parent flags line ∧
        header = ⟨expected, parent.map String.ofList, flags, Text.byteLength line⟩ := by
  constructor
  · intro accepted
    obtain ⟨gap, tail, rfl, isGap, isName, stops⟩ | ⟨column, fault, refused, -⟩ :=
      read_cases expected line
    · rw [read_of_named isGap isName stops, readTail_eq_ok_iff stops,
        String.ofList_toList] at accepted
      obtain ⟨parent, flags, isTail, isHeader⟩ := accepted
      exact ⟨parent, flags, .intro isGap isName isTail, isHeader⟩
    · rw [refused] at accepted
      contradiction
  · rintro ⟨parent, flags, ⟨isGap, isName, isTail⟩, isHeader⟩
    rw [read_of_named isGap isName isTail.stops, readTail_eq_ok_iff isTail.stops,
      String.ofList_toList]
    exact ⟨parent, flags, isTail, isHeader⟩

end Header

/-! ## The header rule -/

attribute [local irreducible] Document.normalizedLines

theorem Rule.readHeader_eq_ok_iff {doc : Document} {header : Header} :
    readHeader doc = .ok header ↔
      ∃ line parent flags, doc.normalizedLines.head? = some line ∧
        Header.Writes doc.scriptName.toList parent flags line ∧
        header = ⟨doc.scriptName, parent.map String.ofList, flags, Text.byteLength line⟩ := by
  rw [readHeader]
  cases doc.normalizedLines with
  | nil => simp
  | cons line rest => simp [Header.read_eq_ok_iff]

/-- The header rule accepts a script exactly if its first line is a header, written by the grammar
with the name of the script.  Then it puts on record what was written and claims the first line;
otherwise it leaves the context alone. -/
theorem scriptName_accepts_written (doc : Document) (context : Context) :
    let outcome := Rule.scriptName.check doc context
    (outcome.finding = none ↔
      ∃ line parent flags, doc.normalizedLines.head? = some line ∧
        Header.Writes doc.scriptName.toList parent flags line) ∧
    (∀ line parent flags, doc.normalizedLines.head? = some line →
      Header.Writes doc.scriptName.toList parent flags line →
      outcome.context.header =
          some ⟨doc.scriptName, parent.map String.ofList, flags, Text.byteLength line⟩ ∧
        ∀ index, index ∈ outcome.context.claims ↔ index = 0 ∨ index ∈ context.claims) ∧
    (outcome.finding ≠ none → outcome.context = context) := by
  intro outcome
  cases read : Rule.readHeader doc with
  | error blame =>
      have refused := Rule.scriptName_check_of_error read context
      have unwritten : ¬∃ line parent flags, doc.normalizedLines.head? = some line ∧
          Header.Writes doc.scriptName.toList parent flags line := by
        rintro ⟨line, parent, flags, first, written⟩
        rw [Rule.readHeader_eq_ok_iff.mpr ⟨line, parent, flags, first, written, rfl⟩] at read
        contradiction
      refine ⟨iff_of_false (by simp [outcome, refused]) unwritten, ?_, ?_⟩
      · intro line parent flags first written
        exact absurd ⟨line, parent, flags, first, written⟩ unwritten
      · intro _
        simp only [outcome, refused]
  | ok header =>
      have confirmed := Rule.scriptName_check_of_ok read context
      refine ⟨iff_of_true (by simp [outcome, confirmed]) ?_, ?_, ?_⟩
      · obtain ⟨line, parent, flags, first, written, -⟩ := Rule.readHeader_eq_ok_iff.mp read
        exact ⟨line, parent, flags, first, written⟩
      · intro line parent flags first written
        rw [Rule.readHeader_eq_ok_iff.mpr ⟨line, parent, flags, first, written, rfl⟩] at read
        obtain rfl := Except.ok.inj read
        simp only [outcome, confirmed]
        exact ⟨rfl, fun index => ClaimSet.mem_insert⟩
      · intro found
        exact absurd (by simp [outcome, confirmed]) found

theorem scriptName_accepts_written_comment :
    let doc := Document.ofPath "Lamp.psc" "  Scriptname Lamp\textends Hidden Conditional;note\n"
    let outcome := Rule.scriptName.check doc .fresh
    outcome.finding = none ∧
      outcome.context.header = some ⟨"Lamp", some "Hidden", [.conditional], 47⟩ := by
  intro doc outcome
  have space : Run isSpace [' '] := Text.run_of_all (by decide) (by decide)
  have tab : Run isSpace ['\t'] := Text.run_of_all (by decide) (by decide)
  have parent : Run isWord "Hidden".toList := Text.run_of_all (by decide) (by decide)
  have name : Run isWord doc.scriptName.toList :=
    Text.run_of_all (by decide +kernel) (by decide +kernel)
  have written : Header.Writes doc.scriptName.toList (some "Hidden".toList) [.conditional]
      "Scriptname Lamp\textends Hidden Conditional;note".toList := by
    convert Header.Writes.intro space name (.intro (.present tab space parent)
      (.cons space .nil) (Nat.le_succ 1) (.comment (List.forall_mem_nil _) "note".toList)) using 1
    decide +kernel
  have first : doc.normalizedLines.head? =
      some "Scriptname Lamp\textends Hidden Conditional;note".toList := by decide +kernel
  obtain ⟨accepts, records, -⟩ := scriptName_accepts_written doc .fresh
  have recorded := (records _ _ _ first written).1
  exact ⟨accepts.mpr ⟨_, _, _, first, written⟩, recorded.trans (by decide +kernel)⟩

end ScriptLint
