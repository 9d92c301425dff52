import ScriptLint.Proofs.Positions

/-!
# Labels of unknown flags

A header is blamed for the first token behind its name and parent, and in front of a comment, that
is no flag or one flag too many.  The rule counts the bytes in front of the token and takes their
number for the column.  Columns are counted from one, so that the label stands at the last byte in
front of the token, which never goes on with the text of the token.
-/

namespace ScriptLint

open Text (Run Stops isSpace isWord byteLength)

namespace Header

/-! ## The token that is blamed -/

/-- The token is the first one that is no flag, or that comes behind two flags; it ends in front of
white space or a comment. -/
inductive FirstForeign : List Char → List Char → List Char → Prop where
  | intro {flags : List Flag} {words blanks token behind : List Char}
      (areFlags : WritesFlags flags words) (atMostTwo : flags.length ≤ 2)
      (blank : ∀ c ∈ blanks, isSpace c = true) (separated : flags ≠ [] → blanks ≠ [])
      (isToken : Run (fun c => !isSpace c && c != ';') token)
      (ends : Stops (fun c => !isSpace c && c != ';') behind)
      (foreign : (∀ flag : Flag, token ≠ flag.spelling.toList) ∨ flags.length = 2) :
      FirstForeign (words ++ blanks) token behind

/-- A header line with this name, split in front of and behind its first foreign token. -/
inductive HasForeign (name : List Char) : List Char → List Char → List Char → Prop where
  | intro {parent : Option (List Char)} {gap clause before token behind : List Char}
      (isGap : Run isSpace gap) (isName : Run isWord name)
      (isClause : WritesClause parent clause (before ++ (token ++ behind)))
      (isFirst : FirstForeign before token behind) :
      HasForeign name ("Scriptname".toList ++ gap ++ name ++ clause ++ before) token behind

/-! ## Refused flags -/

/-- A refused token, with the flags that were read in front of it. -/
theorem of_readFlags_eq_error {room offset : Nat} {text : List Char} {token : Text.Token}
    (stops : Stops isWord text)
    (refused : readFlags room (Text.tokens offset text) = .error token) :
    ∃ flags words blanks behind, text = words ++ blanks ++ (token.text ++ behind) ∧
      WritesFlags flags words ∧ flags.length ≤ room ∧ (∀ c ∈ blanks, isSpace c = true) ∧
      (flags ≠ [] → blanks ≠ []) ∧ Run (!isSpace ·) token.text ∧
      (behind = [] ∨ Text.startsSpace behind = true) ∧
      ((∀ flag : Flag, token.text ≠ flag.spelling.toList) ∨ flags.length = room) ∧
      token.start = offset + byteLength (words ++ blanks) := by
  generalize found : Text.tokens offset text = read at refused
  induction read generalizing room offset text with
  | nil => simp [readFlags] at refused
  | cons first later ih =>
      obtain ⟨gap, rest, rfl, blank, isRun, ends, start, rfl⟩ := Text.tokens_eq_cons found
      rcases readFlags_cons_eq_error_iff.mp refused with
        ⟨rfl, foreign⟩ | ⟨flag, space, isFlag, rfl, refusedLater⟩
      · exact ⟨[], [], gap, rest, List.append_assoc .., .nil, Nat.zero_le room, blank,
          fun some => absurd rfl some, isRun, ends, foreign.imp_right Eq.symm, start⟩
      · rw [isFlag] at stops ⊢
        have isGap := run_gap_of_stops blank stops
        obtain ⟨flags, words, blanks, behind, rfl, areFlags, fits, blankLater, separated, isToken,
          tokenEnds, foreign, startLater⟩ := ih (stops_of_token_ends ends) rfl refusedLater
        refine ⟨flag :: flags, gap ++ flag.spelling.toList ++ words, blanks, behind, ?_,
          .cons isGap areFlags, Nat.succ_le_succ fits, blankLater, ?_, isToken, tokenEnds,
          foreign.imp_right (congrArg (· + 1)), ?_⟩
        · simp only [List.append_assoc]
        · -- Two tokens are not separated by nothing.
          rintro - rfl
          have none : flags = [] := by
            by_contra some
            exact separated some rfl
          subst none
          cases areFlags
          obtain ⟨c, first, solid⟩ := isToken.head?_append behind
          rw [List.append_nil, List.nil_append, Text.startsSpace, first] at ends
          simp [isToken.nonempty, Bool.not_eq_true' .. ▸ solid] at ends
        · rw [startLater, isFlag]
          simp only [Text.byteLength_append]
          omega

/-- Flags are read up to a token that is none or for which there is no room. -/
theorem readFlags_of_foreign {room offset : Nat} {flags : List Flag}
    {words blanks token behind : List Char} (areFlags : WritesFlags flags words)
    (fits : flags.length ≤ room) (blank : ∀ c ∈ blanks, isSpace c = true)
    (separated : flags ≠ [] → blanks ≠ []) (isToken : Run (!isSpace ·) token)
    (ends : behind = [] ∨ Text.startsSpace behind = true)
    (foreign : (∀ flag : Flag, token ≠ flag.spelling.toList) ∨ flags.length = room) :
    readFlags room (Text.tokens offset (words ++ blanks ++ (token ++ behind))) =
      .error ⟨offset + byteLength (words ++ blanks), token⟩ := by
  induction areFlags generalizing room offset with
  | nil =>
      rw [List.nil_append, Text.tokens_skip blank, Text.tokens_run isToken ends,
        readFlags_cons_eq_error_iff]
      exact Or.inl ⟨rfl, foreign.imp_right Eq.symm⟩
  | @cons flag flags gap text isGap later ih =>
      have isGapBehind : Run isSpace blanks := ⟨separated (List.cons_ne_nil _ _), blank⟩
      have laterEnds :=
        later.ends_append (Or.inr (isGapBehind.startsSpace_append (token ++ behind)))
      obtain ⟨space, rfl⟩ := Nat.exists_eq_add_of_le' (Nat.le_trans (Nat.le_add_left 1 _) fits)
      rw [List.append_assoc, List.append_assoc, readFlags_tokens_flag isGap laterEnds,
        ← List.append_assoc, ih (Nat.le_of_succ_le_succ fits) (fun _ => isGapBehind.nonempty)
          (foreign.imp_right Nat.succ.inj)]
      simp only [Except.map, Text.byteLength_append, Nat.add_assoc]

/-- A token ends in front of white space or a comment exactly if it ends in front of white space
where the comment is left out. -/
theorem ends_takeWhile_iff {behind : List Char} :
    (behind.takeWhile (· != Text.commentMarker) = [] ∨
        Text.startsSpace (behind.takeWhile (· != Text.commentMarker)) = true) ↔
      Stops (fun c => !isSpace c && c != ';') behind := by
  have marker : Text.commentMarker = ';' := rfl
  rw [marker]
  cases behind with
  | nil => simp [Text.stops_nil]
  | cons c behind =>
      rw [Text.stops_cons, List.takeWhile_cons]
      cases c != ';' <;> simp [Text.startsSpace]

theorem FirstForeign.uncommented {before token behind : List Char}
    (isFirst : FirstForeign before token behind) :
    (∀ c ∈ before, (c != Text.commentMarker) = true) ∧
      ∀ c ∈ token, (c != Text.commentMarker) = true := by
  obtain ⟨areFlags, -, blank, -, isToken, -, -⟩ := isFirst
  constructor
  · intro c member
    rcases List.mem_append.mp member with member | member
    · exact areFlags.notMem_comment c member
    · exact ne_commentMarker_of_isSpace (blank c member)
  · intro c member
    exact (Bool.and_eq_true_iff.mp (isToken.all c member)).2

section

variable {line front rest : List Char}

/-- The rest of a line is blamed for its first foreign token. -/
theorem complete_eq_error_iff {name : List Char} {parent : Option (List Char)} {blame : Blame}
    (whole : line = front ++ rest) (stops : Stops isWord rest) :
    complete line name parent rest = .error blame ↔
      ∃ before token behind, rest = before ++ (token ++ behind) ∧
        FirstForeign before token behind ∧
        blame = ⟨byteLength (front ++ before), .unknownFlag (String.ofList token)⟩ := by
  have offset : byteLength line - byteLength rest = byteLength front := by
    rw [whole, Text.byteLength_append, Nat.add_sub_cancel]
  rw [complete, offset]
  constructor
  · intro refused
    cases read : readFlags maxFlags
        (Text.tokens (byteLength front) (rest.takeWhile (· != Text.commentMarker))) with
    | ok flags => simp [read] at refused
    | error token =>
        rw [read] at refused
        obtain rfl := Except.error.inj refused
        obtain ⟨flags, words, blanks, behind, split, areFlags, fits, blank, separated, isToken,
          ends, foreign, start⟩ := of_readFlags_eq_error (Text.stops_takeWhile stops) read
        have uncommented : ∀ c ∈ words ++ blanks ++ (token.text ++ behind),
            (c != Text.commentMarker) = true := by
          rw [← split]
          exact fun c member => List.mem_takeWhile_imp (p := (· != Text.commentMarker)) member
        simp only [List.forall_mem_append] at uncommented
        obtain ⟨-, inToken, inBehind⟩ := uncommented
        refine ⟨words ++ blanks, token.text, behind ++ rest.dropWhile (· != Text.commentMarker), ?_,
          .intro areFlags fits blank separated ⟨isToken.nonempty, ?_⟩ ?_ foreign, ?_⟩
        · rw [← List.append_assoc token.text, ← List.append_assoc (words ++ blanks), ← split,
            List.takeWhile_append_dropWhile]
        · exact fun c member => Bool.and_eq_true_iff.mpr ⟨isToken.all c member, inToken c member⟩
        · rwa [← ends_takeWhile_iff,
            Text.takeWhile_append_stops inBehind (Text.stops_dropWhile _ rest)]
        · rw [start, Text.byteLength_append front]
  · rintro ⟨before, token, behind, rfl, isFirst, rfl⟩
    obtain ⟨inBefore, inToken⟩ := isFirst.uncommented
    rw [List.takeWhile_append_of_pos inBefore, List.takeWhile_append_of_pos inToken]
    obtain ⟨areFlags, atMostTwo, blank, separated, isToken, ends, foreign⟩ := isFirst
    have isSolid : Run (!isSpace ·) token :=
      ⟨isToken.nonempty, fun c member => (Bool.and_eq_true_iff.mp (isToken.all c member)).1⟩
    have refused := @readFlags_of_foreign maxFlags (byteLength front) _ _ _ _ _ areFlags atMostTwo
      blank separated isSolid (ends_takeWhile_iff.mpr ends) foreign
    rw [refused, Text.byteLength_append front]

/-! ## Refused lines -/

/-- A line is blamed for an unknown flag exactly if that is its first foreign token. -/
theorem read_eq_unknownFlag_iff {expected token : String} {column : Nat} :
    read expected line = .error ⟨column, .unknownFlag token⟩ ↔
      ∃ ahead behind, line = ahead ++ (token.toList ++ behind) ∧
        HasForeign expected.toList ahead token.toList behind ∧ column = byteLength ahead := by
  constructor
  · intro refused
    obtain ⟨gap, tail, rfl, isGap, isName, stops⟩ | ⟨_, fault, other, differs⟩ :=
      read_cases expected line
    · rw [read_of_named isGap isName stops] at refused
      obtain ⟨parent, clause, rest, rfl, isClause⟩ | ⟨_, missing⟩ := readTail_cases _ _ stops
      · rw [readTail_of_clause isClause,
          complete_eq_error_iff (List.append_assoc ..).symm isClause.ends] at refused
        obtain ⟨before, text, behind, rfl, isFirst, blamed⟩ := refused
        obtain ⟨isColumn, same⟩ := Blame.mk.inj blamed
        have said : token.toList = text := by
          rw [Fault.unknownFlag.inj same, String.toList_ofList]
        rw [said]
        exact ⟨_, behind, by simp only [List.append_assoc],
          .intro isGap isName isClause isFirst, isColumn⟩
      · rw [missing] at refused
        simp at refused
    · rw [other] at refused
      exact absurd (Blame.mk.inj (Except.error.inj refused)).2 (differs token)
  · rintro ⟨_, behind, rfl, ⟨isGap, isName, isClause, isFirst⟩, isColumn⟩
    rw [List.append_assoc _ _ (token.toList ++ behind), List.append_assoc _ _ (_ ++ (_ ++ behind)),
      read_of_named isGap isName isClause.stops_append, readTail_of_clause isClause,
      complete_eq_error_iff (List.append_assoc ..).symm isClause.ends]
    exact ⟨_, _, behind, rfl, isFirst, by rw [isColumn, String.ofList_toList]⟩

end

theorem Fault.message_wrongName (expected found : String) :
    (Fault.wrongName expected found).message =
      s!"{keyword} must match filename, {expected} expected, got {found}" := rfl

/-- No other fault is told in the words for an unknown flag. -/
theorem Fault.eq_unknownFlag_of_message {fault : Fault} {token : String}
    (said : fault.message = s!"unknown flag {token}") : fault = .unknownFlag token := by
  have first : fault.message.toList.head? = some 'u' := by
    rw [said, String.toList_append]
    rfl
  cases fault with
  | unknownFlag other =>
      exact congrArg Fault.unknownFlag ((String.append_right_inj _).mp said)
  | wrongName expected found =>
      have other : (Fault.wrongName expected found).message.toList.head? = some 'S' := by
        simp only [message_wrongName, String.toList_append]
        rfl
      rw [other] at first
      exact absurd first (by decide)
  | missing | missingSpace | missingName | missingParent => exact absurd first (by decide)

/-! ## What stands in front of the token -/

/-- The name or the parent is the last word in front of the flags. -/
theorem WritesClause.getLast? {parent : Option (List Char)} {front name clause rest : List Char}
    (isName : Run isWord name) (isClause : WritesClause parent clause rest) :
    ∃ c, (front ++ name ++ clause).getLast? = some c ∧ isWord c = true := by
  cases isClause.writes with
  | absent =>
      rw [List.append_nil]
      exact isName.getLast?_append front
  | present _ _ isParent =>
      rw [← List.append_assoc]
      exact isParent.getLast?_append _

section

variable {name ahead token behind : List Char}

theorem HasForeign.ahead_ne_nil (has : HasForeign name ahead token behind) : ahead ≠ [] := by
  obtain ⟨-, -, -, -⟩ := has
  simp

theorem HasForeign.token_ne_nil (has : HasForeign name ahead token behind) : token ≠ [] := by
  obtain ⟨-, -, -, ⟨-, -, -, -, isToken, -, -⟩⟩ := has
  exact isToken.nonempty

/-- What stands directly in front of the token is white space, or a word that the token does not
go on with.  In either case it does not start like the token. -/
theorem HasForeign.head?_ne_getLast? (has : HasForeign name ahead token behind) :
    token.head? ≠ ahead.getLast? := by
  obtain ⟨isGap, isName, isClause, @⟨flags, words, blanks, _, _, areFlags, -, blank, separated,
    isToken, -, -⟩⟩ := has
  obtain ⟨c, first, inToken⟩ := isToken.head?_append []
  rw [List.append_nil] at first
  rw [first]
  by_cases none : blanks = []
  · subst none
    have noFlags : flags = [] := by
      by_contra some
      exact separated some rfl
    subst noFlags
    cases areFlags
    obtain ⟨d, last, inWord⟩ := isClause.getLast? isName
    have stops := isClause.ends
    rw [List.append_nil, List.nil_append, Stops, List.head?_append, first, Option.some_or,
      Option.any_some] at stops
    rw [List.append_nil, List.append_nil, last]
    rintro ⟨rfl⟩
    rw [stops] at inWord
    exact Bool.false_ne_true inWord
  · have isRun : Run isSpace blanks := ⟨none, blank⟩
    obtain ⟨d, last, isBlank⟩ := isRun.getLast?_append words
    rw [List.getLast?_append, last, Option.some_or]
    rintro ⟨rfl⟩
    rw [isBlank] at inToken
    exact Bool.false_ne_true inToken

end

end Header

/-! ## The label -/

/-- Texts that go on alike from places one byte apart start with the character between. -/
theorem Text.head?_eq_getLast?_of_shift {left right token behind behind' : List Char}
    (nonempty : token ≠ []) (same : left ++ (token ++ behind) = right ++ (token ++ behind'))
    (short : byteLength left + 1 = byteLength right) : token.head? = right.getLast? := by
  rcases List.append_eq_append_iff.mp same with ⟨between, rfl, goesOn⟩ | ⟨between, rfl, -⟩
  · rw [byteLength_append] at short
    cases between with
    | nil => simp [byteLength] at short
    | cons c rest =>
        have cPos := c.utf8Size_pos
        rw [byteLength] at short
        obtain rfl : rest = [] := by
          by_contra more
          have restPos := byteLength_pos more
          omega
        obtain ⟨d, token, rfl⟩ := List.exists_cons_of_ne_nil nonempty
        rw [List.cons_append, List.singleton_append] at goesOn
        rw [List.getLast?_concat, (List.cons.inj goesOn).1, List.head?_cons]
  · rw [byteLength_append] at short
    omega

attribute [local irreducible] Document.normalizedLines

/-- The text that is shown goes on with this text from the label of the finding on. -/
def Finding.LabelsText (finding : Finding) (doc : Document) (text : List Char) : Prop :=
  ∃ front rest, (finding.diagnostic doc).source.toList = front ++ (text ++ rest) ∧
    byteLength front = (finding.diagnostic doc).offset

/-- A label one byte in front of a text is not at the text, unless the text starts with what stands
there. -/
theorem Finding.not_labelsText {finding : Finding} {doc : Document} {ahead token behind : List Char}
    (shown : (finding.diagnostic doc).source.toList = ahead ++ (token ++ behind))
    (short : (finding.diagnostic doc).offset + 1 = byteLength ahead) (nonempty : token ≠ [])
    (differs : token.head? ≠ ahead.getLast?) : ¬finding.LabelsText doc token := by
  rintro ⟨front, rest, labelled, offset⟩
  rw [← offset] at short
  exact differs (Text.head?_eq_getLast?_of_shift nonempty (labelled.symm.trans shown) short)

theorem Text.StartsLine.eq_nil {front : List Char} (starts : StartsLine 0 front) : front = [] := by
  obtain ⟨feeds, empty | last⟩ := starts
  · exact empty
  · exact absurd (List.mem_of_getLast? last) (List.count_eq_zero.mp feeds)

/-- A label in the first line is counted from the start of the text. -/
theorem Finding.StandsIn.offset_first {finding : Finding} {doc : Document} {line : List Char}
    (stands : finding.StandsIn doc) (atFirst : finding.location.line = 1)
    (first : (doc.lines finding.view).head? = some line) :
    line <+: (finding.diagnostic doc).source.toList ∧
      (finding.diagnostic doc).offset = finding.location.column - 1 := by
  obtain ⟨front, piece, back, whole, starts, -, isPiece, -, offset⟩ := stands.offsetExact
  have isLine : (doc.lines finding.view).getD 0 [] = line := by
    rw [List.getD_eq_getElem?_getD, ← List.head?_eq_getElem?, first, Option.getD_some]
  rw [atFirst] at starts isPiece
  obtain rfl := starts.eq_nil
  rw [isLine] at isPiece
  rw [List.nil_append] at whole
  constructor
  · rw [diagnostic, String.toList_ofList, whole]
    exact isPiece.trans (List.prefix_append piece back)
  · rw [offset, byteLength, Nat.zero_add]

/-- The words of the rule for an unknown flag are those for no other fault. -/
theorem Header.report_eq_iff {fault : Fault} {token : String} :
    s!"{keyword} error: {fault.message}" = s!"Scriptname error: unknown flag {token}" ↔
      fault = .unknownFlag token := by
  have report : s!"Scriptname error: unknown flag {token}" =
      s!"{keyword} error: {(Fault.unknownFlag token).message}" := by
    have lead : "Scriptname error: unknown flag " = keyword ++ " error: " ++ "unknown flag " := by
      decide
    exact (congrArg (· ++ token) lead).trans (String.append_assoc ..)
  rw [report]
  constructor
  · intro same
    exact Fault.eq_unknownFlag_of_message ((String.append_right_inj _).mp same)
  · rintro rfl
    rfl

/-- The rule reports an unknown flag where the header is blamed for one. -/
theorem Rule.reports_unknownFlag_iff {doc : Document} {context : Context} {finding : Finding}
    {token : String} :
    (scriptName.check doc context).finding = some finding ∧
        finding.message = s!"Scriptname error: unknown flag {token}" ↔
      ∃ column, readHeader doc = .error ⟨column, .unknownFlag token⟩ ∧
        finding = .located "script-name" doc 1 column
          s!"Scriptname error: unknown flag {token}" := by
  constructor
  · rintro ⟨found, said⟩
    cases read : readHeader doc with
    | ok header => simp [scriptName_check_of_ok read] at found
    | error blame =>
        rw [scriptName_check_of_error read] at found
        obtain rfl := Option.some.inj found
        obtain ⟨column, fault⟩ := blame
        obtain rfl := Header.report_eq_iff.mp said
        exact ⟨column, rfl, congrArg (Finding.located "script-name" doc 1 column) said⟩
  · rintro ⟨column, read, rfl⟩
    rw [scriptName_check_of_error read, Header.report_eq_iff.mpr rfl]
    exact ⟨rfl, rfl⟩

/-- A header is blamed for an unknown flag exactly if that is the first token that is no flag or one
flag too many.  The label stands one byte in front of the token and never at it. -/
theorem unknown_flag_label (doc : Document) (context : Context) (finding : Finding)
    (token : String) :
    (Rule.scriptName.check doc context).finding = some finding ∧
        finding.message = s!"Scriptname error: unknown flag {token}" ↔
      ∃ ahead behind, doc.normalizedLines.head? = some (ahead ++ (token.toList ++ behind)) ∧
        Header.HasForeign doc.scriptName.toList ahead token.toList behind ∧
        finding = .located "script-name" doc 1 (byteLength ahead)
          s!"Scriptname error: unknown flag {token}" ∧
        ahead ++ (token.toList ++ behind) <+: (finding.diagnostic doc).source.toList ∧
        (finding.diagnostic doc).offset + 1 = byteLength ahead ∧
        ¬finding.LabelsText doc token.toList := by
  constructor
  · intro reports
    obtain ⟨column, read, rfl⟩ := Rule.reports_unknownFlag_iff.mp reports
    rw [Rule.readHeader_eq_read, Header.read_eq_unknownFlag_iff] at read
    obtain ⟨ahead, behind, isLine, has, rfl⟩ := read
    have first : doc.normalizedLines.head? = some (ahead ++ (token.toList ++ behind)) := by
      cases lines : doc.normalizedLines with
      | nil =>
          rw [lines] at isLine
          exact absurd (List.append_eq_nil_iff.mp isLine.symm).1 has.ahead_ne_nil
      | cons line rest =>
          rw [lines] at isLine
          exact congrArg some isLine
    obtain ⟨⟨later, shown⟩, offset⟩ :=
      (Rule.blamedBy_scriptName reports.1).isFrom.stands.offset_first rfl first
    have short := (congrArg (· + 1) offset).trans
      (Nat.sub_add_cancel (Text.byteLength_pos has.ahead_ne_nil))
    have shownBehind := shown.symm
    rw [List.append_assoc, List.append_assoc] at shownBehind
    exact ⟨ahead, behind, first, has, rfl, ⟨later, shown⟩, short,
      Finding.not_labelsText shownBehind short has.token_ne_nil has.head?_ne_getLast?⟩
  · rintro ⟨ahead, behind, first, has, isFinding, -⟩
    refine Rule.reports_unknownFlag_iff.mpr ⟨byteLength ahead, ?_, isFinding⟩
    rw [Rule.readHeader_eq_read, Header.read_eq_unknownFlag_iff]
    refine ⟨ahead, behind, ?_, has, rfl⟩
    rw [List.getD_eq_getElem?_getD, ← List.head?_eq_getElem?, first, Option.getD_some]

/-- The label of the token behind a name is the white space between. -/
theorem unknown_flag_not_labelled :
    let doc := Document.ofPath "test.psc" "Scriptname test Bogus"
    let finding : Finding :=
      { rule := "script-name"
        location := ⟨"test.psc", 1, 16⟩
        message := "Scriptname error: unknown flag Bogus" }
    (Rule.scriptName.check doc .fresh).finding = some finding ∧
      (finding.diagnostic doc).source = "Scriptname test " ++ "Bogus" ∧
      (finding.diagnostic doc).offset = 15 ∧ ¬finding.LabelsText doc "Bogus".toList := by
  intro doc finding
  have shown : (finding.diagnostic doc).source = "Scriptname test " ++ "Bogus" := by decide +kernel
  have split : (finding.diagnostic doc).source.toList =
      "Scriptname test ".toList ++ ("Bogus".toList ++ []) := by
    rw [shown, String.toList_append, List.append_nil]
  have offset : (finding.diagnostic doc).offset = 15 := by decide +kernel
  have short : (finding.diagnostic doc).offset + 1 = byteLength "Scriptname test ".toList := by
    rw [offset]
    decide
  exact ⟨by decide +kernel, shown, offset,
    Finding.not_labelsText split short (by decide) (by decide)⟩

end ScriptLint
