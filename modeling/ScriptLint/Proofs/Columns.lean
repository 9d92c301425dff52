import ScriptLint.Proofs.Header
import ScriptLint.Proofs.Text.Lines

/-!
# Columns of findings

Every rule gets the column that it blames by measuring a front of the line in bytes.  Some rules
count the column from one, so that it stands directly behind the front.  Others take the length of
the front as it is, or leave out a parenthesis that stands in it: what they blame falls short of the
end of the front by some bytes.
-/

namespace ScriptLint

open Text (byteLength isSpace isWord Run Stops)

attribute [local irreducible] Document.normalizedLines

/-! ## Measuring a line -/

/-- A rule measures a front of a line to find the place that it blames, and its label falls short of
the end of the front by a number of bytes. -/
inductive Rule.Measures : Rule → List Char → List Char → Nat → Prop
  /-- The blanks in front of a line, or all in front of the blanks behind it. -/
  | blanks {front rest : List Char}
      (blank : (∀ c ∈ front, Blanks.isBlank c = true) ∨ ∀ c ∈ rest, Blanks.isBlank c = true) :
      Measures trailingWhitespace (front ++ rest) front 0
  /-- Nothing, for the name or the arguments of a block, or one that is not closed. -/
  | opener (kind : Block.Kind) (line : List Char) : Measures kind.rule line [] 0
  /-- The keyword of a test and the white space behind it, for an opening parenthesis. -/
  | unopened {kind : Block.Kind} {gap rest : List Char}
      (isTest : kind = .ifTest ∨ kind = .whileLoop) (blank : ∀ c ∈ gap, isSpace c = true)
      (stops : Stops isSpace rest) :
      Measures kind.rule (kind.opening.toList ++ gap ++ rest) (kind.opening.toList ++ gap) 1
  /-- All up to the end of the body of a test, for a closing parenthesis.  The opening parenthesis
  is not counted. -/
  | unclosed {kind : Block.Kind} {gap body rest : List Char}
      (isTest : kind = .ifTest ∨ kind = .whileLoop) (blank : ∀ c ∈ gap, isSpace c = true)
      (inBody : ∀ c ∈ body, Block.endsBody c = false) (stops : Stops (!Block.endsBody ·) rest) :
      Measures kind.rule (kind.opening.toList ++ gap ++ '(' :: body ++ rest)
        (kind.opening.toList ++ gap ++ '(' :: body) 2
  /-- The line of a test, for an operator. -/
  | dangling {kind : Block.Kind} (isTest : kind = .ifTest ∨ kind = .whileLoop)
      (line : List Char) : Measures kind.rule line line 1
  /-- The line of a property. -/
  | property (line : List Char) : Measures property line line 1
  /-- Nothing, for a line that is no header. -/
  | noHeader {line : List Char} (other : ¬Header.keyword.toList <+: line) :
      Measures scriptName line [] 0
  /-- The keyword of a header, for the white space behind it. -/
  | keyword {rest : List Char} (stops : Stops isSpace rest) :
      Measures scriptName (Header.keyword.toList ++ rest) Header.keyword.toList 1
  /-- The keyword of a header and the white space behind it, for the name. -/
  | name {gap rest : List Char} (isGap : Run isSpace gap) (stops : Stops isSpace rest) :
      Measures scriptName (Header.keyword.toList ++ gap ++ rest) (Header.keyword.toList ++ gap) 1
  /-- All up to the keyword in front of a parent, for the parent. -/
  | parent (before rest : List Char) :
      Measures scriptName (Header.keyword.toList ++ before ++ Header.parentKeyword.toList ++ rest)
        (Header.keyword.toList ++ before ++ Header.parentKeyword.toList) 1
  /-- All in front of a token that is no flag. -/
  | flag {before rest : List Char} {c : Char} (solid : isSpace c = false) :
      Measures scriptName (Header.keyword.toList ++ before ++ c :: rest)
        (Header.keyword.toList ++ before) 1

/-- The rule blames the column, counted from one, that its measure of the line leads to. -/
def Rule.Blames (rule : Rule) (line : List Char) (column : Nat) : Prop :=
  ∃ front back, rule.Measures line front back ∧ back ≤ byteLength front ∧
    column = byteLength front - back + 1

theorem Rule.Measures.isPrefix {rule : Rule} {line front : List Char} {back : Nat}
    (measures : rule.Measures line front back) : front <+: line := by
  cases measures with
  | opener | noHeader => exact List.nil_prefix
  | dangling | property => exact List.prefix_rfl
  | blanks | unopened | unclosed | keyword | name | parent | flag => exact List.prefix_append _ _

/-! ## Blanks -/

theorem Blanks.utf8Size_of_isBlank {c : Char} (blank : isBlank c = true) : c.utf8Size = 1 := by
  rw [isBlank, Bool.or_eq_true, beq_iff_eq, beq_iff_eq] at blank
  rcases blank with rfl | rfl <;> decide

theorem Rule.blames_of_blanks {line : List Char} {column : Nat} {fault : Blanks.Fault}
    (found : Blanks.fault? line = some (column, fault)) :
    trailingWhitespace.Blames line column := by
  have leading : trailingWhitespace.Blames line ((line.takeWhile Blanks.isBlank).length + 1) := by
    have blank : ∀ c ∈ line.takeWhile Blanks.isBlank, Blanks.isBlank c = true :=
      fun c member => List.mem_takeWhile_imp member
    have measures := @Measures.blanks _ (line.dropWhile Blanks.isBlank) (Or.inl blank)
    rw [List.takeWhile_append_dropWhile] at measures
    refine ⟨_, 0, measures, Nat.zero_le _, ?_⟩
    rw [Text.byteLength_of_narrow fun c member => Blanks.utf8Size_of_isBlank (blank c member)]
    rfl
  have trailing : trailingWhitespace.Blames line
      (byteLength (Text.dropEndWhile Blanks.isBlank line) + 1) := by
    have blank : ∀ c ∈ line.rtakeWhile Blanks.isBlank, Blanks.isBlank c = true :=
      fun c member => List.mem_rtakeWhile_imp member
    have measures := @Measures.blanks (Text.dropEndWhile Blanks.isBlank line) _ (Or.inr blank)
    rw [Text.dropEndWhile_append] at measures
    exact ⟨_, 0, measures, Nat.zero_le _, rfl⟩
  rw [Blanks.fault?] at found
  dsimp only at found
  split_ifs at found with outOfScope leads empty trails
  all_goals
    obtain ⟨rfl, -⟩ := Prod.mk.inj (Option.some.inj found)
    assumption

/-! ## Openers -/

namespace Block

theorem column_readNamed {keyword line : List Char} {label : String} {column : Nat} {fault : Fault}
    (read : readNamed? keyword line = some (.invalid label column fault)) : column = 1 := by
  rw [readNamed?] at read
  cases start : namedStart? keyword line with
  | none => simp [start] at read
  | some begun =>
      simp only [start] at read
      split_ifs at read with unnamed
      · obtain ⟨-, rfl, -⟩ := Opener.invalid.inj (Option.some.inj read)
        rfl
      · cases wrong : argumentFault? (Text.afterWord (Text.afterSpace begun.rest)) with
        | none => simp [wrong] at read
        | some fault =>
            rw [wrong] at read
            obtain ⟨-, rfl, -⟩ := Opener.invalid.inj (Option.some.inj read)
            rfl

theorem Test.closeCall_separator (test : Test) : test.closeCall.separator = test.separator := by
  rw [Test.closeCall]
  split_ifs <;> rfl

theorem Test.closeCall_of_opened {test : Test} (opened : test.closeCall.opened = true) :
    test.closeCall = test := by
  rw [Test.closeCall] at opened ⊢
  split_ifs at opened ⊢ with isCall
  · dsimp only at opened
    simp [opened] at isCall
  · rfl

/-- An opened test is white space, the parenthesis, its body and what ends the body. -/
theorem Test.read_of_opened {text : List Char} (opened : (Test.read text).opened = true) :
    ∃ rest, text = (Test.read text).separator ++ '(' :: (Test.read text).body ++ rest ∧
      (∀ c ∈ (Test.read text).body, endsBody c = false) ∧ Stops (!endsBody ·) rest := by
  have isOpened : ((Text.afterSpace text).head? == some '(') = true := opened
  obtain ⟨inner, start⟩ : ∃ inner, Text.afterSpace text = '(' :: inner :=
    List.head?_eq_some_iff.mp (beq_iff_eq.mp isOpened)
  have body : (Test.read text).body = inner.takeWhile (!endsBody ·) := by
    rw [Test.read, start]
    rfl
  have separator : (Test.read text).separator = text.takeWhile isSpace := rfl
  rw [body, separator]
  refine ⟨inner.dropWhile (!endsBody ·), ?_, ?_, Text.stops_dropWhile _ inner⟩
  · rw [List.append_assoc, List.cons_append, List.takeWhile_append_dropWhile, ← start,
      Text.space_append_afterSpace]
  · intro c member
    simpa using List.mem_takeWhile_imp member

end Block

theorem Rule.blames_of_readTest {kind : Block.Kind} (isTest : kind = .ifTest ∨ kind = .whileLoop)
    {line : List Char} {label : String} {column : Nat} {fault : Block.Fault}
    (read : Block.readTest? kind.opening.toList line = some (.invalid label column fault)) :
    kind.rule.Blames line column := by
  have keywordPos : 0 < byteLength kind.opening.toList := by cases kind <;> decide
  rw [Block.readTest?, Option.map_eq_some_iff] at read
  obtain ⟨rest, found, judged⟩ := read
  obtain ⟨rfl, -⟩ := Text.afterKeyword?_eq_some_iff.mp found
  have blank : ∀ c ∈ (Block.Test.read rest).separator, isSpace c = true :=
    fun c member => List.mem_takeWhile_imp member
  rw [Block.Test.judge, Block.Test.closeCall_separator] at judged
  split_ifs at judged with closed opened dangles
  · obtain ⟨-, rfl, -⟩ := Block.Opener.invalid.inj judged
    have measures := Measures.unopened isTest blank (Text.stops_dropWhile isSpace rest)
    have whole : (Block.Test.read rest).separator ++ rest.dropWhile isSpace = rest :=
      Text.space_append_afterSpace rest
    rw [List.append_assoc, whole] at measures
    refine ⟨_, 1, measures, ?_⟩
    rw [Text.byteLength_append]
    exact ⟨by omega, by omega⟩
  · -- The body is the one that was read, without a parenthesis put back.
    simp only [Bool.and_eq_true] at opened
    rw [Block.Test.closeCall_of_opened opened.1] at judged opened
    obtain ⟨-, rfl, -⟩ := Block.Opener.invalid.inj judged
    obtain ⟨behind, whole, inBody, stops⟩ := Block.Test.read_of_opened opened.1
    have measures := Measures.unclosed isTest blank inBody stops
    rw [List.append_assoc, List.append_assoc, ← List.append_assoc _ _ behind, ← whole] at measures
    refine ⟨_, 2, measures, ?_⟩
    have one : '('.utf8Size = 1 := by decide
    rw [Text.byteLength_append, Text.byteLength_append, byteLength, one]
    exact ⟨by omega, by omega⟩
  · obtain ⟨-, rfl, -⟩ := Block.Opener.invalid.inj judged
    refine ⟨_, 1, .dangling isTest _, ?_⟩
    rw [Text.byteLength_append]
    exact ⟨by omega, by omega⟩

/-- The column that is blamed in a faulty opener. -/
theorem Rule.blames_of_readOpener {kind : Block.Kind} {line : List Char} {label : String}
    {column : Nat} {fault : Block.Fault}
    (read : kind.readOpener? line = some (.invalid label column fault)) :
    kind.rule.Blames line column := by
  cases kind with
  | function | event =>
      obtain rfl := Block.column_readNamed read
      exact ⟨[], 0, .opener _ line, Nat.zero_le _, rfl⟩
  | ifTest => exact blames_of_readTest (Or.inl rfl) read
  | whileLoop => exact blames_of_readTest (Or.inr rfl) read

namespace Block

/-- What a check of a family finds stands at a line of the script.  It is marked at the start of the
line, or where the line is faulty as an opener. -/
theorem blamed_of_check {kind : Kind} {rule : String} {doc : Document} {context : Context}
    {finding : Finding} (found : (check kind rule doc context).finding = some finding) :
    ∃ index line column message, doc.normalizedLines[index]? = some line ∧
      (column = 1 ∨ ∃ label fault, kind.readOpener? line = some (.invalid label column fault)) ∧
      finding = .located rule doc (index + 1) column message := by
  cases collected : openings kind context.claims 0 doc.normalizedLines with
  | error faulty =>
      rw [check_of_error collected] at found
      obtain ⟨line, atIndex, -, read⟩ := read_of_refused collected
      exact ⟨faulty.index, line, faulty.column, _, atIndex, Or.inr ⟨_, _, read⟩,
        (Option.some.inj found).symm⟩
  | ok opened =>
      rw [check_of_ok collected, Option.map_eq_some_iff] at found
      obtain ⟨opening, stopped, rfl⟩ := found
      obtain ⟨line, atIndex, -, -⟩ := mem_openings collected (mem_of_unmatched? stopped)
      exact ⟨opening.index, line, 1, _, atIndex, Or.inl rfl, rfl⟩

end Block

/-! ## Headers -/

namespace Header

theorem mem_of_readFlags_eq_error {room : Nat} {tokens : List Text.Token} {token : Text.Token}
    (refused : readFlags room tokens = .error token) : token ∈ tokens := by
  induction tokens generalizing room with
  | nil => simp [readFlags] at refused
  | cons first rest ih =>
      rcases readFlags_cons_eq_error_iff.mp refused with ⟨rfl, -⟩ | ⟨-, space, -, -, refusedLater⟩
      · exact List.mem_cons_self
      · exact List.mem_cons_of_mem first (ih refusedLater)

theorem split_of_parentClause? {text : List Char} {clause : ParentClause}
    (read : parentClause? text = some clause) :
    (∃ before, text = before ++ parentKeyword.toList ++ clause.afterKeyword) ∧
      clause.rest <:+ clause.afterKeyword := by
  rw [parentClause?] at read
  split_ifs at read with starts
  cases found : Text.afterKeyword? parentKeyword.toList (Text.afterSpace text) with
  | none => simp [found] at read
  | some behind =>
      obtain ⟨split, -⟩ := Text.afterKeyword?_eq_some_iff.mp found
      have whole : text = text.takeWhile isSpace ++ parentKeyword.toList ++ behind := by
        rw [List.append_assoc, ← split, Text.space_append_afterSpace]
      simp only [found] at read
      split_ifs at read with named
      · obtain rfl := Option.some.inj read
        refine ⟨⟨_, whole⟩, ?_⟩
        exact (List.dropWhile_suffix isWord).trans (List.dropWhile_suffix isSpace)
      · obtain rfl := Option.some.inj read
        exact ⟨⟨_, whole⟩, List.suffix_rfl⟩

/-- A column that counts all in front of a rest of the line is the length of the front. -/
theorem blames_of_front {line front rest : List Char} (whole : line = front ++ rest)
    (nonempty : front ≠ []) (measures : Rule.scriptName.Measures line front 1) :
    Rule.scriptName.Blames line (byteLength line - byteLength rest) := by
  have frontPos := Text.byteLength_pos nonempty
  have lengths := congrArg byteLength whole
  rw [Text.byteLength_append] at lengths
  exact ⟨front, 1, measures, by omega, by omega⟩

section

variable {line before rest : List Char} (whole : line = keyword.toList ++ before ++ rest)

include whole

theorem blames_of_complete {name : List Char} {parent : Option (List Char)} {blame : Blame}
    (refused : complete line name parent rest = .error blame) :
    Rule.scriptName.Blames line blame.column := by
  rw [complete] at refused
  cases read : readFlags maxFlags
      (Text.tokens (byteLength line - byteLength rest)
        (rest.takeWhile (· != Text.commentMarker))) with
  | ok flags => simp [read] at refused
  | error token =>
      rw [read] at refused
      obtain rfl := Except.error.inj refused
      obtain ⟨front, c, behind, split, solid, start⟩ :=
        Text.front_of_mem_tokens (mem_of_readFlags_eq_error read)
      have isRest : rest = front ++ c :: (behind ++ rest.dropWhile (· != Text.commentMarker)) := by
        rw [← List.cons_append, ← List.append_assoc, ← split, List.takeWhile_append_dropWhile]
      have isLine : line = keyword.toList ++ (before ++ front) ++
          c :: (behind ++ rest.dropWhile (· != Text.commentMarker)) := by
        rw [whole]
        nth_rewrite 1 [isRest]
        simp only [List.append_assoc]
      have measures : Rule.scriptName.Measures line (keyword.toList ++ (before ++ front)) 1 := by
        rw [isLine]
        exact .flag solid
      refine ⟨_, 1, measures, ?_⟩
      have ten : byteLength keyword.toList = 10 := by decide
      have lengths := congrArg byteLength whole
      rw [Text.byteLength_append, Text.byteLength_append] at lengths
      rw [Text.byteLength_append, Text.byteLength_append]
      dsimp only
      exact ⟨by omega, by omega⟩

theorem blames_of_readTail {name : List Char} {blame : Blame}
    (refused : readTail line name rest = .error blame) :
    Rule.scriptName.Blames line blame.column := by
  cases found : parentClause? rest with
  | none =>
      rw [readTail_of_none found] at refused
      exact blames_of_complete whole refused
  | some clause =>
      obtain ⟨⟨between, split⟩, ⟨further, isRest⟩⟩ := split_of_parentClause? found
      obtain ⟨parent?, behind, left⟩ := clause
      dsimp only at split isRest
      have isLine : line =
          keyword.toList ++ (before ++ between) ++ parentKeyword.toList ++ behind := by
        rw [whole, split]
        simp only [List.append_assoc]
      cases parent? with
      | none =>
          rw [readTail_of_missing found] at refused
          obtain rfl := Except.error.inj refused
          exact blames_of_front isLine (by simp [keyword]) (isLine ▸ .parent _ _)
      | some parent =>
          rw [readTail_of_parent found] at refused
          rw [← isRest, ← List.append_assoc, List.append_assoc _ _ parentKeyword.toList,
            List.append_assoc _ _ further] at isLine
          exact blames_of_complete isLine refused

end

theorem blames_of_read {expected : String} {line : List Char} {blame : Blame}
    (refused : read expected line = .error blame) : Rule.scriptName.Blames line blame.column := by
  rw [read] at refused
  cases found : keyword.toList.isPrefixOf? line with
  | none =>
      rw [found] at refused
      obtain rfl := Except.error.inj refused
      refine ⟨[], 0, .noHeader ?_, Nat.zero_le _, rfl⟩
      rintro ⟨rest, whole⟩
      rw [List.isPrefixOf?_eq_some_iff_append_eq.mpr whole] at found
      contradiction
  | some rest =>
      have split := (List.isPrefixOf?_eq_some_iff_append_eq.mp found).symm
      simp only [found] at refused
      by_cases starts : Text.startsSpace rest = true
      · have isGap := Text.run_takeWhile (Text.startsSpace_iff.mp starts)
        have whole : line = keyword.toList ++ rest.takeWhile isSpace ++ Text.afterSpace rest := by
          rw [List.append_assoc, Text.space_append_afterSpace, split]
        have blamed := blames_of_front whole (by simp [keyword])
          (whole ▸ .name isGap (Text.stops_dropWhile isSpace rest))
        rw [if_pos starts] at refused
        split_ifs at refused with unnamed same
        · obtain rfl := Except.error.inj refused
          exact blamed
        · rw [← Text.word_append_afterWord (Text.afterSpace rest), ← List.append_assoc,
            List.append_assoc keyword.toList] at whole
          exact blames_of_readTail whole refused
        · obtain rfl := Except.error.inj refused
          exact blamed
      · rw [if_neg starts] at refused
        obtain rfl := Except.error.inj refused
        rw [Bool.not_eq_true, Text.startsSpace_eq_false] at starts
        rw [split]
        exact ⟨_, 1, .keyword starts, by decide, rfl⟩

end Header

end ScriptLint
