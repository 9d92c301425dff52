import ScriptLint.Proofs.Block.Nesting
import ScriptLint.Proofs.Text.Lines

/-!
# Tests that are accepted

A test is read up to its first closing parenthesis or operator, and what stands there decides.  The
tests that are accepted are therefore given by a small grammar: plain ones, ones in parentheses, and
ones that start with a call without arguments.  Behind the first closing parenthesis anything may
follow.  The grammar is narrower than the balance of parentheses: a call with arguments is refused
although its parentheses match.
-/

namespace ScriptLint

open Text

namespace Block

/-! ## Readable tests -/

/-- The tests that are accepted, without white space around them. -/
inductive Readable : List Char → Prop where
  /-- Neither an operator nor a parenthesis that closes, and none that opens in front. -/
  | plain {body : List Char} (goesOn : ∀ c ∈ body, endsBody c = false)
      (unopened : body.head? ≠ some '(') : Readable body
  /-- A parenthesis in front is closed before any operator. -/
  | enclosed {body : List Char} (goesOn : ∀ c ∈ body, endsBody c = false) (rest : List Char) :
      Readable ('(' :: body ++ ')' :: rest)
  /-- A call without arguments is complete before any operator. -/
  | call {front : List Char} (goesOn : ∀ c ∈ front, endsBody c = false) (rest : List Char) :
      Readable (front ++ '(' :: ')' :: rest)

theorem eq_close_of_endsBody {c : Char} (ends : endsBody c = true)
    (notDangling : isDangling c = false) : c = ')' := by
  rw [endsBody, Bool.or_eq_true, beq_iff_eq] at ends
  refine ends.resolve_right ?_
  intro operator
  have dangling : isDangling c = true := by
    simp only [isDangling, List.contains_iff_mem] at operator ⊢
    exact List.mem_append_left ['/', '('] operator
  rw [dangling] at notDangling
  contradiction

theorem isSpace_of_endsBody {c : Char} (ends : endsBody c = true) : isSpace c = false := by
  have solid : (')' :: "|&=!\"'@#-*+".toList).all (!isSpace ·) = true := by decide
  rw [endsBody, Bool.or_eq_true, beq_iff_eq, List.contains_iff_mem, ← List.mem_cons] at ends
  simpa using List.all_eq_true.mp solid c ends

/-- What is read of a test, told from the place at which its body ends. -/
theorem Test.read_eq {text front behind : List Char} (split : afterSpace text = front ++ behind)
    (goesOn : ∀ c ∈ front, endsBody c = false) (stops : Stops (!endsBody ·) behind) :
    Test.read text =
      { separator := text.takeWhile isSpace
        opened := front.head? == some '('
        body := if front.head? == some '(' then front.tail else front
        dangling := behind.takeWhile isDangling
        closed := (behind.dropWhile isDangling).head? == some ')' } := by
  have opened : ((front ++ behind).head? == some '(') = (front.head? == some '(') := by
    cases front with
    | cons c body => rfl
    | nil =>
        cases behind with
        | nil => rfl
        | cons c rest =>
            -- The body does not end at an opening parenthesis.
            rw [stops_cons, Bool.not_eq_false'] at stops
            simp only [List.nil_append, List.head?_cons, List.head?_nil]
            rw [beq_eq_false_iff_ne.mpr, beq_eq_false_iff_ne.mpr (by simp)]
            intro isOpen
            rw [Option.some.inj isOpen] at stops
            exact absurd stops (by decide)
  have inner : (if front.head? == some '(' then (front ++ behind).tail else front ++ behind) =
      (if front.head? == some '(' then front.tail else front) ++ behind := by
    cases front with
    | nil => rfl
    | cons c body => split_ifs <;> rfl
  have bodyGoesOn : ∀ c ∈ if front.head? == some '(' then front.tail else front,
      (!endsBody c) = true := by
    intro c member
    rw [Bool.not_eq_true']
    split_ifs at member
    · exact goesOn c (List.mem_of_mem_tail member)
    · exact goesOn c member
  simp only [Test.read, split, opened, inner, takeWhile_append_stops bodyGoesOn stops,
    dropWhile_append_stops bodyGoesOn stops]

theorem Test.isValid_judge_iff (keyword : List Char) (lineLength : Nat) (test : Test) :
    (test.closeCall.judge keyword lineLength).isValid = true ↔
      test.dangling = [] ∧
        (test.opened = true ∧ test.closed = true ∨
          test.opened = false ∧ (test.closed = false ∨ test.body.getLast? = some '(')) := by
  obtain ⟨separator, opened, body, dangling, closed⟩ := test
  cases opened with
  | true => cases closed <;> cases dangling <;> simp [closeCall, judge, Opener.isValid]
  | false =>
      cases closed with
      | false => cases dangling <;> simp [closeCall, judge, Opener.isValid]
      | true =>
          by_cases call : body.getLast? = some '('
          · cases dangling <;> simp [closeCall, judge, Opener.isValid, call]
          · simp [closeCall, judge, Opener.isValid, call]

/-- The grammar of readable tests is what reading accepts. -/
theorem Test.isValid_read_iff (keyword : List Char) (lineLength : Nat) (text : List Char) :
    ((Test.read text).closeCall.judge keyword lineLength).isValid = true ↔
      Readable (afterSpace text) := by
  rw [Test.isValid_judge_iff]
  constructor
  · intro accepted
    have split := (List.takeWhile_append_dropWhile (p := (!endsBody ·)) (l := afterSpace text)).symm
    have goesOn : ∀ c ∈ (afterSpace text).takeWhile (!endsBody ·), endsBody c = false := by
      intro c member
      simpa using List.mem_takeWhile_imp member
    have stops := stops_dropWhile (!endsBody ·) (afterSpace text)
    generalize (afterSpace text).takeWhile (!endsBody ·) = front at split goesOn
    generalize (afterSpace text).dropWhile (!endsBody ·) = behind at split stops
    rw [Test.read_eq split goesOn stops] at accepted
    obtain ⟨noneDangling, verdict⟩ := accepted
    rw [split]
    cases behind with
    | nil =>
        rw [List.append_nil]
        refine .plain goesOn ?_
        simpa using verdict
    | cons c rest =>
        rw [stops_cons, Bool.not_eq_false'] at stops
        -- An operator here would be left over, so the body ends at a parenthesis.
        have notDangling : isDangling c = false := by
          by_contra dangling
          simp [List.takeWhile_cons_of_pos (Bool.not_eq_false _ ▸ dangling)] at noneDangling
        obtain rfl := eq_close_of_endsBody stops notDangling
        rcases verdict with ⟨opened, -⟩ | ⟨unopened, unclosed | call⟩
        · obtain ⟨body, rfl⟩ := List.head?_eq_some_iff.mp (eq_of_beq opened)
          exact .enclosed (fun c member => goesOn c (List.mem_cons_of_mem _ member)) rest
        · simp [notDangling] at unclosed
        · -- The closing parenthesis belongs to a call that the body ends with.
          dsimp only at unopened call
          rw [unopened, if_neg Bool.false_ne_true] at call
          obtain ⟨front, rfl⟩ := List.getLast?_eq_some_iff.mp call
          rw [List.append_assoc]
          exact .call (fun c member => goesOn c (List.mem_append_left _ member)) rest
  · intro readable
    have stops (rest : List Char) : Stops (!endsBody ·) (')' :: rest) := stops_cons.mpr (by decide)
    have openGoesOn : endsBody '(' = false := by decide
    have closes : isDangling ')' = false := by decide
    generalize stripped : afterSpace text = start at readable
    cases readable with
    | plain goesOn unopened =>
        rw [Test.read_eq (by rw [stripped, List.append_nil]) goesOn (stops_nil _)]
        simpa using unopened
    | enclosed goesOn rest =>
        rw [Test.read_eq stripped (List.forall_mem_cons.mpr ⟨openGoesOn, goesOn⟩) (stops rest)]
        simp [closes]
    | @call front goesOn rest =>
        have callGoesOn : ∀ c ∈ front ++ ['('], endsBody c = false :=
          List.forall_mem_append.mpr ⟨goesOn, List.forall_mem_singleton.mpr openGoesOn⟩
        have split : afterSpace text = (front ++ ['(']) ++ ')' :: rest := by
          rw [stripped, List.append_assoc]
          rfl
        rw [Test.read_eq split callGoesOn (stops rest)]
        cases opened : (front ++ ['(']).head? == some '(' <;> simp [closes]

/-! ## Scripts of one test -/

section Scripts

variable {kind : Kind} {doc : Document} {test : List Char}

theorem readOpener?_eq_readTest? (carriesTest : kind = .ifTest ∨ kind = .whileLoop)
    (line : List Char) : kind.readOpener? line = readTest? kind.opening.toList line := by
  obtain rfl | rfl := carriesTest <;> rfl

theorem trim_opening (carriesTest : kind = .ifTest ∨ kind = .whileLoop) (test : List Char) :
    trim (kind.opening.toList ++ ' ' :: test) = kind.opening.toList ++ trimEnd (' ' :: test) := by
  rcases carriesTest with rfl | rfl
  · exact @trimEnd_append 'f' (by decide) ['i'] (' ' :: test)
  · exact @trimEnd_append 'e' (by decide) ['w', 'h', 'i', 'l'] (' ' :: test)

theorem normalizedLines_test (carriesTest : kind = .ifTest ∨ kind = .whileLoop)
    (content : doc.content.toList =
      kind.opening.toList ++ ' ' :: test ++ '\n' :: kind.closing.toList)
    (noBreak : '\n' ∉ test) :
    doc.normalizedLines =
      [kind.opening.toList ++ trimEnd (' ' :: test), kind.closing.toList] := by
  have openingUnbroken : '\n' ∉ kind.opening.toList ++ ' ' :: test := by
    have keywordUnbroken : '\n' ∉ kind.opening.toList := by cases kind <;> decide
    simp [keywordUnbroken, noBreak]
  have closingUnbroken : '\n' ∉ kind.closing.toList := by cases kind <;> decide
  have openingCode : isCode (kind.opening.toList ++ trimEnd (' ' :: test)) = true := by
    cases kind <;> rfl
  have closingTrimmed : trim kind.closing.toList = kind.closing.toList := by cases kind <;> decide
  have closingCode : isCode kind.closing.toList = true := by cases kind <;> rfl
  rw [Document.normalizedLines, normalize_eq, content, split, List.splitOn_append_cons_self,
    List.splitOn_eq_singleton openingUnbroken, List.splitOn_eq_singleton closingUnbroken, codeLines,
    List.singleton_append, List.map_cons, List.map_singleton, trim_opening carriesTest,
    closingTrimmed, List.filter_cons_of_pos openingCode, List.filter_cons_of_pos closingCode,
    List.filter_nil]

attribute [local irreducible] Document.normalizedLines

/-- The line of a test is an opener, and a well-formed one exactly if the test is readable. -/
theorem readOpener?_test (carriesTest : kind = .ifTest ∨ kind = .whileLoop) (test : List Char) :
    ∃ opener, kind.readOpener? (kind.opening.toList ++ trimEnd (' ' :: test)) = some opener ∧
      (opener.isValid = true ↔ Readable (trim test)) := by
  have stops : Stops isWord (trimEnd (' ' :: test)) := by
    obtain ⟨rest, whole⟩ := List.rdropWhile_prefix isSpace (' ' :: test)
    cases kept : trimEnd (' ' :: test) with
    | nil => exact stops_nil isWord
    | cons c behind =>
        change trimEnd (' ' :: test) ++ rest = ' ' :: test at whole
        rw [kept] at whole
        rw [(List.cons.inj whole).1, stops_cons]
        exact isWord_of_isSpace (by decide)
  have keyword : afterKeyword? kind.opening.toList
      (kind.opening.toList ++ trimEnd (' ' :: test)) = some (trimEnd (' ' :: test)) :=
    afterKeyword?_eq_some_iff.mpr ⟨rfl, stops⟩
  refine ⟨_, by rw [readOpener?_eq_readTest? carriesTest, readTest?, keyword, Option.map_some], ?_⟩
  rw [Test.isValid_read_iff, afterSpace_trimEnd, trim_cons_of_isSpace (by decide)]

/-- An opener in front of its closing keyword is all right if it is well formed. -/
theorem check_of_closed {line : List Char} {opener : Opener}
    (lines : doc.normalizedLines = [line, kind.closing.toList])
    (read : kind.readOpener? line = some opener) :
    (kind.rule.check doc .fresh).finding = none ↔ opener.isValid = true := by
  have closingUnread : kind.readOpener? kind.closing.toList = none :=
    Kind.readOpener?_of_isCloser kind.isCloser_closing
  have free (index : Nat) : index ∉ Context.fresh.claims := ClaimSet.not_mem_empty index
  rw [kind.check_rule]
  cases opener with
  | invalid label column fault =>
      have refused : openings kind Context.fresh.claims 0 doc.normalizedLines =
          .error ⟨0, label, column, fault⟩ := by
        rw [lines, openings_cons, if_neg (free 0), read]
      rw [check_of_error refused]
      simp [Opener.isValid]
  | valid label =>
      have collected : openings kind Context.fresh.claims 0 doc.normalizedLines =
          .ok [⟨0, label⟩] := by
        rw [lines, openings_cons, if_neg (free 0), read, openings_cons,
          if_neg (free 1), closingUnread]
        rfl
      have lineOpens := Kind.isCloser_of_isOpener (Kind.isOpener_of_read read)
      have closes : closers kind Context.fresh.claims 0 doc.normalizedLines = [1] := by
        rw [lines, closers_eq, unclaimed_cons, unclaimed_cons, if_neg (by simp [lineOpens]),
          if_pos ⟨free 1, kind.isCloser_closing⟩]
        rfl
      rw [check_of_ok collected, closes]
      simp [unmatched?, Opener.isValid]

/-- The script of one closed test gets no finding exactly if the test is readable. -/
theorem test_accepted_iff_readable (carriesTest : kind = .ifTest ∨ kind = .whileLoop)
    (content : doc.content.toList =
      kind.opening.toList ++ ' ' :: test ++ '\n' :: kind.closing.toList)
    (noBreak : '\n' ∉ test) :
    (kind.rule.check doc .fresh).finding = none ↔ Readable (trim test) := by
  obtain ⟨opener, read, valid_iff⟩ := readOpener?_test carriesTest test
  rw [check_of_closed (normalizedLines_test carriesTest content noBreak) read, valid_iff]

/-- Behind a call without arguments an operator is not looked at. -/
theorem test_accepted_iff_readable_call :
    let test := "active() && ready ".toList
    let doc := Document.ofPath "test.psc" "while active() && ready \nendwhile"
    doc.content.toList =
        Kind.whileLoop.opening.toList ++ ' ' :: test ++ '\n' :: Kind.whileLoop.closing.toList ∧
      '\n' ∉ test ∧ Readable (trim test) ∧
      (Kind.whileLoop.rule.check doc .fresh).finding = none := by
  intro test doc
  have content : doc.content.toList =
      Kind.whileLoop.opening.toList ++ ' ' :: test ++ '\n' :: Kind.whileLoop.closing.toList := by
    decide +kernel
  have noBreak : '\n' ∉ test := by decide +kernel
  have trimmed : trim test = "active".toList ++ '(' :: ')' :: " && ready".toList := by
    decide +kernel
  have goesOn : "active".toList.all (!endsBody ·) = true := by decide +kernel
  have readable : Readable (trim test) := by
    rw [trimmed]
    exact .call (fun c member => by simpa using List.all_eq_true.mp goesOn c member) _
  exact ⟨content, noBreak, readable,
    (test_accepted_iff_readable (Or.inr rfl) content noBreak).mpr readable⟩

/-- A test that a reader would call well formed: its parentheses match, no operator is left over at
its end, and it stays on its line. -/
structure Balanced (test : List Char) : Prop where
  nonempty : test ≠ []
  matching : ∀ front ∈ test.inits, front.count ')' ≤ front.count '('
  total : test.count '(' = test.count ')'
  finished : (trim test).getLast?.any isDangling = false
  unbroken : '\n' ∉ test ∧ '\r' ∉ test ∧ commentMarker ∉ test

/-- Tests that a reader would call well formed are refused: a call with arguments, and a comparison
that no closing parenthesis precedes. -/
theorem refuses_balanced_tests :
    let call := Document.ofPath "test.psc" "if f(1)\nendif"
    let comparison := Document.ofPath "test.psc" "while a == b\nendwhile"
    Balanced "f(1)".toList ∧
      (Rule.ifStatement.check call .fresh).finding =
        some (.located "if-statement" call 1 3 "if error: missing open parenthesis") ∧
      Balanced "a == b".toList ∧
      (Rule.whileLoop.check comparison .fresh).finding =
        some (.located "while-loop" comparison 1 12 "while error: extraneous ==") := by
  intro call comparison
  refine ⟨?_, by decide +kernel, ?_, by decide +kernel⟩
  · constructor <;> decide +kernel
  · constructor <;> decide +kernel

end Scripts

end Block
end ScriptLint
