import ScriptLint.Proofs.Block.Test
import ScriptLint.Proofs.Comments.Remarks

/-!
# Comments behind a test

A test ends at its first operator or closing parenthesis.  Where it has one, a comment behind it is
not looked at.  Where it has none, the test goes on into the comment, and the operators and
parentheses of the comment are taken for its own.
-/

namespace ScriptLint

open Text

namespace Block

/-- What an opener is judged to be, without the column that is blamed. -/
def Opener.verdict : Opener → String × Option Fault
  | .valid label => (label, none)
  | .invalid label _ fault => (label, some fault)

/-- Operators that are left over. -/
def leftOver (operators : List Char) : Option Fault :=
  if operators = [] then none else some (.extraneous (String.ofList operators))

/-- What is wrong with a test, told from its parts. -/
def Test.fault? (test : Test) : Option Fault :=
  if test.opened then
    if test.closed then leftOver test.dangling else some .missingCloseParenthesis
  else if test.closed ∧ test.body.getLast? ≠ some '(' then
    some .missingOpenParenthesis
  else
    leftOver test.dangling

theorem Test.verdict_judge (keyword : List Char) (lineLength : Nat) (test : Test) :
    (test.closeCall.judge keyword lineLength).verdict = (String.ofList keyword, test.fault?) := by
  obtain ⟨separator, opened, body, dangling, closed⟩ := test
  cases opened with
  | true =>
      cases closed <;> cases dangling <;> simp [closeCall, judge, Opener.verdict, fault?, leftOver]
  | false =>
      cases closed with
      | false => cases dangling <;> simp [closeCall, judge, Opener.verdict, fault?, leftOver]
      | true =>
          by_cases call : body.getLast? = some '('
          · cases dangling <;> simp [closeCall, judge, Opener.verdict, fault?, leftOver, call]
          · simp [closeCall, judge, Opener.verdict, fault?, call]

/-- A comment behind a test is passed over.  Either an operator or a closing parenthesis ends the
test in front of the comment.  Or the test goes on into the comment and what ends it there makes no
difference: behind an opening parenthesis anything but a closing one, and otherwise nothing or a
call without arguments. -/
def PassesOver (test comment : List Char) : Prop :=
  test.any endsBody = true ∨
    if (afterSpace test).head? = some '(' then
      ((comment.dropWhile (!endsBody ·)).dropWhile isDangling).head? ≠ some ')'
    else
      comment.dropWhile (!endsBody ·) = [] ∨
        (comment.takeWhile (!endsBody ·)).getLast? = some '(' ∧
          (comment.dropWhile (!endsBody ·)).head? = some ')'

/-- A test that has ended is the same with a comment behind it. -/
theorem Test.fault?_of_ended {test : List Char} (ended : test.any endsBody = true)
    (comment : List Char) :
    (Test.read (test ++ remark comment)).fault? = (Test.read test).fault? := by
  obtain ⟨stop, member, ends⟩ := List.any_eq_true.mp ended
  have inBehind : stop ∈ (afterSpace test).dropWhile (!endsBody ·) :=
    mem_dropWhile_of_mem (mem_dropWhile_of_mem member (isSpace_of_endsBody ends)) (by simp [ends])
  have split := (List.takeWhile_append_dropWhile (p := (!endsBody ·)) (l := afterSpace test)).symm
  have goesOn : ∀ c ∈ (afterSpace test).takeWhile (!endsBody ·), endsBody c = false := by
    intro c member
    simpa using List.mem_takeWhile_imp member
  have stops := stops_dropWhile (!endsBody ·) (afterSpace test)
  have behindNonempty := List.ne_nil_of_mem inBehind
  generalize (afterSpace test).takeWhile (!endsBody ·) = front at split goesOn
  generalize (afterSpace test).dropWhile (!endsBody ·) = behind at split stops behindNonempty
  obtain ⟨c, rest, rfl⟩ := List.exists_cons_of_ne_nil behindNonempty
  have solid : afterSpace test ≠ [] := by simp [split]
  have splitBehind : afterSpace (test ++ remark comment) =
      front ++ (c :: rest ++ remark comment) := by
    rw [afterSpace_append_remark comment solid, split, List.append_assoc]
  have stopsBehind : Stops (!endsBody ·) (c :: rest ++ remark comment) :=
    stops_cons.mpr (stops_cons.mp stops)
  have spaceStops : Stops isDangling (remark comment) := stops_cons.mpr (by decide)
  rw [Test.read_eq split goesOn stops, Test.read_eq splitBehind goesOn stopsBehind,
    takeWhile_append_of_stops spaceStops, dropWhile_append_of_stops spaceStops]
  have closed : (((c :: rest).dropWhile isDangling ++ remark comment).head? == some ')') =
      (((c :: rest).dropWhile isDangling).head? == some ')') := by
    cases (c :: rest).dropWhile isDangling <;> rfl
  simp only [Test.fault?, closed]

/-- A test that has not ended, up to the marker of a comment behind it. -/
theorem afterSpace_unended {test : List Char} (unended : test.any endsBody = false)
    (comment : List Char) :
    ∃ front, afterSpace (test ++ remark comment) = front ++ ';' :: comment ∧
      (∀ c ∈ front, endsBody c = false) ∧
      ((front ++ [';']).head? == some '(') = ((afterSpace test).head? == some '(') := by
  by_cases blank : afterSpace test = []
  · refine ⟨[], afterSpace_append_remark_of_blank comment blank, List.forall_mem_nil _, ?_⟩
    rw [blank]
    rfl
  · refine ⟨afterSpace test ++ [' '], ?_, ?_, ?_⟩
    · rw [afterSpace_append_remark comment blank, List.append_assoc]
      rfl
    · refine List.forall_mem_append.mpr ⟨?_, List.forall_mem_singleton.mpr (by decide)⟩
      intro c member
      have notEnded := List.any_eq_false.mp unended c ((List.dropWhile_sublist isSpace).mem member)
      exact Bool.eq_false_iff.mpr notEnded
    · obtain ⟨c, rest, split⟩ := List.exists_cons_of_ne_nil blank
      rw [split]
      rfl

/-- What a test that has not ended is read as with a comment behind it. -/
theorem Test.read_of_unended {test inner behind : List Char} (unended : test.any endsBody = false)
    (goesOn : ∀ c ∈ inner, endsBody c = false) (stops : Stops (!endsBody ·) behind) :
    let read := Test.read (test ++ remark (inner ++ behind))
    read.opened = ((afterSpace test).head? == some '(') ∧
      (read.opened = false → read.body.getLast? = (';' :: inner).getLast?) ∧
      read.dangling = behind.takeWhile isDangling ∧
      read.closed = ((behind.dropWhile isDangling).head? == some ')') := by
  obtain ⟨front, split, frontGoesOn, opened⟩ := afterSpace_unended unended (inner ++ behind)
  have splitInner : afterSpace (test ++ remark (inner ++ behind)) =
      (front ++ [';'] ++ inner) ++ behind := by
    rw [split, List.append_assoc, List.append_assoc]
    rfl
  have innerGoesOn : ∀ c ∈ front ++ [';'] ++ inner, endsBody c = false :=
    List.forall_mem_append.mpr ⟨List.forall_mem_append.mpr
      ⟨frontGoesOn, List.forall_mem_singleton.mpr (by decide)⟩, goesOn⟩
  have openedInner : ((front ++ [';'] ++ inner).head? == some '(') =
      ((afterSpace test).head? == some '(') := by
    rw [← opened]
    cases front <;> rfl
  rw [Test.read_eq splitInner innerGoesOn stops]
  refine ⟨openedInner, ?_, rfl, rfl⟩
  intro unopened
  dsimp only at unopened ⊢
  rw [unopened, if_neg Bool.false_ne_true, List.append_assoc]
  exact List.getLast?_append_of_ne_nil front (List.cons_ne_nil ';' inner)

theorem leftOver_ne_missingClose (operators : List Char) :
    leftOver operators ≠ some .missingCloseParenthesis := by
  rw [leftOver]
  split_ifs <;> simp

theorem getLast?_marker_cons_iff {inner : List Char} :
    (';' :: inner).getLast? = some '(' ↔ inner.getLast? = some '(' := by
  cases inner with
  | nil => simp
  | cons c rest => rw [List.getLast?_cons_cons]

/-- A test without a parenthesis in front that ends in a comment, by what stands there. -/
theorem unopened_faultless_iff {inner behind : List Char} (stops : Stops (!endsBody ·) behind) :
    (if (behind.dropWhile isDangling).head? = some ')' ∧ (';' :: inner).getLast? ≠ some '(' then
        some Fault.missingOpenParenthesis
      else leftOver (behind.takeWhile isDangling)) = none ↔
      behind = [] ∨ inner.getLast? = some '(' ∧ behind.head? = some ')' := by
  simp only [ne_eq, getLast?_marker_cons_iff]
  cases behind with
  | nil => simp [leftOver]
  | cons c rest =>
      rw [stops_cons, Bool.not_eq_false'] at stops
      by_cases dangling : isDangling c = true
      · have other : c ≠ ')' := by
          rintro rfl
          exact absurd dangling (by decide)
        rw [List.takeWhile_cons_of_pos dangling]
        split_ifs <;> simp [leftOver, other]
      · obtain rfl := eq_close_of_endsBody stops (Bool.eq_false_iff.mpr dangling)
        rw [List.takeWhile_cons_of_neg dangling, List.dropWhile_cons_of_neg dangling]
        split_ifs with call
        · simp [call.2]
        · simpa [leftOver] using call

/-- A test that has not ended lacks at most its closing parenthesis. -/
theorem Test.fault?_of_unended {test : List Char} (unended : test.any endsBody = false) :
    (Test.read test).fault? =
      if (afterSpace test).head? = some '(' then some .missingCloseParenthesis else none := by
  have goesOn : ∀ c ∈ afterSpace test, endsBody c = false := by
    intro c member
    have notEnded := List.any_eq_false.mp unended c ((List.dropWhile_sublist isSpace).mem member)
    exact Bool.eq_false_iff.mpr notEnded
  rw [Test.read_eq (List.append_nil (afterSpace test)).symm goesOn (stops_nil _)]
  by_cases isOpen : (afterSpace test).head? = some '('
  · simp [Test.fault?, isOpen]
  · simp [Test.fault?, leftOver, isOpen]

/-- A test that has not ended goes on into a comment behind it. -/
theorem Test.fault?_append_remark_iff {test : List Char} (unended : test.any endsBody = false)
    (comment : List Char) :
    (Test.read (test ++ remark comment)).fault? = (Test.read test).fault? ↔
      PassesOver test comment := by
  have goesOn : ∀ c ∈ comment.takeWhile (!endsBody ·), endsBody c = false := by
    intro c member
    simpa using List.mem_takeWhile_imp member
  have stops := stops_dropWhile (!endsBody ·) comment
  have read := Test.read_of_unended unended goesOn stops
  rw [List.takeWhile_append_dropWhile] at read
  obtain ⟨opened, last, dangling, closed⟩ := read
  rw [PassesOver, unended, Test.fault?_of_unended unended, Test.fault?, opened, dangling, closed]
  by_cases isOpen : (afterSpace test).head? = some '('
  · simp only [isOpen, beq_self_eq_true, ↓reduceIte, Bool.false_eq_true, false_or, beq_iff_eq]
    split_ifs with isClosed
    · exact iff_of_false (leftOver_ne_missingClose _) (fun unclosed => unclosed isClosed)
    · exact iff_of_true rfl isClosed
  · have unopened : ((afterSpace test).head? == some '(') = false := by simpa using isOpen
    rw [opened] at last
    simp only [unopened, isOpen, last unopened, ↓reduceIte, Bool.false_eq_true, false_or,
      beq_iff_eq]
    exact unopened_faultless_iff stops

/-- A comment behind the line makes no difference to the verdict on an opener exactly if it is
passed over behind the test. -/
theorem verdict_append_remark_iff {keyword : List Char} (noMarker : ';' ∉ keyword)
    (ends : keyword.getLast? ≠ some ' ') (line comment : List Char) :
    (readTest? keyword (line ++ remark comment)).map Opener.verdict =
        (readTest? keyword line).map Opener.verdict ↔
      ∀ test, afterKeyword? keyword line = some test → PassesOver test comment := by
  rw [readTest?, readTest?, afterKeyword?_append_remark noMarker ends]
  cases afterKeyword? keyword line with
  | none => simp
  | some test =>
      simp only [Option.map_some, Test.verdict_judge, Option.some.injEq, Prod.mk.injEq, true_and,
        forall_eq']
      cases ended : test.any endsBody with
      | true => exact iff_of_true (Test.fault?_of_ended ended comment) (Or.inl ended)
      | false => exact Test.fault?_append_remark_iff ended comment

end Block
end ScriptLint
