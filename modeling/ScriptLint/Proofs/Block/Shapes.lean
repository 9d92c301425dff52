import ScriptLint.Proofs.Block.Test

/-!
# The shapes of test openers

An opener of a test is read in five parts, each of which may be missing: white space, a parenthesis,
a body, operators and a parenthesis.  A parenthesis at the end goes to a call without arguments if
the body ends in one.  All this comes to three shapes of well-formed openers.  A line of another
shape has one of two faults, and which two is seen from the first character of its test.
-/

namespace ScriptLint

open Text

namespace Block

/-! ## Shapes -/

/-- The line starts with the keyword, and no word goes on behind it. -/
def OpensTest (keyword line : List Char) : Prop :=
  ∃ test, line = keyword ++ test ∧ Stops isWord test

/-- There is neither a closing parenthesis nor an operator in the text. -/
def IsBody (text : List Char) : Prop := ∀ c ∈ text, c ∉ ")|&=!\"'@#-*+".toList

/-- The lines that are accepted as openers of a test. -/
inductive Shaped (keyword : List Char) : List Char → Prop where
  /-- A body in parentheses, and anything behind it. -/
  | enclosed {gap body : List Char} (blank : ∀ c ∈ gap, isSpace c = true) (isBody : IsBody body)
      (rest : List Char) : Shaped keyword (keyword ++ gap ++ '(' :: body ++ ')' :: rest)
  /-- A body up to the end of the line, with no parenthesis in front. -/
  | plain {body : List Char} (isBody : IsBody body)
      (unopened : body.find? (!isSpace ·) ≠ some '(') : Shaped keyword (keyword ++ body)
  /-- A call without arguments and anything behind it, with no parenthesis in front. -/
  | call {gap body : List Char} (blank : ∀ c ∈ gap, isSpace c = true) (isBody : IsBody body)
      (nonempty : body ≠ []) (solid : Stops isSpace body) (unopened : body.head? ≠ some '(')
      (rest : List Char) : Shaped keyword (keyword ++ gap ++ body ++ '(' :: ')' :: rest)

theorem endsBody_eq_false_iff {c : Char} : endsBody c = false ↔ c ∉ ")|&=!\"'@#-*+".toList := by
  have listed : ")|&=!\"'@#-*+".toList = ')' :: "|&=!\"'@#-*+".toList := by decide
  rw [endsBody, Bool.or_eq_false_iff, beq_eq_false_iff_ne, listed, List.mem_cons, not_or,
    List.contains_eq_mem, decide_eq_false_iff_not]

theorem isBody_iff {text : List Char} : IsBody text ↔ ∀ c ∈ text, endsBody c = false :=
  forall₂_congr fun _ _ => endsBody_eq_false_iff.symm

theorem isBody_append {left right : List Char} :
    IsBody (left ++ right) ↔ IsBody left ∧ IsBody right := List.forall_mem_append

theorem isBody_of_blank {gap : List Char} (blank : ∀ c ∈ gap, isSpace c = true) : IsBody gap := by
  rw [isBody_iff]
  intro c member
  by_contra ends
  have solid := isSpace_of_endsBody (Bool.not_eq_false _ ▸ ends)
  rw [blank c member] at solid
  contradiction

theorem head?_afterSpace (text : List Char) :
    (afterSpace text).head? = text.find? (!isSpace ·) := by
  rw [List.find?_eq_head?_dropWhile_not, afterSpace]
  simp only [Bool.not_not]

/-- A line with the keyword has one of the shapes exactly if its test is readable. -/
theorem shaped_iff_readable {keyword test : List Char} :
    Shaped keyword (keyword ++ test) ↔ Readable (afterSpace test) := by
  constructor
  · intro shaped
    generalize whole : keyword ++ test = line at shaped
    cases shaped with
    | @enclosed gap body blank isBody rest =>
        rw [List.append_assoc, List.append_assoc, List.append_cancel_left_eq] at whole
        have solidFront : Stops isSpace ('(' :: body ++ ')' :: rest) := stops_cons.mpr (by decide)
        rw [whole, afterSpace_append blank solidFront]
        exact .enclosed (isBody_iff.mp isBody) rest
    | @plain body isBody unopened =>
        obtain rfl := List.append_cancel_left whole
        rw [← head?_afterSpace] at unopened
        refine .plain (fun c member => isBody_iff.mp isBody c ?_) unopened
        exact (List.dropWhile_sublist isSpace).mem member
    | @call gap body blank isBody nonempty solid unopened rest =>
        rw [List.append_assoc, List.append_assoc, List.append_cancel_left_eq] at whole
        have solidFront : Stops isSpace (body ++ '(' :: ')' :: rest) := by
          rwa [Stops, List.head?_append_of_ne_nil _ nonempty]
        rw [whole, afterSpace_append blank solidFront]
        exact .call (isBody_iff.mp isBody) rest
  · intro readable
    have blank : ∀ c ∈ test.takeWhile isSpace, isSpace c = true :=
      fun c member => List.mem_takeWhile_imp member
    have solid : Stops isSpace (afterSpace test) := stops_dropWhile isSpace test
    have whole := space_append_afterSpace test
    have unopenedTest := head?_afterSpace test
    generalize test.takeWhile isSpace = gap at blank whole
    generalize afterSpace test = start at readable solid whole unopenedTest
    subst whole
    rw [← List.append_assoc]
    cases readable with
    | plain goesOn unopened =>
        rw [List.append_assoc]
        refine .plain (isBody_append.mpr ⟨isBody_of_blank blank, isBody_iff.mpr goesOn⟩) ?_
        rwa [← unopenedTest]
    | enclosed goesOn rest =>
        rw [← List.append_assoc]
        exact .enclosed blank (isBody_iff.mpr goesOn) rest
    | @call front goesOn rest =>
        by_cases opened : (front ++ ['(']).head? = some '('
        · -- A call directly behind a parenthesis in front is closed with it.
          obtain ⟨body, split⟩ := List.head?_eq_some_iff.mp opened
          have isBody : IsBody ('(' :: body) := by
            rw [← split, isBody_append]
            exact ⟨isBody_iff.mpr goesOn,
              isBody_iff.mpr (List.forall_mem_singleton.mpr (by decide))⟩
          have same : front ++ '(' :: ')' :: rest = '(' :: body ++ ')' :: rest := by
            rw [← split, List.append_assoc]
            rfl
          rw [same, ← List.append_assoc]
          exact .enclosed blank (fun c member => isBody c (List.mem_cons_of_mem _ member)) rest
        · have nonempty : front ≠ [] := by
            rintro rfl
            exact opened rfl
          rw [List.head?_append_of_ne_nil _ nonempty] at opened
          rw [Stops, List.head?_append_of_ne_nil _ nonempty] at solid
          rw [← List.append_assoc]
          exact .call blank (isBody_iff.mpr goesOn) nonempty solid opened rest

/-! ## Verdicts -/

/-- The words for what is wrong with a test, by whether a parenthesis stands in front of it. -/
inductive FaultText : Bool → String → Prop where
  | unclosed : FaultText true "missing close parenthesis"
  | unopened : FaultText false "missing open parenthesis"
  | extraneous (opened : Bool) {operators : String} (nonempty : operators ≠ "") :
      FaultText opened s!"extraneous {operators}"

theorem Test.closeCall_opened (test : Test) : test.closeCall.opened = test.opened := by
  rw [Test.closeCall]
  split_ifs <;> rfl

/-- A test that is judged is well formed or has one of the faults for the way it starts. -/
theorem Test.judge_cases (keyword : List Char) (lineLength : Nat) (test : Test) :
    test.judge keyword lineLength = .valid (String.ofList keyword) ∨
      ∃ column fault, test.judge keyword lineLength =
        .invalid (String.ofList keyword) column fault ∧ FaultText test.opened fault.message := by
  rw [Test.judge]
  split_ifs with closed opened dangles
  · simp only [Bool.and_eq_true, Bool.not_eq_true'] at closed
    exact Or.inr ⟨_, _, rfl, closed.2 ▸ .unopened⟩
  · simp only [Bool.and_eq_true] at opened
    exact Or.inr ⟨_, _, rfl, opened.1 ▸ .unclosed⟩
  · refine Or.inr ⟨_, _, rfl, .extraneous _ ?_⟩
    intro none
    have empty : test.dangling = [] := by simpa using congrArg String.toList none
    simp [empty] at dangles
  · exact Or.inl rfl

section Openers

variable {kind : Kind} (carriesTest : kind = .ifTest ∨ kind = .whileLoop)
include carriesTest

theorem readOpener?_isSome_iff (line : List Char) :
    (kind.readOpener? line).isSome = true ↔ OpensTest kind.opening.toList line := by
  rw [readOpener?_eq_readTest? carriesTest, readTest?, Option.isSome_map, Option.isSome_iff_exists]
  exact exists_congr fun test => afterKeyword?_eq_some_iff

/-- What is read of a line that opens a test. -/
theorem readOpener?_of_opens {test : List Char} (stops : Stops isWord test) :
    kind.readOpener? (kind.opening.toList ++ test) =
      some ((Test.read test).closeCall.judge kind.opening.toList
        (byteLength (kind.opening.toList ++ test))) := by
  rw [readOpener?_eq_readTest? carriesTest, readTest?,
    afterKeyword?_eq_some_iff.mpr ⟨rfl, stops⟩, Option.map_some]

theorem readOpener?_eq_valid_iff {test : List Char} (stops : Stops isWord test) :
    kind.readOpener? (kind.opening.toList ++ test) = some (.valid kind.opening) ↔
      Shaped kind.opening.toList (kind.opening.toList ++ test) := by
  have judged := Test.isValid_read_iff kind.opening.toList
    (byteLength (kind.opening.toList ++ test)) test
  rw [shaped_iff_readable, ← judged, readOpener?_of_opens carriesTest stops, Option.some.injEq]
  rcases Test.judge_cases kind.opening.toList (byteLength (kind.opening.toList ++ test))
    (Test.read test).closeCall with valid | ⟨column, fault, invalid, -⟩
  · rw [valid, String.ofList_toList]
    exact iff_of_true rfl rfl
  · rw [invalid]
    exact iff_of_false (by simp) (by simp [Opener.isValid])

theorem readOpener?_of_misshaped {test : List Char} (stops : Stops isWord test)
    (misshaped : ¬Shaped kind.opening.toList (kind.opening.toList ++ test)) :
    ∃ column fault, kind.readOpener? (kind.opening.toList ++ test) =
        some (.invalid kind.opening column fault) ∧
      FaultText (test.find? (!isSpace ·) == some '(') fault.message := by
  rw [← readOpener?_eq_valid_iff carriesTest stops] at misshaped
  have read := readOpener?_of_opens carriesTest stops
  rcases Test.judge_cases kind.opening.toList (byteLength (kind.opening.toList ++ test))
    (Test.read test).closeCall with valid | ⟨column, fault, invalid, isFault⟩
  · rw [valid, String.ofList_toList] at read
    contradiction
  · rw [invalid, String.ofList_toList] at read
    rw [Test.closeCall_opened] at isFault
    rw [← head?_afterSpace]
    exact ⟨column, fault, read, isFault⟩

/-- A line is an opener of the family exactly if it starts with the keyword and no word goes on
there, and it is a well-formed one exactly if it has one of three shapes.  Otherwise a parenthesis
is missing, the closing one exactly if the test starts with the other, or there are operators too
many. -/
theorem test_opener_shapes (line : List Char) :
    let keyword := kind.opening.toList
    ((kind.readOpener? line).isSome = true ↔ OpensTest keyword line) ∧
    (kind.readOpener? line = some (.valid kind.opening) ↔
      OpensTest keyword line ∧ Shaped keyword line) ∧
    ∀ test, line = keyword ++ test → Stops isWord test → ¬Shaped keyword line →
      ∃ column fault, kind.readOpener? line = some (.invalid kind.opening column fault) ∧
        FaultText (test.find? (!isSpace ·) == some '(') fault.message := by
  intro keyword
  refine ⟨readOpener?_isSome_iff carriesTest line, ?_, ?_⟩
  · constructor
    · intro valid
      obtain ⟨test, rfl, stops⟩ :=
        (readOpener?_isSome_iff carriesTest line).mp (Option.isSome_of_eq_some valid)
      exact ⟨⟨test, rfl, stops⟩, (readOpener?_eq_valid_iff carriesTest stops).mp valid⟩
    · rintro ⟨⟨test, rfl, stops⟩, shaped⟩
      exact (readOpener?_eq_valid_iff carriesTest stops).mpr shaped
  · rintro test rfl stops misshaped
    exact readOpener?_of_misshaped carriesTest stops misshaped

end Openers

/-- A division sign and an opening parenthesis may stand in a body and in a run of operators.  In
the first line they belong to the body, which ends in a call; in the second one to the operators. -/
theorem test_opener_shapes_division :
    let call := "while a/(b/(() == c".toList
    let operators := "if\t(a-/(/) b".toList
    Kind.whileLoop.readOpener? call = some (.valid "while") ∧
      OpensTest "while".toList call ∧ Shaped "while".toList call ∧
      ¬Shaped "if".toList operators ∧
      ∃ column fault, Kind.ifTest.readOpener? operators = some (.invalid "if" column fault) ∧
        FaultText true fault.message := by
  intro call operators
  have read : Kind.whileLoop.readOpener? call = some (.valid "while") := by decide +kernel
  have refused : Kind.ifTest.readOpener? operators ≠ some (.valid "if") := by decide +kernel
  obtain ⟨-, accepted, -⟩ := test_opener_shapes (Or.inr rfl : Kind.whileLoop = .ifTest ∨ _) call
  obtain ⟨-, accepted', faulty⟩ :=
    test_opener_shapes (Or.inl rfl : _ ∨ Kind.ifTest = .whileLoop) operators
  have stops : Stops isWord "\t(a-/(/) b".toList := stops_cons.mpr (by decide)
  have misshaped : ¬Shaped "if".toList operators := by
    intro shaped
    exact refused (accepted'.mpr ⟨⟨_, rfl, stops⟩, shaped⟩)
  obtain ⟨opens, shaped⟩ := accepted.mp read
  exact ⟨read, opens, shaped, misshaped, faulty _ rfl stops misshaped⟩

end Block
end ScriptLint
