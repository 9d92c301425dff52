import Mathlib.Data.List.Infix
import ScriptLint.Proofs.Block.Shapes

/-!
# Tests that are accepted although their parentheses do not match

A test is read up to its first closing parenthesis or operator.  Whether the parentheses match is
decided by the whole text.  The two agree on all tests but those in which a parenthesis is opened
and no closing one follows at all, and those whose text behind the first closing parenthesis does
not close what is left open in front of it.
-/

namespace ScriptLint

open Text

namespace Block

/-! ## Matching parentheses -/

/-- The parentheses match: no front closes more of them than it opens, and in the end all are
closed. -/
structure Matched (text : List Char) : Prop where
  front_le : ∀ front ∈ text.inits, front.count ')' ≤ front.count '('
  total : text.count '(' = text.count ')'

/-- The text closes all parentheses that it opens and so many that are open in front of it, and none
before it is open. -/
structure Closes (depth : Nat) (text : List Char) : Prop where
  front_le : ∀ front ∈ text.inits, front.count ')' ≤ depth + front.count '('
  total : depth + text.count '(' = text.count ')'

theorem matched_iff_closes {text : List Char} : Matched text ↔ Closes 0 text := by
  constructor
  · rintro ⟨front_le, total⟩
    exact ⟨by simpa using front_le, by simpa using total⟩
  · rintro ⟨front_le, total⟩
    exact ⟨by simpa using front_le, by simpa using total⟩

theorem closes_nil_iff {depth : Nat} : Closes depth [] ↔ depth = 0 := by
  constructor
  · intro closes
    simpa using closes.total
  · rintro rfl
    exact ⟨by simp, rfl⟩

/-- The empty front closes nothing, so that the fronts behind the first character count. -/
theorem closes_cons_iff {depth : Nat} {c : Char} {text : List Char} :
    Closes depth (c :: text) ↔
      (∀ front ∈ text.inits, (c :: front).count ')' ≤ depth + (c :: front).count '(') ∧
        depth + (c :: text).count '(' = (c :: text).count ')' := by
  constructor
  · rintro ⟨front_le, total⟩
    rw [List.inits_cons, List.forall_mem_cons, List.forall_mem_map] at front_le
    exact ⟨front_le.2, total⟩
  · rintro ⟨front_le, total⟩
    refine ⟨?_, total⟩
    rw [List.inits_cons, List.forall_mem_cons, List.forall_mem_map]
    exact ⟨Nat.zero_le _, front_le⟩

theorem closes_close_cons_iff {depth : Nat} {text : List Char} :
    Closes depth (')' :: text) ↔ 0 < depth ∧ Closes (depth - 1) text := by
  have closed : ∀ front : List Char, (')' :: front).count ')' = front.count ')' + 1 := by simp
  have opened : ∀ front : List Char, (')' :: front).count '(' = front.count '(' := by simp
  simp only [closes_cons_iff, closed, opened]
  constructor
  · rintro ⟨front_le, total⟩
    have first : 0 < depth := front_le [] ((List.mem_inits [] text).mpr List.nil_prefix)
    refine ⟨first, ?_, by omega⟩
    intro front member
    have atFront := front_le front member
    omega
  · rintro ⟨first, front_le, total⟩
    refine ⟨?_, by omega⟩
    intro front member
    have atFront := front_le front member
    omega

theorem closes_other_cons_iff {depth : Nat} {c : Char} {text : List Char} (other : c ≠ ')') :
    Closes depth (c :: text) ↔ Closes (depth + [c].count '(') text := by
  have closed : ∀ front : List Char, (c :: front).count ')' = front.count ')' := by simp [other]
  generalize isCount : [c].count '(' = opens
  have opened : ∀ front : List Char, (c :: front).count '(' = opens + front.count '(' := by
    intro front
    rw [← isCount, ← List.count_append, List.singleton_append]
  simp only [closes_cons_iff, closed, opened, ← Nat.add_assoc]
  exact ⟨fun closes => ⟨closes.1, closes.2⟩, fun closes => ⟨closes.front_le, closes.total⟩⟩

/-- What stands in front of the first closing parenthesis counts by what it opens. -/
theorem closes_append_iff {depth : Nat} {front text : List Char} (noneClosed : ')' ∉ front) :
    Closes depth (front ++ text) ↔ Closes (depth + front.count '(') text := by
  induction front generalizing depth with
  | nil => rfl
  | cons c front ih =>
      rw [List.mem_cons, not_or] at noneClosed
      rw [List.cons_append, closes_other_cons_iff (Ne.symm noneClosed.1), ih noneClosed.2,
        Nat.add_assoc, ← List.count_append, List.singleton_append]

/-- Without a closing parenthesis there must be no opening one. -/
theorem matched_iff_of_notMem {text : List Char} (noneClosed : ')' ∉ text) :
    Matched text ↔ '(' ∉ text := by
  have whole : Closes 0 (text ++ []) ↔ Closes (0 + text.count '(') [] :=
    closes_append_iff noneClosed
  rw [List.append_nil, closes_nil_iff, Nat.zero_add, List.count_eq_zero] at whole
  rw [matched_iff_closes, whole]

/-- Behind the first closing parenthesis all must be closed that is left open. -/
theorem matched_append_iff {front rest : List Char} (noneClosed : ')' ∉ front)
    (opens : '(' ∈ front) :
    Matched (front ++ ')' :: rest) ↔ Closes (front.count '(' - 1) rest := by
  rw [matched_iff_closes, closes_append_iff noneClosed, closes_close_cons_iff, Nat.zero_add]
  exact and_iff_right (List.count_pos_iff.mpr opens)

/-! ## What is overlooked -/

/-- Tests that are accepted although their parentheses do not match. -/
inductive Overlooked : List Char → Prop where
  /-- A parenthesis is opened behind the start of the test, and nothing ends the body. -/
  | unclosed {test : List Char} (isBody : IsBody test)
      (unopened : test.find? (!isSpace ·) ≠ some '(') (opens : '(' ∈ test) : Overlooked test
  /-- The first closing parenthesis has its partner, but what follows it does not close the others.
  -/
  | unsettled {front rest : List Char} (isBody : IsBody front)
      (paired : front.find? (!isSpace ·) = some '(' ∨ front.getLast? = some '(')
      (leavesOpen : ¬Closes (front.count '(' - 1) rest) : Overlooked (front ++ ')' :: rest)

theorem notMem_of_isBody {text : List Char} (isBody : IsBody text) : ')' ∉ text :=
  fun member => absurd (by decide : ')' ∈ ")|&=!\"'@#-*+".toList) (isBody ')' member)

/-- A readable test is a body, or has a parenthesis in front of its first closing one that it
belongs to. -/
theorem readable_afterSpace_iff {test : List Char} :
    Readable (afterSpace test) ↔
      IsBody test ∧ test.find? (!isSpace ·) ≠ some '(' ∨
      ∃ front rest, test = front ++ ')' :: rest ∧ IsBody front ∧
        (front.find? (!isSpace ·) = some '(' ∨ front.getLast? = some '(') := by
  constructor
  · intro readable
    have shaped : Shaped [] test := shaped_iff_readable.mpr readable
    cases shaped with
    | plain isBody unopened => exact Or.inl ⟨isBody, unopened⟩
    | @enclosed gap body blank isBody rest =>
        have inGap : gap.find? (!isSpace ·) = none := by simpa using blank
        refine Or.inr ⟨gap ++ '(' :: body, rest, rfl, ?_, Or.inl ?_⟩
        · refine isBody_append.mpr ⟨isBody_of_blank blank, ?_⟩
          exact List.forall_mem_cons.mpr ⟨by decide, isBody⟩
        · rw [List.find?_append, inGap]
          rfl
    | @call gap body blank isBody nonempty solid unopened rest =>
        refine Or.inr ⟨gap ++ body ++ ['('], rest, by simp, ?_, Or.inr List.getLast?_concat⟩
        refine isBody_append.mpr ⟨isBody_append.mpr ⟨isBody_of_blank blank, isBody⟩, ?_⟩
        exact List.forall_mem_singleton.mpr (by decide)
  · rintro (⟨isBody, unopened⟩ | ⟨front, rest, rfl, isBody, opened | last⟩)
    · have shaped : Shaped [] test := .plain isBody unopened
      exact shaped_iff_readable.mp shaped
    · obtain ⟨-, gap, body, rfl, blank⟩ := List.find?_eq_some_iff_append.mp opened
      obtain ⟨-, isBody⟩ := isBody_append.mp isBody
      have shaped : Shaped [] (gap ++ '(' :: body ++ ')' :: rest) :=
        .enclosed (by simpa using blank) (List.forall_mem_cons.mp isBody).2 rest
      exact shaped_iff_readable.mp shaped
    · obtain ⟨body, rfl⟩ := List.getLast?_eq_some_iff.mp last
      obtain ⟨isBody, -⟩ := isBody_append.mp isBody
      have stops : Stops isSpace ('(' :: ')' :: rest) := stops_cons.mpr (by decide)
      rw [List.append_assoc, List.singleton_append, afterSpace, dropWhile_append_of_stops stops]
      refine .call (fun c member => isBody_iff.mp isBody c ?_) rest
      exact (List.dropWhile_sublist isSpace).mem member

/-- Among the readable tests, those with parentheses that do not match are the overlooked ones. -/
theorem overlooked_iff {test : List Char} :
    Overlooked test ↔ Readable (afterSpace test) ∧ ¬Matched test := by
  rw [readable_afterSpace_iff]
  constructor
  · intro overlooked
    cases overlooked with
    | unclosed isBody unopened opens =>
        refine ⟨Or.inl ⟨isBody, unopened⟩, ?_⟩
        rw [matched_iff_of_notMem (notMem_of_isBody isBody), not_not]
        exact opens
    | @unsettled front rest isBody paired leavesOpen =>
        refine ⟨Or.inr ⟨front, rest, rfl, isBody, paired⟩, ?_⟩
        have opens : '(' ∈ front := paired.elim List.mem_of_find?_eq_some List.mem_of_getLast?
        rwa [matched_append_iff (notMem_of_isBody isBody) opens]
  · rintro ⟨⟨isBody, unopened⟩ | ⟨front, rest, rfl, isBody, paired⟩, unmatched⟩
    · rw [matched_iff_of_notMem (notMem_of_isBody isBody), not_not] at unmatched
      exact .unclosed isBody unopened unmatched
    · have opens : '(' ∈ front := paired.elim List.mem_of_find?_eq_some List.mem_of_getLast?
      rw [matched_append_iff (notMem_of_isBody isBody) opens] at unmatched
      exact .unsettled isBody paired unmatched

/-- That a test is accepted says that its parentheses match, unless it is one of those that are
overlooked. -/
theorem accepted_matched_iff {kind : Kind} (carriesTest : kind = .ifTest ∨ kind = .whileLoop)
    (test : List Char) :
    (kind.readOpener? (kind.opening.toList ++ ' ' :: test) = some (.valid kind.opening) →
      Matched test) ↔ ¬Overlooked test := by
  have stops : Stops isWord (' ' :: test) := stops_cons.mpr (by decide)
  have skipped : afterSpace (' ' :: test) = afterSpace test :=
    List.dropWhile_cons_of_pos (by decide)
  rw [readOpener?_eq_valid_iff carriesTest stops, shaped_iff_readable, skipped, overlooked_iff,
    not_and, not_not]

/-- The parenthesis that is open behind the first closing one is closed behind an operator. -/
theorem accepted_matched_iff_operator :
    let test := "(near(a) || b)".toList
    Kind.ifTest.readOpener? ("if".toList ++ ' ' :: test) = some (.valid "if") ∧ Matched test ∧
      ¬Overlooked test := by
  intro test
  have accepted : Kind.ifTest.readOpener? ("if".toList ++ ' ' :: test) = some (.valid "if") := by
    decide +kernel
  have matched : Matched test := by constructor <;> decide +kernel
  exact ⟨accepted, matched, (accepted_matched_iff (Or.inl rfl) test).mp fun _ => matched⟩

/-- Tests on one line without quotes and comments are accepted although their parentheses do not
match: a call is never closed, and a parenthesis is closed twice. -/
theorem accepts_unmatched_tests :
    let call := "near(a".toList
    let twice := "(a))".toList
    (call ++ twice).all (!";\"'\r\n".toList.contains ·) = true ∧
      Kind.ifTest.readOpener? ("if ".toList ++ call) = some (.valid "if") ∧ ¬Matched call ∧
      Kind.whileLoop.readOpener? ("while ".toList ++ twice) = some (.valid "while") ∧
      ¬Matched twice := by
  intro call twice
  refine ⟨by decide, by decide +kernel, ?_, by decide +kernel, ?_⟩
  · rintro ⟨-, total⟩
    exact absurd total (by decide)
  · rintro ⟨-, total⟩
    exact absurd total (by decide)

end Block
end ScriptLint
