import Mathlib.Data.List.Infix
import ScriptLint.Proofs.Text.Runs

/-!
# Patterns of lines

The form of a line can be written down as a pattern.  From a place in the line a pattern goes on in
several ways, and these have an order: a run of a class takes all the characters it can before it
takes fewer, and of two patterns to choose from the first one goes first.  The match is the first
way at the first place that has any, so that a choice is taken back where the rest of the pattern
does not go on from it.

Three facts make it unnecessary to try.  If the rest of a pattern goes on from everywhere, the first
way is taken.  If it goes on from one way only, that one is taken, wherever it stands in the order;
a run in front of something that cannot stand inside it is such a case.  If it goes on from none,
there is no match.
-/

namespace ScriptLint
namespace Text

/-- The form of a text. -/
inductive Pattern where
  /-- The start of the line. -/
  | start
  /-- The end of the line. -/
  | finish
  /-- The edge of a word: one of the two neighbours is a word character. -/
  | edge
  /-- This text. -/
  | literal (text : List Char)
  /-- A run of the class, as long as possible. -/
  | run (p : Char → Bool)
  /-- One pattern behind the other. -/
  | seq (first second : Pattern)
  /-- The first pattern, or else the second. -/
  | choice (first second : Pattern)
  /-- The pattern, whose text is kept under the number. -/
  | group (number : Nat) (pattern : Pattern)

/-- The texts that are kept, under the numbers of their groups. -/
abbrev Captures := List (Nat × Token)

/-- The text of a group; empty if it took no part in the match. -/
def Captures.text (captures : Captures) (number : Nat) : List Char :=
  ((captures.lookup number).map Token.text).getD []

/-- Offset at which the text of a group starts. -/
def Captures.start (captures : Captures) (number : Nat) : Nat :=
  ((captures.lookup number).map Token.start).getD 0

/-- A place in a line, and what has been kept on the way to it. -/
structure Cursor where
  /-- The line. -/
  line : List Char
  /-- What is left of the line. -/
  rest : List Char
  /-- The texts kept so far. -/
  captures : Captures
deriving DecidableEq

namespace Cursor

/-- Number of bytes in front of the place. -/
def offset (cursor : Cursor) : Nat := byteLength cursor.line - byteLength cursor.rest

/-- The part of the line in front of the place. -/
def front (cursor : Cursor) : List Char :=
  cursor.line.take (cursor.line.length - cursor.rest.length)

/-- The place where less is left of the line. -/
def goTo (cursor : Cursor) (rest : List Char) : Cursor := { cursor with rest }

/-- Keep the text between two places. -/
def keep (cursor : Cursor) (number : Nat) (behind : Cursor) : Cursor :=
  let text := cursor.rest.take (cursor.rest.length - behind.rest.length)
  { behind with captures := (number, ⟨cursor.offset, text⟩) :: behind.captures }

/-- Go on and keep the text, if there is a place to go to. -/
def keep? (cursor : Cursor) (number : Nat) : Option (List Char) → Cursor
  | some rest => cursor.keep number (cursor.goTo rest)
  | none => cursor

end Cursor

/-- What is left of a text behind a run of the class, the longest run first. -/
def behindRun (p : Char → Bool) : List Char → List (List Char)
  | [] => []
  | c :: rest => if p c then behindRun p rest ++ [rest] else []

namespace Pattern

/-- The places where the pattern ends if it starts at the cursor, in the order they are tried. -/
def ways : Pattern → Cursor → List Cursor
  | .start, cursor => if cursor.front.isEmpty then [cursor] else []
  | .finish, cursor => if cursor.rest.isEmpty then [cursor] else []
  | .edge, cursor =>
      if cursor.front.getLast?.any isWord != cursor.rest.head?.any isWord then [cursor] else []
  | .literal text, cursor => (text.isPrefixOf? cursor.rest).toList.map cursor.goTo
  | .run p, cursor => (behindRun p cursor.rest).map cursor.goTo
  | .seq first second, cursor => (first.ways cursor).flatMap second.ways
  | .choice first second, cursor => first.ways cursor ++ second.ways cursor
  | .group number pattern, cursor => (pattern.ways cursor).map (cursor.keep number)

/-- The first way. -/
def first? (pattern : Pattern) (cursor : Cursor) : Option Cursor := (pattern.ways cursor).head?

/-- The first way at the first place from the cursor on that has any. -/
def search? (pattern : Pattern) (cursor : Cursor) : Option Cursor :=
  cursor.rest.tails.findSome? fun rest => pattern.first? (cursor.goTo rest)

/-- What is kept from a line that the pattern is found in. -/
def captures? (pattern : Pattern) (line : List Char) : Option Captures :=
  (pattern.search? ⟨line, line, []⟩).map Cursor.captures

/-- The patterns one behind the other. -/
def inTurn : List Pattern → Pattern
  | [] => .literal []
  | pattern :: patterns => .seq pattern (inTurn patterns)

/-- The pattern, or else nothing. -/
def optional (pattern : Pattern) : Pattern := .choice pattern (.literal [])

/-- A run of the class that may be empty, as long as possible. -/
def many (p : Char → Bool) : Pattern := optional (.run p)

end Pattern

/-! ## Places -/

namespace Cursor

variable {cursor behind : Cursor} {text rest : List Char} {number other : Nat}

@[simp]
theorem rest_goTo : (cursor.goTo rest).rest = rest := rfl

@[simp]
theorem goTo_goTo : (cursor.goTo text).goTo rest = cursor.goTo rest := rfl

@[simp]
theorem goTo_self : cursor.goTo cursor.rest = cursor := rfl

theorem front_of_line {before : List Char} (whole : cursor.line = before ++ cursor.rest) :
    cursor.front = before := by
  rw [front, whole, List.length_append, Nat.add_sub_cancel, List.take_left]

theorem keep_eq (split : cursor.rest = text ++ behind.rest) :
    cursor.keep number behind =
      { behind with captures := (number, ⟨cursor.offset, text⟩) :: behind.captures } := by
  rw [keep, split, List.length_append, Nat.add_sub_cancel, List.take_left]

@[simp]
theorem rest_keep : (cursor.keep number behind).rest = behind.rest := rfl

@[simp]
theorem line_keep? (rest? : Option (List Char)) :
    (cursor.keep? number rest?).line = cursor.line := by
  cases rest? <;> rfl

@[simp]
theorem rest_keep? (rest? : Option (List Char)) :
    (cursor.keep? number rest?).rest = rest?.getD cursor.rest := by
  cases rest? <;> rfl

/-- A group that is passed keeps its text. -/
@[simp]
theorem lookup_keep?_self (rest? : Option (List Char)) :
    (cursor.keep? number rest?).captures.lookup number =
      (rest?.map fun rest =>
        ⟨cursor.offset, cursor.rest.take (cursor.rest.length - rest.length)⟩).or
          (cursor.captures.lookup number) := by
  cases rest? <;> simp [keep?, keep]

@[simp]
theorem lookup_keep?_of_ne (differs : (other == number) = false) (rest? : Option (List Char)) :
    (cursor.keep? number rest?).captures.lookup other = cursor.captures.lookup other := by
  cases rest? <;> simp [keep?, keep, goTo, List.lookup_cons, differs]

end Cursor

theorem mem_behindRun {p : Char → Bool} {text behind : List Char} :
    behind ∈ behindRun p text ↔ ∃ run, Run p run ∧ text = run ++ behind := by
  induction text with
  | nil =>
      simp only [behindRun, List.not_mem_nil, false_iff, not_exists, not_and]
      intro run isRun split
      exact isRun.nonempty (List.append_eq_nil_iff.mp split.symm).1
  | cons c rest ih =>
      rw [behindRun]
      by_cases inClass : p c = true
      · rw [if_pos inClass, List.mem_append, ih, List.mem_singleton]
        constructor
        · rintro (⟨run, isRun, rfl⟩ | rfl)
          · exact ⟨c :: run, ⟨List.cons_ne_nil c run, List.forall_mem_cons.mpr
              ⟨inClass, isRun.all⟩⟩, rfl⟩
          · exact ⟨[c], ⟨List.cons_ne_nil c [], List.forall_mem_singleton.mpr inClass⟩, rfl⟩
        · rintro ⟨run, ⟨nonempty, all⟩, split⟩
          cases run with
          | nil => exact absurd rfl nonempty
          | cons d run =>
              obtain ⟨rfl, rfl⟩ := List.cons.inj split
              by_cases last : run = []
              · exact Or.inr (by subst last; rfl)
              · exact Or.inl ⟨run, ⟨last, (List.forall_mem_cons.mp all).2⟩, rfl⟩
      · rw [if_neg inClass]
        simp only [List.not_mem_nil, false_iff, not_exists, not_and]
        intro run isRun split
        obtain ⟨d, first, inRun⟩ := isRun.head?_append behind
        rw [← split] at first
        obtain rfl := Option.some.inj first
        exact inClass inRun

theorem dropWhile_of_stops {p : Char → Bool} {text : List Char} (stops : Stops p text) :
    text.dropWhile p = text := by
  cases text with
  | nil => rfl
  | cons c rest => rw [List.dropWhile_cons_of_neg (by simp [stops_cons.mp stops])]

theorem takeWhile_of_stops {p : Char → Bool} {text : List Char} (stops : Stops p text) :
    text.takeWhile p = [] := by
  cases text with
  | nil => rfl
  | cons c rest => rw [List.takeWhile_cons_of_neg (by simp [stops_cons.mp stops])]

/-- What is left of a text behind its longest run of the class. -/
def afterRun? (p : Char → Bool) (text : List Char) : Option (List Char) :=
  if text.head?.any p then some (text.dropWhile p) else none

@[simp]
theorem getD_afterRun? (p : Char → Bool) (text : List Char) :
    (afterRun? p text).getD text = text.dropWhile p := by
  rw [afterRun?]
  split_ifs with starts
  · rfl
  · exact (dropWhile_of_stops (Bool.eq_false_iff.mpr starts)).symm

theorem isNone_afterRun? (p : Char → Bool) (text : List Char) :
    (afterRun? p text).isNone = !text.head?.any p := by
  rw [afterRun?]
  cases text.head?.any p <;> rfl

theorem isEmpty_takeWhile (p : Char → Bool) (text : List Char) :
    (text.takeWhile p).isEmpty = !text.head?.any p := by
  cases text with
  | nil => rfl
  | cons c rest =>
      rw [List.takeWhile_cons, List.head?_cons, Option.any_some]
      cases p c <;> rfl

theorem take_dropWhile (p : Char → Bool) (text : List Char) :
    text.take (text.length - (text.dropWhile p).length) = text.takeWhile p := by
  have split := List.takeWhile_append_dropWhile (p := p) (l := text)
  have length := congrArg List.length split
  have front : (text.takeWhile p ++ text.dropWhile p).take (text.takeWhile p).length =
      text.takeWhile p := List.take_left
  rw [split] at front
  rw [List.length_append] at length
  rw [← length, Nat.add_sub_cancel, front]

theorem head?_behindRun (p : Char → Bool) (text : List Char) :
    (behindRun p text).head? = afterRun? p text := by
  induction text with
  | nil => rfl
  | cons c rest ih =>
      rw [behindRun, afterRun?, List.head?_cons, Option.any_some]
      by_cases inClass : p c = true
      · rw [if_pos inClass, if_pos inClass, List.head?_append, ih,
          List.dropWhile_cons_of_pos inClass, ← getD_afterRun?]
        cases afterRun? p rest <;> rfl
      · rw [if_neg inClass, if_neg inClass]
        rfl

namespace Cursor

variable {cursor : Cursor} {p : Char → Bool} {text : List Char} {number other : Nat}

/-- A run that is passed keeps its characters, and one that is not there keeps none. -/
theorem text_keep?_run (fresh : cursor.captures.lookup number = none)
    (isText : text = cursor.rest) :
    (cursor.keep? number (afterRun? p text)).captures.text number = text.takeWhile p := by
  rw [Captures.text, lookup_keep?_self, fresh, Option.or_none, afterRun?, ← isText]
  split_ifs with starts
  · exact take_dropWhile p text
  · exact (takeWhile_of_stops (Bool.eq_false_iff.mpr starts)).symm

theorem text_keep?_many (isText : text = cursor.rest) :
    (cursor.keep? number (some (text.dropWhile p))).captures.text number = text.takeWhile p := by
  rw [Captures.text, lookup_keep?_self, ← isText]
  exact take_dropWhile p text

theorem text_keep?_of_ne (differs : (other == number) = false) (rest? : Option (List Char)) :
    (cursor.keep? number rest?).captures.text other = cursor.captures.text other := by
  rw [Captures.text, lookup_keep?_of_ne differs, Captures.text]

end Cursor

theorem isPrefixOf?_singleton (c : Char) (text : List Char) :
    [c].isPrefixOf? text = if text.head? == some c then some text.tail else none := by
  cases text with
  | nil => rfl
  | cons d rest =>
      by_cases same : c = d
      · simp [List.isPrefixOf?, same]
      · simp [List.isPrefixOf?, same, Ne.symm same]

theorem isPrefixOf?_singleton_self (c : Char) (rest : List Char) :
    [c].isPrefixOf? (c :: rest) = some rest := by
  rw [isPrefixOf?_singleton]
  exact if_pos (beq_self_eq_true (some c))

theorem isPrefixOf?_singleton_of_ne {c d : Char} (differs : d ≠ c) (rest : List Char) :
    [c].isPrefixOf? (d :: rest) = none := by
  rw [isPrefixOf?_singleton]
  exact if_neg (by simpa using differs)

theorem isSome_isPrefixOf?_singleton (c : Char) (text : List Char) :
    ([c].isPrefixOf? text).isSome = (text.head? == some c) := by
  rw [isPrefixOf?_singleton]
  split_ifs with starts
  · exact starts.symm
  · exact (Bool.eq_false_iff.mpr starts).symm

theorem getD_isPrefixOf?_singleton (c : Char) (text : List Char) :
    ([c].isPrefixOf? text).getD text = if text.head? == some c then text.tail else text := by
  rw [isPrefixOf?_singleton]
  split_ifs <;> rfl

/-- If there is a result for one element only, that one is found. -/
theorem findSome?_of_unique {α β : Type} {f : α → Option β} {elements : List α} {element : α}
    (member : element ∈ elements) (unique : ∀ other ∈ elements, f other ≠ none → other = element) :
    elements.findSome? f = f element := by
  cases found : elements.findSome? f with
  | none => exact (List.findSome?_eq_none_iff.mp found element member).symm
  | some result =>
      obtain ⟨other, isElement, reached⟩ := List.exists_of_findSome?_eq_some found
      have same : other = element := unique other isElement (by simp [reached])
      rw [← reached, same]

namespace Pattern

variable {p q : Char → Bool} {pattern first second : Pattern} {cursor next : Cursor}
variable {text : List Char} {number : Nat}

/-! ## The ways of a pattern -/

-- One equation for each constructor, so that a proof opens one of them and not the recursion.

theorem ways_start : start.ways cursor = if cursor.front.isEmpty then [cursor] else [] := rfl

theorem ways_finish : finish.ways cursor = if cursor.rest.isEmpty then [cursor] else [] := rfl

theorem ways_edge :
    edge.ways cursor =
      if cursor.front.getLast?.any isWord != cursor.rest.head?.any isWord then [cursor]
      else [] := rfl

theorem ways_literal :
    (literal text).ways cursor = (text.isPrefixOf? cursor.rest).toList.map cursor.goTo := rfl

theorem ways_run : (run p).ways cursor = (behindRun p cursor.rest).map cursor.goTo := rfl

theorem ways_seq :
    (seq first second).ways cursor = (first.ways cursor).flatMap second.ways := rfl

theorem ways_choice :
    (choice first second).ways cursor = first.ways cursor ++ second.ways cursor := rfl

theorem ways_group :
    (group number pattern).ways cursor = (pattern.ways cursor).map (cursor.keep number) := rfl

theorem mem_ways_literal :
    next ∈ (literal text).ways cursor ↔
      ∃ rest, cursor.rest = text ++ rest ∧ next = cursor.goTo rest := by
  simp only [ways_literal, List.mem_map, Option.mem_toList,
    List.isPrefixOf?_eq_some_iff_append_eq, eq_comm]

theorem mem_ways_run :
    next ∈ (run p).ways cursor ↔
      ∃ passed rest, Run p passed ∧ cursor.rest = passed ++ rest ∧ next = cursor.goTo rest := by
  simp only [ways_run, List.mem_map, mem_behindRun]
  constructor
  · rintro ⟨rest, ⟨passed, isRun, split⟩, rfl⟩
    exact ⟨passed, rest, isRun, split, rfl⟩
  · rintro ⟨passed, rest, isRun, split, rfl⟩
    exact ⟨rest, ⟨passed, isRun, split⟩, rfl⟩

theorem mem_ways_optional :
    next ∈ (optional pattern).ways cursor ↔ next ∈ pattern.ways cursor ∨ next = cursor := by
  rw [optional, ways_choice, List.mem_append, mem_ways_literal]
  simp

/-! ## The first way -/

theorem first?_literal :
    (literal text).first? cursor = (text.isPrefixOf? cursor.rest).map cursor.goTo := by
  rw [first?, ways_literal]
  cases text.isPrefixOf? cursor.rest <;> rfl

theorem first?_run :
    (run p).first? cursor = (afterRun? p cursor.rest).map cursor.goTo := by
  rw [first?, ways_run, List.head?_map, head?_behindRun]

theorem first?_choice :
    (choice first second).first? cursor = (first.first? cursor).or (second.first? cursor) := by
  rw [first?, ways_choice, List.head?_append]
  rfl

theorem first?_group :
    (group number pattern).first? cursor = (pattern.first? cursor).map (cursor.keep number) := by
  rw [first?, ways_group, List.head?_map]
  rfl

theorem first?_optional :
    (optional pattern).first? cursor = some ((pattern.first? cursor).getD cursor) := by
  rw [optional, first?_choice, first?_literal]
  cases pattern.first? cursor <;> rfl

theorem first?_many :
    (many p).first? cursor = some (cursor.goTo (cursor.rest.dropWhile p)) := by
  rw [many, first?_optional, first?_run, ← getD_afterRun?]
  cases afterRun? p cursor.rest <;> rfl

/-- A group that may be missing is kept if it is there. -/
theorem first?_optional_group {rest? : Option (List Char)}
    (found : pattern.first? cursor = rest?.map cursor.goTo) :
    (optional (group number pattern)).first? cursor = some (cursor.keep? number rest?) := by
  rw [first?_optional, first?_group, found]
  cases rest? <;> rfl

/-! ## Sequences -/

theorem first?_seq :
    (seq first second).first? cursor = (first.ways cursor).findSome? second.first? :=
  List.head?_flatMap

/-- The rest of the pattern goes on from the first way. -/
theorem first?_seq_of_goesOn (found : first.first? cursor = some next)
    (goesOn : second.ways next ≠ []) : (seq first second).first? cursor = second.first? next := by
  obtain ⟨others, isFirst⟩ := List.head?_eq_some_iff.mp found
  obtain ⟨last, more, goes⟩ := List.exists_cons_of_ne_nil goesOn
  have reached : second.first? next = some last := by rw [first?, goes, List.head?_cons]
  rw [first?_seq, isFirst, List.findSome?_cons, reached]

/-- The rest of the pattern goes on from one way only. -/
theorem first?_seq_of_unique (member : next ∈ first.ways cursor)
    (unique : ∀ other ∈ first.ways cursor, second.ways other ≠ [] → other = next) :
    (seq first second).first? cursor = second.first? next := by
  rw [first?_seq]
  apply findSome?_of_unique member
  intro other isWay reached
  exact unique other isWay (fun stuck => reached (List.head?_eq_none_iff.mpr stuck))

/-- The rest of the pattern goes on from none. -/
theorem first?_seq_of_stuck (stuck : ∀ other ∈ first.ways cursor, second.ways other = []) :
    (seq first second).first? cursor = none := by
  rw [first?, ways_seq, List.flatMap_eq_nil_iff.mpr stuck, List.head?_nil]

theorem first?_seq_of_single (single : first.ways cursor = [next]) :
    (seq first second).first? cursor = second.first? next := by
  rw [first?, ways_seq, single, List.flatMap_singleton]
  rfl

/-- A text that is written out can end in one place only. -/
theorem first?_literal_seq :
    (seq (literal text) second).first? cursor =
      (text.isPrefixOf? cursor.rest).bind fun rest => second.first? (cursor.goTo rest) := by
  cases found : text.isPrefixOf? cursor.rest with
  | none => exact first?_seq_of_stuck (by simp [ways_literal, found])
  | some rest => exact first?_seq_of_single (by simp [ways_literal, found])

theorem first?_group_literal_seq :
    (seq (group number (literal text)) second).first? cursor =
      (text.isPrefixOf? cursor.rest).bind fun rest =>
        second.first? (cursor.keep number (cursor.goTo rest)) := by
  cases found : text.isPrefixOf? cursor.rest with
  | none => exact first?_seq_of_stuck (by simp [ways_group, ways_literal, found])
  | some rest => exact first?_seq_of_single (by simp [ways_group, ways_literal, found])

theorem first?_seq_choice {left right : Pattern} :
    (seq (choice left right) second).first? cursor =
      ((seq left second).first? cursor).or ((seq right second).first? cursor) := by
  rw [first?, ways_seq, ways_choice, List.flatMap_append, List.head?_append]
  rfl

theorem first?_seq_seq {third : Pattern} :
    (seq (seq first second) third).first? cursor =
      (seq first (seq second third)).first? cursor := by
  rw [first?, first?, ways_seq, ways_seq, ways_seq, List.flatMap_assoc]
  rfl

/-- A part that may be missing is left out if the rest goes on from no other way. -/
theorem first?_seq_optional :
    (seq (optional pattern) second).first? cursor =
      ((seq pattern second).first? cursor).or (second.first? cursor) := by
  rw [optional, first?_seq_choice]
  congr 1
  exact first?_seq_of_single rfl

/-! ## Patterns that go on from everywhere -/

/-- The pattern goes on from every place, first of all by this step. -/
def Advances (pattern : Pattern) (step : Cursor → Cursor) : Prop :=
  ∀ cursor, pattern.first? cursor = some (step cursor)

section Advances

variable {step stepSecond : Cursor → Cursor}

/-- In front of a pattern that goes on from everywhere, the first way is taken. -/
theorem first?_seq_of_advances (advances : second.Advances step) :
    (seq first second).first? cursor = (first.first? cursor).map step := by
  cases found : first.first? cursor with
  | none =>
      rw [first?, ways_seq, List.head?_eq_none_iff.mp found]
      rfl
  | some next =>
      have reached := advances next
      have goesOn : second.ways next ≠ [] := by
        intro stuck
        rw [first?, stuck] at reached
        contradiction
      rw [first?_seq_of_goesOn found goesOn, reached, Option.map_some]

theorem Advances.seq (advances : first.Advances step) (others : second.Advances stepSecond) :
    (seq first second).Advances (stepSecond ∘ step) := by
  intro cursor
  rw [first?_seq_of_advances others, advances cursor, Option.map_some]
  rfl

theorem advances_nil : (inTurn []).Advances id := fun _ => rfl

theorem advances_optional (pattern : Pattern) :
    (optional pattern).Advances fun cursor => (pattern.first? cursor).getD cursor :=
  fun _ => first?_optional

theorem advances_many (p : Char → Bool) :
    (many p).Advances fun cursor => cursor.goTo (cursor.rest.dropWhile p) :=
  fun _ => first?_many

theorem advances_group_many (number : Nat) (p : Char → Bool) :
    (group number (many p)).Advances fun cursor =>
      cursor.keep? number (some (cursor.rest.dropWhile p)) := by
  intro cursor
  rw [first?_group, first?_many]
  rfl

theorem advances_group_run (number : Nat) (p : Char → Bool) :
    (optional (group number (run p))).Advances fun cursor =>
      cursor.keep? number (afterRun? p cursor.rest) :=
  fun _ => first?_optional_group first?_run

theorem advances_group_literal (number : Nat) (text : List Char) :
    (optional (group number (literal text))).Advances fun cursor =>
      cursor.keep? number (text.isPrefixOf? cursor.rest) :=
  fun _ => first?_optional_group first?_literal

end Advances

/-! ## Runs in front of something else -/

theorem ways_run_of_stops (stops : Stops p cursor.rest) : (run p).ways cursor = [] := by
  rw [List.eq_nil_iff_forall_not_mem]
  intro next isWay
  obtain ⟨passed, rest, isRun, split, -⟩ := mem_ways_run.mp isWay
  obtain ⟨c, first, inClass⟩ := isRun.head?_append rest
  rw [Stops, split, first, Option.any_some, inClass] at stops
  contradiction

/-- The pattern does not go on from a character of the class. -/
def Shuns (pattern : Pattern) (p : Char → Bool) : Prop :=
  ∀ cursor, ¬Stops p cursor.rest → pattern.ways cursor = []

theorem shuns_literal {c : Char} (outside : p c = false) (text : List Char) :
    (literal (c :: text)).Shuns p := by
  intro cursor starts
  rw [List.eq_nil_iff_forall_not_mem]
  intro next isWay
  obtain ⟨rest, split, -⟩ := mem_ways_literal.mp isWay
  rw [split] at starts
  exact starts (stops_cons.mpr outside)

theorem shuns_word {word : List Char} (isWord : Run isWord word) :
    (literal word).Shuns isSpace := by
  cases word with
  | nil => exact absurd rfl isWord.nonempty
  | cons c rest => exact shuns_literal (isSpace_of_isWord (isWord.all c List.mem_cons_self)) rest

theorem shuns_run (apart : ∀ c, q c = true → p c = false) : (run q).Shuns p := by
  intro cursor starts
  rw [List.eq_nil_iff_forall_not_mem]
  intro next isWay
  obtain ⟨passed, rest, isRun, split, -⟩ := mem_ways_run.mp isWay
  rw [split] at starts
  exact starts (isRun.stops_append apart rest)

theorem Shuns.seq (shuns : first.Shuns p) (second : Pattern) : (seq first second).Shuns p := by
  intro cursor starts
  rw [ways_seq, shuns cursor starts, List.flatMap_nil]

theorem Shuns.choice (shuns : first.Shuns p) (shunsSecond : second.Shuns p) :
    (choice first second).Shuns p := by
  intro cursor starts
  rw [ways_choice, shuns cursor starts, shunsSecond cursor starts, List.append_nil]

theorem Shuns.group (shuns : pattern.Shuns p) (number : Nat) : (group number pattern).Shuns p := by
  intro cursor starts
  rw [ways_group, shuns cursor starts, List.map_nil]

theorem Shuns.optional_seq (shuns : first.Shuns p) (shunsSecond : second.Shuns p) :
    (Pattern.seq (optional first) second).Shuns p := by
  intro cursor starts
  rw [ways_seq, optional, ways_choice, shuns cursor starts, List.nil_append]
  exact (List.flatMap_singleton ..).trans (shunsSecond cursor starts)

/-- A run is as long as possible if what follows cannot stand in it. -/
theorem first?_run_seq (shuns : second.Shuns p) :
    (seq (run p) second).first? cursor =
      (afterRun? p cursor.rest).bind fun rest => second.first? (cursor.goTo rest) := by
  rw [afterRun?]
  split_ifs with starts
  · have isRun : Run p (cursor.rest.takeWhile p) := run_takeWhile (by simp [Stops, starts])
    apply first?_seq_of_unique
    · exact mem_ways_run.mpr ⟨_, _, isRun, List.takeWhile_append_dropWhile.symm, rfl⟩
    · intro other isWay goesOn
      obtain ⟨passed, rest, isPassed, split, rfl⟩ := mem_ways_run.mp isWay
      have stops : Stops p rest := by
        by_contra inside
        exact goesOn (shuns _ inside)
      rw [split, dropWhile_append_stops isPassed.all stops]
  · apply first?_seq_of_stuck
    simp [ways_run_of_stops (Bool.eq_false_iff.mpr starts)]

theorem first?_many_seq (shuns : second.Shuns p) :
    (seq (many p) second).first? cursor =
      second.first? (cursor.goTo (cursor.rest.dropWhile p)) := by
  rw [many, first?_seq_optional, first?_run_seq shuns, afterRun?]
  split_ifs with starts
  · have stuck : second.first? cursor = none := by
      rw [first?, shuns cursor (by simp [Stops, starts]), List.head?_nil]
    rw [stuck, Option.or_none, Option.bind_some]
  · rw [dropWhile_of_stops (Bool.eq_false_iff.mpr starts), Cursor.goTo_self]
    rfl

/-! ## What is passed -/

/-- Every way of the pattern passes characters of the class only. -/
def Passes (pattern : Pattern) (p : Char → Bool) : Prop :=
  ∀ cursor, ∀ next ∈ pattern.ways cursor,
    ∃ passed, (∀ c ∈ passed, p c = true) ∧ cursor.rest = passed ++ next.rest

theorem passes_run (p : Char → Bool) : (run p).Passes p := by
  intro cursor next isWay
  obtain ⟨passed, rest, isRun, split, rfl⟩ := mem_ways_run.mp isWay
  exact ⟨passed, isRun.all, split⟩

theorem Passes.group (passes : pattern.Passes p) (number : Nat) :
    (group number pattern).Passes p := by
  intro cursor next isWay
  obtain ⟨behind, isBehind, rfl⟩ := List.mem_map.mp isWay
  exact passes cursor behind isBehind

theorem Passes.optional (passes : pattern.Passes p) : (optional pattern).Passes p := by
  intro cursor next isWay
  rcases mem_ways_optional.mp isWay with isWay | rfl
  · exact passes cursor next isWay
  · exact ⟨[], List.forall_mem_nil _, rfl⟩

/-! ## Patterns at the start of a line -/

/-- A pattern that starts with the line is found there or not at all. -/
theorem captures?_start (pattern : Pattern) (line : List Char) :
    (seq start pattern).captures? line =
      (pattern.first? ⟨line, line, []⟩).map Cursor.captures := by
  have atStart : (seq start pattern).first? ⟨line, line, []⟩ = pattern.first? ⟨line, line, []⟩ := by
    apply first?_seq_of_single
    simp [ways_start, Cursor.front]
  rw [captures?, search?, ← atStart]
  congr 1
  apply findSome?_of_unique ((List.mem_tails _ _).mpr List.suffix_rfl)
  intro rest isTail reached
  obtain ⟨before, whole⟩ := (List.mem_tails _ _).mp isTail
  have front : (Cursor.mk line rest []).front = before := Cursor.front_of_line whole.symm
  by_contra differs
  have inside : before ≠ [] := by
    rintro rfl
    exact differs whole
  apply reached
  apply first?_seq_of_stuck
  simp [ways_start, Cursor.goTo, front, inside]

/-! ## Keywords and types -/

/-- The edge of a word behind a word character. -/
theorem first?_edge_seq (inWord : cursor.front.getLast?.any isWord = true) :
    (seq edge second).first? cursor =
      if cursor.rest.head?.any isWord then none else second.first? cursor := by
  split_ifs with goesOn
  · apply first?_seq_of_stuck
    simp [ways_edge, inWord, goesOn]
  · apply first?_seq_of_single
    simp [ways_edge, inWord, goesOn]

/-- A keyword is found where it ends a word, whether its text is kept or not. -/
theorem first?_word_edge {keyword : List Char} (isKeyword : Run isWord keyword)
    (inLine : cursor.rest <:+ cursor.line) {place : List Char → Cursor}
    (isPlace : ∀ rest, (place rest).rest = rest ∧ (place rest).line = cursor.line)
    (places : first.ways cursor = (keyword.isPrefixOf? cursor.rest).toList.map place) :
    (seq first (seq edge second)).first? cursor =
      (afterKeyword? keyword cursor.rest).bind fun rest => second.first? (place rest) := by
  rw [afterKeyword?]
  cases found : keyword.isPrefixOf? cursor.rest with
  | none =>
      rw [found] at places
      apply first?_seq_of_stuck
      simp [places]
  | some rest =>
      rw [found] at places
      obtain ⟨placeRest, placeLine⟩ := isPlace rest
      obtain ⟨before, whole⟩ := inLine
      have front : (place rest).front = before ++ keyword := by
        apply Cursor.front_of_line
        rw [placeLine, placeRest, List.append_assoc,
          List.isPrefixOf?_eq_some_iff_append_eq.mp found, whole]
      obtain ⟨c, last, inWord⟩ := isKeyword.getLast?_append before
      rw [first?_seq_of_single places,
        first?_edge_seq (by rw [front, last, Option.any_some, inWord]), placeRest]
      dsimp only
      by_cases goesOn : rest.head?.any isWord = true
      · rw [if_pos goesOn, if_pos goesOn, Option.bind_none]
      · rw [if_neg goesOn, if_neg goesOn, Option.bind_some]

theorem first?_keyword {keyword : List Char} (isKeyword : Run isWord keyword)
    (inLine : cursor.rest <:+ cursor.line) :
    (seq (literal keyword) (seq edge second)).first? cursor =
      (afterKeyword? keyword cursor.rest).bind fun rest => second.first? (cursor.goTo rest) :=
  first?_word_edge isKeyword inLine (fun _ => ⟨rfl, rfl⟩) rfl

theorem first?_group_keyword {keyword : List Char} (isKeyword : Run isWord keyword)
    (inLine : cursor.rest <:+ cursor.line) :
    (seq (group number (literal keyword)) (seq edge second)).first? cursor =
      (afterKeyword? keyword cursor.rest).bind fun rest =>
        second.first? (cursor.keep number (cursor.goTo rest)) :=
  first?_word_edge isKeyword inLine (fun _ => ⟨rfl, rfl⟩) (List.map_map ..)

/-- The pattern of a type: a word that may carry a pair of brackets. -/
def typeName : Pattern := seq (run isWord) (optional (literal ['[', ']']))

theorem mem_ways_typeName :
    next ∈ typeName.ways cursor ↔
      ∃ name rest, TypeName name ∧ cursor.rest = name ++ rest ∧ next = cursor.goTo rest := by
  rw [typeName, ways_seq, List.mem_flatMap]
  constructor
  · rintro ⟨middle, isMiddle, isWay⟩
    obtain ⟨base, behind, isBase, split, rfl⟩ := mem_ways_run.mp isMiddle
    rcases mem_ways_optional.mp isWay with brackets | rfl
    · obtain ⟨rest, behindSplit, rfl⟩ := mem_ways_literal.mp brackets
      refine ⟨_, rest, .array isBase, ?_, rfl⟩
      rw [split, List.append_assoc, ← behindSplit, Cursor.rest_goTo]
    · exact ⟨base, behind, .plain isBase, split, rfl⟩
  · rintro ⟨name, rest, isType, split, rfl⟩
    cases isType with
    | plain isBase =>
        exact ⟨cursor.goTo rest, mem_ways_run.mpr ⟨_, rest, isBase, split, rfl⟩,
          mem_ways_optional.mpr (Or.inr rfl)⟩
    | @array base isBase =>
        rw [List.append_assoc] at split
        refine ⟨cursor.goTo ('[' :: ']' :: rest), mem_ways_run.mpr ⟨_, _, isBase, split, rfl⟩, ?_⟩
        exact mem_ways_optional.mpr (Or.inl (mem_ways_literal.mpr ⟨rest, rfl, rfl⟩))

theorem typeName?_of_typeName {name rest : List Char} (isType : TypeName name)
    (starts : startsSpace rest = true) :
    typeName? (name ++ rest) = some (name, afterSpace rest) := by
  refine typeName?_eq_some_iff.mpr ⟨isType, stops_dropWhile isSpace rest, rest.takeWhile isSpace,
    run_takeWhile (startsSpace_iff.mp starts), ?_⟩
  rw [List.append_assoc, space_append_afterSpace]

/-- White space behind a type leaves only one place where the type can end. -/
theorem typeName?_of_goesOn {other : Cursor} (isWay : other ∈ (group number typeName).ways cursor)
    (goesOn : (seq (run isSpace) second).ways other ≠ []) :
    ∃ name behind, typeName? cursor.rest = some (name, afterSpace behind) ∧
      cursor.rest = name ++ behind ∧ other = cursor.keep number (cursor.goTo behind) := by
  rw [ways_group, List.mem_map] at isWay
  obtain ⟨middle, isMiddle, rfl⟩ := isWay
  obtain ⟨name, behind, isType, split, rfl⟩ := mem_ways_typeName.mp isMiddle
  refine ⟨name, behind, ?_, split, rfl⟩
  rw [split]
  apply typeName?_of_typeName isType
  by_contra solid
  apply goesOn
  rw [ways_seq, ways_run_of_stops (startsSpace_eq_false.mp (Bool.eq_false_iff.mpr solid)),
    List.flatMap_nil]

/-- A type in front of something that is no white space is the one that is read. -/
theorem first?_typeName (shuns : second.Shuns isSpace) :
    (seq (group number typeName) (seq (run isSpace) second)).first? cursor =
      (typeName? cursor.rest).bind fun typed =>
        second.first?
          ⟨cursor.line, typed.2, (number, ⟨cursor.offset, typed.1⟩) :: cursor.captures⟩ := by
  cases found : typeName? cursor.rest with
  | none =>
      apply first?_seq_of_stuck
      intro other isWay
      by_contra goesOn
      obtain ⟨name, behind, isRead, -⟩ := typeName?_of_goesOn isWay goesOn
      rw [found] at isRead
      contradiction
  | some typed =>
      obtain ⟨name, rest⟩ := typed
      obtain ⟨isType, stops, gap, isGap, split⟩ := typeName?_eq_some_iff.mp found
      rw [List.append_assoc] at split
      have place : cursor.keep number (cursor.goTo (gap ++ rest)) =
          ⟨cursor.line, gap ++ rest, (number, ⟨cursor.offset, name⟩) :: cursor.captures⟩ :=
        Cursor.keep_eq split
      have behindGap : afterRun? isSpace (gap ++ rest) = some rest := by
        rw [afterRun?, dropWhile_append_stops isGap.all stops]
        exact if_pos (isGap.startsSpace_append rest)
      have isWay : cursor.keep number (cursor.goTo (gap ++ rest)) ∈
          (group number typeName).ways cursor :=
        List.mem_map.mpr ⟨_, mem_ways_typeName.mpr ⟨name, _, isType, split, rfl⟩, rfl⟩
      rw [first?_seq_of_unique isWay, first?_run_seq shuns, place]
      · dsimp only
        rw [behindGap]
        rfl
      · intro other isOther goesOn
        obtain ⟨otherName, behind, isRead, otherSplit, rfl⟩ := typeName?_of_goesOn isOther goesOn
        rw [found] at isRead
        obtain ⟨rfl, -⟩ := Prod.mk.inj (Option.some.inj isRead)
        rw [split, List.append_cancel_left_eq] at otherSplit
        rw [otherSplit]

end Pattern
end Text
end ScriptLint
