import Mathlib.Data.List.Pairwise
import Mathlib.Data.List.TakeWhile
import ScriptLint.Text.Scan

/-!
# Runs of characters

A reader takes the longest run of a class off the front of a text and goes on with the rest.  What
is written as a run with something behind it that does not go on with the class is read back as
these two parts.  From this follows what keywords, types and tokens are read from a text, and where
they stand in it.
-/

namespace ScriptLint
namespace Text

/-! ## Lengths -/

theorem byteLength_append (left right : List Char) :
    byteLength (left ++ right) = byteLength left + byteLength right := by
  induction left with
  | nil => simp [byteLength]
  | cons c left ih => simp only [List.cons_append, byteLength, ih, Nat.add_assoc]

theorem byteLength_le_of_prefix {front text : List Char} (isPrefix : front <+: text) :
    byteLength front ≤ byteLength text := by
  obtain ⟨rest, rfl⟩ := isPrefix
  rw [byteLength_append]
  exact Nat.le_add_right _ _

theorem length_le_byteLength (text : List Char) : text.length ≤ byteLength text := by
  induction text with
  | nil => exact Nat.le_refl 0
  | cons c rest ih =>
      have charPos := c.utf8Size_pos
      rw [List.length_cons, byteLength]
      omega

theorem byteLength_pos {text : List Char} (nonempty : text ≠ []) : 0 < byteLength text :=
  Nat.lt_of_lt_of_le (List.length_pos_iff.mpr nonempty) (length_le_byteLength text)

theorem byteLength_of_narrow {text : List Char} (narrow : ∀ c ∈ text, c.utf8Size = 1) :
    byteLength text = text.length := by
  induction text with
  | nil => rfl
  | cons c rest ih =>
      obtain ⟨one, others⟩ := List.forall_mem_cons.mp narrow
      rw [byteLength, one, ih others, List.length_cons, Nat.add_comm]

/-! ## Runs of a class -/

/-- The text does not go on with a character of the class. -/
def Stops (p : Char → Bool) (text : List Char) : Prop := text.head?.any p = false

/-- The text consists of characters of the class, at least one. -/
structure Run (p : Char → Bool) (text : List Char) : Prop where
  nonempty : text ≠ []
  all : ∀ c ∈ text, p c = true

section Runs

variable {p : Char → Bool} {run rest text : List Char}

/-- A run told by evaluation. -/
theorem run_of_all (nonempty : run ≠ []) (all : run.all p = true) : Run p run :=
  ⟨nonempty, List.all_eq_true.mp all⟩

theorem stops_nil (p : Char → Bool) : Stops p [] := rfl

theorem stops_cons {c : Char} : Stops p (c :: rest) ↔ p c = false := by simp [Stops]

theorem stops_dropWhile (p : Char → Bool) (text : List Char) : Stops p (text.dropWhile p) := by
  cases left : text.dropWhile p with
  | nil => exact stops_nil p
  | cons c rest =>
      have first := List.head?_dropWhile_not p text
      rw [left] at first
      exact stops_cons.mpr first

theorem Stops.front (stops : Stops p text) (isPrefix : run <+: text) : Stops p run := by
  obtain ⟨behind, rfl⟩ := isPrefix
  cases run with
  | nil => exact stops_nil p
  | cons c run => exact stops_cons.mpr (stops_cons.mp stops)

theorem takeWhile_append_stops (all : ∀ c ∈ run, p c = true) (stops : Stops p rest) :
    (run ++ rest).takeWhile p = run := by
  rw [List.takeWhile_append_of_pos all]
  cases rest with
  | nil => simp
  | cons c rest => simp [stops_cons.mp stops]

theorem dropWhile_append_stops (all : ∀ c ∈ run, p c = true) (stops : Stops p rest) :
    (run ++ rest).dropWhile p = rest := by
  rw [List.dropWhile_append_of_pos all]
  cases rest with
  | nil => simp
  | cons c rest => simp [stops_cons.mp stops]

/-- A run that ends in the text, or where something else stands behind it, stays as it is. -/
theorem takeWhile_append_of_stops (stops : Stops p rest) (text : List Char) :
    (text ++ rest).takeWhile p = text.takeWhile p := by
  induction text with
  | nil =>
      cases rest with
      | nil => rfl
      | cons c rest => simp [stops_cons.mp stops]
  | cons c text ih => rw [List.cons_append, List.takeWhile_cons, List.takeWhile_cons, ih]

theorem dropWhile_append_of_stops (stops : Stops p rest) (text : List Char) :
    (text ++ rest).dropWhile p = text.dropWhile p ++ rest := by
  induction text with
  | nil =>
      cases rest with
      | nil => rfl
      | cons c rest => simp [stops_cons.mp stops]
  | cons c text ih =>
      rw [List.cons_append, List.dropWhile_cons, List.dropWhile_cons, ih]
      split_ifs <;> rfl

theorem mem_dropWhile_of_mem {c : Char} (member : c ∈ text) (outside : p c = false) :
    c ∈ text.dropWhile p := by
  rw [← List.takeWhile_append_dropWhile (p := p) (l := text), List.mem_append] at member
  refine member.resolve_left ?_
  intro inFront
  rw [List.mem_takeWhile_imp inFront] at outside
  contradiction

theorem run_takeWhile (starts : ¬Stops p text) : Run p (text.takeWhile p) := by
  refine ⟨?_, fun c member => List.mem_takeWhile_imp member⟩
  intro empty
  apply starts
  have same := List.takeWhile_append_dropWhile (p := p) (l := text)
  rw [empty, List.nil_append] at same
  exact same ▸ stops_dropWhile p text

theorem Run.head?_append (isRun : Run p run) (rest : List Char) :
    ∃ c, (run ++ rest).head? = some c ∧ p c = true := by
  cases run with
  | nil => exact absurd rfl isRun.nonempty
  | cons c run => exact ⟨c, rfl, isRun.all c List.mem_cons_self⟩

theorem Run.getLast?_append (isRun : Run p run) (front : List Char) :
    ∃ c, (front ++ run).getLast? = some c ∧ p c = true := by
  rw [List.getLast?_append, List.getLast?_eq_some_getLast isRun.nonempty, Option.some_or]
  exact ⟨_, rfl, isRun.all _ (List.getLast_mem isRun.nonempty)⟩

/-- A run of one class stops any class without members in common. -/
theorem Run.stops_append {q : Char → Bool} (isRun : Run p run)
    (apart : ∀ c, p c = true → q c = false) (rest : List Char) : Stops q (run ++ rest) := by
  obtain ⟨c, first, inClass⟩ := isRun.head?_append rest
  rw [Stops, first, Option.any_some, apart c inClass]

end Runs

/-! ## White space and words -/

/-- The code points of white space. -/
private def spaceCodes : List Nat :=
  [9, 10, 11, 12, 13, 0x20, 0x85, 0xA0, 0x1680, 0x2000, 0x2001, 0x2002, 0x2003, 0x2004, 0x2005,
    0x2006, 0x2007, 0x2008, 0x2009, 0x200A, 0x2028, 0x2029, 0x202F, 0x205F, 0x3000]

private theorem toNat_mem_spaceCodes {c : Char} (blank : isSpace c = true) :
    c.toNat ∈ spaceCodes := by
  simp only [isSpace, Bool.or_eq_true, Bool.and_eq_true, decide_eq_true_eq, beq_iff_eq] at blank
  simp only [spaceCodes, List.mem_cons, List.not_mem_nil, or_false]
  omega

/-- White space does not stand in words. -/
theorem isWord_of_isSpace {c : Char} (blank : isSpace c = true) : isWord c = false := by
  have none : ∀ code ∈ spaceCodes, isWord (Char.ofNat code) = false := by decide +kernel
  rw [← Char.ofNat_toNat c]
  exact none c.toNat (toNat_mem_spaceCodes blank)

theorem isSpace_of_isWord {c : Char} (inWord : isWord c = true) : isSpace c = false := by
  by_contra blank
  rw [isWord_of_isSpace (Bool.not_eq_false _ ▸ blank)] at inWord
  contradiction

theorem startsSpace_eq_false {text : List Char} :
    startsSpace text = false ↔ Stops isSpace text := Iff.rfl

theorem startsSpace_iff {text : List Char} : startsSpace text = true ↔ ¬Stops isSpace text := by
  rw [← startsSpace_eq_false, Bool.not_eq_false]

theorem Run.startsSpace_append {gap : List Char} (isGap : Run isSpace gap) (rest : List Char) :
    startsSpace (gap ++ rest) = true := by
  obtain ⟨c, first, blank⟩ := isGap.head?_append rest
  rw [startsSpace, first, Option.any_some, blank]

/-- A text that starts with white space does not go on with a word. -/
theorem stops_isWord_of_startsSpace {text : List Char} (starts : startsSpace text = true) :
    Stops isWord text := by
  cases text with
  | nil => exact stops_nil isWord
  | cons c rest => exact stops_cons.mpr (isWord_of_isSpace (by simpa [startsSpace] using starts))

theorem stops_takeWhile {p q : Char → Bool} {text : List Char} (stops : Stops p text) :
    Stops p (text.takeWhile q) :=
  stops.front (List.takeWhile_prefix q)

/-- White space in front of a text is skipped. -/
theorem afterSpace_append {gap text : List Char} (blank : ∀ c ∈ gap, isSpace c = true)
    (stops : Stops isSpace text) : afterSpace (gap ++ text) = text :=
  dropWhile_append_stops blank stops

theorem word_append {name rest : List Char} (isName : Run isWord name)
    (stops : Stops isWord rest) : word (name ++ rest) = name :=
  takeWhile_append_stops isName.all stops

theorem afterWord_append {name rest : List Char} (isName : Run isWord name)
    (stops : Stops isWord rest) : afterWord (name ++ rest) = rest :=
  dropWhile_append_stops isName.all stops

theorem word_append_afterWord (text : List Char) : word text ++ afterWord text = text :=
  List.takeWhile_append_dropWhile

theorem stops_afterWord (text : List Char) : Stops isWord (afterWord text) :=
  stops_dropWhile isWord text

theorem run_word {text : List Char} (nonempty : word text ≠ []) : Run isWord (word text) :=
  ⟨nonempty, fun _ member => List.mem_takeWhile_imp member⟩

/-- A text is its white space in front and what follows that. -/
theorem space_append_afterSpace (text : List Char) :
    text.takeWhile isSpace ++ afterSpace text = text :=
  List.takeWhile_append_dropWhile

/-- A keyword is read where it stands at the front and no word goes on behind it. -/
theorem afterKeyword?_eq_some_iff {keyword text rest : List Char} :
    afterKeyword? keyword text = some rest ↔ text = keyword ++ rest ∧ Stops isWord rest := by
  rw [afterKeyword?]
  cases found : keyword.isPrefixOf? text with
  | none =>
      simp only [reduceCtorEq, false_iff, not_and]
      intro same
      rw [List.isPrefixOf?_eq_some_iff_append_eq.mpr same.symm] at found
      contradiction
  | some behind =>
      obtain rfl := List.isPrefixOf?_eq_some_iff_append_eq.mp found
      rw [List.append_cancel_left_eq]
      dsimp only
      split_ifs with goesOn
      · simp only [false_iff, not_and]
        rintro rfl stops
        rw [Stops, goesOn] at stops
        contradiction
      · rw [Option.some.injEq]
        exact ⟨fun same => ⟨same, same ▸ Bool.eq_false_iff.mpr goesOn⟩, And.left⟩

/-- A type as it is written: a word that may carry a pair of brackets. -/
inductive TypeName : List Char → Prop where
  | plain {base : List Char} (isBase : Run isWord base) : TypeName base
  | array {base : List Char} (isBase : Run isWord base) : TypeName (base ++ ['[', ']'])

/-- A type is read where it stands at the front with white space behind it. -/
theorem typeName?_eq_some_iff {text name rest : List Char} :
    typeName? text = some (name, rest) ↔
      TypeName name ∧ Stops isSpace rest ∧ ∃ gap, Run isSpace gap ∧ text = name ++ gap ++ rest := by
  constructor
  · intro read
    have base : word text ≠ [] → Run isWord (word text) := run_word
    have whole := word_append_afterWord text
    rw [typeName?] at read
    dsimp only at read
    split at read
    · next behind brackets =>
        split_ifs at read with unread
        simp only [Bool.or_eq_true, List.isEmpty_iff, Bool.not_eq_true', not_or,
          Bool.not_eq_false] at unread
        obtain ⟨rfl, rfl⟩ := Prod.mk.inj (Option.some.inj read)
        refine ⟨.array (base unread.1), stops_dropWhile isSpace behind,
          behind.takeWhile isSpace, run_takeWhile (startsSpace_iff.mp unread.2), ?_⟩
        rw [List.append_assoc, space_append_afterSpace, List.append_assoc]
        rw [brackets] at whole
        exact whole.symm
    · next behind =>
        split_ifs at read with unread
        simp only [Bool.or_eq_true, List.isEmpty_iff, Bool.not_eq_true', not_or,
          Bool.not_eq_false] at unread
        obtain ⟨rfl, rfl⟩ := Prod.mk.inj (Option.some.inj read)
        refine ⟨.plain (base unread.1), stops_dropWhile isSpace _,
          (afterWord text).takeWhile isSpace, run_takeWhile (startsSpace_iff.mp unread.2), ?_⟩
        rw [List.append_assoc, space_append_afterSpace, whole]
  · rintro ⟨isType, stops, gap, isGap, rfl⟩
    cases isType with
    | plain isBase =>
        have gapStops : Stops isWord (gap ++ rest) :=
          isGap.stops_append (fun c => isWord_of_isSpace) rest
        rw [List.append_assoc, typeName?, word_append isBase gapStops,
          afterWord_append isBase gapStops]
        have nonempty : name.isEmpty = false := List.isEmpty_eq_false_iff.mpr isBase.nonempty
        obtain ⟨c, first, blank⟩ := isGap.head?_append rest
        have noBrackets : ∀ behind, gap ++ rest = '[' :: ']' :: behind → False := by
          intro behind same
          rw [same] at first
          obtain rfl := Option.some.inj first
          exact absurd blank (by decide)
        simp [nonempty, isGap.startsSpace_append, afterSpace_append isGap.all stops]
    | @array base isBase =>
        have bracketStops : Stops isWord ('[' :: ']' :: (gap ++ rest)) := stops_cons.mpr (by decide)
        have nonempty : base.isEmpty = false := List.isEmpty_eq_false_iff.mpr isBase.nonempty
        rw [List.append_assoc, List.append_assoc, List.cons_append, List.cons_append,
          List.nil_append, typeName?, word_append isBase bracketStops,
          afterWord_append isBase bracketStops]
        simp [nonempty, isGap.startsSpace_append, afterSpace_append isGap.all stops]

/-! ## Tokens -/

/-- White space in front of a text only moves its tokens. -/
theorem tokens_skip {blanks : List Char} (blank : ∀ c ∈ blanks, isSpace c = true)
    (offset : Nat) (text : List Char) :
    tokens offset (blanks ++ text) = tokens (offset + byteLength blanks) text := by
  induction blanks generalizing offset with
  | nil => rfl
  | cons c blanks ih =>
      obtain ⟨first, others⟩ := List.forall_mem_cons.mp blank
      rw [List.cons_append, tokens, if_pos first, ih others, byteLength, Nat.add_assoc]

/-- Characters without white space up to white space or the end are one token. -/
theorem tokens_run {run rest : List Char} (isRun : Run (!isSpace ·) run)
    (ends : rest = [] ∨ startsSpace rest = true) (offset : Nat) :
    tokens offset (run ++ rest) = ⟨offset, run⟩ :: tokens (offset + byteLength run) rest := by
  obtain ⟨nonempty, all⟩ := isRun
  induction run generalizing offset with
  | nil => contradiction
  | cons c run ih =>
      obtain ⟨first, others⟩ := List.forall_mem_cons.mp all
      have notBlank : ¬isSpace c = true := by simpa using first
      rw [List.cons_append, tokens, if_neg notBlank]
      cases run with
      | nil =>
          have last : (rest.isEmpty || startsSpace rest) = true := by simpa using ends
          rw [List.nil_append, if_pos last]
          rfl
      | cons d run =>
          have second : isSpace d = false := by simpa using others d List.mem_cons_self
          have goesOn : ¬((d :: run ++ rest).isEmpty || startsSpace (d :: run ++ rest)) = true := by
            simp [startsSpace, second]
          rw [if_neg goesOn, ih _ (List.cons_ne_nil d run) others]
          simp only [byteLength, Nat.add_assoc]

/-- The first token of a text and what is left for the others. -/
theorem tokens_eq_cons {offset : Nat} {text : List Char} {token : Token} {later : List Token}
    (read : tokens offset text = token :: later) :
    ∃ blanks rest, text = blanks ++ token.text ++ rest ∧ (∀ c ∈ blanks, isSpace c = true) ∧
      Run (!isSpace ·) token.text ∧ (rest = [] ∨ startsSpace rest = true) ∧
      token.start = offset + byteLength blanks ∧
      later = tokens (offset + byteLength blanks + byteLength token.text) rest := by
  have blank : ∀ c ∈ text.takeWhile isSpace, isSpace c = true :=
    fun c member => List.mem_takeWhile_imp member
  have skipped := tokens_skip blank offset (afterSpace text)
  rw [space_append_afterSpace, read] at skipped
  have starts : ¬Stops (!isSpace ·) (afterSpace text) := by
    cases behind : afterSpace text with
    | nil => simp [behind, tokens] at skipped
    | cons c rest =>
        have stops : Stops isSpace (afterSpace text) := stops_dropWhile isSpace text
        rw [behind, stops_cons] at stops
        rw [stops_cons, stops]
        decide
  set run := (afterSpace text).takeWhile (!isSpace ·) with run_eq
  set rest := (afterSpace text).dropWhile (!isSpace ·) with rest_eq
  have isRun : Run (!isSpace ·) run := run_takeWhile starts
  have split : run ++ rest = afterSpace text := List.takeWhile_append_dropWhile
  have ends : rest = [] ∨ startsSpace rest = true := by
    have stops : Stops (!isSpace ·) rest := stops_dropWhile (!isSpace ·) (afterSpace text)
    cases behind : rest with
    | nil => exact Or.inl rfl
    | cons c others =>
        rw [behind, stops_cons] at stops
        exact Or.inr (by simpa [startsSpace] using stops)
  rw [← split, tokens_run isRun ends] at skipped
  obtain ⟨rfl, rfl⟩ := List.cons.inj skipped
  refine ⟨text.takeWhile isSpace, rest, ?_, blank, isRun, ends, rfl, rfl⟩
  rw [List.append_assoc, split, space_append_afterSpace]

/-- Only white space has no tokens. -/
theorem tokens_eq_nil_iff {offset : Nat} {text : List Char} :
    tokens offset text = [] ↔ ∀ c ∈ text, isSpace c = true := by
  constructor
  · induction text generalizing offset with
    | nil => simp
    | cons c rest ih =>
        intro none
        rw [tokens] at none
        by_cases blank : isSpace c = true
        · rw [if_pos blank] at none
          exact List.forall_mem_cons.mpr ⟨blank, ih none⟩
        · rw [if_neg blank] at none
          split_ifs at none
          cases later : tokens (offset + c.utf8Size) rest <;> simp [later] at none
  · intro blank
    have skipped := tokens_skip blank offset []
    rwa [List.append_nil, tokens] at skipped

/-- A token starts in front of its first character, which is no white space. -/
theorem front_of_mem_tokens {offset : Nat} {text : List Char} {token : Token}
    (member : token ∈ tokens offset text) :
    ∃ front c rest, text = front ++ c :: rest ∧ isSpace c = false ∧
      token.start = offset + byteLength front := by
  induction text generalizing offset token with
  | nil => simp [tokens] at member
  | cons c rest ih =>
      have later {other : Token} (isLater : other ∈ tokens (offset + c.utf8Size) rest) :
          ∃ front d behind, c :: rest = front ++ d :: behind ∧ isSpace d = false ∧
            other.start = offset + byteLength front := by
        obtain ⟨front, d, behind, rfl, solid, start⟩ := ih isLater
        refine ⟨c :: front, d, behind, rfl, solid, ?_⟩
        rw [start, byteLength]
        omega
      rw [tokens] at member
      split_ifs at member with blank ends
      · exact later member
      · rcases List.mem_cons.mp member with rfl | isLater
        · exact ⟨[], c, rest, rfl, by simpa using blank, rfl⟩
        · exact later isLater
      · cases others : tokens (offset + c.utf8Size) rest with
        | nil =>
            rw [others] at member
            obtain rfl := List.mem_singleton.mp member
            exact ⟨[], c, rest, rfl, by simpa using blank, rfl⟩
        | cons next others' =>
            rw [others] at member later
            rcases List.mem_cons.mp member with rfl | isLater
            · exact ⟨[], c, rest, rfl, by simpa using blank, rfl⟩
            · exact later (List.mem_cons_of_mem _ isLater)

end Text
end ScriptLint
