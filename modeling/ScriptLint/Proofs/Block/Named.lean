import ScriptLint.Block.Opener
import ScriptLint.Proofs.Text.Lines

/-!
# The grammar of named openers

A function or an event is opened by its keyword at the start of a line, with or without a type in
front.  Where a line can be read both ways, as `Function Function()` can, the reading with a type
counts.  The text behind the keyword then decides: it names the block, opens an argument list
directly behind the name, closes the list, and does not end it in a comma.  The first of these
demands that is not met is the fault of the opener.
-/

namespace ScriptLint
namespace Block

open Text

/-! ## Starts of a line -/

/-- The line starts with the keyword, which ends a word there, and possibly with a type in front of
it; this is the text behind the keyword. -/
inductive Starts (keyword line : List Char) : Option (List Char) → List Char → Prop where
  | typed {type gap rest : List Char} (isType : TypeName type) (isGap : Run isSpace gap)
      (split : line = type ++ gap ++ keyword ++ rest) (ends : Stops isWord rest) :
      Starts keyword line (some type) rest
  | bare {rest : List Char} (split : line = keyword ++ rest) (ends : Stops isWord rest) :
      Starts keyword line none rest

/-- The start that counts: one without a type only if there is none with a type. -/
structure StartsAs (keyword line : List Char) (type? : Option (List Char)) (rest : List Char) :
    Prop where
  starts : Starts keyword line type? rest
  typed_first : type? = none → ∀ type behind, ¬Starts keyword line (some type) behind

theorem ne_nil_of_typeName {type : List Char} (isType : TypeName type) : type ≠ [] := by
  cases isType with
  | plain isBase => exact isBase.nonempty
  | array isBase => simp

section Start

variable {keyword line type rest : List Char}

theorem starts_none_iff :
    Starts keyword line none rest ↔ afterKeyword? keyword line = some rest := by
  rw [afterKeyword?_eq_some_iff]
  constructor
  · rintro (_ | ⟨split, ends⟩)
    exact ⟨split, ends⟩
  · rintro ⟨split, ends⟩
    exact .bare split ends

theorem starts_some_iff (isKeyword : Run isWord keyword) :
    Starts keyword line (some type) rest ↔
      ∃ behind, typeName? line = some (type, behind) ∧
        afterKeyword? keyword behind = some rest := by
  constructor
  · rintro (⟨isType, isGap, split, ends⟩ | _)
    rw [List.append_assoc] at split
    have solid : Stops isSpace (keyword ++ rest) :=
      isKeyword.stops_append (fun c => isSpace_of_isWord) rest
    exact ⟨keyword ++ rest, typeName?_eq_some_iff.mpr ⟨isType, solid, _, isGap, split⟩,
      afterKeyword?_eq_some_iff.mpr ⟨rfl, ends⟩⟩
  · rintro ⟨behind, typed, found⟩
    obtain ⟨isType, -, gap, isGap, split⟩ := typeName?_eq_some_iff.mp typed
    obtain ⟨rfl, ends⟩ := afterKeyword?_eq_some_iff.mp found
    rw [← List.append_assoc] at split
    exact .typed isType isGap split ends

/-- What is read is the start that counts. -/
theorem namedStart?_of_startsAs (isKeyword : Run isWord keyword) {type? : Option (List Char)}
    (counts : StartsAs keyword line type? rest) :
    namedStart? keyword line = some ⟨type?.getD [], rest⟩ := by
  obtain ⟨starts, typedFirst⟩ := counts
  cases type? with
  | some type =>
      obtain ⟨behind, typed, found⟩ := (starts_some_iff isKeyword).mp starts
      simp only [namedStart?, typed, found, Option.getD_some]
  | none =>
      have bare := starts_none_iff.mp starts
      cases typed : typeName? line with
      | none => simp only [namedStart?, typed, bare, Option.map_some, Option.getD_none]
      | some read =>
          obtain ⟨type, behind⟩ := read
          cases found : afterKeyword? keyword behind with
          | none => simp only [namedStart?, typed, found, bare, Option.map_some, Option.getD_none]
          | some other =>
              have isTyped := (starts_some_iff isKeyword).mpr ⟨behind, typed, found⟩
              exact absurd isTyped (typedFirst rfl type other)

/-- A line with a start has one that counts. -/
theorem exists_startsAs {type? : Option (List Char)} (starts : Starts keyword line type? rest) :
    ∃ type? rest, StartsAs keyword line type? rest := by
  by_cases typed : ∃ type behind, Starts keyword line (some type) behind
  · obtain ⟨type, behind, isTyped⟩ := typed
    exact ⟨some type, behind, isTyped, fun isNone => by contradiction⟩
  · have typedFirst : ∀ type behind, ¬Starts keyword line (some type) behind :=
      fun type behind isTyped => typed ⟨type, behind, isTyped⟩
    cases type? with
    | some type => exact absurd starts (typedFirst type rest)
    | none => exact ⟨none, rest, starts, fun _ => typedFirst⟩

theorem exists_starts (isKeyword : Run isWord keyword) {start : NamedStart}
    (read : namedStart? keyword line = some start) :
    ∃ type? rest, Starts keyword line type? rest := by
  have ofBare : (afterKeyword? keyword line).map (NamedStart.mk []) = some start →
      ∃ type? rest, Starts keyword line type? rest := by
    intro bare
    obtain ⟨rest, found, -⟩ := Option.map_eq_some_iff.mp bare
    exact ⟨none, rest, starts_none_iff.mpr found⟩
  cases typed : typeName? line with
  | none =>
      simp only [namedStart?, typed] at read
      exact ofBare read
  | some typeRead =>
      obtain ⟨type, behind⟩ := typeRead
      cases found : afterKeyword? keyword behind with
      | none =>
          simp only [namedStart?, typed, found] at read
          exact ofBare read
      | some rest =>
          exact ⟨some type, rest, (starts_some_iff isKeyword).mpr ⟨behind, typed, found⟩⟩

end Start

/-! ## The text behind the keyword -/

/-- The text starts with white space or not, and no word follows. -/
structure Unnamed (text : List Char) : Prop where
  split : ∃ gap behind, (∀ c ∈ gap, isSpace c = true) ∧ text = gap ++ behind ∧
    Stops isSpace behind ∧ Stops isWord behind

/-- The text starts with white space or not, and this word follows with this behind it. -/
structure Names (text name behind : List Char) : Prop where
  isName : Run isWord name
  ends : Stops isWord behind
  split : ∃ gap, (∀ c ∈ gap, isSpace c = true) ∧ text = gap ++ name ++ behind

/-- The text ends in a comma, up to white space. -/
def EndsInComma (text : List Char) : Prop :=
  ∃ front blanks, text = front ++ ',' :: blanks ∧ ∀ c ∈ blanks, isSpace c = true

/-- A title with the type in front of it, if there is one. -/
def headed (type? : Option (List Char)) (title : List Char) : String :=
  match type? with
  | none => String.ofList title
  | some type => String.ofList (type ++ ' ' :: title)

/-- How an opener is judged by its type and the text behind its keyword. -/
inductive Judged (keyword : List Char) (type? : Option (List Char)) (text : List Char) :
    Opener → Prop where
  | missingName (unnamed : Unnamed text) :
      Judged keyword type? text (.invalid (headed type? keyword) 1 .missingName)
  | missingOpen {name behind : List Char} (named : Names text name behind)
      (unopened : behind.head? ≠ some '(') :
      Judged keyword type? text
        (.invalid (headed type? (name ++ ' ' :: keyword)) 1 .missingOpenParenthesis)
  | missingClose {name arguments : List Char} (named : Names text name ('(' :: arguments))
      (unclosed : ')' ∉ arguments) :
      Judged keyword type? text
        (.invalid (headed type? (name ++ ' ' :: keyword)) 1 .missingCloseParenthesis)
  | trailingComma {name arguments behind : List Char}
      (named : Names text name ('(' :: arguments ++ ')' :: behind)) (first : ')' ∉ arguments)
      (comma : EndsInComma arguments) :
      Judged keyword type? text
        (.invalid (headed type? (name ++ ' ' :: keyword)) 1 .trailingComma)
  | valid {name arguments behind : List Char}
      (named : Names text name ('(' :: arguments ++ ')' :: behind)) (first : ')' ∉ arguments)
      (noComma : ¬EndsInComma arguments) :
      Judged keyword type? text (.valid (headed type? (name ++ ' ' :: keyword)))

theorem Unnamed.word_eq {text : List Char} (unnamed : Unnamed text) :
    word (afterSpace text) = [] := by
  obtain ⟨gap, behind, blank, rfl, solid, ends⟩ := unnamed
  rw [afterSpace_append blank solid]
  cases behind with
  | nil => rfl
  | cons c rest => exact List.takeWhile_cons_of_neg (Bool.eq_false_iff.mp (stops_cons.mp ends))

theorem Names.afterSpace_eq {text name behind : List Char} (named : Names text name behind) :
    afterSpace text = name ++ behind := by
  obtain ⟨isName, -, gap, blank, rfl⟩ := named
  rw [List.append_assoc]
  exact afterSpace_append blank (isName.stops_append (fun c => isSpace_of_isWord) behind)

theorem Names.word_eq {text name behind : List Char} (named : Names text name behind) :
    word (afterSpace text) = name := by
  rw [named.afterSpace_eq, word_append named.isName named.ends]

theorem Names.afterWord_eq {text name behind : List Char} (named : Names text name behind) :
    afterWord (afterSpace text) = behind := by
  rw [named.afterSpace_eq, afterWord_append named.isName named.ends]

theorem unnamed_of_word {text : List Char} (empty : word (afterSpace text) = []) :
    Unnamed text := by
  have whole := word_append_afterWord (afterSpace text)
  rw [empty, List.nil_append] at whole
  refine ⟨text.takeWhile isSpace, afterSpace text, ?_, (space_append_afterSpace text).symm,
    stops_dropWhile isSpace text, whole ▸ stops_afterWord (afterSpace text)⟩
  exact fun c member => List.mem_takeWhile_imp member

theorem names_of_word {text : List Char} (nonempty : word (afterSpace text) ≠ []) :
    Names text (word (afterSpace text)) (afterWord (afterSpace text)) := by
  refine ⟨run_word nonempty, stops_afterWord _, text.takeWhile isSpace, ?_, ?_⟩
  · exact fun c member => List.mem_takeWhile_imp member
  · rw [List.append_assoc, word_append_afterWord, space_append_afterSpace]

/-! ## Argument lists -/

theorem endsInComma_iff {text : List Char} :
    (trimEnd text).getLast? = some ',' ↔ EndsInComma text := by
  constructor
  · intro last
    obtain ⟨front, isLast⟩ := List.getLast?_eq_some_iff.mp last
    have whole : trimEnd text ++ text.rtakeWhile isSpace = text := dropEndWhile_append isSpace text
    refine ⟨front, text.rtakeWhile isSpace, ?_, fun c member => List.mem_rtakeWhile_imp member⟩
    rw [isLast, List.append_assoc] at whole
    exact whole.symm
  · rintro ⟨front, blanks, rfl, blank⟩
    have noneLeft : trimEnd blanks = [] := List.rdropWhile_eq_nil_iff.mpr blank
    have split : front ++ ',' :: blanks = front ++ [','] ++ blanks := by simp
    rw [split, trimEnd_append (by decide), noneLeft, List.append_nil, List.getLast?_concat]

theorem argumentFault?_of_unopened {text : List Char} (unopened : text.head? ≠ some '(') :
    argumentFault? text = some .missingOpenParenthesis := by
  cases text with
  | nil => rfl
  | cons c rest =>
      have other : c ≠ '(' := fun same => unopened (congrArg some same)
      simp [argumentFault?, other]

theorem argumentFault?_of_unclosed {arguments : List Char} (unclosed : ')' ∉ arguments) :
    argumentFault? ('(' :: arguments) = some .missingCloseParenthesis := by
  have noClose : (!arguments.contains ')') = true := by simpa using unclosed
  rw [argumentFault?, if_pos noClose]

theorem argumentFault?_of_closed {arguments behind : List Char} (first : ')' ∉ arguments) :
    argumentFault? ('(' :: arguments ++ ')' :: behind) =
      if (trimEnd arguments).getLast? = some ',' then some .trailingComma else none := by
  have closes : ¬(!(arguments ++ ')' :: behind).contains ')') = true := by simp
  have inside : ∀ c ∈ arguments, (c != ')') = true := by
    intro c member
    rw [bne_iff_ne]
    rintro rfl
    exact first member
  rw [List.cons_append, argumentFault?, if_neg closes,
    takeWhile_append_stops inside (stops_cons.mpr (by decide))]

/-! ## Readings -/

/-- The label of parts that are there is the parts joined by spaces, behind the type. -/
theorem label_eq_headed {type? : Option (List Char)} {part : List Char} {parts : List (List Char)}
    (isType : type? ≠ some []) (there : ∀ other ∈ part :: parts, other ≠ []) :
    label (type?.getD [] :: part :: parts) =
      headed type? (List.intercalate [' '] (part :: parts)) := by
  have kept : (part :: parts).filter (!·.isEmpty) = part :: parts := by
    rw [List.filter_eq_self]
    intro other member
    simpa using there other member
  cases type? with
  | none =>
      rw [label, Option.getD_none, List.filter_cons_of_neg (by simp), kept]
      rfl
  | some type =>
      have typed : type ≠ [] := fun empty => isType (congrArg some empty)
      rw [label, Option.getD_some, List.filter_cons_of_pos (by simpa using typed), kept]
      simp [headed, List.intercalate]

section Reading

variable {keyword line rest : List Char} {type? : Option (List Char)}

theorem StartsAs.type?_ne (counts : StartsAs keyword line type? rest) : type? ≠ some [] := by
  rintro rfl
  obtain ⟨isType, -, -, -⟩ | _ := counts.starts
  exact ne_nil_of_typeName isType rfl

theorem readNamed?_of_unnamed (isKeyword : Run isWord keyword)
    (counts : StartsAs keyword line type? rest) (unnamed : Unnamed rest) :
    readNamed? keyword line = some (.invalid (headed type? keyword) 1 .missingName) := by
  have labelled : label [type?.getD [], keyword] = headed type? keyword := by
    rw [label_eq_headed counts.type?_ne (by simpa using isKeyword.nonempty)]
    simp [List.intercalate]
  simp only [readNamed?, namedStart?_of_startsAs isKeyword counts, unnamed.word_eq,
    List.isEmpty_nil, if_true, labelled]

theorem readNamed?_of_names (isKeyword : Run isWord keyword)
    (counts : StartsAs keyword line type? rest) {name behind : List Char}
    (named : Names rest name behind) :
    readNamed? keyword line =
      some ((argumentFault? behind).elim (.valid (headed type? (name ++ ' ' :: keyword)))
        (.invalid (headed type? (name ++ ' ' :: keyword)) 1)) := by
  have labelled : label [type?.getD [], name, keyword] =
      headed type? (name ++ ' ' :: keyword) := by
    rw [label_eq_headed counts.type?_ne
      (by simpa using ⟨named.isName.nonempty, isKeyword.nonempty⟩)]
    simp [List.intercalate]
  have nonempty : name.isEmpty = false := List.isEmpty_eq_false_iff.mpr named.isName.nonempty
  simp only [readNamed?, namedStart?_of_startsAs isKeyword counts, named.word_eq,
    named.afterWord_eq, nonempty, Bool.false_eq_true, if_false, labelled]
  cases argumentFault? behind <;> rfl

/-- A line is read as it is judged. -/
theorem readNamed?_of_judged (isKeyword : Run isWord keyword)
    (counts : StartsAs keyword line type? rest) {opener : Opener}
    (judged : Judged keyword type? rest opener) : readNamed? keyword line = some opener := by
  cases judged with
  | missingName unnamed => exact readNamed?_of_unnamed isKeyword counts unnamed
  | missingOpen named unopened =>
      rw [readNamed?_of_names isKeyword counts named, argumentFault?_of_unopened unopened]
      rfl
  | missingClose named unclosed =>
      rw [readNamed?_of_names isKeyword counts named, argumentFault?_of_unclosed unclosed]
      rfl
  | trailingComma named first comma =>
      rw [readNamed?_of_names isKeyword counts named, argumentFault?_of_closed first,
        if_pos (endsInComma_iff.mpr comma)]
      rfl
  | valid named first noComma =>
      rw [readNamed?_of_names isKeyword counts named, argumentFault?_of_closed first,
        if_neg (endsInComma_iff.not.mpr noComma)]
      rfl

end Reading

/-- Whatever follows the keyword, there is a judgement. -/
theorem exists_judged (keyword : List Char) (type? : Option (List Char)) (text : List Char) :
    ∃ opener, Judged keyword type? text opener := by
  by_cases empty : word (afterSpace text) = []
  · exact ⟨_, .missingName (unnamed_of_word empty)⟩
  · have named := names_of_word empty
    generalize word (afterSpace text) = name at named
    generalize afterWord (afterSpace text) = behind at named
    by_cases unopened : behind.head? ≠ some '('
    · exact ⟨_, .missingOpen named unopened⟩
    · obtain ⟨arguments, rfl⟩ := List.head?_eq_some_iff.mp (not_not.mp unopened)
      by_cases closes : ')' ∈ arguments
      · obtain ⟨inside, after, rfl, first⟩ := List.eq_append_cons_of_mem closes
        by_cases comma : EndsInComma inside
        · exact ⟨_, .trailingComma named first comma⟩
        · exact ⟨_, .valid named first comma⟩
      · exact ⟨_, .missingClose named closes⟩

/-- A line opens a function or an event exactly if it starts with the keyword of the family, and the
text behind the keyword decides how it is judged. -/
theorem named_opener_judged (kind : Kind) (isNamed : kind = .function ∨ kind = .event)
    (line : List Char) :
    (kind.readOpener? line = none ↔
      ∀ type? rest, ¬Starts kind.opening.toList line type? rest) ∧
    ∀ type? rest, StartsAs kind.opening.toList line type? rest →
      ∀ opener, kind.readOpener? line = some opener ↔
        Judged kind.opening.toList type? rest opener := by
  have isKeyword : Run isWord kind.opening.toList := by
    rcases isNamed with rfl | rfl <;> exact run_of_all (by decide) (by decide +kernel)
  have read : kind.readOpener? line = readNamed? kind.opening.toList line := by
    rcases isNamed with rfl | rfl <;> rfl
  have reads : ∀ {type? rest}, StartsAs kind.opening.toList line type? rest →
      ∃ opener, Judged kind.opening.toList type? rest opener ∧
        readNamed? kind.opening.toList line = some opener := by
    intro type? rest counts
    obtain ⟨opener, judged⟩ := exists_judged kind.opening.toList type? rest
    exact ⟨opener, judged, readNamed?_of_judged isKeyword counts judged⟩
  rw [read]
  refine ⟨⟨?_, ?_⟩, ?_⟩
  · intro unread type? rest starts
    obtain ⟨_, _, counts⟩ := exists_startsAs starts
    obtain ⟨opener, -, isRead⟩ := reads counts
    rw [unread] at isRead
    contradiction
  · intro never
    cases start : namedStart? kind.opening.toList line with
    | none => rw [readNamed?, start]
    | some start' =>
        obtain ⟨type?, rest, starts⟩ := exists_starts isKeyword start
        exact absurd starts (never type? rest)
  · intro type? rest counts opener
    constructor
    · intro isRead
      obtain ⟨other, judged, isOther⟩ := reads counts
      rw [isRead] at isOther
      exact Option.some.inj isOther ▸ judged
    · exact readNamed?_of_judged isKeyword counts

theorem named_opener_judged_typed :
    let line := "Event Function f(int a,\u3000) ".toList
    let rest := " f(int a,\u3000) ".toList
    let opener := Opener.invalid "Event f Function" 1 .trailingComma
    StartsAs Kind.function.opening.toList line (some "Event".toList) rest ∧
      Kind.function.readOpener? line = some opener ∧
      Judged Kind.function.opening.toList (some "Event".toList) rest opener := by
  intro line rest opener
  have isType : TypeName "Event".toList := .plain (run_of_all (by decide) (by decide +kernel))
  have isGap : Run isSpace [' '] := run_of_all (by decide) (by decide)
  have ends : Stops isWord rest := stops_cons.mpr (by decide +kernel)
  have counts : StartsAs Kind.function.opening.toList line (some "Event".toList) rest :=
    ⟨.typed isType isGap (by decide) ends, fun isNone => by contradiction⟩
  have read : Kind.function.readOpener? line = some opener := by decide +kernel
  have judged := ((named_opener_judged .function (Or.inl rfl) line).2 _ _ counts opener).mp read
  exact ⟨counts, read, judged⟩

end Block
end ScriptLint
