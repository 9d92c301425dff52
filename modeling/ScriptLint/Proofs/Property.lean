import ScriptLint.Proofs.Catalogue
import ScriptLint.Proofs.Header
import ScriptLint.Proofs.Text.Lines

/-!
# The grammar of properties

A line that starts with a type and `Property` is a property, and it has to go on with a name, a
default, an access flag and one more flag.  The reader takes the longest run for each part, and the
flags only if they reach the end of the line.  No other division of the line into parts would be
accepted where this one is not, so that the rule accepts exactly the lines of the grammar.
-/

namespace ScriptLint

open Text

namespace Property

/-! ## The grammar -/

/-- The line starts a property of this type, and this is what follows the keyword. -/
structure Starts (line type body : List Char) : Prop where
  isType : TypeName type
  stops : Stops isWord body
  split : ∃ gap, Run isSpace gap ∧ line = type ++ gap ++ "Property".toList ++ body

/-- The line starts with a type and the keyword of a property. -/
def Candidate (line : List Char) : Prop := ∃ type body, Starts line type body

/-- The character belongs to a number or a name. -/
def isPlain (c : Char) : Bool := isWord c || c == '.'

/-- A default value as it is written in front of a rest: a text in quotes, or the longest run of
characters of a number or a name, which may have a minus in front. -/
inductive WritesValue : List Char → List Char → Prop where
  | quoted {text : List Char} (noQuote : '"' ∉ text) (rest : List Char) :
      WritesValue ('"' :: text ++ ['"']) rest
  | plain {sign digits rest : List Char} (isSign : sign = [] ∨ sign = ['-'])
      (isRun : Run isPlain digits) (stops : Stops isPlain rest) : WritesValue (sign ++ digits) rest

/-- A default as it is written in front of a rest, or nothing. -/
inductive WritesDefault : Bool → List Char → List Char → Prop where
  | absent (rest : List Char) : WritesDefault false [] rest
  | present {before behind value rest : List Char} (blank : ∀ c ∈ before, isSpace c = true)
      (blankBehind : ∀ c ∈ behind, isSpace c = true) (isValue : WritesValue value rest) :
      WritesDefault true (before ++ '=' :: behind ++ value) rest

/-- The access flag as it is written. -/
def Access.spelling : Access → String
  | .auto => "Auto"
  | .autoReadOnly => "AutoReadOnly"

/-- The flags of a property.  A read-only property needs a default and is not conditional. -/
inductive WritesFlags (hasDefault : Bool) : List Char → Prop where
  | access {access : Access} (defaulted : access = .autoReadOnly → hasDefault = true) :
      WritesFlags hasDefault access.spelling.toList
  | both {access : Access} {gap : List Char} {flag : Flag}
      (defaulted : access = .autoReadOnly → hasDefault = true) (isGap : Run isSpace gap)
      (writable : flag = .conditional → access = .auto) :
      WritesFlags hasDefault (access.spelling.toList ++ gap ++ flag.spelling.toList)

/-- What follows the keyword of a property: the name, up to the end of the word, then the default
and the flags. -/
inductive WritesBody : List Char → Prop where
  | intro {gap name default blanks flags : List Char} {hasDefault : Bool} (isGap : Run isSpace gap)
      (isName : Run isWord name) (nameEnds : Stops isWord (default ++ (blanks ++ flags)))
      (isDefault : WritesDefault hasDefault default (blanks ++ flags))
      (blank : ∀ c ∈ blanks, isSpace c = true) (areFlags : WritesFlags hasDefault flags) :
      WritesBody (gap ++ name ++ (default ++ (blanks ++ flags)))

/-- The line declares a property by the grammar. -/
def Declares (line : List Char) : Prop := ∃ type body, Starts line type body ∧ WritesBody body

/-! ## Reading the parts -/

theorem read?_eq_some_iff {line : List Char} {declaration : Declaration} :
    read? line = some declaration ↔
      ∃ type body, Starts line type body ∧ declaration = readBody type body := by
  constructor
  · intro read
    rw [read?] at read
    cases typed : typeName? line with
    | none => simp [typed] at read
    | some found =>
        obtain ⟨type, rest⟩ := found
        simp only [typed, Option.map_eq_some_iff] at read
        obtain ⟨body, keyword, rfl⟩ := read
        obtain ⟨isType, -, gap, isGap, rfl⟩ := typeName?_eq_some_iff.mp typed
        obtain ⟨rfl, stops⟩ := afterKeyword?_eq_some_iff.mp keyword
        exact ⟨type, body, ⟨isType, stops, gap, isGap, by simp only [List.append_assoc]⟩, rfl⟩
  · rintro ⟨type, body, ⟨isType, stops, gap, isGap, rfl⟩, rfl⟩
    have typed : typeName? (type ++ gap ++ "Property".toList ++ body) =
        some (type, "Property".toList ++ body) :=
      typeName?_eq_some_iff.mpr
        ⟨isType, stops_cons.mpr (by decide), gap, isGap, List.append_assoc ..⟩
    have keyword : afterKeyword? "Property".toList ("Property".toList ++ body) = some body :=
      afterKeyword?_eq_some_iff.mpr ⟨rfl, stops⟩
    rw [read?, typed]
    simp only [keyword, Option.map_some]

theorem afterValue?_cons {c : Char} (unquoted : c ≠ '"') (others : List Char) :
    afterValue? (c :: others) =
      let digits := if c = '-' then others else c :: others
      if digits.head?.any isPlain then some (digits.dropWhile isPlain) else none := by
  have noQuote : ∀ rest, c :: others = '"' :: rest → False :=
    fun rest same => unquoted (List.cons.inj same).1
  rw [afterValue?.eq_2 (c :: others) noQuote]
  by_cases minus : c = '-'
  · rw [if_pos minus, minus]
    rfl
  · have unsigned : ((c :: others).head? == some '-') = false := by simp [minus]
    rw [if_neg minus, unsigned]
    rfl

theorem isSpace_of_isPlain {c : Char} (plain : isPlain c = true) : isSpace c = false := by
  rw [isPlain, Bool.or_eq_true, beq_iff_eq] at plain
  rcases plain with inWord | rfl
  · exact isSpace_of_isWord inWord
  · decide

/-- No white space is skipped in front of a value. -/
theorem WritesValue.stops {value rest : List Char} (isValue : WritesValue value rest) :
    Stops isSpace (value ++ rest) := by
  cases isValue with
  | quoted => exact stops_cons.mpr (by decide)
  | plain isSign isRun =>
      rcases isSign with rfl | rfl
      · exact isRun.stops_append (fun c => isSpace_of_isPlain) rest
      · exact stops_cons.mpr (by decide)

/-- A value stays the same if something follows that does not go on with it. -/
theorem WritesValue.append {value rest further : List Char} (isValue : WritesValue value rest)
    (stops : Stops isPlain further) : WritesValue value (rest ++ further) := by
  cases isValue with
  | quoted noQuote => exact .quoted noQuote _
  | plain isSign isRun restStops =>
      refine .plain isSign isRun ?_
      cases rest with
      | nil => exact stops
      | cons c rest => exact stops_cons.mpr (stops_cons.mp restStops)

theorem afterValue?_of_unquoted {c : Char} {others rest : List Char} (unquoted : c ≠ '"')
    (read : afterValue? (c :: others) = some rest) :
    ∃ value, c :: others = value ++ rest ∧ WritesValue value rest := by
  rw [afterValue?_cons unquoted] at read
  have signed : ∃ sign, (sign = [] ∨ sign = ['-']) ∧
      c :: others = sign ++ if c = '-' then others else c :: others := by
    by_cases minus : c = '-'
    · exact ⟨['-'], Or.inr rfl, by rw [if_pos minus, minus]; rfl⟩
    · exact ⟨[], Or.inl rfl, by rw [if_neg minus]; rfl⟩
  obtain ⟨sign, isSign, split⟩ := signed
  dsimp only at read
  generalize (if c = '-' then others else c :: others) = digits at read split
  split_ifs at read with isNumber
  obtain rfl := Option.some.inj read
  have isRun : Run isPlain (digits.takeWhile isPlain) := by
    apply run_takeWhile
    rw [Stops, isNumber]
    exact Bool.false_ne_true.symm
  refine ⟨sign ++ digits.takeWhile isPlain, ?_, .plain isSign isRun (stops_dropWhile _ _)⟩
  rw [List.append_assoc, List.takeWhile_append_dropWhile, split]

theorem afterValue?_eq_some_iff {text rest : List Char} :
    afterValue? text = some rest ↔ ∃ value, text = value ++ rest ∧ WritesValue value rest := by
  constructor
  · intro read
    cases text with
    | nil => simp [afterValue?] at read
    | cons c others =>
        by_cases quote : c = '"'
        · subst quote
          have stops := stops_dropWhile (· != '"') others
          have whole := List.takeWhile_append_dropWhile (p := (· != '"')) (l := others)
          simp only [afterValue?] at read
          cases closed : others.dropWhile (· != '"') with
          | nil => simp [closed] at read
          | cons d behind =>
              rw [closed] at read stops whole
              obtain rfl := Option.some.inj read
              obtain rfl : d = '"' := by simpa using stops_cons.mp stops
              have noQuote : '"' ∉ others.takeWhile (· != '"') := by
                intro member
                exact absurd (List.mem_takeWhile_imp member) (by decide)
              refine ⟨_, ?_, .quoted noQuote behind⟩
              rw [List.append_assoc, List.cons_append, List.singleton_append, whole]
        · exact afterValue?_of_unquoted quote read
  · rintro ⟨value, rfl, isValue⟩
    cases isValue with
    | @quoted text noQuote =>
        have within : ∀ c ∈ text, (c != '"') = true := by
          intro c member
          rw [bne_iff_ne]
          rintro rfl
          exact noQuote member
        have closed : (text ++ '"' :: rest).dropWhile (· != '"') = '"' :: rest :=
          dropWhile_append_stops within (stops_cons.mpr (by decide))
        rw [List.append_assoc, List.cons_append, List.singleton_append]
        simp only [afterValue?, closed]
    | @plain sign digits _ isSign isRun stops =>
        obtain ⟨c, others, rfl⟩ := List.exists_cons_of_ne_nil isRun.nonempty
        have first := isRun.all c List.mem_cons_self
        have behind : (c :: others ++ rest).dropWhile isPlain = rest :=
          dropWhile_append_stops isRun.all stops
        rcases isSign with rfl | rfl
        · have unquoted : c ≠ '"' := by
            rintro rfl
            exact absurd first (by decide)
          have unsigned : c ≠ '-' := by
            rintro rfl
            exact absurd first (by decide)
          rw [List.nil_append, List.cons_append, afterValue?_cons unquoted, if_neg unsigned]
          exact (if_pos first).trans (congrArg some behind)
        · rw [List.append_assoc, List.singleton_append, afterValue?_cons (by decide), if_pos rfl]
          exact (if_pos first).trans (congrArg some behind)

theorem afterDefault?_of_head? {text : List Char} (head : text.head? ≠ some '=') :
    afterDefault? text = none := by
  rw [afterDefault?.eq_2]
  rintro rest rfl
  exact head rfl

theorem afterDefault?_eq_some_iff {text rest : List Char} :
    afterDefault? text = some rest ↔
      ∃ gap value, text = '=' :: (gap ++ (value ++ rest)) ∧ (∀ c ∈ gap, isSpace c = true) ∧
        WritesValue value rest := by
  constructor
  · intro read
    by_cases equals : text.head? = some '='
    · obtain ⟨others, rfl⟩ := List.head?_eq_some_iff.mp equals
      simp only [afterDefault?] at read
      obtain ⟨value, split, isValue⟩ := afterValue?_eq_some_iff.mp read
      refine ⟨others.takeWhile isSpace, value, ?_, fun c => List.mem_takeWhile_imp, isValue⟩
      rw [← split, space_append_afterSpace]
    · rw [afterDefault?_of_head? equals] at read
      contradiction
  · rintro ⟨gap, value, rfl, blank, isValue⟩
    simp only [afterDefault?, afterSpace_append blank isValue.stops]
    exact afterValue?_eq_some_iff.mpr ⟨value, rfl, isValue⟩

/-- The words that close a text are one word and, behind white space, perhaps another. -/
theorem closingWords_eq_iff {text first second : List Char} (nonempty : first ≠ []) :
    closingWords text = (first, second) ↔
      ∃ gap, text = first ++ (gap ++ second) ∧ Run isWord first ∧ (∀ c ∈ gap, isSpace c = true) ∧
        (∀ c ∈ second, isWord c = true) ∧ (gap = [] → second = []) := by
  constructor
  · intro read
    rw [closingWords] at read
    split_ifs at read with ends
    · obtain ⟨rfl, rfl⟩ := Prod.mk.inj read
      have whole := word_append_afterWord text
      have behind := space_append_afterSpace (afterWord text)
      have last := word_append_afterWord (afterSpace (afterWord text))
      rw [List.isEmpty_iff.mp ends, List.append_nil] at last
      refine ⟨(afterWord text).takeWhile isSpace, ?_, run_word nonempty,
        fun c => List.mem_takeWhile_imp, fun c => List.mem_takeWhile_imp, ?_⟩
      · rw [last, behind, whole]
      · -- Without white space between them the first word would go on with the second.
        intro noGap
        rw [noGap, List.nil_append] at behind
        rw [behind]
        exact takeWhile_append_stops (List.forall_mem_nil _) (stops_afterWord text)
    · exact absurd (Prod.mk.inj read).1.symm nonempty
  · rintro ⟨gap, rfl, isFirst, blank, isSecond, separated⟩
    have firstEnds : Stops isWord (gap ++ second) := by
      cases gap with
      | nil =>
          rw [separated rfl]
          exact stops_nil isWord
      | cons c gap => exact stops_cons.mpr (isWord_of_isSpace (blank c List.mem_cons_self))
    have gapEnds : Stops isSpace second := by
      cases second with
      | nil => exact stops_nil isSpace
      | cons c second => exact stops_cons.mpr (isSpace_of_isWord (isSecond c List.mem_cons_self))
    have allTaken : word second = second := List.takeWhile_eq_self_iff.mpr isSecond
    have noneLeft : afterWord second = [] := List.dropWhile_eq_nil_iff.mpr isSecond
    rw [closingWords, word_append isFirst firstEnds, afterWord_append isFirst firstEnds,
      afterSpace_append blank gapEnds, allTaken, noneLeft]
    rfl

/-! ## Flags -/

theorem Access.ofToken?_eq_spelling_iff {token : List Char} {access : Access} :
    ofToken? token = some access ↔ token = access.spelling.toList := by
  constructor
  · intro read
    rw [ofToken?] at read
    split_ifs at read with isAuto isReadOnly
    · obtain rfl := Option.some.inj read
      exact isAuto
    · obtain rfl := Option.some.inj read
      exact isReadOnly
  · rintro rfl
    cases access <;> decide

theorem Access.exists_spelling_eq_cons (access : Access) :
    ∃ others, access.spelling.toList = 'A' :: others := by
  cases access <;> exact ⟨_, rfl⟩

theorem Access.run_spelling (access : Access) : Run isWord access.spelling.toList := by
  cases access <;> exact run_of_all (by decide) (by decide)

/-- The two words are flags that a property may have; the second may be empty. -/
def Flags (hasDefault : Bool) (first second : List Char) : Prop :=
  ∃ access : Access, first = access.spelling.toList ∧
    (access = .autoReadOnly → hasDefault = true) ∧
    (second = [] ∨ ∃ flag : Flag, second = flag.spelling.toList ∧
      (flag = .conditional → access = .auto))

theorem visibilityFault?_eq_none_iff {access : Access} {token : List Char} :
    visibilityFault? access token = none ↔
      token = [] ∨ ∃ flag : Flag, token = flag.spelling.toList ∧
        (flag = .conditional → access = .auto) := by
  have spells := fun flag => @Flag.ofToken?_eq_some_iff token flag
  unfold visibilityFault?
  split_ifs with empty
  · exact iff_of_true rfl (Or.inl (List.isEmpty_iff.mp empty))
  · rw [List.isEmpty_iff] at empty
    simp only [empty, false_or, ← spells]
    cases Flag.ofToken? token with
    | none => simp
    | some flag => cases flag <;> cases access <;> simp

/-- A declaration has no fault exactly if it has a name and flags that it may have. -/
theorem fault?_eq_none_iff {property : Declaration} :
    property.fault? = none ↔
      property.name ≠ [] ∧ Flags property.hasDefault property.access property.visibility := by
  have spells := fun access => @Access.ofToken?_eq_spelling_iff property.access access
  rw [Declaration.fault?]
  split_ifs with unnamed unflagged
  · simp [List.isEmpty_iff.mp unnamed]
  · rw [List.isEmpty_iff] at unflagged
    refine iff_of_false (by simp) ?_
    rintro ⟨-, access, isAccess, -⟩
    exact access.run_spelling.nonempty (isAccess ▸ unflagged)
  · rw [List.isEmpty_iff] at unnamed
    simp only [Flags, ne_eq, unnamed, not_false_eq_true, true_and, ← spells]
    cases Access.ofToken? property.access with
    | none => simp
    | some access =>
        simp only [Option.some.injEq, exists_eq_left', ← visibilityFault?_eq_none_iff]
        split_ifs with undefaulted
        · simp [undefaulted]
        · simp only [not_and, Bool.not_eq_false] at undefaulted
          exact (and_iff_right undefaulted).symm

theorem WritesFlags.exists_eq_cons {hasDefault : Bool} {flags : List Char}
    (areFlags : WritesFlags hasDefault flags) : ∃ others, flags = 'A' :: others := by
  cases areFlags with
  | @access access defaulted => exact access.exists_spelling_eq_cons
  | @both access gap flag defaulted isGap writable =>
      obtain ⟨others, spelled⟩ := access.exists_spelling_eq_cons
      exact ⟨others ++ gap ++ flag.spelling.toList, by rw [spelled]; rfl⟩

/-- At the end of a line the words that close it are flags exactly if flags are written there. -/
theorem flags_closingWords_iff {hasDefault : Bool} {text : List Char}
    (trimmed : text.getLast?.any isSpace = false) :
    Flags hasDefault (closingWords text).1 (closingWords text).2 ↔ WritesFlags hasDefault text := by
  constructor
  · rintro ⟨access, isFirst, defaulted, isSecond⟩
    obtain ⟨second, read⟩ : ∃ second, closingWords text = (access.spelling.toList, second) :=
      ⟨_, Prod.ext isFirst rfl⟩
    rw [read] at isSecond
    obtain ⟨gap, rfl, -, blank, -, separated⟩ :=
      (closingWords_eq_iff access.run_spelling.nonempty).mp read
    rcases isSecond with rfl | ⟨flag, rfl, writable⟩
    · -- White space behind the only flag would end the line.
      cases gap using List.reverseRecOn with
      | nil =>
          rw [List.append_nil, List.append_nil]
          exact .access defaulted
      | append_singleton gap c =>
          rw [List.append_nil, ← List.append_assoc, List.getLast?_concat, Option.any_some,
            blank c (List.mem_append_right _ List.mem_cons_self)] at trimmed
          contradiction
    · have isGap : Run isSpace gap := by
        refine ⟨fun noGap => flag.run_spelling.nonempty (separated noGap), blank⟩
      rw [← List.append_assoc]
      exact .both defaulted isGap writable
  · intro areFlags
    cases areFlags with
    | @access access defaulted =>
        have read : closingWords access.spelling.toList = (access.spelling.toList, []) :=
          (closingWords_eq_iff access.run_spelling.nonempty).mpr
            ⟨[], by simp, access.run_spelling, List.forall_mem_nil _, List.forall_mem_nil _,
              fun _ => rfl⟩
        rw [read]
        exact ⟨access, rfl, defaulted, Or.inl rfl⟩
    | @both access gap flag defaulted isGap writable =>
        have read : closingWords (access.spelling.toList ++ gap ++ flag.spelling.toList) =
            (access.spelling.toList, flag.spelling.toList) :=
          (closingWords_eq_iff access.run_spelling.nonempty).mpr
            ⟨gap, by simp, access.run_spelling, isGap.all, flag.run_spelling.all,
              fun noGap => absurd noGap isGap.nonempty⟩
        rw [read]
        exact ⟨access, rfl, defaulted, Or.inr ⟨flag, rfl, writable⟩⟩

/-! ## Reading the line -/

theorem type_readBody (type body : List Char) : (readBody type body).type = type := by
  rw [readBody]
  split_ifs <;> rfl

/-- A body with a name, by the text behind the name. -/
theorem readBody_of_named {type body : List Char} (named : (readBody type body).name ≠ []) :
    startsSpace body = true ∧ word (afterSpace body) ≠ [] := by
  rw [readBody] at named
  split_ifs at named with starts
  · exact ⟨starts, named⟩
  · exact absurd rfl named

/-- The flags of a body with a name are the closing words behind the default. -/
theorem readBody_eq {type gap name behind : List Char} (isGap : Run isSpace gap)
    (isName : Run isWord name) (nameEnds : Stops isWord behind) :
    readBody type (gap ++ name ++ behind) =
      let default? := afterDefault? (afterSpace behind)
      let words := closingWords (afterSpace (default?.getD (afterSpace behind)))
      { type, name, hasDefault := default?.isSome, access := words.1, visibility := words.2 } := by
  have nameStarts : Stops isSpace (name ++ behind) :=
    isName.stops_append (fun c => isSpace_of_isWord) behind
  rw [List.append_assoc, readBody, if_pos (isGap.startsSpace_append _),
    afterSpace_append isGap.all nameStarts]
  dsimp only
  rw [word_append isName nameEnds, afterWord_append isName nameEnds]

theorem getLast?_of_append {front text : List Char}
    (trimmed : (front ++ text).getLast?.any isSpace = false) :
    text.getLast?.any isSpace = false := by
  cases text with
  | nil => rfl
  | cons c text => rwa [List.getLast?_append_of_ne_nil _ (List.cons_ne_nil c text)] at trimmed

/-- Behind a name the flags are accepted exactly if a default and flags are written there. -/
theorem flags_behind_iff {type gap name behind : List Char} (isGap : Run isSpace gap)
    (isName : Run isWord name) (nameEnds : Stops isWord behind)
    (trimmed : behind.getLast?.any isSpace = false) :
    (readBody type (gap ++ name ++ behind)).fault? = none ↔
      ∃ hasDefault default blanks flags, behind = default ++ (blanks ++ flags) ∧
        WritesDefault hasDefault default (blanks ++ flags) ∧ (∀ c ∈ blanks, isSpace c = true) ∧
        WritesFlags hasDefault flags := by
  rw [fault?_eq_none_iff, readBody_eq isGap isName nameEnds]
  dsimp only
  rw [and_iff_right isName.nonempty]
  have blank : ∀ c ∈ behind.takeWhile isSpace, isSpace c = true := fun c => List.mem_takeWhile_imp
  have whole := space_append_afterSpace behind
  constructor
  · intro areFlags
    cases default : afterDefault? (afterSpace behind) with
    | none =>
        have again : afterSpace (afterSpace behind) = afterSpace behind :=
          List.dropWhile_idempotent isSpace behind
        rw [default, Option.getD_none, again, flags_closingWords_iff
          (getLast?_of_append (whole.symm ▸ trimmed))] at areFlags
        exact ⟨false, [], _, _, whole.symm, .absent _, blank, areFlags⟩
    | some rest =>
        obtain ⟨gap, value, split, blankBehind, isValue⟩ := afterDefault?_eq_some_iff.mp default
        have restWhole := space_append_afterSpace rest
        have split : behind = (behind.takeWhile isSpace ++ '=' :: gap ++ value) ++
            (rest.takeWhile isSpace ++ afterSpace rest) := by
          rw [restWhole, List.append_assoc, List.append_assoc, List.cons_append, ← split, whole]
        rw [default, Option.getD_some, flags_closingWords_iff (getLast?_of_append
          (getLast?_of_append (split ▸ trimmed)))] at areFlags
        exact ⟨true, _, _, _, split, .present blank blankBehind (restWhole.symm ▸ isValue),
          fun c => List.mem_takeWhile_imp, areFlags⟩
  · rintro ⟨hasDefault, default, blanks, flags, rfl, isDefault, blank, areFlags⟩
    obtain ⟨others, isFirst⟩ := areFlags.exists_eq_cons
    have solid : Stops isSpace flags := isFirst ▸ stops_cons.mpr (by decide)
    have skipped : afterSpace (blanks ++ flags) = flags := afterSpace_append blank solid
    have accepted := (flags_closingWords_iff
      (getLast?_of_append (getLast?_of_append trimmed))).mpr areFlags
    cases isDefault with
    | absent =>
        have undefaulted : afterDefault? flags = none :=
          afterDefault?_of_head? (by simp [isFirst])
        have again : afterSpace flags = flags := afterSpace_append (List.forall_mem_nil _) solid
        rw [List.nil_append, skipped, undefaulted, Option.getD_none, again]
        exact accepted
    | @present before gap value _ blankBefore blankBehind isValue =>
        have equals : Stops isSpace ('=' :: (gap ++ (value ++ (blanks ++ flags)))) :=
          stops_cons.mpr (by decide)
        have defaulted : afterDefault? (afterSpace
            (before ++ '=' :: gap ++ value ++ (blanks ++ flags))) = some (blanks ++ flags) := by
          rw [List.append_assoc, List.append_assoc, List.cons_append,
            afterSpace_append blankBefore equals]
          exact afterDefault?_eq_some_iff.mpr ⟨gap, value, rfl, blankBehind, isValue⟩
        rw [defaulted, Option.getD_some, skipped]
        exact accepted

/-- What follows the keyword is without fault exactly if it is written by the grammar. -/
theorem fault?_readBody_eq_none_iff {type body : List Char}
    (trimmed : body.getLast?.any isSpace = false) :
    (readBody type body).fault? = none ↔ WritesBody body := by
  constructor
  · intro faultless
    obtain ⟨starts, named⟩ := readBody_of_named (fault?_eq_none_iff.mp faultless).1
    have isGap := run_takeWhile (startsSpace_iff.mp starts)
    have isName := run_word named
    have nameEnds := stops_afterWord (afterSpace body)
    have whole : body.takeWhile isSpace ++ word (afterSpace body) ++ afterWord (afterSpace body) =
        body := by
      rw [List.append_assoc, word_append_afterWord, space_append_afterSpace]
    generalize body.takeWhile isSpace = gap at isGap whole
    generalize word (afterSpace body) = name at isName whole
    generalize afterWord (afterSpace body) = behind at nameEnds whole
    subst whole
    obtain ⟨hasDefault, default, blanks, flags, rfl, isDefault, blank, areFlags⟩ :=
      (flags_behind_iff isGap isName nameEnds (getLast?_of_append trimmed)).mp faultless
    exact .intro isGap isName nameEnds isDefault blank areFlags
  · intro written
    obtain ⟨isGap, isName, nameEnds, isDefault, blank, areFlags⟩ := written
    exact (flags_behind_iff isGap isName nameEnds (getLast?_of_append trimmed)).mpr
      ⟨_, _, _, _, rfl, isDefault, blank, areFlags⟩

theorem message?_eq_none_iff_of_starts {line type body : List Char}
    (starts : Starts line type body) :
    message? line = none ↔ (readBody type body).fault? = none := by
  rw [message?, read?_eq_some_iff.mpr ⟨type, body, starts, rfl⟩]
  exact Option.map_eq_none_iff

/-- A line is without fault exactly if it declares a property wherever it starts one. -/
theorem message?_eq_none_iff {line : List Char} (trimmed : line.getLast?.any isSpace = false) :
    message? line = none ↔ (Candidate line → Declares line) := by
  have body_iff : ∀ {type body}, Starts line type body →
      (message? line = none ↔ WritesBody body) := by
    intro type body starts
    obtain ⟨gap, -, split⟩ := starts.split
    rw [message?_eq_none_iff_of_starts starts,
      fault?_readBody_eq_none_iff (getLast?_of_append (split ▸ trimmed))]
  constructor
  · rintro faultless ⟨type, body, starts⟩
    exact ⟨type, body, starts, (body_iff starts).mp faultless⟩
  · intro declares
    cases read : read? line with
    | none => simp only [message?, read]
    | some declaration =>
        obtain ⟨type, body, starts, -⟩ := read?_eq_some_iff.mp read
        obtain ⟨_, _, starts, written⟩ := declares ⟨type, body, starts⟩
        exact (body_iff starts).mpr written

end Property

/-! ## The rule -/

theorem Document.getLast?_of_mem_normalizedLines {doc : Document} {line : List Char}
    (member : line ∈ doc.normalizedLines) : line.getLast?.any isSpace = false :=
  getLast?_of_mem_normalize member

attribute [local irreducible] Document.normalizedLines

theorem Rule.check_property (doc : Document) (context : Context) :
    Rule.property.check doc context =
      .ofFirstFault doc.normalizedLines context fun line text =>
        (Property.message? text).map fun message =>
          .located "property" doc line (byteLength text) message := rfl

theorem Rule.property_finding_eq_none_iff (doc : Document) (context : Context) :
    (Rule.property.check doc context).finding = none ↔
      ∀ line ∈ doc.normalizedLines, Property.message? line = none := by
  rw [Rule.check_property, Outcome.finding_ofFirstFault_eq_none_iff]

theorem Rule.property_finding_eq_some_iff {doc : Document} {context : Context}
    {finding : Finding} :
    (Rule.property.check doc context).finding = some finding ↔
      ∃ before line behind message, doc.normalizedLines = before ++ line :: behind ∧
        (∀ other ∈ before, Property.message? other = none) ∧
        Property.message? line = some message ∧
        finding = .located "property" doc (before.length + 1) (byteLength line) message := by
  rw [Rule.check_property, Outcome.finding_ofFirstFault_eq_some_iff]

/-- The property rule accepts a script exactly if every line that starts a property declares one by
the grammar.  Otherwise it reports the first line that does not, at the length of that line.  The
context plays no part and stays as it is. -/
theorem property_rule_accepts_grammar (doc : Document) (context : Context) :
    let outcome := Rule.property.check doc context
    (outcome.finding = none ↔
      ∀ line ∈ doc.normalizedLines, Property.Candidate line → Property.Declares line) ∧
    (∀ finding, outcome.finding = some finding ↔
      ∃ before line behind message, doc.normalizedLines = before ++ line :: behind ∧
        (∀ other ∈ before, Property.Candidate other → Property.Declares other) ∧
        Property.Candidate line ∧ ¬Property.Declares line ∧
        Property.message? line = some message ∧
        finding = .located "property" doc (before.length + 1) (byteLength line) message) ∧
    outcome.context = context ∧ outcome.events = [] ∧
    ∀ other, (Rule.property.check doc other).finding = outcome.finding := by
  intro outcome
  have faultless_iff : ∀ line ∈ doc.normalizedLines,
      (Property.message? line = none ↔ (Property.Candidate line → Property.Declares line)) :=
    fun line member => Property.message?_eq_none_iff (doc.getLast?_of_mem_normalizedLines member)
  refine ⟨?_, ?_, rfl, rfl, fun _ => rfl⟩
  · rw [Rule.property_finding_eq_none_iff]
    exact forall₂_congr faultless_iff
  · intro finding
    rw [Rule.property_finding_eq_some_iff]
    constructor
    · rintro ⟨before, line, behind, message, split, passed, said, isFinding⟩
      rw [split] at faultless_iff
      have refused : ¬(Property.Candidate line → Property.Declares line) := by
        rw [← faultless_iff line (by simp), said]
        exact Option.some_ne_none message
      obtain ⟨candidate, undeclared⟩ := Classical.not_imp.mp refused
      refine ⟨before, line, behind, message, split, ?_, candidate, undeclared, said, isFinding⟩
      intro other member
      exact (faultless_iff other (List.mem_append_left _ member)).mp (passed other member)
    · rintro ⟨before, line, behind, message, split, declared, -, -, said, isFinding⟩
      refine ⟨before, line, behind, message, split, ?_, said, isFinding⟩
      intro other member
      rw [faultless_iff other (split ▸ List.mem_append_left _ member)]
      exact declared other member

end ScriptLint
