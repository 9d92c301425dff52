import Mathlib.Data.List.DropRight
import ScriptLint.Proofs.Comments.Remarks
import ScriptLint.Proofs.Property

/-!
# Comments behind a property

The reader of properties takes the words at the end of the line for the flags, and a comment behind
them leaves no words at the end.  A property with flags therefore lacks a flag once a comment stands
behind it.  All else that is found of a property is found with the comment as well, unless the
comment closes a text in quotes that the line has left open.
-/

namespace ScriptLint

open Text

namespace Property

theorem Starts.notMem_marker {line type body : List Char} (starts : Starts line type body) :
    ';' ∉ type := by
  have notWord : ∀ {base : List Char}, Run isWord base → ';' ∉ base :=
    fun isBase member => absurd (isBase.all ';' member) (by decide)
  cases starts.isType with
  | plain isBase => exact notWord isBase
  | array isBase => simp [notWord isBase]

/-- A comment behind the line is a comment behind what follows the keyword. -/
theorem starts_append_remark_iff {line type body comment : List Char} :
    Starts (line ++ remark comment) type body ↔
      ∃ left, Starts line type left ∧ body = left ++ remark comment := by
  constructor
  · intro starts
    have noType := starts.notMem_marker
    obtain ⟨isType, stops, gap, isGap, whole⟩ := starts
    have noGap : ';' ∉ gap := fun member => absurd (isGap.all ';' member) (by decide)
    have noMarker : ';' ∉ type ++ gap ++ "Property".toList := by
      simp [noType, noGap]
    have ends : (type ++ gap ++ "Property".toList).getLast? ≠ some ' ' := by
      have last : "Property".toList.getLast? = some 'y' := by decide
      rw [List.getLast?_append, last]
      simp
    obtain ⟨left, rfl, rfl⟩ := exists_rest_of_append_remark whole noMarker ends
    exact ⟨left, ⟨isType, (stops_isWord_append_remark comment).mp stops, gap, isGap, rfl⟩, rfl⟩
  · rintro ⟨left, ⟨isType, stops, gap, isGap, rfl⟩, rfl⟩
    exact ⟨isType, (stops_isWord_append_remark comment).mpr stops, gap, isGap,
      List.append_assoc ..⟩

/-! ## What is read behind the name -/

section Bodies

variable {text rest : List Char}

/-- A comment does not go on with the value of a default. -/
theorem afterDefault?_append_remark (read : afterDefault? text = some rest)
    (comment : List Char) :
    afterDefault? (text ++ remark comment) = some (rest ++ remark comment) := by
  obtain ⟨gap, value, rfl, blank, isValue⟩ := afterDefault?_eq_some_iff.mp read
  have stops : Stops isPlain (remark comment) := stops_cons.mpr (by decide)
  exact afterDefault?_eq_some_iff.mpr ⟨gap, value, by simp, blank, isValue.append stops⟩

/-- Words are no closing words if a comment follows them. -/
theorem closingWords_of_mem (member : ';' ∈ text) : closingWords text = ([], []) := by
  have left : ';' ∈ afterWord (afterSpace (afterWord text)) :=
    mem_dropWhile_of_mem (mem_dropWhile_of_mem (mem_dropWhile_of_mem member (by decide))
      (by decide)) (by decide)
  have nonempty : (afterWord (afterSpace (afterWord text))).isEmpty = false :=
    List.isEmpty_eq_false_iff.mpr (List.ne_nil_of_mem left)
  rw [closingWords]
  simp [nonempty]

/-- No words are left at the end of a text with a comment behind it. -/
theorem closingWords_append_remark (text comment : List Char) :
    closingWords (afterSpace (text ++ remark comment)) = ([], []) :=
  closingWords_of_mem (mem_dropWhile_of_mem (by simp [remark]) (by decide))

theorem head?_ne_of_closingWords (words : (closingWords text).1 ≠ []) : text.head? ≠ some '=' := by
  intro head
  obtain ⟨others, rfl⟩ := List.head?_eq_some_iff.mp head
  refine words ?_
  rw [closingWords]
  split_ifs <;> rfl

end Bodies

/-! ## The declaration -/

/-- The line declares a property with a name and a flag. -/
def Flagged (line : List Char) : Prop :=
  ∃ declaration, read? line = some declaration ∧ declaration.name ≠ [] ∧ declaration.access ≠ []

theorem flagged_iff {line : List Char} {property : Declaration}
    (read : read? line = some property) :
    Flagged line ↔ property.name ≠ [] ∧ property.access ≠ [] := by
  constructor
  · rintro ⟨found, readAgain, isFlagged⟩
    rw [read] at readAgain
    exact Option.some.inj readAgain ▸ isFlagged
  · intro isFlagged
    exact ⟨property, read, isFlagged⟩

section Declarations

variable {type body : List Char}

theorem name_readBody_append_remark (type body comment : List Char) :
    (readBody type (body ++ remark comment)).name = (readBody type body).name := by
  by_cases empty : body = []
  · rw [empty]
    rfl
  · rw [readBody, readBody, startsSpace_append_remark comment empty]
    split_ifs
    · exact word_afterSpace_append_remark body comment
    · rfl

/-- The flags are not read in front of a comment. -/
theorem access_readBody_append_remark (named : (readBody type body).name ≠ [])
    (flagged : (readBody type body).access ≠ []) (comment : List Char) :
    (readBody type (body ++ remark comment)).access = [] := by
  obtain ⟨starts, isNamed⟩ := readBody_of_named named
  have nonempty : body ≠ [] := by
    rintro rfl
    contradiction
  have solid : afterSpace body ≠ [] := by
    intro blank
    rw [blank] at isNamed
    exact isNamed rfl
  rw [readBody, if_pos starts] at flagged
  rw [readBody, startsSpace_append_remark comment nonempty, if_pos starts]
  dsimp only at flagged ⊢
  rw [afterSpace_append_remark comment solid, afterWord_append_remark]
  generalize afterWord (afterSpace body) = behind at flagged ⊢
  have blank : afterSpace behind ≠ [] := by
    intro blank
    rw [blank] at flagged
    exact flagged rfl
  rw [afterSpace_append_remark comment blank]
  cases default : afterDefault? (afterSpace behind) with
  | some rest =>
      rw [afterDefault?_append_remark default comment]
      exact congrArg Prod.fst (closingWords_append_remark rest comment)
  | none =>
      -- An equals sign without a value would leave no words behind the name.
      have again : afterSpace (afterSpace behind) = afterSpace behind :=
        List.dropWhile_idempotent isSpace behind
      rw [default, Option.getD_none, again] at flagged
      have undefaulted : afterDefault? (afterSpace behind ++ remark comment) = none := by
        apply afterDefault?_of_head?
        rw [List.head?_append_of_ne_nil _ blank]
        exact head?_ne_of_closingWords flagged
      rw [undefaulted]
      exact congrArg Prod.fst (closingWords_append_remark (afterSpace behind) comment)

end Declarations

theorem eq_missingFlag_of_message {fault : Fault} (same : fault.message = "missing flag") :
    fault = .missingFlag := by
  cases fault with
  | missingFlag => rfl
  | unknownFlag token =>
      have texts := congrArg String.toList same
      simp only [Fault.message, String.toList_append] at texts
      have first : some 'u' = some 'm' := congrArg List.head? texts
      exact absurd first (by decide)
  | missingName | missingDefault | readOnlyConditional => exact absurd same (by decide)

theorem visibilityFault?_ne_missingFlag (access : Access) (token : List Char) :
    visibilityFault? access token ≠ some .missingFlag := by
  unfold visibilityFault?
  split_ifs
  · simp
  · cases Flag.ofToken? token with
    | none => simp
    | some flag => cases flag <;> cases access <;> simp

/-- Of a property with a name, a flag is found missing exactly if there is none. -/
theorem fault?_eq_missingFlag_iff {property : Declaration} (named : property.name ≠ []) :
    property.fault? = some .missingFlag ↔ property.access = [] := by
  rw [Declaration.fault?, if_neg (by simpa using named)]
  split_ifs with unflagged
  · simpa using unflagged
  · refine iff_of_false ?_ (by simpa using unflagged)
    split
    · simp
    · split_ifs
      · simp
      · exact visibilityFault?_ne_missingFlag _ _

theorem message?_of_unnamed {line : List Char} {property : Declaration}
    (read : read? line = some property) (unnamed : property.name = []) :
    message? line = some s!"{property.label} property error: {Fault.missingName.message}" := by
  have fault : property.fault? = some .missingName := by
    rw [Declaration.fault?, unnamed]
    rfl
  simp only [message?, read, fault, Option.map_some]

theorem message?_eq_missingFlag_iff {line : List Char} {property : Declaration}
    (read : read? line = some property) (named : property.name ≠ []) :
    message? line = some s!"{property.label} property error: {Fault.missingFlag.message}" ↔
      property.access = [] := by
  rw [← fault?_eq_missingFlag_iff named, message?, read]
  constructor
  · intro said
    obtain ⟨fault, found, same⟩ := Option.map_eq_some_iff.mp said
    have texts := congrArg String.toList same
    simp only [String.toList_append, List.append_cancel_left_eq] at texts
    rw [found, eq_missingFlag_of_message (String.toList_injective texts)]
  · intro found
    simp only [found, Option.map_some]

theorem not_flagged_of_unread {line : List Char} (unread : read? line = none) : ¬Flagged line := by
  rintro ⟨declaration, read, -⟩
  rw [unread] at read
  contradiction

theorem read?_append_remark_of_none {line : List Char} (unread : read? line = none)
    (comment : List Char) : read? (line ++ remark comment) = none := by
  rw [Option.eq_none_iff_forall_ne_some]
  intro declaration read
  obtain ⟨type, body, starts, -⟩ := read?_eq_some_iff.mp read
  obtain ⟨left, startsLine, -⟩ := starts_append_remark_iff.mp starts
  rw [read?_eq_some_iff.mpr ⟨type, left, startsLine, rfl⟩] at unread
  contradiction

theorem message?_append_remark_iff_of_starts {line type body : List Char}
    (starts : Starts line type body) (comment : List Char) :
    message? (line ++ remark comment) = message? line ↔
      ¬Flagged line ∧ ¬Flagged (line ++ remark comment) := by
  have read : read? line = some (readBody type body) :=
    read?_eq_some_iff.mpr ⟨type, body, starts, rfl⟩
  have readBehind : read? (line ++ remark comment) =
      some (readBody type (body ++ remark comment)) :=
    read?_eq_some_iff.mpr
      ⟨type, body ++ remark comment, starts_append_remark_iff.mpr ⟨body, starts, rfl⟩, rfl⟩
  have sameName := name_readBody_append_remark type body comment
  have sameLabel : (readBody type (body ++ remark comment)).label =
      (readBody type body).label := by
    rw [Declaration.label, Declaration.label, sameName, type_readBody, type_readBody]
  rw [flagged_iff read, flagged_iff readBehind, sameName]
  by_cases unnamed : (readBody type body).name = []
  · rw [message?_of_unnamed read unnamed,
      message?_of_unnamed readBehind (sameName.trans unnamed), sameLabel]
    exact iff_of_true rfl ⟨fun both => both.1 unnamed, fun both => both.1 unnamed⟩
  · have said := message?_eq_missingFlag_iff read unnamed
    have saidBehind := message?_eq_missingFlag_iff readBehind (sameName ▸ unnamed)
    rw [sameLabel] at saidBehind
    simp only [ne_eq, unnamed, not_false_eq_true, true_and, not_not]
    constructor
    · intro same
      rw [same] at saidBehind
      -- Flags in front of the comment are lost, so that their absence would be blamed.
      have unflagged : (readBody type body).access = [] := by
        by_contra flagged
        have lost := access_readBody_append_remark unnamed flagged comment
        exact flagged (said.mp (saidBehind.mpr lost))
      exact ⟨unflagged, saidBehind.mp (said.mpr unflagged)⟩
    · rintro ⟨unflagged, unflaggedBehind⟩
      rw [said.mpr unflagged, saidBehind.mpr unflaggedBehind]

/-- A comment behind the line makes no difference to the message of a property exactly if no flags
are read, neither without it nor with it. -/
theorem message?_append_remark_iff (line comment : List Char) :
    message? (line ++ remark comment) = message? line ↔
      ¬Flagged line ∧ ¬Flagged (line ++ remark comment) := by
  cases read : read? line with
  | none =>
      have unread := read?_append_remark_of_none read comment
      exact iff_of_true (by simp only [message?, read, unread])
        ⟨not_flagged_of_unread read, not_flagged_of_unread unread⟩
  | some declaration =>
      obtain ⟨type, body, starts, -⟩ := read?_eq_some_iff.mp read
      exact message?_append_remark_iff_of_starts starts comment

end Property
end ScriptLint
