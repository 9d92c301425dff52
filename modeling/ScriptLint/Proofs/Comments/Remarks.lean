import ScriptLint.Proofs.Text.Runs

/-!
# Comments behind a text

What is taken off the front of a text with a comment behind it: keywords, names and white space are
taken off as if the comment were not there, and the comment is left behind what is left of the text.
-/

namespace ScriptLint
namespace Text

/-- A comment as it is written behind a line. -/
def remark (comment : List Char) : List Char := ' ' :: ';' :: comment

section Remarks

variable (text comment : List Char)

theorem word_append_remark : word (text ++ remark comment) = word text :=
  takeWhile_append_of_stops (stops_cons.mpr (by decide)) text

theorem afterWord_append_remark :
    afterWord (text ++ remark comment) = afterWord text ++ remark comment :=
  dropWhile_append_of_stops (stops_cons.mpr (by decide)) text

variable {text}

theorem startsSpace_append_remark (nonempty : text ≠ []) :
    startsSpace (text ++ remark comment) = startsSpace text := by
  obtain ⟨c, rest, rfl⟩ := List.exists_cons_of_ne_nil nonempty
  rfl

theorem afterSpace_append_remark (solid : afterSpace text ≠ []) :
    afterSpace (text ++ remark comment) = afterSpace text ++ remark comment := by
  rw [afterSpace, List.dropWhile_append, if_neg]
  · rfl
  · rw [List.isEmpty_iff]
    exact solid

theorem afterSpace_append_remark_of_blank (blank : afterSpace text = []) :
    afterSpace (text ++ remark comment) = ';' :: comment := by
  rw [afterSpace, List.dropWhile_append, if_pos]
  · rfl
  · rw [List.isEmpty_iff]
    exact blank

/-- A name is read as before, and there is none where only a comment follows. -/
theorem word_afterSpace_append_remark (text comment : List Char) :
    word (afterSpace (text ++ remark comment)) = word (afterSpace text) := by
  by_cases blank : afterSpace text = []
  · rw [afterSpace_append_remark_of_blank comment blank, blank]
    rfl
  · rw [afterSpace_append_remark comment blank, word_append_remark]

theorem afterWord_afterSpace_append_remark (named : word (afterSpace text) ≠ []) :
    afterWord (afterSpace (text ++ remark comment)) =
      afterWord (afterSpace text) ++ remark comment := by
  have solid : afterSpace text ≠ [] := by
    intro blank
    rw [blank] at named
    exact named rfl
  rw [afterSpace_append_remark comment solid, afterWord_append_remark]

/-- A front that neither holds a comment nor ends in a space is a front of the line itself. -/
theorem exists_rest_of_append_remark {front rest line comment : List Char}
    (whole : line ++ remark comment = front ++ rest) (noMarker : ';' ∉ front)
    (ends : front.getLast? ≠ some ' ') :
    ∃ left, line = front ++ left ∧ rest = left ++ remark comment := by
  obtain ⟨beyond, rfl, overlap⟩ | ⟨left, rfl, rfl⟩ := List.append_eq_append_iff.mp whole
  · cases beyond with
    | nil => exact ⟨[], by simp, overlap.symm⟩
    | cons c beyond =>
        -- The front would end in the space of the comment or hold its marker.
        obtain ⟨rfl, later⟩ := List.cons.inj overlap
        cases beyond with
        | nil => simp at ends
        | cons d beyond =>
            obtain ⟨rfl, -⟩ := List.cons.inj later
            simp at noMarker
  · exact ⟨left, rfl, rfl⟩

theorem isPrefixOf?_append_remark {keyword : List Char} (noMarker : ';' ∉ keyword)
    (ends : keyword.getLast? ≠ some ' ') (line comment : List Char) :
    keyword.isPrefixOf? (line ++ remark comment) =
      (keyword.isPrefixOf? line).map (· ++ remark comment) := by
  ext rest
  rw [Option.map_eq_some_iff, List.isPrefixOf?_eq_some_iff_append_eq]
  constructor
  · intro whole
    obtain ⟨left, rfl, rfl⟩ := exists_rest_of_append_remark whole.symm noMarker ends
    exact ⟨left, List.isPrefixOf?_eq_some_iff_append_eq.mpr rfl, rfl⟩
  · rintro ⟨left, found, rfl⟩
    rw [← List.isPrefixOf?_eq_some_iff_append_eq.mp found, List.append_assoc]

theorem stops_isWord_append_remark {rest : List Char} :
    Stops isWord (rest ++ remark comment) ↔ Stops isWord rest := by
  cases rest with
  | nil => exact iff_of_true (stops_cons.mpr (by decide)) (stops_nil isWord)
  | cons c rest => rw [List.cons_append, stops_cons, stops_cons]

theorem afterKeyword?_append_remark {keyword : List Char} (noMarker : ';' ∉ keyword)
    (ends : keyword.getLast? ≠ some ' ') (line comment : List Char) :
    afterKeyword? keyword (line ++ remark comment) =
      (afterKeyword? keyword line).map (· ++ remark comment) := by
  ext rest
  rw [Option.map_eq_some_iff, afterKeyword?_eq_some_iff]
  constructor
  · rintro ⟨whole, stops⟩
    obtain ⟨left, rfl, rfl⟩ := exists_rest_of_append_remark whole noMarker ends
    exact ⟨left, afterKeyword?_eq_some_iff.mpr ⟨rfl, (stops_isWord_append_remark comment).mp stops⟩,
      rfl⟩
  · rintro ⟨left, found, rfl⟩
    obtain ⟨rfl, stops⟩ := afterKeyword?_eq_some_iff.mp found
    exact ⟨List.append_assoc .., (stops_isWord_append_remark comment).mpr stops⟩

/-- A keyword behind white space is read as before. -/
theorem afterKeyword?_afterSpace_append_remark {keyword : List Char} (nonempty : keyword ≠ [])
    (noMarker : ';' ∉ keyword) (ends : keyword.getLast? ≠ some ' ') (text comment : List Char) :
    afterKeyword? keyword (afterSpace (text ++ remark comment)) =
      (afterKeyword? keyword (afterSpace text)).map (· ++ remark comment) := by
  by_cases blank : afterSpace text = []
  · -- Behind the white space there is nothing, and then only the comment.
    obtain ⟨first, others, rfl⟩ := List.exists_cons_of_ne_nil nonempty
    have unread : afterKeyword? (first :: others) (';' :: comment) = none := by
      rw [Option.eq_none_iff_forall_ne_some]
      intro rest found
      obtain ⟨same, -⟩ := afterKeyword?_eq_some_iff.mp found
      rw [(List.cons.inj same).1] at noMarker
      exact noMarker List.mem_cons_self
    rw [afterSpace_append_remark_of_blank comment blank, unread, blank]
    rfl
  · rw [afterSpace_append_remark comment blank, afterKeyword?_append_remark noMarker ends]

/-- A space behind a text starts no token. -/
theorem tokens_concat_space (offset : Nat) (text : List Char) :
    tokens offset (text ++ [' ']) = tokens offset text := by
  induction text generalizing offset with
  | nil => rfl
  | cons c rest ih =>
      rw [List.cons_append, tokens, tokens, ih]
      cases rest with
      | nil => rfl
      | cons d rest => rfl

end Remarks

end Text

end ScriptLint
