import ScriptLint.Proofs.Positions

/-!
# Labels and characters

The label of a diagnostic stands at a byte.  Where the column of a rule falls short of the end of
what the rule has measured, the label stands at a boundary of characters exactly if the bytes that
are missing are whole characters.
-/

namespace ScriptLint

open Text (byteLength)

/-! ## Boundaries -/

namespace Text

/-- The offset is at an end of the text or between two of its characters. -/
def HasBoundary (text : List Char) (offset : Nat) : Prop :=
  ∃ front rest, text = front ++ rest ∧ byteLength front = offset

/-- The last bytes of the text are whole characters. -/
def EndsWhole (text : List Char) (bytes : Nat) : Prop :=
  ∃ front rest, text = front ++ rest ∧ byteLength rest = bytes

theorem utf8ByteSize_ofList (text : List Char) :
    (String.ofList text).utf8ByteSize = byteLength text := by
  induction text with
  | nil => rfl
  | cons c rest ih =>
      have split : String.ofList (c :: rest) = String.singleton c ++ String.ofList rest := by
        rw [String.singleton_eq_ofList, ← String.ofList_append]
        rfl
      rw [split, String.utf8ByteSize_append, String.utf8ByteSize_singleton, ih, byteLength]

theorem isValid_ofList_iff {text : List Char} {offset : Nat} :
    String.Pos.Raw.IsValid (String.ofList text) ⟨offset⟩ ↔ HasBoundary text offset := by
  rw [String.Pos.Raw.isValid_ofList]
  constructor
  · rintro ⟨count, ends⟩
    rw [utf8ByteSize_ofList] at ends
    exact ⟨text.take count, text.drop count, (List.take_append_drop count text).symm, ends.symm⟩
  · rintro ⟨front, rest, rfl, rfl⟩
    refine ⟨front.length, ?_⟩
    rw [List.take_left, utf8ByteSize_ofList]

/-- Boundaries behind a front are those of the rest. -/
theorem hasBoundary_append_left {front text : List Char} {offset : Nat} :
    HasBoundary (front ++ text) (byteLength front + offset) ↔ HasBoundary text offset := by
  constructor
  · rintro ⟨before, after, whole, length⟩
    rcases List.append_eq_append_iff.mp whole with ⟨middle, rfl, rfl⟩ | ⟨middle, rfl, rfl⟩
    · rw [byteLength_append] at length
      exact ⟨middle, after, rfl, by omega⟩
    · rw [byteLength_append] at length
      exact ⟨[], text, rfl, by rw [byteLength]; omega⟩
  · rintro ⟨before, after, rfl, rfl⟩
    exact ⟨front ++ before, after, by simp, byteLength_append front before⟩

/-- Boundaries inside a front are those of the front. -/
theorem hasBoundary_append_right {text rest : List Char} {offset : Nat}
    (inside : offset ≤ byteLength text) :
    HasBoundary (text ++ rest) offset ↔ HasBoundary text offset := by
  constructor
  · rintro ⟨before, after, whole, rfl⟩
    rcases List.append_eq_append_iff.mp whole with ⟨middle, rfl, rfl⟩ | ⟨middle, rfl, rfl⟩
    · rw [byteLength_append] at inside ⊢
      exact ⟨text, [], by simp, by omega⟩
    · exact ⟨before, middle, rfl, rfl⟩
  · rintro ⟨before, after, rfl, rfl⟩
    exact ⟨before, after ++ rest, by simp, rfl⟩

/-- A place so many bytes in front of the end of a front is a boundary exactly if these bytes are
whole characters. -/
theorem hasBoundary_iff_endsWhole {front line : List Char} {back : Nat}
    (isPrefix : front <+: line) (fits : back ≤ byteLength front) :
    HasBoundary line (byteLength front - back) ↔ EndsWhole front back := by
  obtain ⟨rest, rfl⟩ := isPrefix
  rw [hasBoundary_append_right (Nat.sub_le _ _)]
  refine exists_congr fun kept => exists_congr fun cut => and_congr_right ?_
  rintro rfl
  rw [byteLength_append] at fits ⊢
  omega

theorem endsWhole_zero (text : List Char) : EndsWhole text 0 := ⟨text, [], by simp, rfl⟩

/-- A text of characters of one byte can be cut at every byte. -/
theorem endsWhole_of_narrow {text : List Char} {back : Nat}
    (narrow : ∀ c ∈ text, c.utf8Size = 1) (fits : back ≤ byteLength text) :
    EndsWhole text back := by
  have length := byteLength_of_narrow narrow
  refine ⟨text.take (text.length - back), text.drop (text.length - back), by simp, ?_⟩
  rw [byteLength_of_narrow fun c member => narrow c (List.mem_of_mem_drop member),
    List.length_drop]
  omega

end Text

attribute [local irreducible] Document.normalizedLines

namespace Finding

/-- The label of the finding stands at a boundary of characters of the text that is shown. -/
def LabelsBoundary (finding : Finding) (doc : Document) : Prop :=
  String.Pos.Raw.IsValid (finding.diagnostic doc).source ⟨(finding.diagnostic doc).offset⟩

/-- Whether a label stands at a boundary is seen in the line alone. -/
theorem StandsIn.labelsBoundary_iff {finding : Finding} {doc : Document}
    (stands : finding.StandsIn doc) :
    finding.LabelsBoundary doc ↔
      Text.HasBoundary (finding.line doc) (finding.location.column - 1) := by
  have inside : finding.location.column - 1 ≤ byteLength (finding.line doc) := by
    have columnLe : finding.location.column ≤ byteLength (finding.line doc) + 1 := stands.column.le
    omega
  obtain ⟨front, piece, back, whole, -, -, ⟨rest, isPiece⟩, -, offset⟩ := stands.offsetExact
  have shown : doc.source finding.view = front ++ (finding.line doc ++ (rest ++ back)) := by
    rw [whole, ← isPiece, line]
    simp only [List.append_assoc]
  calc
    finding.LabelsBoundary doc ↔
        Text.HasBoundary (doc.source finding.view) (finding.diagnostic doc).offset :=
      Text.isValid_ofList_iff
    _ ↔ Text.HasBoundary (finding.line doc) (finding.location.column - 1) := by
      rw [offset, shown, Text.hasBoundary_append_left, Text.hasBoundary_append_right inside]

end Finding

/-! ## Labels of the rules -/

namespace Rule

theorem Measures.back_eq_zero {rule : Rule} {line front : List Char} {back : Nat}
    (measures : rule.Measures line front back)
    (isExact : rule.name = trailingWhitespace.name ∨ rule.name = functionBlock.name ∨
      rule.name = eventBlock.name) : back = 0 := by
  cases measures with
  | blanks | opener | noHeader => rfl
  | unopened isTest | unclosed isTest | dangling isTest =>
      rcases isTest with rfl | rfl <;> exact absurd isExact (by decide)
  | property | keyword | name | parent | flag => exact absurd isExact (by decide)

end Rule

/-- The label of a finding stands at a boundary of characters exactly if the bytes by which it falls
short of what the rule measures are whole characters.  Three rules do not fall short, and no label
splits a character in a line of characters of one byte. -/
theorem label_boundary_iff {rule : Rule} (catalogued : rule ∈ Rule.all) (doc : Document)
    (context : Context) {finding : Finding}
    (found : (rule.check doc context).finding = some finding) :
    (∃ front back, rule.Measures (finding.line doc) front back ∧ back ≤ byteLength front ∧
      finding.location.column = byteLength front - back + 1 ∧
      (finding.LabelsBoundary doc ↔ Text.EndsWhole front back)) ∧
    (rule = .trailingWhitespace ∨ rule = .functionBlock ∨ rule = .eventBlock →
      finding.LabelsBoundary doc) ∧
    ((∀ c ∈ finding.line doc, c.utf8Size = 1) → finding.LabelsBoundary doc) := by
  obtain ⟨view, ⟨isFrom, front, back, measures, fits, column⟩, -⟩ :=
    Rule.blamedBy_of_mem_all catalogued found
  have labels : finding.LabelsBoundary doc ↔ Text.EndsWhole front back := by
    rw [isFrom.stands.labelsBoundary_iff, column, Nat.add_sub_cancel,
      Text.hasBoundary_iff_endsWhole measures.isPrefix fits]
  refine ⟨⟨front, back, measures, fits, column, labels⟩, ?_, ?_⟩
  · rintro (rfl | rfl | rfl)
    all_goals
      obtain rfl := measures.back_eq_zero (by decide)
      exact labels.mpr (Text.endsWhole_zero front)
  · intro narrow
    refine labels.mpr (Text.endsWhole_of_narrow (fun c member => narrow c ?_) fits)
    exact measures.isPrefix.subset member

/-- The label of a missing parenthesis stands in front of the last character of the body, which has
two bytes. -/
theorem label_boundary_iff_unclosed :
    let doc := Document.ofPath "f.psc" "é\nif (é\nendif"
    let finding : Finding :=
      { rule := "if-statement"
        location := ⟨"f.psc", 2, 5⟩
        message := "if error: missing close parenthesis" }
    Rule.ifStatement ∈ Rule.all ∧ (Rule.ifStatement.check doc .fresh).finding = some finding ∧
      (finding.diagnostic doc).offset = 7 ∧ finding.LabelsBoundary doc ∧
      ∃ front back, Rule.ifStatement.Measures (finding.line doc) front back ∧
        Text.EndsWhole front back := by
  intro doc finding
  have catalogued : Rule.ifStatement ∈ Rule.all := by simp [Rule.all, Rule.standard]
  have found : (Rule.ifStatement.check doc .fresh).finding = some finding := by decide +kernel
  have labels : finding.LabelsBoundary doc := by
    unfold Finding.LabelsBoundary
    decide +kernel
  obtain ⟨⟨front, back, measures, -, -, whole⟩, -, -⟩ :=
    label_boundary_iff catalogued doc .fresh found
  exact ⟨catalogued, found, by decide +kernel, labels, front, back, measures, whole.mp labels⟩

/-- A property is blamed at the last byte of its line, which may be inside a character. -/
theorem label_splits_character :
    let doc := Document.ofPath "test.psc" "int Property é"
    let finding : Finding :=
      { rule := "property"
        location := ⟨"test.psc", 1, 15⟩
        message := "int é property error: missing flag" }
    (Rule.property.check doc .fresh).finding = some finding ∧
      (finding.diagnostic doc).offset = 14 ∧ ¬finding.LabelsBoundary doc := by
  intro doc finding
  refine ⟨by decide +kernel, by decide +kernel, ?_⟩
  unfold Finding.LabelsBoundary
  decide +kernel

end ScriptLint
