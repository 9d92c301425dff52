import ScriptLint.Proofs.Positions

/-!
# Stray blanks

The rule for stray blanks strips the spaces and tabs off both ends of a physical line.  It reports
the first line that this changes, provided that nothing is left of the line or that it opens a
function, an event or the script.  The column is counted behind the blanks in front of the line, or
else at the first blank behind it, and there the diagnostic puts its label in the content.
-/

namespace ScriptLint

open Text (Stops Run byteLength)

namespace Blanks

/-! ## Stripping a line -/

/-- The text is the line without blanks at either end. -/
structure Strips (line text : List Char) : Prop where
  split : ∃ front back, line = front ++ text ++ back ∧ (∀ c ∈ front, isBlank c = true) ∧
    ∀ c ∈ back, isBlank c = true
  starts : Stops isBlank text
  ends : text.getLast?.any isBlank = false

theorem strips_strip (line : List Char) : Strips line (strip line) where
  split := by
    refine ⟨line.takeWhile isBlank, (line.dropWhile isBlank).rtakeWhile isBlank, ?_,
      fun c member => List.mem_takeWhile_imp member, fun c member => List.mem_rtakeWhile_imp member⟩
    rw [List.append_assoc, strip, Text.dropEndWhile_append, List.takeWhile_append_dropWhile]
  starts := (Text.stops_dropWhile isBlank line).front (Text.isPrefix_dropEndWhile isBlank _)
  ends := Text.getLast?_dropEndWhile isBlank _

/-- There is one way to strip a line. -/
theorem Strips.eq_strip {line text : List Char} (strips : Strips line text) :
    text = strip line := by
  obtain ⟨⟨front, back, rfl, frontBlank, backBlank⟩, starts, ends⟩ := strips
  rw [strip, List.append_assoc, List.dropWhile_append_of_pos frontBlank]
  cases text with
  | nil =>
      have allDropped : back.dropWhile isBlank = [] := List.dropWhile_eq_nil_iff.mpr backBlank
      rw [List.nil_append, allDropped]
      rfl
  | cons c rest =>
      have solid : ¬isBlank c = true := by rw [Text.stops_cons.mp starts]; exact Bool.false_ne_true
      rw [List.cons_append, List.dropWhile_cons_of_neg solid, ← List.cons_append,
        Text.dropEndWhile_append_run ends backBlank]

/-- A line that starts without a blank is stripped at its end. -/
theorem strip_of_stops {line : List Char} (starts : Stops isBlank line) :
    strip line = Text.dropEndWhile isBlank line := by
  have kept := @Text.dropWhile_append_stops isBlank [] line (List.forall_mem_nil _) starts
  rw [List.nil_append] at kept
  rw [strip, kept]

/-! ## Faulty lines -/

/-- Blanks may not stand around the text: it is empty, or it starts with a keyword that opens a
function, an event or the script. -/
def Exposed (text : List Char) : Prop :=
  text = [] ∨ ∃ keyword ∈ ["Function", "Event", "Scriptname"], keyword.toList <+: text

/-- Blanks stand around the line where they may not. -/
def Faulty (line : List Char) : Prop :=
  ∃ text, Strips line text ∧ line ≠ text ∧ Exposed text

theorem inScope_iff {text : List Char} : inScope text = true ↔ Exposed text := by
  have keywords_eq : keywords = ["Function", "Event", "Scriptname"] := rfl
  simp only [inScope, keywords_eq, Exposed, Bool.or_eq_true, List.isEmpty_iff, List.any_eq_true,
    List.isPrefixOf_iff_prefix]

theorem faulty_iff {line : List Char} :
    Faulty line ↔ line ≠ strip line ∧ inScope (strip line) = true := by
  rw [inScope_iff]
  constructor
  · rintro ⟨text, strips, differs, exposed⟩
    rw [← strips.eq_strip]
    exact ⟨differs, exposed⟩
  · rintro ⟨differs, exposed⟩
    exact ⟨strip line, strips_strip line, differs, exposed⟩

section Fault

variable {line : List Char}

theorem fault?_of_unexposed (unexposed : ¬inScope (strip line) = true) : fault? line = none := by
  rw [fault?]
  simp only [Bool.not_eq_true] at unexposed
  simp only [unexposed, Bool.not_false, if_true]

/-- Blanks in front are reported before blanks behind. -/
theorem fault?_of_leading (exposed : inScope (strip line) = true) (leads : ¬Stops isBlank line) :
    fault? line = some ((line.takeWhile isBlank).length + 1,
      if (strip line).isEmpty then .onEmptyLine else .atBeginning) := by
  have leading := List.length_pos_iff.mpr (Text.run_takeWhile leads).nonempty
  rw [fault?]
  simp only [exposed, Bool.not_true, Bool.false_eq_true, if_false, leading, if_true]

/-- Without blanks in front, the length of the line tells of blanks behind it. -/
theorem fault?_of_stops (exposed : inScope (strip line) = true) (starts : Stops isBlank line) :
    fault? line =
      if line = strip line then none else some (byteLength (strip line) + 1, .atEnd) := by
  have noLeading : line.takeWhile isBlank = [] :=
    @Text.takeWhile_append_stops isBlank [] line (List.forall_mem_nil _) starts
  have whole := Text.dropEndWhile_append isBlank line
  rw [← strip_of_stops starts] at whole
  have lengths := congrArg byteLength whole
  rw [Text.byteLength_append] at lengths
  rw [fault?]
  simp only [exposed, Bool.not_true, Bool.false_eq_true, if_false, noLeading, List.length_nil,
    Nat.lt_irrefl, ← strip_of_stops starts]
  by_cases stripped : line = strip line
  · rw [if_pos stripped, if_neg (by rw [← stripped]; exact Nat.lt_irrefl _)]
  · have trailing : line.rtakeWhile isBlank ≠ [] := by
      intro none
      rw [none, List.append_nil] at whole
      exact stripped whole.symm
    have trailingPos := Text.byteLength_pos trailing
    rw [if_neg stripped, if_pos (by omega)]

/-- A line is reported exactly if it is faulty. -/
theorem fault?_eq_none_iff : fault? line = none ↔ ¬Faulty line := by
  rw [faulty_iff, not_and', not_not]
  by_cases exposed : inScope (strip line) = true
  · by_cases starts : Stops isBlank line
    · rw [fault?_of_stops exposed starts]
      simp [exposed]
    · rw [fault?_of_leading exposed starts]
      refine iff_of_false (Option.some_ne_none _) ?_
      intro stripped
      apply starts
      rw [stripped exposed]
      exact (strips_strip line).starts
  · exact iff_of_true (fault?_of_unexposed exposed) fun isExposed => absurd isExposed exposed

end Fault

/-! ## Reports -/

/-- The label of the finding stands in the content at the first of the blanks behind the text of the
line with the index. -/
def LabelsTrailing (finding : Finding) (doc : Document) (index : Nat) (line text : List Char) :
    Prop :=
  ∃ front blanks back, doc.content.toList = front ++ text ++ blanks ++ back ∧
    Text.StartsLine index front ∧ line = text ++ blanks ∧ Run isBlank blanks ∧
    (finding.diagnostic doc).offset = byteLength (front ++ text)

/-- The finding reports the line with the index, of which the text is left without its blanks. -/
structure Reports (finding : Finding) (doc : Document) (index : Nat) (line text : List Char) :
    Prop where
  rule_eq : finding.rule = "trailing-whitespace"
  file_eq : finding.location.file = doc.fileName
  line_eq : finding.location.line = index + 1
  view_eq : finding.view = .raw
  leading : ¬Stops isBlank line →
    finding.location.column = 1 + (line.takeWhile isBlank).length ∧
    finding.message =
      if text = [] then "trailing whitespace error: on empty line"
      else "trailing whitespace error: at the beginning of the line"
  trailing : Stops isBlank line →
    finding.location.column = 1 + byteLength text ∧
    finding.message = "trailing whitespace error: at the end of the line" ∧
    LabelsTrailing finding doc index line text

/-- There is one way to report a line. -/
theorem Reports.eq {finding other : Finding} {doc : Document} {index : Nat}
    {line text : List Char} (reports : Reports finding doc index line text)
    (otherReports : Reports other doc index line text) : finding = other := by
  have sameColumn : finding.location.column = other.location.column ∧
      finding.message = other.message := by
    by_cases starts : Stops isBlank line
    · obtain ⟨column, message, -⟩ := reports.trailing starts
      obtain ⟨otherColumn, otherMessage, -⟩ := otherReports.trailing starts
      exact ⟨column.trans otherColumn.symm, message.trans otherMessage.symm⟩
    · obtain ⟨column, message⟩ := reports.leading starts
      obtain ⟨otherColumn, otherMessage⟩ := otherReports.leading starts
      exact ⟨column.trans otherColumn.symm, message.trans otherMessage.symm⟩
  obtain ⟨rule, ⟨file, number, column⟩, message, view⟩ := finding
  obtain ⟨_, ⟨_, _, _⟩, _, _⟩ := other
  obtain rfl := reports.rule_eq.trans otherReports.rule_eq.symm
  obtain rfl := reports.file_eq.trans otherReports.file_eq.symm
  obtain rfl := reports.line_eq.trans otherReports.line_eq.symm
  obtain rfl := reports.view_eq.trans otherReports.view_eq.symm
  obtain ⟨rfl, rfl⟩ := sameColumn
  rfl

end Blanks

/-- The finding of the rule for stray blanks at a line. -/
def Finding.ofBlanks (doc : Document) (line : Nat) (blame : Nat × Blanks.Fault) : Finding :=
  { Finding.located "trailing-whitespace" doc line blame.1
      s!"trailing whitespace error: {blame.2.message}" with view := .raw }

theorem Rule.check_trailingWhitespace (doc : Document) (context : Context) :
    Rule.trailingWhitespace.check doc context =
      .ofFirstFault doc.rawLines context fun line text =>
        (Blanks.fault? text).map (Finding.ofBlanks doc line) := rfl

section Rule

variable {doc : Document} {context : Context} {index : Nat} {line : List Char}
  {blame : Nat × Blanks.Fault}

namespace Blanks

theorem faulty_of_fault? (isFault : fault? line = some blame) : Faulty line := by
  by_contra faultless
  rw [fault?_eq_none_iff.mpr faultless] at isFault
  contradiction

/-- A label at the end of the text of a line is exact, because the physical line is a part of the
content. -/
theorem labelsTrailing_of_found (atIndex : doc.rawLines[index]? = some line)
    (starts : Stops isBlank line) (differs : line ≠ strip line)
    (columnIs : blame.1 = byteLength (strip line) + 1)
    (found : (Rule.trailingWhitespace.check doc context).finding =
      some (.ofBlanks doc (index + 1) blame)) :
    LabelsTrailing (.ofBlanks doc (index + 1) blame) doc index line (strip line) := by
  have stands := (Rule.blamedBy_trailingWhitespace found).isFrom.stands
  obtain ⟨front, piece, back, content, isStart, -, ⟨rest, isPiece⟩, -, offset⟩ := stands.offsetExact
  have lineIs : doc.rawLines.getD index [] = line := by
    rw [List.getD_eq_getElem?_getD, atIndex, Option.getD_some]
  have pieceIs : line ++ rest = piece := lineIs ▸ isPiece
  have whole := Text.dropEndWhile_append isBlank line
  rw [← strip_of_stops starts] at whole
  refine ⟨front, line.rtakeWhile isBlank, rest ++ back, ?_, isStart, whole.symm, ⟨?_, ?_⟩, ?_⟩
  · calc
      doc.content.toList = front ++ (line ++ rest) ++ back := by
        rw [pieceIs]
        exact content
      _ = front ++ (strip line ++ line.rtakeWhile isBlank ++ rest) ++ back := by rw [whole]
      _ = front ++ strip line ++ line.rtakeWhile isBlank ++ (rest ++ back) := by
        simp only [List.append_assoc]
  · intro none
    rw [none, List.append_nil] at whole
    exact differs whole.symm
  · exact fun c member => List.mem_rtakeWhile_imp member
  · have columnEq : (Finding.ofBlanks doc (index + 1) blame).location.column = blame.1 := rfl
    rw [offset, Text.byteLength_append, columnEq, columnIs, Nat.add_sub_cancel]

theorem reports_of_found (atIndex : doc.rawLines[index]? = some line)
    (isFault : fault? line = some blame)
    (found : (Rule.trailingWhitespace.check doc context).finding =
      some (.ofBlanks doc (index + 1) blame)) :
    Reports (.ofBlanks doc (index + 1) blame) doc index line (strip line) := by
  obtain ⟨differs, exposed⟩ := faulty_iff.mp (faulty_of_fault? isFault)
  refine ⟨rfl, rfl, rfl, rfl, ?_, ?_⟩
  · intro leads
    rw [fault?_of_leading exposed leads] at isFault
    obtain rfl := Option.some.inj isFault
    refine ⟨Nat.add_comm _ 1, ?_⟩
    by_cases empty : strip line = []
    · rw [if_pos empty, empty]
      rfl
    · rw [if_neg empty, List.isEmpty_eq_false_iff.mpr empty]
      rfl
  · intro starts
    rw [fault?_of_stops exposed starts, if_neg differs] at isFault
    obtain rfl := Option.some.inj isFault
    exact ⟨Nat.add_comm _ 1, rfl, labelsTrailing_of_found atIndex starts differs rfl found⟩

end Blanks

theorem Rule.trailingWhitespace_finding_eq_none_iff :
    (Rule.trailingWhitespace.check doc context).finding = none ↔
      ∀ line ∈ doc.rawLines, ¬Blanks.Faulty line := by
  rw [Rule.check_trailingWhitespace, Outcome.finding_ofFirstFault_eq_none_iff]
  simp only [Blanks.fault?_eq_none_iff]

theorem Rule.trailingWhitespace_finding_eq_some_iff {finding : Finding} :
    (Rule.trailingWhitespace.check doc context).finding = some finding ↔
      ∃ before line behind text, doc.rawLines = before ++ line :: behind ∧
        (∀ other ∈ before, ¬Blanks.Faulty other) ∧ Blanks.Strips line text ∧ line ≠ text ∧
        Blanks.Exposed text ∧ Blanks.Reports finding doc before.length line text := by
  have checked {finding : Finding} := @Outcome.finding_ofFirstFault_eq_some_iff _ doc.rawLines
    context Blanks.fault? (fun line _ => Finding.ofBlanks doc line) finding
  rw [← Rule.check_trailingWhitespace] at checked
  constructor
  · intro found
    obtain ⟨before, line, behind, blame, split, passed, isFault, rfl⟩ := checked.mp found
    have atIndex : doc.rawLines[before.length]? = some line := by simp [split]
    obtain ⟨differs, exposed⟩ := Blanks.faulty_iff.mp (Blanks.faulty_of_fault? isFault)
    refine ⟨before, line, behind, Blanks.strip line, split, ?_, Blanks.strips_strip line, differs,
      Blanks.inScope_iff.mp exposed, Blanks.reports_of_found atIndex isFault found⟩
    intro other member
    exact Blanks.fault?_eq_none_iff.mp (passed other member)
  · rintro ⟨before, line, behind, text, split, passed, strips, differs, exposed, reports⟩
    have atIndex : doc.rawLines[before.length]? = some line := by simp [split]
    have faulty : Blanks.Faulty line := ⟨text, strips, differs, exposed⟩
    cases isFault : Blanks.fault? line with
    | none => exact absurd faulty (Blanks.fault?_eq_none_iff.mp isFault)
    | some blame =>
        have found := checked.mpr ⟨before, line, behind, blame, split,
          fun other member => Blanks.fault?_eq_none_iff.mpr (passed other member), isFault, rfl⟩
        have reportsFound := Blanks.reports_of_found atIndex isFault found
        rw [← strips.eq_strip] at reportsFound
        rw [found, reports.eq reportsFound]

end Rule

/-- The rule for stray blanks accepts a script exactly if none of its physical lines is faulty.
Otherwise it reports the first faulty line: behind the blanks in front of it if there are any, and
else at the first blank behind it, where the label stands in the content.  The context plays no part
and stays as it is. -/
theorem first_stray_blank_reported (doc : Document) (context : Context) :
    let outcome := Rule.trailingWhitespace.check doc context
    (outcome.finding = none ↔ ∀ line ∈ doc.rawLines, ¬Blanks.Faulty line) ∧
    (∀ finding, outcome.finding = some finding ↔
      ∃ before line behind text, doc.rawLines = before ++ line :: behind ∧
        (∀ other ∈ before, ¬Blanks.Faulty other) ∧ Blanks.Strips line text ∧ line ≠ text ∧
        Blanks.Exposed text ∧ Blanks.Reports finding doc before.length line text) ∧
    outcome.context = context ∧ outcome.events = [] ∧
    ∀ other, (Rule.trailingWhitespace.check doc other).finding = outcome.finding :=
  ⟨Rule.trailingWhitespace_finding_eq_none_iff,
    fun _ => Rule.trailingWhitespace_finding_eq_some_iff, rfl, rfl, fun _ => rfl⟩

end ScriptLint
