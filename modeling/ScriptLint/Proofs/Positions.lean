import ScriptLint.Proofs.Columns

/-!
# Positions of findings

Every rule computes the column that it blames in its own way, from the lengths of the parts that it
has read.  All of them stay inside the line, or stand directly behind it.  A position that exists in
its view exists in the text that a diagnostic shows, so that its offset is never clamped.
-/

namespace ScriptLint

/-- The column is that of a byte of the line or directly behind the line. -/
structure Text.HasColumn (line : List Char) (column : Nat) : Prop where
  pos : 1 ≤ column
  le : column ≤ Text.byteLength line + 1

/-- The lines that the positions of a view are counted in. -/
def Document.lines (doc : Document) : LineView → List (List Char)
  | .raw => doc.rawLines
  | .normalized => doc.normalizedLines

/-- The position of the finding exists in the view of the document that it is counted in; in a view
without lines there is the start of the first line. -/
structure Finding.StandsIn (finding : Finding) (doc : Document) : Prop where
  line_pos : 1 ≤ finding.location.line
  line_le : finding.location.line ≤ max 1 (doc.lines finding.view).length
  column : Text.HasColumn ((doc.lines finding.view).getD (finding.location.line - 1) [])
    finding.location.column

/-- The offset of the finding in the text that its diagnostic shows is exact: the line is there and
starts with what the view has, the column is in it, and the offset counts what stands in front of
the line and what stands in front of the column. -/
def Finding.OffsetExact (finding : Finding) (doc : Document) : Prop :=
  ∃ front piece back,
    doc.source finding.view = front ++ piece ++ back ∧
    Text.StartsLine (finding.location.line - 1) front ∧
    (Text.split '\n' (doc.source finding.view))[finding.location.line - 1]? = some piece ∧
    (doc.lines finding.view).getD (finding.location.line - 1) [] <+: piece ∧
    finding.location.column - 1 ≤ Text.byteLength piece ∧
    (finding.diagnostic doc).offset = Text.byteLength front + (finding.location.column - 1)

/-! ## Views and shown texts -/

theorem Document.split_source_normalized {doc : Document} (nonempty : doc.normalizedLines ≠ []) :
    Text.split '\n' (doc.source .normalized) = doc.normalizedLines :=
  Text.split_intercalate_normalize nonempty

theorem Document.ne_nil_of_mem_normalizedLines {doc : Document} {line : List Char}
    (member : line ∈ doc.normalizedLines) : line ≠ [] :=
  Text.ne_nil_of_isCode (Text.of_mem_normalize member).1

attribute [local irreducible] Document.normalizedLines

/-- A line of a view starts the piece with its index in the text that is shown for the view. -/
theorem Document.exists_piece (doc : Document) (view : LineView) {index : Nat}
    (inside : index < max 1 (doc.lines view).length) :
    ∃ piece, (Text.split '\n' (doc.source view))[index]? = some piece ∧
      (doc.lines view).getD index [] <+: piece := by
  cases found : (doc.lines view)[index]? with
  | none =>
      have beyond := List.getElem?_eq_none_iff.mp found
      obtain rfl : index = 0 := by omega
      obtain ⟨piece, others, splits⟩ :=
        List.exists_cons_of_ne_nil (List.splitOn_ne_nil '\n' (doc.source view))
      refine ⟨piece, by rw [Text.split, splits]; rfl, ?_⟩
      rw [List.getD_eq_getElem?_getD, found]
      exact List.nil_prefix
  | some line =>
      rw [List.getD_eq_getElem?_getD, found]
      cases view with
      | raw => exact Text.getElem?_lines found
      | normalized =>
          have nonempty : doc.normalizedLines ≠ [] := by
            intro empty
            rw [Document.lines, empty] at found
            contradiction
          rw [split_source_normalized nonempty]
          exact ⟨line, found, List.prefix_rfl⟩

/-- The offset of a position that exists is exact. -/
theorem Finding.StandsIn.offsetExact {finding : Finding} {doc : Document}
    (stands : finding.StandsIn doc) : finding.OffsetExact doc := by
  obtain ⟨linePos, lineLe, ⟨columnPos, columnLe⟩⟩ := stands
  obtain ⟨piece, found, isPrefix⟩ :=
    doc.exists_piece finding.view (show finding.location.line - 1 < _ by omega)
  obtain ⟨front, back, whole, starts, start⟩ := Text.pieceStart_eq found
  have inside : finding.location.column - 1 ≤ Text.byteLength piece := by
    have shorter := Text.byteLength_le_of_prefix isPrefix
    omega
  refine ⟨front, piece, back, whole, starts, found, isPrefix, inside, ?_⟩
  have offset := Text.offsetOf_eq found inside
  rw [Nat.sub_add_cancel linePos, start] at offset
  exact offset

/-! ## Findings of the rules -/

/-- A check that looks at the lines one by one stops at one of them. -/
theorem Outcome.of_ofFirstFault {lines : List (List Char)} {context : Context}
    {fault? : Nat → List Char → Option Finding} {finding : Finding}
    (found : (Outcome.ofFirstFault lines context fault?).finding = some finding) :
    ∃ index line, lines[index]? = some line ∧ fault? (index + 1) line = some finding := by
  obtain ⟨⟨line, index⟩, member, isFault⟩ := List.exists_of_findSome?_eq_some found
  exact ⟨index, line, List.mk_mem_zipIdx_iff_getElem?.mp member, isFault⟩

/-- The finding is one of a rule of this name in the document, counted in the view, and its position
exists there. -/
structure Finding.IsFrom (finding : Finding) (rule : String) (doc : Document) (view : LineView) :
    Prop where
  rule_eq : finding.rule = rule
  file_eq : finding.location.file = doc.fileName
  view_eq : finding.view = view
  stands : finding.StandsIn doc

/-- The line that the finding blames; nothing in a view without lines. -/
def Finding.line (finding : Finding) (doc : Document) : List Char :=
  (doc.lines finding.view).getD (finding.location.line - 1) []

/-- The finding is one of the rule in the document, and its column is what the rule blames. -/
structure Finding.BlamedBy (finding : Finding) (rule : Rule) (doc : Document) (view : LineView) :
    Prop where
  isFrom : finding.IsFrom rule.name doc view
  blames : rule.Blames (finding.line doc) finding.location.column

/-- A column that a rule blames is one of the line. -/
theorem Rule.Blames.hasColumn {rule : Rule} {line : List Char} {column : Nat}
    (blames : rule.Blames line column) : Text.HasColumn line column := by
  obtain ⟨front, back, measures, fits, rfl⟩ := blames
  have inside := Text.byteLength_le_of_prefix measures.isPrefix
  exact ⟨by omega, by omega⟩

theorem Finding.line_eq {finding : Finding} {doc : Document} {index : Nat} {line : List Char}
    (found : (doc.lines finding.view)[index]? = some line)
    (atLine : finding.location.line = index + 1) : finding.line doc = line := by
  rw [Finding.line, atLine, Nat.add_sub_cancel, List.getD_eq_getElem?_getD, found]
  rfl

/-- A finding at a line of its view, at a column that the rule blames there. -/
theorem Finding.blamedBy_of_getElem? {finding : Finding} {rule : Rule} {doc : Document}
    {index : Nat} {line : List Char} (found : (doc.lines finding.view)[index]? = some line)
    (atLine : finding.location.line = index + 1) (isRule : finding.rule = rule.name)
    (inFile : finding.location.file = doc.fileName)
    (blames : rule.Blames line finding.location.column) :
    finding.BlamedBy rule doc finding.view := by
  rw [← Finding.line_eq found atLine] at blames
  have inside := (List.getElem?_eq_some_iff.mp found).1
  exact ⟨⟨isRule, inFile, rfl, ⟨by omega, by omega, blames.hasColumn⟩⟩, blames⟩

namespace Rule

variable {doc : Document} {context : Context} {finding : Finding}

theorem blamedBy_trailingWhitespace
    (found : (trailingWhitespace.check doc context).finding = some finding) :
    finding.BlamedBy trailingWhitespace doc .raw := by
  obtain ⟨index, line, atIndex, isFault⟩ := Outcome.of_ofFirstFault found
  rw [Option.map_eq_some_iff] at isFault
  obtain ⟨⟨column, fault⟩, stray, rfl⟩ := isFault
  exact Finding.blamedBy_of_getElem? atIndex rfl rfl rfl (blames_of_blanks stray)

theorem blamedBy_property (found : (property.check doc context).finding = some finding) :
    finding.BlamedBy property doc .normalized := by
  obtain ⟨index, line, atIndex, isFault⟩ := Outcome.of_ofFirstFault found
  rw [Option.map_eq_some_iff] at isFault
  obtain ⟨message, -, rfl⟩ := isFault
  have nonempty := doc.ne_nil_of_mem_normalizedLines (List.mem_of_getElem? atIndex)
  have linePos := Text.byteLength_pos nonempty
  exact Finding.blamedBy_of_getElem? atIndex rfl rfl rfl
    ⟨line, 1, .property line, linePos, (Nat.sub_add_cancel linePos).symm⟩

/-- Without lines, the header is read in an empty line. -/
theorem readHeader_eq_read (doc : Document) :
    readHeader doc = Header.read doc.scriptName (doc.normalizedLines.getD 0 []) := by
  rw [readHeader]
  cases doc.normalizedLines <;> rfl

theorem blamedBy_scriptName (found : (scriptName.check doc context).finding = some finding) :
    finding.BlamedBy scriptName doc .normalized := by
  cases read : readHeader doc with
  | ok header => simp [scriptName_check_of_ok read] at found
  | error blame =>
      rw [scriptName_check_of_error read] at found
      obtain rfl := Option.some.inj found
      rw [readHeader_eq_read] at read
      have blames := Header.blames_of_read read
      exact ⟨⟨rfl, rfl, rfl, ⟨Nat.le_refl 1, Nat.le_max_left 1 _, blames.hasColumn⟩⟩, blames⟩

theorem blamedBy_rule {kind : Block.Kind}
    (found : (kind.rule.check doc context).finding = some finding) :
    finding.BlamedBy kind.rule doc .normalized := by
  rw [kind.check_rule] at found
  obtain ⟨index, line, column, message, atIndex, blamed, rfl⟩ := Block.blamed_of_check found
  refine Finding.blamedBy_of_getElem? atIndex rfl rfl rfl ?_
  rcases blamed with rfl | ⟨label, fault, read⟩
  · exact ⟨[], 0, .opener kind line, Nat.zero_le _, rfl⟩
  · exact blames_of_readOpener read

theorem blamedBy_of_mem_all {rule : Rule} (catalogued : rule ∈ all)
    (found : (rule.check doc context).finding = some finding) :
    ∃ view, finding.BlamedBy rule doc view ∧ (view = .raw ↔ rule = trailingWhitespace) := by
  have other : ∀ {rule : Rule}, rule.name ≠ trailingWhitespace.name →
      (LineView.normalized = .raw ↔ rule = trailingWhitespace) :=
    fun differs => iff_of_false (by decide) fun same => differs (congrArg name same)
  obtain rfl | rfl | rfl | ⟨kind, rfl⟩ := eq_of_mem_all catalogued
  · exact ⟨.raw, blamedBy_trailingWhitespace found, iff_of_true rfl rfl⟩
  · exact ⟨.normalized, blamedBy_property found, other (by decide)⟩
  · exact ⟨.normalized, blamedBy_scriptName found, other (by decide)⟩
  · exact ⟨.normalized, blamedBy_rule found, other (by cases kind <;> decide)⟩

theorem isFrom_of_mem_all {rule : Rule} (catalogued : rule ∈ all) {doc : Document}
    {context : Context} {finding : Finding}
    (found : (rule.check doc context).finding = some finding) :
    ∃ view, finding.IsFrom rule.name doc view ∧ (view = .raw ↔ rule = trailingWhitespace) := by
  obtain ⟨view, blamed, isRaw⟩ := blamedBy_of_mem_all catalogued found
  exact ⟨view, blamed.isFrom, isRaw⟩

end Rule

/-- Whatever a rule finds, it names itself, the file and the view that it has read, and the position
exists in that view.  The offset in the text that a diagnostic shows is therefore exact. -/
theorem finding_position_exists {rule : Rule} (catalogued : rule ∈ Rule.all) (doc : Document)
    (context : Context) {finding : Finding}
    (found : (rule.check doc context).finding = some finding) :
    finding.rule = rule.name ∧ finding.location.file = doc.fileName ∧
      (finding.view = .raw ↔ rule = Rule.trailingWhitespace) ∧
      finding.StandsIn doc ∧ finding.OffsetExact doc := by
  obtain ⟨view, ⟨ruleIs, fileIs, viewIs, stands⟩, isRaw⟩ := Rule.isFrom_of_mem_all catalogued found
  exact ⟨ruleIs, fileIs, viewIs ▸ isRaw, stands, stands.offsetExact⟩

theorem finding_position_exists_carriageReturn :
    let doc := Document.ofPath "f.psc" "é\r\nFunction f() \r\n"
    let finding : Finding :=
      { rule := "trailing-whitespace"
        location := ⟨"f.psc", 2, 13⟩
        message := "trailing whitespace error: at the end of the line"
        view := .raw }
    Rule.trailingWhitespace ∈ Rule.all ∧
      (Rule.trailingWhitespace.check doc .fresh).finding = some finding ∧
      finding.StandsIn doc ∧ finding.OffsetExact doc ∧ (finding.diagnostic doc).offset = 16 := by
  intro doc finding
  have catalogued : Rule.trailingWhitespace ∈ Rule.all := List.mem_cons_self
  have found : (Rule.trailingWhitespace.check doc .fresh).finding = some finding := by
    decide +kernel
  obtain ⟨-, -, -, stands, offsetExact⟩ := finding_position_exists catalogued doc .fresh found
  exact ⟨catalogued, found, stands, offsetExact, by decide +kernel⟩

end ScriptLint
