import ScriptLint.Proofs.Positions
import ScriptLint.Proofs.Views

/-!
# Line endings

A script whose lines end in a carriage return and a line feed has the same lines, in both views, as
the script whose lines end in a line feed alone.  Every pass therefore comes to the same verdict on
both.  In the text that is shown for a finding among the physical lines, one byte more stands in
front of it for every line before its own.
-/

namespace ScriptLint
namespace Text

/-- The text with a carriage return in front of every line feed. -/
def withReturns (text : List Char) : List Char :=
  text.flatMap fun c => if c = '\n' then ['\r', '\n'] else [c]

/-- The pieces with a carriage return at the end of each but the last. -/
def returnPieces : List (List Char) → List (List Char)
  | [] => []
  | [last] => [last]
  | piece :: next :: pieces => (piece ++ ['\r']) :: returnPieces (next :: pieces)

theorem returnPieces_cons {pieces : List (List Char)} (more : pieces ≠ []) (piece : List Char) :
    returnPieces (piece :: pieces) = (piece ++ ['\r']) :: returnPieces pieces := by
  cases pieces with
  | nil => exact absurd rfl more
  | cons next pieces => rfl

theorem withReturns_append (front back : List Char) :
    withReturns (front ++ back) = withReturns front ++ withReturns back :=
  List.flatMap_append

theorem withReturns_of_notMem {text : List Char} (unbroken : '\n' ∉ text) :
    withReturns text = text := by
  have same : ∀ c ∈ text, (if c = '\n' then ['\r', '\n'] else [c]) = [c] := by
    intro c member
    apply if_neg
    rintro rfl
    exact unbroken member
  rw [withReturns, List.flatMap_congr same, List.flatMap_singleton']

/-- A carriage return in front of every line feed ends every piece but the last. -/
theorem split_withReturns (text : List Char) :
    split '\n' (withReturns text) = returnPieces (split '\n' text) := by
  generalize splits : split '\n' text = pieces
  induction pieces generalizing text with
  | nil => exact absurd splits (List.splitOn_ne_nil '\n' text)
  | cons first others ih =>
      obtain ⟨unbroken, ⟨rfl, rfl⟩ | ⟨rest, rfl, rfl⟩⟩ := split_eq_cons splits
      · rw [withReturns_of_notMem unbroken, splits]
        rfl
      · have unbrokenReturn : '\n' ∉ first ++ ['\r'] := by simpa using unbroken
        have written : withReturns (first ++ '\n' :: rest) =
            (first ++ ['\r']) ++ '\n' :: withReturns rest := by
          rw [withReturns_append, withReturns_of_notMem unbroken, List.append_assoc]
          rfl
        rw [written, split, List.splitOn_append_cons_self_of_not_mem unbrokenReturn, ← split,
          ih rest rfl, returnPieces_cons (List.splitOn_ne_nil '\n' rest)]

/-! ## The two views -/

theorem dropReturn_concat (piece : List Char) : dropReturn (piece ++ ['\r']) = piece := by
  rw [dropReturn, if_pos (List.getLast?_concat ..), List.dropLast_concat]

theorem dropReturn_of_notMem {piece : List Char} (noReturn : '\r' ∉ piece) :
    dropReturn piece = piece := by
  rw [dropReturn, if_neg]
  intro returns
  exact noReturn (List.mem_of_getLast? returns)

theorem linesOfPieces_returnPieces {pieces : List (List Char)}
    (noReturn : ∀ piece ∈ pieces, '\r' ∉ piece) :
    linesOfPieces (returnPieces pieces) = linesOfPieces pieces := by
  induction pieces using returnPieces.induct with
  | case1 => rfl
  | case2 last => rfl
  | case3 piece next pieces ih =>
      obtain ⟨first, others⟩ := List.forall_mem_cons.mp noReturn
      have lines : linesOfPieces (returnPieces (piece :: next :: pieces)) =
          dropReturn (piece ++ ['\r']) :: linesOfPieces (returnPieces (next :: pieces)) := by
        cases pieces <;> rfl
      rw [lines, dropReturn_concat, ih others, linesOfPieces_cons_cons, dropReturn_of_notMem first]

theorem codeLines_returnPieces (pieces : List (List Char)) :
    codeLines (returnPieces pieces) = codeLines pieces := by
  induction pieces using returnPieces.induct with
  | case1 => rfl
  | case2 last => rfl
  | case3 piece next pieces ih =>
      rw [returnPieces, codeLines_cons, codeLines_cons piece, ih,
        codeLines_congr (trim_concat_of_isSpace (by decide) piece)]

/-- The physical lines do not tell the two kinds of line ending apart. -/
theorem lines_withReturns {text : List Char} (noReturn : '\r' ∉ text) :
    lines (withReturns text) = lines text := by
  have noPiece : ∀ piece ∈ split '\n' text, '\r' ∉ piece :=
    fun piece member inPiece => noReturn ((of_mem_split member).2.subset inPiece)
  rw [lines, split_withReturns, linesOfPieces_returnPieces noPiece, lines]

/-- Nor do the normalized lines. -/
theorem normalize_withReturns (text : List Char) :
    normalize (withReturns text) = normalize text := by
  rw [normalize_eq, split_withReturns, codeLines_returnPieces, normalize_eq]

/-! ## Offsets -/

theorem getElem?_returnPieces {pieces : List (List Char)} {index : Nat} {piece : List Char}
    (found : pieces[index]? = some piece) :
    ∃ longer, (returnPieces pieces)[index]? = some longer ∧ piece <+: longer := by
  induction pieces using returnPieces.induct generalizing index with
  | case1 => simp at found
  | case2 last => exact ⟨piece, found, List.prefix_rfl⟩
  | case3 first next pieces ih =>
      cases index with
      | zero =>
          obtain rfl := Option.some.inj found
          exact ⟨first ++ ['\r'], rfl, List.prefix_append first ['\r']⟩
      | succ index => exact ih found

/-- Every piece in front of another one is a byte longer. -/
theorem pieceStart_returnPieces {pieces : List (List Char)} {index : Nat}
    (inside : index < pieces.length) :
    pieceStart (returnPieces pieces) index = pieceStart pieces index + index := by
  induction pieces using returnPieces.induct generalizing index with
  | case1 => simp at inside
  | case2 last =>
      obtain rfl := Nat.lt_one_iff.mp inside
      rfl
  | case3 first next pieces ih =>
      cases index with
      | zero => rfl
      | succ index =>
          have returnLength : byteLength ['\r'] = 1 := by decide
          rw [returnPieces, pieceStart, pieceStart, ih (Nat.lt_of_succ_lt_succ inside),
            byteLength_append, returnLength]
          omega

/-- A position inside a line moves by one byte for every line in front. -/
theorem offsetOf_withReturns {text piece : List Char} {index column : Nat}
    (found : (split '\n' text)[index]? = some piece) (inside : column - 1 ≤ byteLength piece) :
    offsetOf (withReturns text) (index + 1) column = offsetOf text (index + 1) column + index := by
  obtain ⟨longer, foundLonger, isPrefix⟩ := getElem?_returnPieces found
  rw [← split_withReturns] at foundLonger
  have lengths := byteLength_le_of_prefix isPrefix
  have insideLonger := Nat.le_trans inside lengths
  rw [offsetOf_eq found inside, offsetOf_eq foundLonger insideLonger, split_withReturns,
    pieceStart_returnPieces (List.getElem?_eq_some_iff.mp found).1]
  omega

end Text

/-! ## Passes -/

/-- What a pass finds, one of its rules finds. -/
theorem exists_check_of_pass {doc : Document} {rules : List Rule} {context : Context}
    {finding : Finding} (found : (pass doc rules context).1 = some finding) :
    ∃ rule ∈ rules, ∃ before, (rule.check doc before).finding = some finding := by
  induction rules generalizing context with
  | nil => contradiction
  | cons rule rest ih =>
      cases checked : (rule.check doc context).finding with
      | some other =>
          rw [pass_cons_of_finding checked] at found
          exact ⟨rule, List.mem_cons_self, context, found⟩
      | none =>
          rw [pass_cons_of_clean checked] at found
          obtain ⟨later, member, before, foundThere⟩ := ih found
          exact ⟨later, List.mem_cons_of_mem rule member, before, foundThere⟩

/-- The document with a carriage return in front of every line feed. -/
def Document.withReturns (doc : Document) : Document :=
  doc.withContent (Text.withReturns doc.content.toList)

section

variable {doc : Document} (noReturn : '\r' ∉ doc.content.toList)

theorem Document.withReturns_readsAs (doc : Document) : doc.withReturns.ReadsAs doc :=
  Document.withContent_readsAs (Text.normalize_withReturns doc.content.toList)

theorem Document.content_withReturns (doc : Document) :
    doc.withReturns.content.toList = Text.withReturns doc.content.toList :=
  String.toList_ofList

include noReturn in
theorem Document.rawLines_withReturns : doc.withReturns.rawLines = doc.rawLines := by
  rw [Document.rawLines, Document.content_withReturns, Text.lines_withReturns noReturn,
    Document.rawLines]

attribute [local irreducible] Document.normalizedLines

include noReturn in
theorem Rule.check_withReturns {rule : Rule} (catalogued : rule ∈ all) (context : Context) :
    rule.check doc.withReturns context = rule.check doc context := by
  by_cases onBlanks : rule = trailingWhitespace
  · have sameLocated : Finding.located "trailing-whitespace" doc.withReturns = .located _ doc :=
      Finding.located_congr rfl _
    rw [onBlanks]
    simp only [trailingWhitespace, Document.rawLines_withReturns noReturn, sameLocated]
  · exact check_of_readsAs catalogued onBlanks doc.withReturns_readsAs context

/-- The offset of a position that exists moves by one byte for every physical line in front of it,
and not at all among the normalized lines. -/
theorem Finding.StandsIn.offset_withReturns {finding : Finding} (stands : finding.StandsIn doc) :
    (finding.diagnostic doc.withReturns).offset =
      (finding.diagnostic doc).offset +
        if finding.view = .raw then finding.location.line - 1 else 0 := by
  obtain ⟨linePos, lineLe, ⟨columnPos, columnLe⟩⟩ := stands
  simp only [Finding.diagnostic]
  cases view : finding.view with
  | normalized =>
      rw [Document.source, Document.source, doc.withReturns_readsAs.normalizedLines_eq]
      rfl
  | raw =>
      rw [view] at lineLe columnLe
      obtain ⟨piece, found, isPrefix⟩ :=
        doc.exists_piece .raw (show finding.location.line - 1 < _ by omega)
      have inside : finding.location.column - 1 ≤ Text.byteLength piece := by
        have shorter := Text.byteLength_le_of_prefix isPrefix
        omega
      have moved := Text.offsetOf_withReturns found inside
      rw [Nat.sub_add_cancel linePos] at moved
      rw [if_pos rfl, Document.source, doc.content_withReturns]
      exact moved

end

/-- A script without carriage returns and the same script with one in front of every line feed have
the same lines in both views.  Every pass finds the same in both and leaves the same context.  Over
the script with the carriage returns, a finding among the physical lines is shown further behind by
one byte for each line in front of it, and any other finding at the same place. -/
theorem line_endings_immaterial (doc : Document) (noReturn : '\r' ∉ doc.content.toList) :
    doc.withReturns.rawLines = doc.rawLines ∧
    doc.withReturns.normalizedLines = doc.normalizedLines ∧
    ∀ linter : Linter, (∀ rule ∈ linter.rules, rule ∈ Rule.all) → ∀ context : Context,
      (linter.run doc.withReturns context).finding = (linter.run doc context).finding ∧
      (linter.run doc.withReturns context).context = (linter.run doc context).context ∧
      ∀ finding, (linter.run doc context).finding = some finding →
        (finding.diagnostic doc.withReturns).offset =
          (finding.diagnostic doc).offset +
            if finding.view = .raw then finding.location.line - 1 else 0 := by
  refine ⟨doc.rawLines_withReturns noReturn, doc.withReturns_readsAs.normalizedLines_eq, ?_⟩
  intro linter catalogued context
  have same : linter.run doc.withReturns context = linter.run doc context :=
    Linter.run_congr doc.withReturns_readsAs.fileName_eq
      (fun rule member => Rule.check_withReturns noReturn (catalogued rule member)) context
  refine ⟨by rw [same], by rw [same], ?_⟩
  intro finding found
  have passed := (congrArg Prod.fst (linter.verdict_run doc context)).symm.trans found
  obtain ⟨rule, member, before, checked⟩ := exists_check_of_pass passed
  obtain ⟨view, isFrom, -⟩ :=
    Rule.isFrom_of_mem_all (Linter.active_catalogued catalogued rule member) checked
  exact isFrom.stands.offset_withReturns

theorem line_endings_immaterial_blank :
    let doc := Document.ofPath "f.psc" "Scriptname f\n\nFunction é() \nEndFunction\n"
    let finding : Finding :=
      { rule := "trailing-whitespace"
        location := ⟨"f.psc", 3, 14⟩
        message := "trailing whitespace error: at the end of the line"
        view := .raw }
    let linter : Linter := { rules := Rule.standard }
    '\r' ∉ doc.content.toList ∧
      doc.withReturns.content = "Scriptname f\r\n\r\nFunction é() \r\nEndFunction\r\n" ∧
      (linter.run doc .fresh).finding = some finding ∧
      (linter.run doc.withReturns .fresh).finding = some finding ∧
      (finding.diagnostic doc).offset = 27 ∧ (finding.diagnostic doc.withReturns).offset = 29 := by
  intro doc finding linter
  have noReturn : '\r' ∉ doc.content.toList := by decide +kernel
  have catalogued : ∀ rule ∈ linter.rules, rule ∈ Rule.all :=
    fun rule member => List.mem_append_left _ member
  have found : (linter.run doc .fresh).finding = some finding := by decide +kernel
  have offset : (finding.diagnostic doc).offset = 27 := by decide +kernel
  obtain ⟨-, -, passes⟩ := line_endings_immaterial doc noReturn
  obtain ⟨sameFinding, -, moves⟩ := passes linter catalogued .fresh
  exact ⟨noReturn, by decide +kernel, found, sameFinding.trans found, offset,
    (moves finding found).trans (by rw [offset]; rfl)⟩

end ScriptLint
