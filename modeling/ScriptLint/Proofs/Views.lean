import ScriptLint.Proofs.Pass
import ScriptLint.Proofs.Text.Lines

/-!
# What the rules see of a script

All rules but the one for stray blanks read a script through its names and its normalized lines, and
so does every pass made of them.  The normalized lines of a text are those of its parts, so that
lines without code can be put in between two lines, in front of the first or behind the last one,
and no such rule sees them.
-/

namespace ScriptLint

/-! ## Documents that are read alike -/

/-- The documents have the same names and the same normalized lines. -/
structure Document.ReadsAs (other doc : Document) : Prop where
  fileName_eq : other.fileName = doc.fileName
  scriptName_eq : other.scriptName = doc.scriptName
  normalizedLines_eq : other.normalizedLines = doc.normalizedLines

/-- The document with another content under its names. -/
def Document.withContent (doc : Document) (content : List Char) : Document :=
  { doc with content := String.ofList content }

theorem Document.withContent_readsAs {doc : Document} {content : List Char}
    (same : Text.normalize content = Text.normalize doc.content.toList) :
    (doc.withContent content).ReadsAs doc where
  fileName_eq := rfl
  scriptName_eq := rfl
  normalizedLines_eq := (congrArg Text.normalize String.toList_ofList).trans same

attribute [local irreducible] Document.normalizedLines

theorem Finding.located_congr {doc other : Document} (sameFile : other.fileName = doc.fileName)
    (rule : String) : Finding.located rule other = Finding.located rule doc := by
  funext line column message
  rw [Finding.located, Finding.located, sameFile]

namespace Rule

variable {doc other : Document}

theorem check_scriptName_of_readsAs (alike : other.ReadsAs doc) (context : Context) :
    scriptName.check other context = scriptName.check doc context := by
  have sameHeader : readHeader other = readHeader doc := by
    rw [readHeader, readHeader, alike.normalizedLines_eq, alike.scriptName_eq]
  cases read : readHeader doc with
  | error blame =>
      rw [scriptName_check_of_error read, scriptName_check_of_error (sameHeader.trans read),
        Finding.located_congr alike.fileName_eq]
  | ok header =>
      rw [scriptName_check_of_ok read, scriptName_check_of_ok (sameHeader.trans read),
        alike.fileName_eq]

/-- A rule other than the one for stray blanks does not tell documents apart that are read alike. -/
theorem check_of_readsAs {rule : Rule} (catalogued : rule ∈ all)
    (structural : rule ≠ trailingWhitespace) (alike : other.ReadsAs doc) (context : Context) :
    rule.check other context = rule.check doc context := by
  have sameLocated := Finding.located_congr alike.fileName_eq
  obtain rfl | rfl | rfl | ⟨kind, rfl⟩ := eq_of_mem_all catalogued
  · exact absurd rfl structural
  · simp only [property, alike.normalizedLines_eq, sameLocated]
  · exact check_scriptName_of_readsAs alike context
  · rw [kind.check_rule]
    simp only [Block.check, alike.normalizedLines_eq, alike.fileName_eq, sameLocated]

end Rule

/-- A pass over documents that its rules do not tell apart comes to the same outcome. -/
theorem Linter.run_congr {linter : Linter} {doc other : Document}
    (sameFile : other.fileName = doc.fileName)
    (same : ∀ rule ∈ linter.rules, ∀ context, rule.check other context = rule.check doc context)
    (context : Context) : linter.run other context = linter.run doc context := by
  obtain ⟨rules, excludes, settings⟩ := linter
  simp only [run]
  induction rules generalizing context with
  | nil => rfl
  | cons rule rest ih =>
      obtain ⟨sameFirst, sameRest⟩ := List.forall_mem_cons.mp same
      simp only [runRules, sameFirst, sameFile, fun context => ih context sameRest]

/-! ## Lines without code -/

namespace Text

/-- The line carries no code: it is blank, or it is a comment. -/
structure Silent (line : List Char) : Prop where
  unbroken : '\n' ∉ line
  silent : trim line = [] ∨ (trim line).head? = some ';'

/-- The second text is the first one with lines put in at a line boundary. -/
inductive Inserts (inserted : List (List Char)) : List Char → List Char → Prop where
  /-- The lines stand in front of the first line. -/
  | atStart (text : List Char) : Inserts inserted text (inserted.flatMap (· ++ ['\n']) ++ text)
  /-- The lines stand between two lines. -/
  | between (front back : List Char) :
      Inserts inserted (front ++ '\n' :: back)
        (front ++ '\n' :: (inserted.flatMap (· ++ ['\n']) ++ back))
  /-- The lines stand behind the last line. -/
  | atEnd (text : List Char) : Inserts inserted text (text ++ inserted.flatMap ('\n' :: ·))

/-- The normalized lines of a text are those of its parts. -/
theorem normalize_append (front back : List Char) :
    normalize (front ++ '\n' :: back) = normalize front ++ normalize back := by
  rw [normalize_eq, normalize_eq front, normalize_eq back, split, List.splitOn_append_cons_self,
    codeLines_append]

theorem isCode_iff {line : List Char} : isCode line = true ↔ line ≠ [] ∧ line.head? ≠ some ';' := by
  simp [isCode, commentMarker]

/-- The normalized lines are the trimmed physical lines without the empty ones and the comments. -/
theorem normalize_eq_lines (text : List Char) :
    normalize text =
      ((lines text).map trim).filter fun line => line ≠ [] ∧ line.head? ≠ some ';' := by
  have trimmed : normalize text = codeLines (lines text) := by
    rw [normalize_eq, lines, codeLines_linesOfPieces]
  rw [trimmed, codeLines]
  apply List.filter_congr
  intro line _
  rw [Bool.eq_iff_iff, isCode_iff, decide_eq_true_iff]

theorem normalize_of_silent {line : List Char} (silent : Silent line) : normalize line = [] := by
  have noCode : ¬isCode (trim line) = true := by
    rw [isCode_iff]
    rintro ⟨nonempty, noComment⟩
    exact silent.silent.elim nonempty noComment
  rw [normalize_eq, split, List.splitOn_eq_singleton silent.unbroken, codeLines, List.map_singleton,
    List.filter_cons_of_neg noCode, List.filter_nil]

theorem normalize_inserted_append {inserted : List (List Char)}
    (silent : ∀ line ∈ inserted, Silent line) (text : List Char) :
    normalize (inserted.flatMap (· ++ ['\n']) ++ text) = normalize text := by
  induction inserted with
  | nil => rfl
  | cons line inserted ih =>
      obtain ⟨first, others⟩ := List.forall_mem_cons.mp silent
      rw [List.flatMap_cons, List.append_assoc, List.append_assoc, List.singleton_append,
        normalize_append, normalize_of_silent first, List.nil_append, ih others]

theorem normalize_append_inserted {inserted : List (List Char)}
    (silent : ∀ line ∈ inserted, Silent line) (text : List Char) :
    normalize (text ++ inserted.flatMap ('\n' :: ·)) = normalize text := by
  induction inserted generalizing text with
  | nil => rw [List.flatMap_nil, List.append_nil]
  | cons line inserted ih =>
      obtain ⟨first, others⟩ := List.forall_mem_cons.mp silent
      rw [List.flatMap_cons, ← List.append_assoc, ih others, normalize_append,
        normalize_of_silent first, List.append_nil]

/-- Lines without code that are put in leave no trace in the normalized lines. -/
theorem Inserts.normalize_eq {inserted : List (List Char)} {text result : List Char}
    (inserts : Inserts inserted text result) (silent : ∀ line ∈ inserted, Silent line) :
    normalize result = normalize text := by
  cases inserts with
  | atStart => exact normalize_inserted_append silent text
  | between front back =>
      rw [normalize_append, normalize_append, normalize_inserted_append silent]
  | atEnd => exact normalize_append_inserted silent text

end Text

/-- The normalized lines of a text are those of its parts and come from its physical lines one by
one.  Lines without code that are put into a script at a line boundary therefore change neither the
finding nor the context of a rule other than the one for stray blanks, nor of a pass of such rules.
-/
theorem silent_lines_unseen :
    (∀ front back : List Char,
      Text.normalize (front ++ '\n' :: back) = Text.normalize front ++ Text.normalize back) ∧
    (∀ text : List Char, Text.normalize text =
      ((Text.lines text).map Text.trim).filter fun line => line ≠ [] ∧ line.head? ≠ some ';') ∧
    ∀ (doc : Document) (inserted : List (List Char)) (content : List Char),
      (∀ line ∈ inserted, Text.Silent line) →
      Text.Inserts inserted doc.content.toList content →
      ∀ context : Context,
        (∀ rule ∈ Rule.all, rule ≠ .trailingWhitespace →
          (rule.check (doc.withContent content) context).finding =
              (rule.check doc context).finding ∧
            (rule.check (doc.withContent content) context).context =
              (rule.check doc context).context) ∧
        ∀ linter : Linter, (∀ rule ∈ linter.rules, rule ∈ Rule.all ∧ rule ≠ .trailingWhitespace) →
          (linter.run (doc.withContent content) context).finding =
              (linter.run doc context).finding ∧
            (linter.run (doc.withContent content) context).context =
              (linter.run doc context).context := by
  refine ⟨Text.normalize_append, Text.normalize_eq_lines, ?_⟩
  intro doc inserted content silent inserts context
  have alike := Document.withContent_readsAs (inserts.normalize_eq silent)
  constructor
  · intro rule catalogued structural
    rw [Rule.check_of_readsAs catalogued structural alike]
    exact ⟨rfl, rfl⟩
  · intro linter structural
    have same := Linter.run_congr alike.fileName_eq
      (fun rule member =>
        Rule.check_of_readsAs (structural rule member).1 (structural rule member).2 alike) context
    rw [same]
    exact ⟨rfl, rfl⟩

theorem silent_lines_unseen_between :
    let doc := Document.ofPath "test.psc" "Scriptname test\n  if a\nendif\n"
    let inserted := ["\t ;if (\r".toList, "\u2003".toList]
    let content := "Scriptname test\n\t ;if (\r\n\u2003\n  if a\nendif\n".toList
    let linter : Linter := { rules := [.scriptName, .ifStatement] }
    (∀ line ∈ inserted, Text.Silent line) ∧ Text.Inserts inserted doc.content.toList content ∧
      (linter.run (doc.withContent content) .fresh).finding = (linter.run doc .fresh).finding ∧
      (linter.run (doc.withContent content) .fresh).context = (linter.run doc .fresh).context ∧
      (linter.run doc .fresh).context.claims.indices = [0, 1, 2] := by
  intro doc inserted content linter
  have silent : ∀ line ∈ inserted, Text.Silent line := by
    refine List.forall_mem_cons.mpr ⟨?_, List.forall_mem_singleton.mpr ?_⟩
    · exact ⟨by decide +kernel, Or.inr (by decide +kernel)⟩
    · exact ⟨by decide +kernel, Or.inl (by decide +kernel)⟩
  have inserts : Text.Inserts inserted doc.content.toList content := by
    convert Text.Inserts.between "Scriptname test".toList "  if a\nendif\n".toList using 1
    · decide +kernel
    · decide +kernel
  have structural : ∀ rule ∈ linter.rules, rule ∈ Rule.all ∧ rule ≠ .trailingWhitespace := by
    have named : ∀ rule : Rule, rule.name ≠ "trailing-whitespace" → rule ≠ .trailingWhitespace :=
      fun rule differs same => differs (congrArg Rule.name same)
    refine List.forall_mem_cons.mpr ⟨?_, List.forall_mem_singleton.mpr ?_⟩
    · exact ⟨by simp [Rule.all, Rule.standard], named _ (by decide)⟩
    · exact ⟨by simp [Rule.all, Rule.standard], named _ (by decide)⟩
  have unseen := (silent_lines_unseen.2.2 doc inserted content silent inserts .fresh).2 linter
    structural
  exact ⟨silent, inserts, unseen.1, unseen.2, by decide +kernel⟩

end ScriptLint
