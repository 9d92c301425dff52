import ScriptLint.Proofs.Views

/-!
# The normal form of a script

The normalized lines of a text are trimmed, carry code and have no line feed in them.  Every list of
such lines is the normalized view of some text, namely of the lines joined by line feeds.  What a
diagnostic shows for this view is therefore read as the lines that the rules have read, and a pass
over it comes to the verdict on the script itself.
-/

namespace ScriptLint
namespace Text

/-- The line is one of the normalized view: it is there, white space stands at neither end, it is no
comment, and it is one line. -/
structure IsNormal (line : List Char) : Prop where
  nonempty : line ≠ []
  starts : line.head?.any isSpace = false
  ends : line.getLast?.any isSpace = false
  noComment : line.head? ≠ some ';'
  unbroken : '\n' ∉ line

theorem stops_trim (text : List Char) : Stops isSpace (trim text) := by
  rw [← afterSpace_trimEnd]
  exact stops_dropWhile isSpace (trimEnd text)

theorem isNormal_of_mem_normalize {text line : List Char} (member : line ∈ normalize text) :
    IsNormal line := by
  obtain ⟨carriesCode, unbroken⟩ := of_mem_normalize member
  obtain ⟨nonempty, noComment⟩ := isCode_iff.mp carriesCode
  have starts : Stops isSpace line := by
    rw [normalize_eq, codeLines] at member
    obtain ⟨piece, -, rfl⟩ := List.mem_map.mp (List.mem_filter.mp member).1
    exact stops_trim piece
  exact ⟨nonempty, starts, getLast?_of_mem_normalize member, noComment, unbroken⟩

namespace IsNormal

variable {line : List Char}

theorem trim_eq (normal : IsNormal line) : trim line = line := by
  have front : line.dropWhile isSpace = line :=
    @dropWhile_append_stops isSpace [] line (List.forall_mem_nil _) normal.starts
  have back : dropEndWhile isSpace (line ++ []) = line :=
    dropEndWhile_append_run normal.ends (List.forall_mem_nil _)
  rw [List.append_nil] at back
  rw [trim, front, trimEnd, back]

/-- A normal line is all that the normalized view shows of it. -/
theorem normalize_eq (normal : IsNormal line) : normalize line = [line] := by
  have carriesCode := isCode_iff.mpr ⟨normal.nonempty, normal.noComment⟩
  rw [Text.normalize_eq, split, List.splitOn_eq_singleton normal.unbroken, codeLines,
    List.map_singleton, normal.trim_eq, List.filter_cons_of_pos carriesCode, List.filter_nil]

end IsNormal

/-- Normal lines joined by line feeds are their own normalized view. -/
theorem normalize_intercalate {lines : List (List Char)} (normal : ∀ line ∈ lines, IsNormal line) :
    normalize (List.intercalate ['\n'] lines) = lines := by
  induction lines with
  | nil => rfl
  | cons first lines ih =>
      obtain ⟨firstNormal, othersNormal⟩ := List.forall_mem_cons.mp normal
      cases lines with
      | nil => rw [List.intercalate_singleton, firstNormal.normalize_eq]
      | cons second lines =>
          rw [List.intercalate_cons_cons, List.append_assoc, List.singleton_append,
            normalize_append, firstNormal.normalize_eq, ih othersNormal, List.singleton_append]

end Text

/-- The text that is shown for the normalized lines has these normalized lines. -/
theorem Document.normalize_source (doc : Document) :
    Text.normalize (doc.source .normalized) = doc.normalizedLines :=
  Text.normalize_intercalate fun _ => Text.isNormal_of_mem_normalize

theorem Finding.normalize_shown {finding : Finding} (inView : finding.view = .normalized)
    (doc : Document) :
    Text.normalize (finding.diagnostic doc).source.toList = doc.normalizedLines := by
  rw [diagnostic, inView, String.toList_ofList, doc.normalize_source]

/-- What a diagnostic in the normalized view shows is read as the document, under its names. -/
theorem Document.readsAs_of_shown {doc shown : Document} {finding : Finding}
    (inView : finding.view = .normalized)
    (isShown : shown.content = (finding.diagnostic doc).source)
    (sameFile : shown.fileName = doc.fileName) (sameName : shown.scriptName = doc.scriptName) :
    shown.ReadsAs doc where
  fileName_eq := sameFile
  scriptName_eq := sameName
  normalizedLines_eq := by rw [normalizedLines, isShown, Finding.normalize_shown inView]

/-- Every normalized line is normal, and every list of normal lines is the normalized view of the
lines joined by line feeds.  The text that a diagnostic shows for the normalized view has therefore
the normalized lines of the document.  Under the names of the document, a pass of rules other than
the one for stray blanks finds the same in it and leaves the same context. -/
theorem normalized_view_exact :
    (∀ text : List Char, ∀ line ∈ Text.normalize text, Text.IsNormal line) ∧
    (∀ lines : List (List Char), (∀ line ∈ lines, Text.IsNormal line) →
      Text.normalize (List.intercalate ['\n'] lines) = lines) ∧
    ∀ (doc : Document) (finding : Finding), finding.view = .normalized →
      Text.normalize (finding.diagnostic doc).source.toList = doc.normalizedLines ∧
      ∀ shown : Document, shown.content = (finding.diagnostic doc).source →
        shown.fileName = doc.fileName → shown.scriptName = doc.scriptName →
        ∀ linter : Linter, (∀ rule ∈ linter.rules, rule ∈ Rule.all ∧ rule ≠ .trailingWhitespace) →
        ∀ context : Context,
          (linter.run shown context).finding = (linter.run doc context).finding ∧
            (linter.run shown context).context = (linter.run doc context).context := by
  refine ⟨fun text line => Text.isNormal_of_mem_normalize, fun lines => Text.normalize_intercalate,
    ?_⟩
  intro doc finding inView
  refine ⟨Finding.normalize_shown inView doc, ?_⟩
  intro shown isShown sameFile sameName linter structural context
  have alike := Document.readsAs_of_shown inView isShown sameFile sameName
  have same : linter.run shown context = linter.run doc context := by
    apply Linter.run_congr sameFile
    intro rule member
    exact Rule.check_of_readsAs (structural rule member).1 (structural rule member).2 alike
  rw [same]
  exact ⟨rfl, rfl⟩

/-- A carriage return, a vertical tab and a line separator stay where they stand inside a line. -/
theorem normalized_view_exact_separators :
    let lines := ["if a\rb".toList, "x\u000b;\u2028y".toList]
    let doc := Document.ofPath "t.psc" " Scriptname t\r\n;c\n\tif (a\u2028b \nendif\r\n"
    let finding : Finding :=
      { rule := "if-statement"
        location := ⟨"t.psc", 2, 8⟩
        message := "if error: missing close parenthesis" }
    let shown : Document := ⟨"", "t.psc", "t", "Scriptname t\nif (a\u2028b\nendif"⟩
    let linter : Linter := { rules := [.scriptName, .ifStatement] }
    (∀ line ∈ lines, Text.IsNormal line) ∧ Text.normalize (List.intercalate ['\n'] lines) = lines ∧
      finding.view = .normalized ∧ shown.content = (finding.diagnostic doc).source ∧
      (linter.run doc .fresh).finding = some finding ∧
      (linter.run shown .fresh).finding = some finding ∧
      (linter.run shown .fresh).context = (linter.run doc .fresh).context := by
  intro lines doc finding shown linter
  have normal : ∀ line ∈ lines, Text.IsNormal line := by
    refine List.forall_mem_cons.mpr ⟨?_, List.forall_mem_singleton.mpr ?_⟩
    · exact ⟨by decide, by decide, by decide, by decide, by decide⟩
    · exact ⟨by decide, by decide, by decide, by decide, by decide⟩
  have isShown : shown.content = (finding.diagnostic doc).source := by decide +kernel
  have structural : ∀ rule ∈ linter.rules, rule ∈ Rule.all ∧ rule ≠ .trailingWhitespace := by
    have named : ∀ rule : Rule, rule.name ≠ "trailing-whitespace" → rule ≠ .trailingWhitespace :=
      fun rule differs same => differs (congrArg Rule.name same)
    refine List.forall_mem_cons.mpr ⟨?_, List.forall_mem_singleton.mpr ?_⟩
    · exact ⟨by simp [Rule.all, Rule.standard], named _ (by decide)⟩
    · exact ⟨by simp [Rule.all, Rule.standard], named _ (by decide)⟩
  have found : (linter.run doc .fresh).finding = some finding := by decide +kernel
  obtain ⟨-, joined, passes⟩ := normalized_view_exact
  obtain ⟨sameFinding, sameContext⟩ :=
    (passes doc finding rfl).2 shown isShown (by decide +kernel) (by decide +kernel) linter
      structural .fresh
  exact ⟨normal, joined lines normal, rfl, isShown, found, sameFinding.trans found, sameContext⟩

end ScriptLint
