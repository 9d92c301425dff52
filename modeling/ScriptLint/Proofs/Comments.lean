import Mathlib.Data.List.Forall2
import ScriptLint.Proofs.Block.Pairing
import ScriptLint.Proofs.Comments.Header
import ScriptLint.Proofs.Comments.Property
import ScriptLint.Proofs.Comments.Test

/-!
# Comments behind a line of a script

Only lines that are comments as a whole are left out of the normalized lines.  A comment behind code
reaches the rules, and each of them passes over it as far as its own reader does.  For the header,
the properties and the tests, the lines and comments are characterised for which no script makes the
rule say something else with the comment than without it.
-/

namespace ScriptLint

open Text

/-! ## Scripts with a comment -/

namespace Text

/-- A line that is normalized has no line feed in it, is trimmed and carries code. -/
theorem of_normalized {line : List Char} (normalized : normalize line = [line]) :
    '\n' ∉ line ∧ trim line = line ∧ isCode line = true := by
  have member : line ∈ normalize line := normalized ▸ List.mem_singleton_self line
  obtain ⟨carriesCode, unbroken⟩ := of_mem_normalize member
  rw [normalize_eq, split, List.splitOn_eq_singleton unbroken] at member
  have trimmed : line ∈ [trim line] := (List.mem_filter.mp member).1
  exact ⟨unbroken, (List.mem_singleton.mp trimmed).symm, carriesCode⟩

/-- Behind a normalized line only the end of a comment is trimmed. -/
theorem trim_append_remark {line : List Char} (normalized : normalize line = [line])
    (comment : List Char) : trim (line ++ remark comment) = line ++ remark (trimEnd comment) := by
  obtain ⟨-, trimmed, carriesCode⟩ := of_normalized normalized
  have solid : afterSpace line = line := by
    rw [← trimmed, ← afterSpace_trimEnd]
    exact List.dropWhile_idempotent isSpace _
  have nonempty : afterSpace line ≠ [] := by
    rw [solid]
    exact ne_nil_of_isCode carriesCode
  have behindMarker := trimEnd_append (by decide : isSpace ';' = false) (line ++ [' ']) comment
  calc trim (line ++ remark comment)
      = trimEnd (afterSpace (line ++ remark comment)) := rfl
    _ = trimEnd (line ++ remark comment) := by
        rw [afterSpace_append_remark comment nonempty, solid]
    _ = line ++ remark (trimEnd comment) := by
        simpa only [remark, List.append_assoc, List.singleton_append, List.cons_append,
          List.nil_append] using behindMarker

theorem codeLines_append_remark {line written comment : List Char}
    (normalized : normalize line = [line]) (same : trim written = trim (line ++ remark comment)) :
    codeLines [written] = [line ++ remark (trimEnd comment)] := by
  have carriesCode := (of_normalized normalized).2.2
  have stillCode : isCode (line ++ remark (trimEnd comment)) = true := by
    obtain ⟨c, rest, rfl⟩ := List.exists_cons_of_ne_nil (ne_nil_of_isCode carriesCode)
    exact carriesCode
  rw [codeLines, List.map_singleton, same, trim_append_remark normalized]
  exact List.filter_cons_of_pos stillCode

end Text

namespace Document

/-- The first document is the second one with a comment behind a line. -/
structure Annotates (other doc : Document) (line comment : List Char) : Prop where
  scriptName_eq : other.scriptName = doc.scriptName
  replaced : ∃ before piece written after,
    split '\n' doc.content.toList = before ++ piece :: after ∧ trim piece = line ∧
      split '\n' other.content.toList = before ++ written :: after ∧
        trim written = trim (line ++ remark comment)

/-- The comment reaches the normalized lines, but for blanks at its end. -/
theorem Annotates.normalizedLines {other doc : Document} {line comment : List Char}
    (annotates : other.Annotates doc line comment) (normalized : normalize line = [line]) :
    ∃ before after, doc.normalizedLines = before ++ line :: after ∧
      other.normalizedLines = before ++ (line ++ remark (trimEnd comment)) :: after := by
  obtain ⟨before, piece, written, after, split, rfl, splitOther, same⟩ := annotates.replaced
  have carriesCode := (of_normalized normalized).2.2
  refine ⟨codeLines before, codeLines after, ?_, ?_⟩
  · have codePiece : codeLines [piece] = [trim piece] := List.filter_cons_of_pos carriesCode
    rw [Document.normalizedLines, normalize_eq, split, codeLines_append, codeLines_cons, codePiece,
      List.singleton_append]
  · rw [Document.normalizedLines, normalize_eq, splitOther, codeLines_append, codeLines_cons,
      codeLines_append_remark normalized same, List.singleton_append]

/-- The script of a single line. -/
def ofLine (line : List Char) : Document := ⟨"", "", "", String.ofList line⟩

theorem normalizedLines_ofLine (line : List Char) :
    (ofLine line).normalizedLines = normalize line := by
  rw [Document.normalizedLines, ofLine, String.toList_ofList]

section

variable {line comment : List Char} (normalized : normalize line = [line])
  (unbroken : '\n' ∉ comment)
include normalized unbroken

theorem split_ofLine_append_remark :
    split '\n' (ofLine (line ++ remark comment)).content.toList = [line ++ remark comment] := by
  rw [ofLine, String.toList_ofList]
  apply List.splitOn_eq_singleton
  simp [remark, unbroken, (of_normalized normalized).1]

theorem annotates_ofLine :
    (ofLine (line ++ remark comment)).Annotates (ofLine line) line comment where
  scriptName_eq := rfl
  replaced := by
    obtain ⟨lineUnbroken, trimmed, -⟩ := of_normalized normalized
    refine ⟨[], line, line ++ remark comment, [], ?_, trimmed, ?_, rfl⟩
    · rw [ofLine, String.toList_ofList, split, List.splitOn_eq_singleton lineUnbroken,
        List.nil_append]
    · exact split_ofLine_append_remark normalized unbroken

theorem normalizedLines_ofLine_append_remark :
    (ofLine (line ++ remark comment)).normalizedLines = [line ++ remark (trimEnd comment)] := by
  rw [Document.normalizedLines, normalize_eq, split_ofLine_append_remark normalized unbroken,
    codeLines_append_remark normalized rfl]

end

end Document

attribute [local irreducible] Document.normalizedLines

/-! ## What a rule says -/

namespace Rule

/-- The message of what a rule finds in a fresh context, if it finds something. -/
def complaint? (rule : Rule) (doc : Document) : Option String :=
  (rule.check doc .fresh).finding.map (·.message)

theorem complaint?_scriptName (doc : Document) :
    scriptName.complaint? doc =
      (Header.fault? (readHeader doc)).map fun fault =>
        s!"{Header.keyword} error: {fault.message}" := by
  cases read : readHeader doc with
  | error blame => rw [complaint?, scriptName_check_of_error read]; rfl
  | ok header => rw [complaint?, scriptName_check_of_ok read]; rfl

theorem complaint?_property (doc : Document) :
    property.complaint? doc = doc.normalizedLines.findSome? Property.message? := by
  have byLine : property.complaint? doc =
      doc.normalizedLines.zipIdx.findSome? (Property.message? ∘ Prod.fst) := by
    rw [complaint?, property]
    simp only [Outcome.ofFirstFault, List.map_findSome?, Option.map_map, Finding.located,
      Function.comp_def, Option.map_id']
  rw [byLine, ← List.findSome?_map, List.zipIdx_map_fst]

end Rule

/-! ## Blocks -/

namespace Block

/-- The rule of the family tells the lines apart by nothing but the blamed column. -/
structure Kind.ReadsAs (kind : Kind) (other line : List Char) : Prop where
  verdict_eq : (kind.readOpener? other).map Opener.verdict =
    (kind.readOpener? line).map Opener.verdict
  isCloser_eq : kind.isCloser other = kind.isCloser line

theorem Kind.ReadsAs.refl (kind : Kind) (line : List Char) : kind.ReadsAs line line :=
  ⟨rfl, rfl⟩

/-- A faulty opener without the blamed column. -/
def FaultyOpening.verdict (faulty : FaultyOpening) : Nat × String × Fault :=
  (faulty.index, faulty.label, faulty.fault)

theorem mapError_map {ε δ α β : Type} (f : ε → δ) (g : α → β) (result : Except ε α) :
    (result.map g).mapError f = (result.mapError f).map g := by
  cases result <;> rfl

/-- Lines that are read alike have the same openers, or the same one among them is faulty. -/
theorem openings_of_readsAs {kind : Kind} {others lines : List (List Char)}
    (alike : List.Forall₂ kind.ReadsAs others lines) (claims : ClaimSet) (start : Nat) :
    (openings kind claims start others).mapError FaultyOpening.verdict =
      (openings kind claims start lines).mapError FaultyOpening.verdict := by
  induction alike generalizing start with
  | nil => rfl
  | @cons other line others lines first alike ih =>
      have later := ih (start + 1)
      have sameVerdict := first.verdict_eq
      rw [openings_cons, openings_cons]
      split_ifs
      · exact later
      · cases readOther : kind.readOpener? other <;> cases read : kind.readOpener? line
        case none.none => exact later
        case none.some | some.none => simp [readOther, read] at sameVerdict
        case some.some opener reading =>
          rw [readOther, read, Option.map_some, Option.map_some, Option.some.injEq] at sameVerdict
          cases opener <;> cases reading <;>
            obtain ⟨rfl, sameFault⟩ := Prod.mk.inj sameVerdict
          case valid.valid => rw [mapError_map, mapError_map, later]
          case valid.invalid | invalid.valid => contradiction
          case invalid.invalid =>
            obtain rfl := Option.some.inj sameFault
            rfl

theorem closers_of_readsAs {kind : Kind} {others lines : List (List Char)}
    (alike : List.Forall₂ kind.ReadsAs others lines) (claims : ClaimSet) (start : Nat) :
    closers kind claims start others = closers kind claims start lines := by
  induction alike generalizing start with
  | nil => rfl
  | cons first alike ih => rw [closers, closers, first.isCloser_eq, ih]

/-- The rule of a family says the same of lines that it reads alike. -/
theorem complaint?_of_readsAs {kind : Kind} {other doc : Document}
    (alike : List.Forall₂ kind.ReadsAs other.normalizedLines doc.normalizedLines) :
    kind.rule.complaint? other = kind.rule.complaint? doc := by
  have sameClosers := closers_of_readsAs alike Context.fresh.claims 0
  have sameOpenings := openings_of_readsAs alike Context.fresh.claims 0
  rw [Rule.complaint?, Rule.complaint?, kind.check_rule]
  cases collectedOther : openings kind Context.fresh.claims 0 other.normalizedLines <;>
    cases collected : openings kind Context.fresh.claims 0 doc.normalizedLines <;>
    rw [collectedOther, collected] at sameOpenings
  case error.ok | ok.error => contradiction
  case error.error faultyOther faulty =>
    obtain ⟨-, sameReading⟩ := Prod.mk.inj (Except.error.inj sameOpenings)
    obtain ⟨sameLabel, sameFault⟩ := Prod.mk.inj sameReading
    simp only [check_of_error collectedOther, check_of_error collected, sameLabel, sameFault,
      Option.map_some, Finding.located]
  case ok.ok opened reopened =>
    obtain rfl := Except.ok.inj sameOpenings
    simp only [check_of_ok collectedOther, check_of_ok collected, sameClosers, Option.map_map,
      Finding.located, Function.comp_def]

/-! ### Scripts of a single line -/

/-- What is said of an opener that has no closer. -/
def Opener.complaint (kind : Kind) : Opener → String
  | .valid label => kind.unclosedMessage label
  | .invalid label _ fault => faultMessage label fault

theorem complaint?_of_single {kind : Kind} {doc : Document} {line : List Char}
    (single : doc.normalizedLines = [line]) :
    kind.rule.complaint? doc = (kind.readOpener? line).map (Opener.complaint kind) := by
  have noCloser : (closers kind Context.fresh.claims 0 [line]).dropWhile (· ≤ 0) = [] := by
    rw [closers, closers]
    split_ifs <;> rfl
  have unclaimed : 0 ∉ Context.fresh.claims := ClaimSet.not_mem_empty 0
  have collected := openings_cons kind Context.fresh.claims 0 line []
  rw [if_neg unclaimed, ← single] at collected
  rw [Rule.complaint?, kind.check_rule]
  cases read : kind.readOpener? line with
  | none =>
      rw [read] at collected
      rw [check_of_ok collected]
      rfl
  | some opener =>
      cases opener with
      | valid label =>
          rw [read] at collected
          rw [check_of_ok collected]
          have unmatched :
              unmatched? [⟨0, label⟩] (closers kind Context.fresh.claims 0 [line]) =
                some ⟨0, label⟩ := unmatched?_of_none noCloser
          simp only [single, unmatched]
          rfl
      | invalid label column fault =>
          rw [read] at collected
          rw [check_of_error collected]
          rfl

theorem Fault.head?_message_extraneous (operators : String) :
    (Fault.extraneous operators).message.toList.head? = some 'e' := by
  simp only [Fault.message, String.toList_append]
  rfl

theorem Fault.message_injective : Function.Injective Fault.message := by
  intro fault other same
  have heads : fault.message.toList.head? = other.message.toList.head? := by rw [same]
  cases fault <;> cases other
  case extraneous.extraneous operators others =>
    have texts := congrArg String.toList same
    simp only [Fault.message, String.toList_append, List.append_cancel_left_eq] at texts
    exact congrArg Fault.extraneous (String.toList_injective texts)
  case extraneous.missingName | extraneous.missingOpenParenthesis
      | extraneous.missingCloseParenthesis | extraneous.trailingComma =>
    rw [head?_message_extraneous] at heads
    exact absurd heads (by decide)
  case missingName.extraneous | missingOpenParenthesis.extraneous
      | missingCloseParenthesis.extraneous | trailingComma.extraneous =>
    rw [head?_message_extraneous] at heads
    exact absurd heads (by decide)
  case missingName.missingName | missingOpenParenthesis.missingOpenParenthesis
      | missingCloseParenthesis.missingCloseParenthesis | trailingComma.trailingComma => rfl
  all_goals exact absurd same (by decide)

section

variable {kind : Kind} (carriesTest : kind = .ifTest ∨ kind = .whileLoop)
include carriesTest

/-- A faulty opener is not taken for one that is never closed. -/
theorem unclosedMessage_ne_faultMessage (label : String) (fault : Fault) :
    kind.unclosedMessage label ≠ faultMessage label fault := by
  intro same
  have texts := congrArg String.toList same
  obtain rfl | rfl := carriesTest <;>
    simp only [Kind.unclosedMessage, faultMessage, String.toList_append, List.append_assoc,
      List.append_cancel_left_eq] at texts
  all_goals
    have seconds : some 'i' = some 'e' := congrArg (·[1]?) texts
    exact absurd seconds (by decide)

theorem Opener.verdict_eq_of_complaint {opener other : Opener}
    (sameLabel : opener.verdict.1 = other.verdict.1)
    (same : opener.complaint kind = other.complaint kind) : opener.verdict = other.verdict := by
  cases opener <;> cases other <;> simp only [verdict] at sameLabel <;> subst sameLabel
  case valid.valid => rfl
  case valid.invalid => exact absurd same (unclosedMessage_ne_faultMessage carriesTest _ _)
  case invalid.valid => exact absurd same.symm (unclosedMessage_ne_faultMessage carriesTest _ _)
  case invalid.invalid =>
    have texts := congrArg String.toList same
    simp only [Opener.complaint, faultMessage, String.toList_append,
      List.append_cancel_left_eq] at texts
    rw [Opener.verdict, Opener.verdict, Fault.message_injective (String.toList_injective texts)]

theorem label_of_read {line : List Char} {opener : Opener}
    (read : kind.readOpener? line = some opener) : opener.verdict.1 = kind.opening := by
  rw [readOpener?_eq_readTest? carriesTest, readTest?, Option.map_eq_some_iff] at read
  obtain ⟨test, -, rfl⟩ := read
  rw [Test.verdict_judge, String.ofList_toList]

theorem verdict_eq_of_complaint {other line : List Char}
    (same : (kind.readOpener? other).map (Opener.complaint kind) =
      (kind.readOpener? line).map (Opener.complaint kind)) :
    (kind.readOpener? other).map Opener.verdict = (kind.readOpener? line).map Opener.verdict := by
  cases readOther : kind.readOpener? other <;> cases read : kind.readOpener? line <;>
    rw [readOther, read] at same
  case none.some | some.none => contradiction
  case some.some opener reading =>
    have sameLabel : opener.verdict.1 = reading.verdict.1 :=
      (label_of_read carriesTest readOther).trans (label_of_read carriesTest read).symm
    rw [Option.map_some, Option.map_some,
      Opener.verdict_eq_of_complaint carriesTest sameLabel (Option.some.inj same)]

/-- A comment makes no closer of a line, nor does it unmake one. -/
theorem isCloser_append_remark (line comment : List Char) :
    kind.isCloser (line ++ remark comment) = kind.isCloser line := by
  have noMarker : ';' ∉ kind.closing.toList := by obtain rfl | rfl := carriesTest <;> decide
  have ends : kind.closing.toList.getLast? ≠ some ' ' := by
    obtain rfl | rfl := carriesTest <;> decide
  have byFront (text : List Char) :
      kind.isCloser text = (kind.closing.toList.isPrefixOf? text).isSome := by
    rw [List.isSome_isPrefixOf?_eq_isPrefixOf]
    obtain rfl | rfl := carriesTest <;> rfl
  rw [byFront, byFront, isPrefixOf?_append_remark noMarker ends, Option.isSome_map]

theorem verdict_readOpener?_append_remark_iff (line comment : List Char) :
    (kind.readOpener? (line ++ remark comment)).map Opener.verdict =
        (kind.readOpener? line).map Opener.verdict ↔
      ∀ test, afterKeyword? kind.opening.toList line = some test → PassesOver test comment := by
  rw [readOpener?_eq_readTest? carriesTest, readOpener?_eq_readTest? carriesTest]
  apply verdict_append_remark_iff
  · obtain rfl | rfl := carriesTest <;> decide
  · obtain rfl | rfl := carriesTest <;> decide

end

end Block

/-! ## Comments that make no difference -/

namespace Rule

/-- Whatever script the line stands in, the rule says the same with the comment behind the line. -/
def Ignores (rule : Rule) (line comment : List Char) : Prop :=
  ∀ doc other : Document, other.Annotates doc line comment →
    rule.complaint? other = rule.complaint? doc

theorem readHeader_of_cons {doc : Document} {line : List Char} {rest : List (List Char)}
    (lines : doc.normalizedLines = line :: rest) :
    readHeader doc = Header.read doc.scriptName line := by
  rw [readHeader, lines]

section

variable {line comment : List Char} (normalized : normalize line = [line])
  (unbroken : '\n' ∉ comment)
include normalized unbroken

theorem ignores_scriptName_iff (noMarker : ';' ∉ line) :
    scriptName.Ignores line comment ↔ line ≠ Header.keyword.toList := by
  constructor
  · rintro ignores rfl
    have same := ignores _ _ (Document.annotates_ofLine normalized unbroken)
    rw [complaint?_scriptName, complaint?_scriptName,
      readHeader_of_cons ((Document.normalizedLines_ofLine _).trans normalized),
      readHeader_of_cons
        (Document.normalizedLines_ofLine_append_remark normalized unbroken)] at same
    -- The space in front of the comment is the one that is missing behind the keyword alone.
    have different : s!"{Header.keyword} error: {Header.Fault.missingName.message}" ≠
        s!"{Header.keyword} error: {Header.Fault.missingSpace.message}" := by decide
    exact different (Option.some.inj same)
  · intro differs doc other annotates
    obtain ⟨before, after, lines, otherLines⟩ := annotates.normalizedLines normalized
    rw [complaint?_scriptName, complaint?_scriptName]
    cases before with
    | nil =>
        rw [readHeader_of_cons lines, readHeader_of_cons otherLines, annotates.scriptName_eq,
          (Header.fault?_read_append_remark _ noMarker _).mpr differs]
    | cons first before =>
        rw [readHeader_of_cons lines, readHeader_of_cons otherLines, annotates.scriptName_eq]

theorem ignores_property_iff :
    property.Ignores line comment ↔
      ¬Property.Flagged line ∧ ¬Property.Flagged (line ++ remark (trimEnd comment)) := by
  rw [← Property.message?_append_remark_iff]
  constructor
  · intro ignores
    have same := ignores _ _ (Document.annotates_ofLine normalized unbroken)
    rw [complaint?_property, complaint?_property,
      Document.normalizedLines_ofLine_append_remark normalized unbroken,
      Document.normalizedLines_ofLine, normalized] at same
    simpa only [List.findSome?_singleton] using same
  · intro same doc other annotates
    obtain ⟨before, after, lines, otherLines⟩ := annotates.normalizedLines normalized
    rw [complaint?_property, complaint?_property, lines, otherLines, List.findSome?_append,
      List.findSome?_append, List.findSome?_cons, List.findSome?_cons, same]

theorem ignores_rule_iff {kind : Block.Kind} (carriesTest : kind = .ifTest ∨ kind = .whileLoop) :
    kind.rule.Ignores line comment ↔
      ∀ test, afterKeyword? kind.opening.toList line = some test →
        Block.PassesOver test (trimEnd comment) := by
  rw [← Block.verdict_readOpener?_append_remark_iff carriesTest]
  constructor
  · intro ignores
    have same := ignores _ _ (Document.annotates_ofLine normalized unbroken)
    rw [Block.complaint?_of_single
        (Document.normalizedLines_ofLine_append_remark normalized unbroken),
      Block.complaint?_of_single ((Document.normalizedLines_ofLine _).trans normalized)] at same
    exact Block.verdict_eq_of_complaint carriesTest same
  · intro sameVerdict doc other annotates
    obtain ⟨before, after, lines, otherLines⟩ := annotates.normalizedLines normalized
    apply Block.complaint?_of_readsAs
    rw [lines, otherLines]
    have same (lines : List (List Char)) : List.Forall₂ kind.ReadsAs lines lines :=
      List.forall₂_same.mpr fun line _ => .refl kind line
    exact List.rel_append (same before)
      (.cons ⟨sameVerdict, Block.isCloser_append_remark carriesTest _ _⟩ (same after))

end

end Rule

/-- The comments that the rules pass over behind a line without one.  The header rule passes over
every comment but the one directly behind the keyword.  The rule for properties passes over comments
behind the lines whose flags it does not see anyway.  The rules for tests pass over the comments
that the test does not run into, or whose operators and parentheses make no difference to it. -/
theorem ignored_comments {line comment : List Char} (normalized : normalize line = [line])
    (noMarker : ';' ∉ line) (unbroken : '\n' ∉ comment) :
    (Rule.scriptName.Ignores line comment ↔ line ≠ "Scriptname".toList) ∧
      (Rule.property.Ignores line comment ↔
        ¬Property.Flagged line ∧ ¬Property.Flagged (line ++ remark (trimEnd comment))) ∧
      (Rule.ifStatement.Ignores line comment ↔
        ∀ test, afterKeyword? "if".toList line = some test →
          Block.PassesOver test (trimEnd comment)) ∧
      (Rule.whileLoop.Ignores line comment ↔
        ∀ test, afterKeyword? "while".toList line = some test →
          Block.PassesOver test (trimEnd comment)) := by
  have onTests (kind : Block.Kind) (carriesTest : kind = .ifTest ∨ kind = .whileLoop) :=
    Rule.ignores_rule_iff normalized unbroken carriesTest
  exact ⟨Rule.ignores_scriptName_iff normalized unbroken noMarker,
    Rule.ignores_property_iff normalized unbroken, onTests .ifTest (.inl rfl),
    onTests .whileLoop (.inr rfl)⟩

/-- Behind a test with a call all four rules pass over a comment with operators, quotes and
parentheses. -/
theorem ignored_comments_call :
    let line := "if ready()".toList
    let comment := " was: (a - \"b\") || c".toList
    normalize line = [line] ∧ ';' ∉ line ∧ '\n' ∉ comment ∧
      Rule.scriptName.Ignores line comment ∧ Rule.property.Ignores line comment ∧
        Rule.ifStatement.Ignores line comment ∧ Rule.whileLoop.Ignores line comment := by
  intro line comment
  have normalized : normalize line = [line] := by decide +kernel
  have noMarker : ';' ∉ line := by decide
  have unbroken : '\n' ∉ comment := by decide
  have unread : Property.read? line = none := by decide +kernel
  have unreadBehind : Property.read? (line ++ remark (trimEnd comment)) = none := by decide +kernel
  have ignored := ignored_comments normalized noMarker unbroken
  have unflagged := Property.not_flagged_of_unread unread
  have unflaggedBehind := Property.not_flagged_of_unread unreadBehind
  refine ⟨normalized, noMarker, unbroken, ignored.1.mpr (by decide),
    ignored.2.1.mpr ⟨unflagged, unflaggedBehind⟩, ignored.2.2.1.mpr ?_, ignored.2.2.2.mpr ?_⟩
  · intro test read
    have isCall : afterKeyword? "if".toList line = some " ready()".toList := by decide +kernel
    rw [isCall] at read
    obtain rfl := Option.some.inj read
    exact .inl (by decide +kernel)
  · intro test read
    have other : afterKeyword? "while".toList line = none := by decide +kernel
    rw [other] at read
    contradiction

/-- A comment takes the flags from a property, and a test takes an operator from a comment. -/
theorem comments_are_read :
    let script (content : String) := Document.ofPath "test.psc" content
    ((script "int Property P Auto ;c").Annotates (script "int Property P Auto")
        "int Property P Auto".toList "c".toList ∧
      Rule.property.complaint? (script "int Property P Auto") = none ∧
      Rule.property.complaint? (script "int Property P Auto ;c") =
        some "int P property error: missing flag") ∧
    ((script "if a ;b-c\nendif").Annotates (script "if a\nendif") "if a".toList
        "b-c".toList ∧
      Rule.ifStatement.complaint? (script "if a\nendif") = none ∧
      Rule.ifStatement.complaint? (script "if a ;b-c\nendif") =
        some "if error: extraneous -") := by
  intro script
  refine
    ⟨⟨⟨rfl, [], "int Property P Auto".toList, "int Property P Auto ;c".toList, [], ?_⟩, ?_, ?_⟩,
      ⟨⟨rfl, [], "if a".toList, "if a ;b-c".toList, ["endif".toList], ?_⟩, ?_, ?_⟩⟩
  all_goals decide +kernel

end ScriptLint
