import ScriptLint.Proofs.Json.RoundTrip
import ScriptLint.Report.Json

/-!
# Findings and reports read back

A finding is read back from its JSON text as it was, whatever characters its texts hold, and so is a
report.  A finding without its view is read as one of the normalized view.  Two findings with one
text are the same.
-/

namespace ScriptLint

/-- The object without its members of this key; any other value as it is. -/
def Json.Value.without (key : String) : Value → Value
  | .object members => .object (members.filter fun member => member.1 ≠ some key)
  | value => value

theorem Json.Value.natural?_ofNat {natural : Nat} (fits : natural < limit) :
    (ofNat natural).natural? = some natural := by
  rw [ofNat, natural?, if_pos fits]

/-- The numbers of the location fit into a field. -/
structure Location.Fits (location : Location) : Prop where
  line : location.line < Json.Value.limit
  column : location.column < Json.Value.limit

/-- The numbers of the report fit into a field. -/
structure Report.Fits (report : Report) : Prop where
  filesChecked : report.filesChecked < Json.Value.limit
  findings : ∀ finding ∈ report.findings, finding.location.Fits

theorem LineView.ofJson?_name (view : LineView) : ofJson? (.ofString view.name) = some view := by
  cases view <;> decide +kernel

theorem Location.ofJson?_toJson {location : Location} (fits : location.Fits) :
    ofJson? location.toJson = some location := by
  have fields : location.toJson.fields? ["file", "line", "column"] =
      some [some (.ofString location.file), some (.ofNat location.line),
        some (.ofNat location.column)] := rfl
  simp only [ofJson?, fields, Json.Value.natural?_ofNat fits.line,
    Json.Value.natural?_ofNat fits.column]
  rfl

namespace Finding

theorem ofJson?_toJson {finding : Finding} (fits : finding.location.Fits) :
    ofJson? finding.toJson = some finding := by
  have fields : finding.toJson.fields? ["rule", "location", "message", "view"] =
      some [some (.ofString finding.rule), some finding.location.toJson,
        some (.ofString finding.message), some (.ofString finding.view.name)] := rfl
  simp only [ofJson?, fields, Location.ofJson?_toJson fits, Option.map_some, Option.getD_some,
    LineView.ofJson?_name]
  rfl

theorem ofJson?_without_view {finding : Finding} (fits : finding.location.Fits) :
    ofJson? (finding.toJson.without "view") = some { finding with view := .normalized } := by
  have fields : (finding.toJson.without "view").fields? ["rule", "location", "message", "view"] =
      some [some (.ofString finding.rule), some finding.location.toJson,
        some (.ofString finding.message), none] := rfl
  simp only [ofJson?, fields, Location.ofJson?_toJson fits]
  rfl

/-- The value of a finding says all of it. -/
theorem toJson_injective {finding other : Finding} (same : finding.toJson = other.toJson) :
    finding = other := by
  obtain ⟨rule, ⟨file, line, column⟩, message, view⟩ := finding
  obtain ⟨rule', ⟨file', line', column'⟩, message', view'⟩ := other
  simp only [toJson, Location.toJson, Json.Value.ofMembers, Json.Value.ofString, Json.Value.ofNat,
    List.map_cons, List.map_nil, Json.Value.object.injEq, Json.Value.string.injEq,
    Json.Value.number.injEq, List.cons.injEq, Prod.mk.injEq, Option.some.injEq, and_true,
    true_and] at same
  obtain ⟨rfl, ⟨rfl, rfl, rfl⟩, rfl, names⟩ := same
  have views : some view = some view' := by
    rw [← LineView.ofJson?_name, names, LineView.ofJson?_name]
  rw [Option.some.inj views]

end Finding

theorem Report.mapM_ofJson? {findings : List Finding}
    (fit : ∀ finding ∈ findings, finding.location.Fits) :
    (findings.map Finding.toJson).mapM Finding.ofJson? = some findings := by
  induction findings with
  | nil => rfl
  | cons finding rest ih =>
      obtain ⟨first, others⟩ := List.forall_mem_cons.mp fit
      rw [List.map_cons, List.mapM_cons, Finding.ofJson?_toJson first, ih others]
      rfl

theorem Report.ofJson?_toJson {report : Report} (fits : report.Fits) :
    ofJson? report.toJson = some report := by
  have fields : report.toJson.fields? ["findings", "files_checked"] =
      some [some (.array (report.findings.map Finding.toJson)),
        some (.ofNat report.filesChecked)] := rfl
  simp only [ofJson?, fields, Json.Value.items?, Option.bind_eq_bind, Option.bind_some,
    mapM_ofJson? fits.findings, Json.Value.natural?_ofNat fits.filesChecked]

/-- Findings and reports are read back from their text in either layout, and findings with one text
are the same. -/
theorem json_read_back (layout : Json.Layout) :
    (∀ finding : Finding, finding.location.Fits →
      Finding.parse? (finding.toJson.text layout) = some finding ∧
      Finding.parse? ((finding.toJson.without "view").text layout) =
        some { finding with view := .normalized }) ∧
    (∀ report : Report, report.Fits →
      Report.parse? (report.toJson.text layout) = some report) ∧
    (∀ finding other : Finding,
      finding.toJson.text layout = other.toJson.text layout → finding = other) := by
  refine ⟨?_, ?_, ?_⟩
  · intro finding fits
    constructor
    · rw [Finding.parse?, Json.parse?_text, Option.bind_some, Finding.ofJson?_toJson fits]
    · rw [Finding.parse?, Json.parse?_text, Option.bind_some, Finding.ofJson?_without_view fits]
  · intro report fits
    rw [Report.parse?, Json.parse?_text, Option.bind_some, Report.ofJson?_toJson fits]
  · intro finding other same
    exact Finding.toJson_injective (Json.text_injective same)

theorem json_read_back_control :
    let finding : Finding :=
      { rule := "r\"\\\x00\x1f\x7f"
        location := ⟨"é/😀.psc", 18446744073709551615, 0⟩
        message := "line\nbreak\ttab"
        view := .raw }
    let report : Report := { findings := [finding, finding], filesChecked := 18446744073709551615 }
    finding.location.Fits ∧ report.Fits ∧
      Finding.parse? (finding.toJson.text .compact) = some finding ∧
      Finding.parse? ((finding.toJson.without "view").text .compact) =
        some { finding with view := .normalized } ∧
      Report.parse? (report.toJson.text .compact) = some report := by
  intro finding report
  have fits : finding.location.Fits := ⟨by decide, by decide⟩
  have reportFits : report.Fits := by
    refine ⟨by decide, ?_⟩
    intro other member
    simp only [report, List.mem_cons, List.not_mem_nil, or_false, or_self] at member
    exact member ▸ fits
  obtain ⟨findings, reports, -⟩ := json_read_back .compact
  obtain ⟨readsBack, withoutView⟩ := findings finding fits
  exact ⟨fits, reportFits, readsBack, withoutView, reports report reportFits⟩

end ScriptLint
