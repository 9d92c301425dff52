import ScriptLint.Header
import ScriptLint.Json.Parser
import ScriptLint.Json.Printer
import ScriptLint.Report

/-!
# Findings and reports as JSON

Findings, reports and headers are objects with their fields in a fixed order.  A value is also read
from an array of its fields.  Numbers are below `2 ^ 64`; only the view of a finding and the parent
of a header may be missing.
-/

namespace ScriptLint

namespace LineView

/-- The name of the view. -/
def name : LineView → String
  | .normalized => "normalized"
  | .raw => "raw"

/-- The view of this name. -/
def ofName? (name : String) : Option LineView :=
  if name = "normalized" then some .normalized
  else if name = "raw" then some .raw
  else none

/-- The view that a value names. -/
def ofJson? (value : Json.Value) : Option LineView := value.constant?.bind ofName?

end LineView

namespace Location

/-- The location as a value. -/
def toJson (location : Location) : Json.Value :=
  .ofMembers
    [("file", .ofString location.file),
     ("line", .ofNat location.line),
     ("column", .ofNat location.column)]

/-- The location that a value describes. -/
def ofJson? (value : Json.Value) : Option Location :=
  match value.fields? ["file", "line", "column"] with
  | some [some file, some line, some column] => do
      some
        { file := ← file.string?
          line := ← line.natural?
          column := ← column.natural? }
  | _ => none

end Location

namespace Finding

/-- The finding as a value. -/
def toJson (finding : Finding) : Json.Value :=
  .ofMembers
    [("rule", .ofString finding.rule),
     ("location", finding.location.toJson),
     ("message", .ofString finding.message),
     ("view", .ofString finding.view.name)]

/-- The finding that a value describes. -/
def ofJson? (value : Json.Value) : Option Finding :=
  match value.fields? ["rule", "location", "message", "view"] with
  | some [some rule, some location, some message, view] => do
      some
        { rule := ← rule.string?
          location := ← Location.ofJson? location
          message := ← message.string?
          view := ← (view.map LineView.ofJson?).getD (some .normalized) }
  | _ => none

/-- Read a finding. -/
def parse? (text : String) : Option Finding := (Json.parse? text).bind ofJson?

end Finding

namespace Report

/-- The report as a value. -/
def toJson (report : Report) : Json.Value :=
  .ofMembers
    [("findings", .array (report.findings.map Finding.toJson)),
     ("files_checked", .ofNat report.filesChecked)]

/-- The report that a value describes. -/
def ofJson? (value : Json.Value) : Option Report :=
  match value.fields? ["findings", "files_checked"] with
  | some [some findings, some filesChecked] => do
      let items ← findings.items?
      some
        { findings := ← items.mapM Finding.ofJson?
          filesChecked := ← filesChecked.natural? }
  | _ => none

/-- Read a report. -/
def parse? (text : String) : Option Report := (Json.parse? text).bind ofJson?

end Report

namespace Flag

/-- The flag that a value names. -/
def ofJson? (value : Json.Value) : Option Flag :=
  value.constant?.bind fun name => ofToken? name.toList

end Flag

namespace Header

/-- The parent that a field describes: none if it is missing or null. -/
def parentOfJson? : Option Json.Value → Option (Option String)
  | none | some .null => some none
  | some value => value.string?.map some

/-- The header that a value describes. -/
def ofJson? (value : Json.Value) : Option Header :=
  match value.fields? ["name", "parent", "flags", "end_column"] with
  | some [some name, parent, some flags, some endColumn] => do
      let items ← flags.items?
      some
        { name := ← name.string?
          parent := ← parentOfJson? parent
          flags := ← items.mapM Flag.ofJson?
          endColumn := ← endColumn.natural? }
  | _ => none

end Header
end ScriptLint
