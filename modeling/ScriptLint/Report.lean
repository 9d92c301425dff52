import ScriptLint.Finding

/-!
# Reports

A report counts the scripts that were checked and lists the finding of every script that failed.
-/

namespace ScriptLint

/-- Result of linting several scripts. -/
structure Report where
  /-- At most one finding per script. -/
  findings : List Finding := []
  /-- Number of scripts checked. -/
  filesChecked : Nat := 0
deriving DecidableEq

namespace Report

/-- The report after one more script with this outcome. -/
def record (report : Report) (outcome : Option Finding) : Report :=
  { findings := report.findings ++ outcome.toList
    filesChecked := report.filesChecked + 1 }

/-- Some script failed. -/
def hasFindings (report : Report) : Bool := !report.findings.isEmpty

end Report
end ScriptLint
