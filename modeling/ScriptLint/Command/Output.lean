import ScriptLint.Command.Arguments
import ScriptLint.Linter.Batch
import ScriptLint.Report.Json
import ScriptLint.Rule.Selection

/-!
# Output of the commands

The texts that the commands print: results in three formats, the list of rules, a settings file to
start from, and errors with their causes.
-/

namespace ScriptLint
namespace Command

/-- Name of the program. -/
def programName : String := "papyrus-lint"

/-- What the program says of its version. -/
def versionText : String := s!"{programName} 0.1.0\n"

/-- How the program is to be called. -/
def usageText : String := s!"Usage: {programName} [OPTIONS] <COMMAND>\n"

/-- The text of many lines, each with its end. -/
def unlines (lines : List String) : String := String.join (lines.map fun line => line ++ "\n")

/-! ## Results -/

/-- The result with a paragraph per failing script and a summary, which is red if a script failed.
-/
def resultText (analysis : Analysis) : String :=
  let failures := analysis.failures.map fun (doc, finding) =>
    s!"{finding.rule} {Path.display doc.path}\n{finding.message}\n"
  let color := if analysis.report.hasFindings then "\x1b[31m" else "\x1b[32m"
  let failed := analysis.report.findings.length
  let checked := analysis.report.filesChecked
  String.join failures ++ s!"{color}{failed} of {checked} script(s) failed\x1b[0m\n"

/-- The result in a format. -/
def showResult (analysis : Analysis) : Format → String
  | .text => resultText analysis
  | .json => analysis.report.toJson.text .pretty ++ "\n"
  | .compact => unlines (analysis.report.findings.map Finding.text)

/-! ## The list of rules -/

/-- The text followed by blanks up to a width. -/
def padded (width : Nat) (text : String) : String :=
  text ++ String.ofList (List.replicate (width - text.length) ' ')

/-- A row of the list of rules. -/
def row (code name isStandard description : String) : String :=
  s!"{padded 8 code} {padded 22 name} {padded 9 isStandard} {description}"

/-- The list of all rules. -/
def ruleList : String :=
  let standard := Rule.standard.map Rule.name
  let rows := Rule.all.map fun rule =>
    row rule.code rule.name (if standard.contains rule.name then "yes" else "no") rule.description
  unlines <|
    ["Available rules:", "", row "Code" "Name" "Default" "Description",
      String.ofList (List.replicate 96 '-')] ++
    rows ++
    ["", "Presets:", "  default  - PL001 to PL005, in that order", "  strict   - All rules", "",
      "Use --rules to run specific rules, e.g.:",
      s!"  {programName} check --rules script-name,function-block",
      s!"  {programName} check --rules PL006,PL007"]

/-! ## A settings file to start from -/

/-- The settings file that is written for a new project. -/
def starterSettings : String :=
  unlines
    ["# papyrus-lint configuration",
     "",
     "# \"default\" runs trailing-whitespace, script-name, function-block,",
     "# if-statement and while-loop. \"strict\" adds event-block and property.",
     "preset = \"default\"",
     "",
     "[linter]",
     "# Glob patterns skipped when searching directories for scripts",
     "exclude = [",
     "    \"**/backup/**\",",
     "]",
     "",
     "# Rules can be switched on or off individually",
     "",
     "# [rules.event-block]",
     "# enabled = true",
     "",
     "# [rules.property]",
     "# enabled = true",
     "",
     "# [rules.trailing-whitespace]",
     "# enabled = false"]

/-- What is said when the settings file is written. -/
def starterText : String :=
  unlines
    ["Created papyrus-lint.toml",
     "",
     "Next steps:",
     "  1. Edit papyrus-lint.toml to choose rules",
     "  2. Run: papyrus-lint check"]

/-! ## Errors -/

/-- The lines of a text behind a mark, the first one with its own. -/
def indented (first later : String) (text : String) : String :=
  match (Text.split '\n' text.toList).map String.ofList with
  | [] => first
  | line :: rest => first ++ line ++ String.join (rest.map fun line => "\n" ++ later ++ line)

/-- An error with the chain of its causes, which are numbered if there are several. -/
def errorText (error : String) (causes : List String) : String :=
  let lines :=
    match causes with
    | [cause] => [indented "    " "    " cause]
    | _ => causes.zipIdx.map fun (cause, index) => indented s!"    {index}: " "       " cause
  let chain := if lines.isEmpty then "" else "\n\nCaused by:\n" ++ "\n".intercalate lines
  s!"Error: {error}{chain}\n"

end Command
end ScriptLint
