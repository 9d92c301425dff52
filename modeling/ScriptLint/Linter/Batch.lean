import ScriptLint.Linter.Discovery
import ScriptLint.Report
import ScriptLint.Workspace.Script

/-!
# Linting many scripts

The scripts that a list of paths stands for are loaded and linted one after the other, each in a
fresh context.  The first script that cannot be loaded ends the batch.
-/

namespace ScriptLint

/-- Result of a batch. -/
structure Analysis where
  /-- Findings and the number of scripts. -/
  report : Report := {}
  /-- Every failing script with its finding, in order. -/
  failures : List (Document × Finding) := []
deriving DecidableEq

/-- The result after one more script. -/
def Analysis.record (analysis : Analysis) (doc : Document) (outcome : Option Finding) : Analysis :=
  { report := analysis.report.record outcome
    failures := analysis.failures ++ (outcome.map (doc, ·)).toList }

/-- Why a batch has no result. -/
inductive BatchError where
  /-- A search pattern is wrong. -/
  | badPattern (fault : Glob.Fault)
  /-- A script cannot be loaded. -/
  | unloadable (error : Document.LoadError)
deriving DecidableEq

namespace BatchError

/-- The words for an error. -/
def message : BatchError → String
  | .badPattern fault => s!"Invalid glob pattern: {fault.message}"
  | .unloadable error => error.message

/-- The words for what is behind an error. -/
def cause? : BatchError → Option String
  | .badPattern fault => some fault.message
  | .unloadable error => error.cause?

end BatchError

namespace Linter

/-- Load and lint scripts, and record them. -/
def analyzeScripts (linter : Linter) (workspace : Workspace) :
    List String → Analysis → Logged (Except Document.LoadError Analysis)
  | [], analysis => { value := .ok analysis }
  | path :: rest, analysis =>
      match Document.load workspace path with
      | .error error => { value := .error error }
      | .ok doc =>
          let outcome := linter.run doc .fresh
          let later := linter.analyzeScripts workspace rest (analysis.record doc outcome.finding)
          { later with
            events := .loaded doc.path doc.byteLength :: (outcome.events ++ later.events) }

/-- Lint every script that the paths stand for. -/
def analyze (linter : Linter) (workspace : Workspace) (paths : List String) :
    Logged (Except BatchError Analysis) :=
  let found := linter.collect workspace paths
  match found.value with
  | .error fault => { value := .error (.badPattern fault), events := found.events }
  | .ok scripts =>
      let events := found.events ++ [.collected scripts.length]
      let linted := linter.analyzeScripts workspace scripts {}
      match linted.value with
      | .error error => { value := .error (.unloadable error), events := events ++ linted.events }
      | .ok analysis =>
          { value := .ok analysis
            events := events ++ linted.events ++
              [.completed analysis.report.findings.length analysis.report.filesChecked] }

end Linter
end ScriptLint
