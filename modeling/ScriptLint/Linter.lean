import ScriptLint.Rule.Selection

/-!
# Passes

A linter runs its rules over a document in order, each in the context that the rule before it left.
Rules that the settings switch off are passed over, and the first finding ends the pass.
-/

namespace ScriptLint

/-- An ordered list of rules with what restricts them. -/
structure Linter where
  /-- The rules in the order in which they run. -/
  rules : List Rule
  /-- Patterns of paths that are left out of a search. -/
  excludes : List String := []
  /-- Settings that switch rules off. -/
  settings : Settings := {}

namespace Linter

/-- The linter of these rules that leaves out what its caller and its settings say. -/
def ofSettings (rules : List Rule) (excludes : List String) (settings : Settings) : Linter :=
  { rules, excludes := excludes ++ settings.exclude, settings }

/-- The names of the rules that are not switched off. -/
def activeRules (linter : Linter) : List String :=
  (linter.rules.map Rule.name).filter linter.settings.isEnabled

/-- Run rules over a document until one of them reports a finding. -/
def runRules (settings : Settings) (doc : Document) : List Rule → Context → Outcome
  | [], context => { context }
  | rule :: rest, context =>
      if settings.isEnabled rule.name then
        let outcome := rule.check doc context
        let events := .running rule.name doc.fileName :: outcome.events
        match outcome.finding with
        | some finding =>
            { outcome with events := events ++ [.failed doc.fileName rule.name finding.message] }
        | none =>
            let later := runRules settings doc rest outcome.context
            { later with events := events ++ later.events }
      else
        let later := runRules settings doc rest context
        { later with events := .skipping rule.name :: later.events }

/-- One pass over a document that starts in a given context. -/
def run (linter : Linter) (doc : Document) (context : Context) : Outcome :=
  runRules linter.settings doc linter.rules context

/-- The finding of a pass that starts in a fresh context. -/
def lint (linter : Linter) (doc : Document) : Option Finding := (linter.run doc .fresh).finding

end Linter
end ScriptLint
