import ScriptLint.Command.Output
import ScriptLint.Event.Filter
import ScriptLint.Settings.File

/-!
# Running a command

A program call is run on a workspace.  It prints a text, fails with an error or not, tells what
happened, and may write a file.  The exit code is zero if all is well, one for findings and errors,
and two if the arguments are wrong.
-/

namespace ScriptLint
namespace Command

/-- What a program call learns from its environment. -/
structure Environment where
  /-- Path of the settings. -/
  settingsPath : Option String := none
  /-- Directory of the user's settings. -/
  settingsDirectory : Option String := none
  /-- The user's home directory. -/
  home : Option String := none
  /-- Filter of the log. -/
  logFilter : Option String := none
deriving DecidableEq

/-- The directory of the user's settings; an empty home directory counts as none. -/
def Environment.userDirectory? (environment : Environment) : Option String :=
  environment.settingsDirectory <|>
    (environment.home.filter (· ≠ "")).map fun home => Path.join home ".papyrus-lint"

/-- What a program call comes to. -/
structure Result where
  /-- Exit code. -/
  exitCode : Nat := 0
  /-- What is printed. -/
  output : String := ""
  /-- What is printed as an error. -/
  errors : String := ""
  /-- What happened, in order. -/
  events : List Event := []
  /-- Files that are written, each with its path and its text. -/
  writes : List (String × String) := []
  /-- The workspace afterwards. -/
  workspace : Workspace

/-- The result of an error with its causes. -/
def failed (workspace : Workspace) (error : String) (causes : List String) (events : List Event) :
    Result :=
  { exitCode := 1, errors := errorText error causes, events, workspace }

/-- The settings at a source. -/
def settingsAt (workspace : Workspace) (source : Settings.Source) :
    Except (String × Settings.LoadError) Settings :=
  match source.path? with
  | none => .ok {}
  | some path => (Settings.load workspace path).mapError (path, ·)

/-- The rules that a list asks for, or else the settings. -/
def chosenRules (list : Option String) (settings : Settings) : Logged (List Rule) :=
  match list with
  | some list => { value := Rule.named list, events := Rule.namingEvents list }
  | none => { value := Rule.selected settings, events := Rule.selectionEvents settings }

/-- Lint scripts. -/
def check (environment : Environment) (workspace : Workspace) (settingsPath : Option String)
    (paths : List String) (format : Format) (rules : Option String) (excludes : List String) :
    Result :=
  let source := Settings.locate workspace settingsPath environment.userDirectory? paths
  let events := source.foundEvents ++ source.useEvents
  match settingsAt workspace source with
  | .error (path, error) =>
      failed workspace s!"Failed to load config: {path}" (error.message :: error.cause?.toList)
        events
  | .ok settings =>
      let chosen := chosenRules rules settings
      let linter := Linter.ofSettings chosen.value excludes settings
      let analysis := linter.analyze workspace paths
      let events :=
        events ++ chosen.events ++ [.linting paths linter.activeRules] ++ analysis.events
      match analysis.value with
      | .error error =>
          failed workspace "Failed to lint scripts" (error.message :: error.cause?.toList) events
      | .ok analysis =>
          { exitCode := if analysis.report.hasFindings then 1 else 0
            output := showResult analysis format
            events
            workspace }

/-- Write a settings file to start from. -/
def init (workspace : Workspace) (overwrite : Bool) : Result :=
  let path := Settings.fileName
  if workspace.contains path && !overwrite then
    failed workspace
      s!"Configuration file already exists at {path}. Use --force to overwrite." [] []
  else
    match workspace.write path starterSettings with
    | .error failure => failed workspace failure.message [] []
    | .ok workspace => { output := starterText, writes := [(path, starterSettings)], workspace }

/-- Do what a program call asks for. -/
def perform (environment : Environment) (workspace : Workspace) (invocation : Invocation) :
    Result :=
  match invocation.task with
  | .check paths format rules excludes =>
      check environment workspace invocation.settingsPath paths format rules excludes
  | .listRules => { output := ruleList, workspace }
  | .init overwrite => init workspace overwrite

/-- The filter of the log: the one that is given, if it can be read. -/
def logFilter (environment : Environment) (invocation : Invocation) : LogFilter :=
  (environment.logFilter.bind LogFilter.parse?).getD
    (.ofLevel (if invocation.isVerbose then .debug else .warn))

/-- Run a program call with these arguments; the log comes with the result. -/
def run (environment : Environment) (workspace : Workspace) (arguments : List String) :
    Result × List String :=
  match readArguments environment.settingsPath arguments with
  | .error .version => ({ output := versionText, workspace }, [])
  | .error .usage => ({ exitCode := 2, errors := usageText, workspace }, [])
  | .ok invocation =>
      let result := perform environment workspace invocation
      (result, (logFilter environment invocation).log result.events)

end Command
end ScriptLint
