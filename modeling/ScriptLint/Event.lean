import ScriptLint.Header
import ScriptLint.Path.Name
import ScriptLint.Text.Quoted
import ScriptLint.Text.Terminal

/-!
# Events

What a run does is told as a list of events.  Each event has a level, an origin and a message; a
filter chooses by level and origin which of them the log shows.
-/

namespace ScriptLint

/-- How much of a log is shown, from nothing to everything. -/
inductive Level where
  | off
  | error
  | warn
  | info
  | debug
deriving DecidableEq

namespace Level

/-- Position in the order of levels. -/
def rank : Level → Nat
  | .off => 0
  | .error => 1
  | .warn => 2
  | .info => 3
  | .debug => 4

/-- The level in a log line. -/
def label : Level → String
  | .off => "OFF"
  | .error => "ERROR"
  | .warn => "WARN"
  | .info => "INFO"
  | .debug => "DEBUG"

end Level

/-- Something that happened in a run. -/
inductive Event where
  /-- A settings file was found next to the scripts. -/
  | foundProjectSettings (path : String)
  /-- A settings file was found in the user's directory. -/
  | foundGlobalSettings (path : String)
  /-- The user's settings are used. -/
  | usingGlobalSettings (path : String)
  /-- The settings name a preset that does not exist. -/
  | unknownPreset (name : String)
  /-- The settings switch a rule that does not exist. -/
  | unknownSetting (name : String)
  /-- A rule was asked for that does not exist. -/
  | unknownRule (name : String)
  /-- A run over these paths with these rules starts. -/
  | linting (paths rules : List String)
  /-- A path that was found is excluded. -/
  | excluding (path : String)
  /-- The scripts to lint are known. -/
  | collected (count : Nat)
  /-- A script was read. -/
  | loaded (path : String) (bytes : Nat)
  /-- A rule that is switched off is passed over. -/
  | skipping (rule : String)
  /-- A rule is run on a script. -/
  | running (rule file : String)
  /-- A header was confirmed. -/
  | confirmed (file : String) (header : Header)
  /-- An opening line was paired with a closing line, both counted from one. -/
  | paired (file opening : String) (openerLine : Nat) (closing : String) (closerLine : Nat)
  /-- A rule reported a finding. -/
  | failed (file rule message : String)
  /-- All scripts were linted. -/
  | completed (findings scripts : Nat)
deriving DecidableEq

namespace Event

/-- Level at which the event is shown. -/
def level : Event → Level
  | .unknownPreset _ | .unknownSetting _ | .unknownRule _ => .warn
  | .usingGlobalSettings _ | .linting .. | .collected _ | .completed .. => .info
  | .foundProjectSettings _ | .foundGlobalSettings _ | .excluding _ | .loaded .. | .skipping _
  | .running .. | .confirmed .. | .paired .. | .failed .. => .debug

/-- The part of the program that tells the event, by the name that filters know it by. -/
def origin : Event → String
  | .foundProjectSettings _ | .foundGlobalSettings _ => "papyrus_lint::config_resolver"
  | .usingGlobalSettings _ | .unknownRule _ | .linting .. => "papyrus_lint::commands::check"
  | .unknownPreset _ | .unknownSetting _ => "papyrus_lint_rules::presets"
  | .confirmed .. => "papyrus_lint_rules::script_name"
  | .paired .. => "papyrus_lint_rules::matching"
  | .loaded .. => "papyrus_lint_core::document"
  | .excluding _ | .collected _ | .skipping _ | .running .. | .failed .. | .completed .. =>
      "papyrus_lint_core::linter"

/-- The parent of a header in a log line. -/
def parentText : Option String → String
  | none => "None"
  | some name => s!"Some({Text.quote name})"

/-- The words for an event. -/
def message : Event → String
  | .foundProjectSettings path => s!"Found project config: {path}"
  | .foundGlobalSettings path => s!"Found global config: {path}"
  | .usingGlobalSettings path => s!"Using global config: {path}"
  | .unknownPreset name => s!"Unknown preset '{name}', using default"
  | .unknownSetting name => s!"Unknown rule in config: {name}"
  | .unknownRule name => s!"Unknown rule: {name}"
  | .linting paths rules =>
      let paths := Text.bracketed (paths.map Text.quote)
      let rules := Text.bracketed (rules.map Text.quote)
      s!"Linting {paths} with rules {rules}"
  | .excluding path => s!"Excluding: {Path.display path}"
  | .collected count => s!"Found {count} scripts to lint"
  | .loaded path bytes => s!"Loaded {Path.display path} ({bytes} bytes)"
  | .skipping rule => s!"Skipping disabled rule: {rule}"
  | .running rule file => s!"Running {rule} on {file}"
  | .confirmed file header =>
      let flags := Text.bracketed (header.flags.map Flag.spelling)
      s!"{file}: header {header.name} (parent {parentText header.parent}, flags {flags})"
  | .paired file opening openerLine closing closerLine =>
      s!"{file}: paired {opening} at {openerLine} with {closing} at {closerLine}"
  | .failed file rule message => s!"{file} failed {rule}: {message}"
  | .completed findings scripts => s!"Lint complete: {findings} finding(s) in {scripts} script(s)"

/-- The event as a line of the log. -/
def line (event : Event) : String := s!"{event.level.label} {Text.disarm event.message}"

end Event

/-- A value together with what happened on the way to it. -/
structure Logged (α : Type) where
  /-- The value. -/
  value : α
  /-- What happened, in order. -/
  events : List Event := []

end ScriptLint
