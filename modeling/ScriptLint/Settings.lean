/-!
# Settings

Settings name a preset, list paths to leave out, and switch single rules on or off.
-/

namespace ScriptLint

/-- What a settings file says. -/
structure Settings where
  /-- Name of the preset. -/
  preset : Option String := none
  /-- Patterns of paths that are left out. -/
  exclude : List String := []
  /-- Rules that are mentioned, each with the way it is switched, if it is. -/
  rules : List (String × Option Bool) := []
deriving DecidableEq

namespace Settings

/-- The way the rule of this name is switched explicitly. -/
def switch? (settings : Settings) (rule : String) : Option Bool :=
  (settings.rules.lookup rule).join

/-- The rule of this name may run: it is not switched off. -/
def isEnabled (settings : Settings) (rule : String) : Bool := (settings.switch? rule).getD true

end Settings
end ScriptLint
