import ScriptLint.Rule.Catalogue
import ScriptLint.Settings

/-!
# Choosing rules

A preset is the set of rules to start from; settings add single rules to it or take them out.  A
list of names and codes chooses rules directly, in the order of the list.
-/

namespace ScriptLint

/-- A named set of rules. -/
inductive Preset where
  /-- The rules that run unless told otherwise. -/
  | standard
  /-- Every rule. -/
  | strict
deriving DecidableEq

namespace Preset

/-- The preset of this name. -/
def ofName? (name : String) : Option Preset :=
  if name = "default" then some .standard
  else if name = "strict" then some .strict
  else none

/-- The rules of the preset in the order in which they run. -/
def rules : Preset → List Rule
  | .standard => Rule.standard
  | .strict => Rule.all

/-- The preset that the settings start from; a name that is not known counts as no name. -/
def ofSettings (settings : Settings) : Preset :=
  (settings.preset.bind ofName?).getD .standard

end Preset

namespace Rule

/-- The settings ask for the rule: it is switched on, or not switched and in the preset. -/
def isSelected (settings : Settings) (rule : Rule) : Bool :=
  (settings.switch? rule.name).getD
    (((Preset.ofSettings settings).rules.map Rule.name).contains rule.name)

/-- The rules that the settings ask for, in the order in which they run. -/
def selected (settings : Settings) : List Rule := all.filter (isSelected settings)

/-- The names in the settings that belong to no rule, in ascending order. -/
def unknownSettings (settings : Settings) : List String :=
  ((settings.rules.map Prod.fst).filter fun name => !(all.map Rule.name).contains name).mergeSort
    fun left right => decide (left ≤ right)

/-- What is to be told about the choice of rules by settings. -/
def selectionEvents (settings : Settings) : List Event :=
  let presets := settings.preset.toList.filter fun name => (Preset.ofName? name).isNone
  presets.map Event.unknownPreset ++ (unknownSettings settings).map Event.unknownSetting

/-- The names and codes in a list separated by commas; blanks around them and empty ones do not
count. -/
def listed (list : String) : List String :=
  (((Text.split ',' list.toList).map Text.trim).filter (!·.isEmpty)).map String.ofList

/-- The rules that a list of names and codes asks for, in its order and as often as it says. -/
def named (list : String) : List Rule := (listed list).filterMap find?

/-- What is to be told about a list of names and codes. -/
def namingEvents (list : String) : List Event :=
  ((listed list).filter fun name => (find? name).isNone).map Event.unknownRule

end Rule
end ScriptLint
