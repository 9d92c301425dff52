import ScriptLint.Settings
import ScriptLint.Toml.Document

/-!
# Reading settings

Settings are written in TOML: `preset` is a string, `linter.exclude` a list of strings, and
`rules.NAME.enabled` a truth value.  Other keys are ignored, and a key that is there needs a value
of its type.  The tables `linter` and `rules.NAME` may also be written as an array of their fields
in order; surplus items are ignored.  A date counts as a table without any of these fields.
-/

namespace ScriptLint
namespace Settings

/-- Read a field that may be missing. -/
def optional {α : Type} (read : Toml.Value → Option α) : Option Toml.Value → Option (Option α)
  | none => some none
  | some value => (read value).map some

/-- Read a string. -/
def readString : Toml.Value → Option String
  | .string text => some text
  | _ => none

/-- Read a truth value. -/
def readBool : Toml.Value → Option Bool
  | .boolean truth => some truth
  | _ => none

/-- Read a list of strings. -/
def readStrings : Toml.Value → Option (List String)
  | .array items => items.mapM readString
  | _ => none

/-- Read the only field of a record, which may be missing: by its key, or as the first item. -/
def readField {α : Type} (key : String) (read : Toml.Value → Option α) :
    Toml.Value → Option (Option α)
  | .table _ entries => optional read (entries.lookup key)
  | .array items => optional read items.head?
  | .tables items => optional read (items.head?.map (.table .declared))
  | .datetime _ => some none
  | _ => none

/-- Read the table of rules. -/
def readRules : Toml.Value → Option (List (String × Option Bool))
  | .table _ entries =>
      entries.mapM fun (name, value) => (readField "enabled" readBool value).map (name, ·)
  | _ => none

/-- Read the table of a document. -/
def ofEntries? (entries : Toml.Entries) : Option Settings := do
  let preset ← optional readString (entries.lookup "preset")
  let exclude ← optional (readField "exclude" readStrings) (entries.lookup "linter")
  let rules ← optional readRules (entries.lookup "rules")
  some { preset, exclude := exclude.join.getD [], rules := rules.getD [] }

/-- Read settings; nothing if the text is no TOML or a value has the wrong type. -/
def parse? (text : String) : Option Settings := (Toml.parse? text).bind ofEntries?

end Settings
end ScriptLint
