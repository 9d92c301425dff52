import ScriptLint.Header

/-!
# Property declarations

A property stands on one line: a type, `Property`, a name, a default after `=`, an access flag and
one more flag.  Every line that starts with a type and `Property` has to have this form; a read-only
property needs a default, and only a writable one can be conditional.
-/

namespace ScriptLint
namespace Property

/-- The access flag of a property. -/
inductive Access where
  /-- The property can be written. -/
  | auto
  /-- The property keeps its default. -/
  | autoReadOnly
deriving DecidableEq

/-- The access flag that a token spells. -/
def Access.ofToken? (token : List Char) : Option Access :=
  if token = "Auto".toList then some .auto
  else if token = "AutoReadOnly".toList then some .autoReadOnly
  else none

/-- The parts of a property line; a part that is not there is empty. -/
structure Declaration where
  /-- Type of the property. -/
  type : List Char
  /-- Name of the property. -/
  name : List Char
  /-- There is a default. -/
  hasDefault : Bool
  /-- First word behind the default. -/
  access : List Char
  /-- Second word behind the default. -/
  visibility : List Char
deriving DecidableEq

/-- What follows a default value at the start of the text: a text in double quotes, or a run of word
characters and dots that may have a minus in front. -/
def afterValue? (text : List Char) : Option (List Char) :=
  let inNumber (c : Char) := Text.isWord c || c == '.'
  match text with
  | '"' :: rest =>
      match rest.dropWhile (· != '"') with
      | _ :: rest => some rest
      | [] => none
  | _ =>
      let digits := if text.head? == some '-' then text.tail else text
      if digits.head?.any inNumber then some (digits.dropWhile inNumber) else none

/-- What follows a default at the start of the text: an equals sign and a value. -/
def afterDefault? (text : List Char) : Option (List Char) :=
  match text with
  | '=' :: rest => afterValue? (Text.afterSpace rest)
  | _ => none

/-- The one or two words that make up the text; none if anything else is in it. -/
def closingWords (text : List Char) : List Char × List Char :=
  let second := Text.afterSpace (Text.afterWord text)
  if (Text.afterWord second).isEmpty then (Text.word text, Text.word second) else ([], [])

/-- Read what follows the keyword of a property. -/
def readBody (type text : List Char) : Declaration :=
  if Text.startsSpace text then
    let start := Text.afterSpace text
    let behindName := Text.afterSpace (Text.afterWord start)
    let default? := afterDefault? behindName
    let (access, visibility) := closingWords (Text.afterSpace (default?.getD behindName))
    { type, name := Text.word start, hasDefault := default?.isSome, access, visibility }
  else
    { type, name := [], hasDefault := false, access := [], visibility := [] }

/-- Read a line that starts with a type and the keyword. -/
def read? (line : List Char) : Option Declaration :=
  match Text.typeName? line with
  | none => none
  | some (type, rest) =>
      (Text.afterKeyword? "Property".toList rest).map fun rest => readBody type rest

/-- What can be wrong with a property. -/
inductive Fault where
  | missingName
  | missingFlag
  | unknownFlag (token : String)
  /-- A read-only property has no default. -/
  | missingDefault
  /-- A read-only property is conditional. -/
  | readOnlyConditional
deriving DecidableEq

/-- The words for a fault. -/
def Fault.message : Fault → String
  | .missingName => "missing name"
  | .missingFlag => "missing flag"
  | .unknownFlag token => s!"unknown flag {token}"
  | .missingDefault => "an AutoReadOnly property must have a default value"
  | .readOnlyConditional => "Conditional is only applicable on property flagged Auto"

/-- What is wrong with the second flag of a property with this access; nothing if there is none. -/
def visibilityFault? (access : Access) (token : List Char) : Option Fault :=
  if token.isEmpty then
    none
  else
    match Flag.ofToken? token, access with
    | none, _ => some (.unknownFlag (String.ofList token))
    | some .conditional, .autoReadOnly => some .readOnlyConditional
    | some _, _ => none

/-- The first fault of a declaration. -/
def Declaration.fault? (property : Declaration) : Option Fault :=
  if property.name.isEmpty then
    some .missingName
  else if property.access.isEmpty then
    some .missingFlag
  else
    match Access.ofToken? property.access with
    | none => some (.unknownFlag (String.ofList property.access))
    | some access =>
        if access = .autoReadOnly ∧ property.hasDefault = false then some .missingDefault
        else visibilityFault? access property.visibility

/-- The type and name of the property in front of a message; the name may be missing. -/
def Declaration.label (property : Declaration) : String :=
  if property.name.isEmpty then String.ofList property.type
  else s!"{String.ofList property.type} {String.ofList property.name}"

/-- The message for a line that is a faulty property. -/
def message? (line : List Char) : Option String :=
  match read? line with
  | none => none
  | some property =>
      property.fault?.map fun fault => s!"{property.label} property error: {fault.message}"

end Property
end ScriptLint
