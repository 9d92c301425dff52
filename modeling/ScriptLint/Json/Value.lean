/-!
# JSON values

The values of JSON as far as findings and reports need them.  Of a number only a natural one written
in plain digits is kept, and of a string only one that is text: an escape may name half of a
surrogate pair, and such a string may stand where its content does not matter.
-/

namespace ScriptLint
namespace Json

/-- A JSON value. -/
inductive Value where
  | null
  | bool (truth : Bool)
  /-- A number, if it is written in digits alone. -/
  | number (natural : Option Nat)
  /-- A string, if it is text. -/
  | string (text : Option String)
  | array (items : List Value)
  /-- An object with its members in order, also repeated ones. -/
  | object (members : List (Option String × Value))

namespace Value

/-- The value of a natural number. -/
def ofNat (natural : Nat) : Value := .number (some natural)

/-- The value of a text. -/
def ofString (text : String) : Value := .string (some text)

/-- The object with these members. -/
def ofMembers (members : List (String × Value)) : Value :=
  .object (members.map fun (key, value) => (some key, value))

/-- The least natural number that is too large for a field: `2 ^ 64`. -/
def limit : Nat := 0x10000000000000000

/-- The natural number below the limit that the value is. -/
def natural? : Value → Option Nat
  | .number (some natural) => if natural < limit then some natural else none
  | _ => none

/-- The text that the value is. -/
def string? : Value → Option String
  | .string text => text
  | _ => none

/-- The items of an array. -/
def items? : Value → Option (List Value)
  | .array items => some items
  | _ => none

/-- The constant that the value names: by a string, or by an object whose only member has the name
for its key and holds null. -/
def constant? : Value → Option String
  | .string text => text
  | .object [(key, .null)] => key
  | _ => none

/-- The members of an object with the given keys, or the items of an array in the order of the keys.
Other members are ignored; a repeated one, a key that is no text and a surplus item are faults. -/
def fields? (keys : List String) : Value → Option (List (Option Value))
  | .object members =>
      let named (key : String) := members.filter fun member => member.1 = some key
      if members.all (fun member => member.1.isSome) &&
          keys.all (fun key => (named key).length ≤ 1) then
        some (keys.map fun key => (named key).head?.map Prod.snd)
      else
        none
  | .array items =>
      if items.length ≤ keys.length then some ((List.range keys.length).map (items[·]?)) else none
  | _ => none

end Value
end Json
end ScriptLint
