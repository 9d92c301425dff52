/-!
# TOML values

The values of a TOML document.  A table remembers what brought it into being, because that decides
how it may be extended: a table written out in braces is complete, one that dotted keys made is
extended by dotted keys only, and one that a header declared is declared once.
-/

namespace ScriptLint
namespace Toml

/-- What brought a table into being. -/
inductive Origin where
  /-- Written out in braces. -/
  | inline
  /-- Named in front of the last part of a dotted key. -/
  | dotted
  /-- Named in front of the last part of a header. -/
  | implied
  /-- Declared by a header, or the document itself. -/
  | declared
deriving DecidableEq

/-- A TOML value. -/
inductive Value where
  | string (text : String)
  | integer (number : Int)
  /-- A floating-point number, as it is written. -/
  | float (text : String)
  | boolean (truth : Bool)
  /-- A date, a time or both, as it is written. -/
  | datetime (text : String)
  | array (items : List Value)
  | table (origin : Origin) (entries : List (String × Value))
  /-- A list of tables, each declared by a header in double brackets. -/
  | tables (items : List (List (String × Value)))

/-- The entries of a table in the order in which they came. -/
abbrev Entries := List (String × Value)

namespace Entries

/-- Give an entry that is there another value. -/
def update (entries : Entries) (key : String) (value : Value) : Entries :=
  entries.map fun entry => if entry.1 = key then (key, value) else entry

/-- Change the table that a path leads to.  Tables on the way that are missing are made.  A path of
a dotted key (`byKey`) may not pass through a declared table; in a list of tables a path leads to
the last one. -/
def descend (byKey : Bool) (change : Origin → Entries → Option Entries) :
    List String → Origin → Entries → Option Entries
  | [], origin, entries => change origin entries
  | key :: path, _, entries =>
      match entries.lookup key with
      | none =>
          let origin : Origin := if byKey then .dotted else .implied
          (descend byKey change path origin []).map fun inner =>
            entries ++ [(key, .table origin inner)]
      | some (.table .inline _) => none
      | some (.table origin inner) =>
          if byKey && origin = .declared then none
          else (descend byKey change path origin inner).map fun inner =>
            update entries key (.table origin inner)
      | some (.tables items) =>
          match items.getLast? with
          | none => none
          | some last =>
              (descend byKey change path .declared last).map fun last =>
                update entries key (.tables (items.dropLast ++ [last]))
      | some _ => none

/-- Enter a value under a key whose earlier parts are a path.  A key of one part extends a table
that dotted keys did not make, a longer one a table that they made; no key is entered twice. -/
def assign (origin : Origin) (path : List String) (key : String) (value : Value)
    (entries : Entries) : Option Entries :=
  descend true
    (fun target inner =>
      if (target = .dotted) = path.isEmpty then none
      else if (inner.lookup key).isSome then none
      else some (inner ++ [(key, value)]))
    path origin entries

/-- Declare a table under a path and a key, and fill it.  A table that is only implied so far is
declared with what it holds. -/
def declare (path : List String) (key : String) (fill : Entries → Option Entries)
    (entries : Entries) : Option Entries :=
  descend false
    (fun _ inner =>
      match inner.lookup key with
      | none => (fill []).map fun table => inner ++ [(key, .table .declared table)]
      | some (.table .implied held) =>
          (fill held).map fun table => update inner key (.table .declared table)
      | some _ => none)
    path .declared entries

/-- Add a table to the list of tables under a path and a key, and fill it. -/
def declareItem (path : List String) (key : String) (fill : Entries → Option Entries)
    (entries : Entries) : Option Entries :=
  descend false
    (fun _ inner =>
      match inner.lookup key with
      | none => (fill []).map fun table => inner ++ [(key, .tables [table])]
      | some (.tables items) =>
          (fill []).map fun table => update inner key (.tables (items ++ [table]))
      | some _ => none)
    path .declared entries

end Entries
end Toml
end ScriptLint
