import ScriptLint.Blanks
import ScriptLint.Block.Pairing
import ScriptLint.Property

/-!
# The catalogue of rules

The seven rules in the order in which they run, and finding one of them by its name or its code.
-/

namespace ScriptLint
namespace Rule

/-- No blanks on empty lines or around opening lines. -/
def trailingWhitespace : Rule :=
  { name := "trailing-whitespace"
    code := "PL001"
    description :=
      "No stray blanks on empty lines or around Scriptname, Function and Event lines"
    check := fun doc context =>
      .ofFirstFault doc.rawLines context fun line text =>
        (Blanks.fault? text).map fun (column, fault) =>
          { Finding.located "trailing-whitespace" doc line column
              s!"trailing whitespace error: {fault.message}" with view := .raw } }

/-- The first line is a header with the name of the file. -/
def scriptName : Rule :=
  { name := "script-name"
    code := "PL002"
    description := "The first line declares a Scriptname matching the file name"
    check := fun doc context =>
      let read : Except Header.Blame Header :=
        match doc.normalizedLines with
        | [] => .error ⟨1, .missing⟩
        | line :: _ => Header.read doc.scriptName line
      match read with
      | .error ⟨column, fault⟩ =>
          { finding := some (.located "script-name" doc 1 column
              s!"{Header.keyword} error: {fault.message}")
            context }
      | .ok header =>
          { context := (context.recordHeader header).claim 0
            events := [.confirmed doc.fileName header] } }

/-- The rule for one family of blocks. -/
def block (kind : Block.Kind) (name code description : String) : Rule :=
  { name, code, description, check := Block.check kind name }

/-- Functions are well formed and closed. -/
def functionBlock : Rule :=
  block .function "function-block" "PL003"
    "Functions are named, have a well-formed argument list and are closed"

/-- `if` tests are well formed and closed. -/
def ifStatement : Rule :=
  block .ifTest "if-statement" "PL004"
    "if tests have balanced parentheses, no dangling operator and an endif"

/-- `while` tests are well formed and closed. -/
def whileLoop : Rule :=
  block .whileLoop "while-loop" "PL005"
    "while tests have balanced parentheses, no dangling operator and an endwhile"

/-- Events are well formed and closed. -/
def eventBlock : Rule :=
  block .event "event-block" "PL006"
    "Events are named, have a well-formed argument list and are closed"

/-- Properties are well formed. -/
def property : Rule :=
  { name := "property"
    code := "PL007"
    description :=
      "Auto properties are named, flagged Auto or AutoReadOnly, and read-only ones have a default"
    check := fun doc context =>
      .ofFirstFault doc.normalizedLines context fun line text =>
        (Property.message? text).map fun message =>
          .located "property" doc line (Text.byteLength text) message }

/-- The rules of the default preset. -/
def standard : List Rule := [trailingWhitespace, scriptName, functionBlock, ifStatement, whileLoop]

/-- All rules. -/
def all : List Rule := standard ++ [eventBlock, property]

/-- Two texts agree up to the case of ASCII letters. -/
def sameIgnoringCase (left right : String) : Bool :=
  left.toList.map Char.toLower == right.toList.map Char.toLower

/-- The rule with this name, or with this code in any case. -/
def find? (nameOrCode : String) : Option Rule :=
  all.find? fun rule => rule.name == nameOrCode || sameIgnoringCase rule.code nameOrCode

end Rule
end ScriptLint
