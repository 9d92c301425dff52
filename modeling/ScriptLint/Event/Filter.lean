import ScriptLint.Event
import ScriptLint.Text.Alphanumeric
import ScriptLint.Text.Lines
import ScriptLint.Text.Reader

/-!
# Filters of the log

A filter says down to which level events are shown.  It is a list of directives separated by commas.
A directive is a level for all events, or the start of the origins of some events with or without a
level.  In brackets it may name a span, which is an activity around events, and in braces a field
with or without a value.  Nothing here happens in a span, and all that is known of an event by field
is its message.

For each event the directive with the longest start counts, of several with the same start one that
names a field, and of several alike the last one.  An event that no directive is for is not shown.
A filter without directives shows errors.
-/

namespace ScriptLint

namespace Level

/-- The level of a rank.  One rank more asks for more than there is and means the last level. -/
def ofRank? : Nat → Option Level
  | 0 => some .off
  | 1 => some .error
  | 2 => some .warn
  | 3 => some .info
  | 4 | 5 => some .debug
  | _ => none

/-- The level that a decimal number names by its rank; a plus sign may stand in front. -/
def ofNumber? (text : List Char) : Option Level :=
  let digits := (Text.after? '+' text).getD text
  if digits.isEmpty || !digits.all Char.isDigit then none else ofRank? (Text.numberOf 10 digits)

/-- The level that a word names in any case.  The word `trace` asks for more than there is and means
the last level. -/
def ofWord? (text : List Char) : Option Level :=
  match String.ofList (text.map Char.toLower) with
  | "off" => some .off
  | "error" => some .error
  | "warn" => some .warn
  | "info" => some .info
  | "debug" | "trace" => some .debug
  | _ => none

/-- The level that a number or a word names. -/
def ofName? (text : List Char) : Option Level := ofNumber? text <|> ofWord? text

end Level

/-- One directive of a filter. -/
structure Directive where
  /-- Start of the origins of the events that it is for. -/
  start : List Char := []
  /-- Names of the fields that the events have to have. -/
  fields : List (List Char) := []
  /-- It is for what happens in a span, or for a field with a certain value. -/
  isNarrow : Bool := false
  /-- Level down to which the events are shown. -/
  level : Level := .debug
deriving DecidableEq

namespace Directive

/-! ## Reading

The marks of a directive are looked for in its text without the blanks around it, and the positions
found there are those at which the directive is cut as it is written.  So a blank behind a part
belongs to the part, and a blank in front of the directive shifts its parts.
-/

/-- The character can start a directive that does not start with a bracket. -/
def isFirst (c : Char) : Bool := Text.isAlphanumeric c || c == '_' || c == ':' || c == '-'

/-- The position of the first of some marks from a position on, or the end of the text. -/
def positionOf (marks : List Char) (text : List Char) (position : Nat) : Nat :=
  position + ((text.drop position).takeWhile fun c => !marks.contains c).length

/-- Read the end of a directive: nothing, or an equals sign and a level.  No level is the last one.
-/
def readLevel? (whole text : List Char) (position : Nat) (directive : Directive) :
    Option Directive :=
  match text.drop position, whole.drop (position + 1) with
  | [], _ | '=' :: _, [] => some directive
  | '=' :: _, name => (Level.ofName? name).map fun level => { directive with level }
  | _, _ => none

/-- Read a field behind its opening brace. -/
def readField? (whole text : List Char) (position : Nat) (directive : Directive) :
    Option Directive :=
  let behind := positionOf ['}'] text position
  let field := (whole.take behind).drop position
  match text.drop behind with
  | '}' :: ']' :: _ =>
      if field.isEmpty then none
      else
        readLevel? whole text (behind + 2)
          { directive with
            fields := [field.takeWhile (· != '=')]
            isNarrow := directive.isNarrow || field.contains '=' }
  | _ => none

/-- Read a span behind its opening bracket. -/
def readSpan? (whole text : List Char) (position : Nat) (directive : Directive) :
    Option Directive :=
  let behind := positionOf [']', '{'] text position
  match text.drop behind with
  | ']' :: _ => readLevel? whole text (behind + 1) { directive with isNarrow := true }
  | '{' :: _ =>
      readField? whole text (behind + 1) { directive with isNarrow := behind != position }
  | _ => none

/-- Read a directive. -/
def parse? (whole : List Char) : Option Directive :=
  let text := Text.trim whole
  match text with
  | [] => none
  | '[' :: _ => readSpan? whole text 1 {}
  | c :: _ =>
      if !isFirst c then none
      else
        let behind := positionOf ['=', '['] text 0
        match text.drop behind with
        | [] =>
            match Level.ofName? whole with
            | some level => some { level }
            | none => some { start := whole }
        | '[' :: _ => readSpan? whole text (behind + 1) { start := whole.take behind }
        | _ => readLevel? whole text behind { start := whole.take behind }

/-! ## Choosing -/

/-- The directive is for the event. -/
def isFor (directive : Directive) (event : Event) : Bool :=
  !directive.isNarrow && directive.start.isPrefixOf event.origin.toList &&
    directive.fields.all (· == "message".toList)

/-- The one of two directives that counts, the second being the later one. -/
def stronger (first second : Directive) : Directive :=
  if second.start.length < first.start.length then first
  else if first.start.length < second.start.length then second
  else if second.fields.length < first.fields.length then first
  else second

end Directive

/-- A filter of the log. -/
structure LogFilter where
  /-- The directives in the order in which they are written. -/
  directives : List Directive
deriving DecidableEq

namespace LogFilter

/-- The filter that shows all events down to a level. -/
def ofLevel (level : Level) : LogFilter := { directives := [{ level }] }

/-- Read a filter; empty directives do not count. -/
def parse? (text : String) : Option LogFilter :=
  let pieces := (Text.split ',' text.toList).filter (!·.isEmpty)
  if pieces.isEmpty then some (ofLevel .error)
  else (pieces.mapM Directive.parse?).map fun directives => { directives }

/-- The level down to which events like this one are shown. -/
def level (filter : LogFilter) (event : Event) : Level :=
  match filter.directives.filter fun directive => directive.isFor event with
  | [] => .off
  | first :: rest => (rest.foldl Directive.stronger first).level

/-- The event is shown. -/
def shows (filter : LogFilter) (event : Event) : Bool :=
  event.level.rank ≤ (filter.level event).rank

/-- The lines of the log. -/
def log (filter : LogFilter) (events : List Event) : List String :=
  (events.filter filter.shows).map Event.line

end LogFilter
end ScriptLint
