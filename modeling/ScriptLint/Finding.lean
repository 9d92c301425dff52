import ScriptLint.Document

/-!
# Findings

A finding is the one fault that a rule reports of a script: the rule, a position counted in one of
the two views of the script, and a message.  A diagnostic shows the finding over the text of its
view, with the position as a byte offset.
-/

namespace ScriptLint

/-- The lines that a position is counted in. -/
inductive LineView where
  /-- Trimmed lines that carry code. -/
  | normalized
  /-- Physical lines. -/
  | raw
deriving DecidableEq, Inhabited

/-- A position in a script. -/
structure Location where
  /-- File name of the script. -/
  file : String
  /-- Line, counted from one. -/
  line : Nat
  /-- Column in bytes. -/
  column : Nat
deriving DecidableEq

/-- The fault that a rule reports. -/
structure Finding where
  /-- Name of the rule. -/
  rule : String
  /-- Where the fault is. -/
  location : Location
  /-- What is wrong. -/
  message : String
  /-- View that the location is counted in. -/
  view : LineView := .normalized
deriving DecidableEq

/-- A finding laid over the text of its view. -/
structure Diagnostic where
  /-- What is wrong. -/
  message : String
  /-- Text at the marked position. -/
  label : String
  /-- Name of the shown text. -/
  name : String
  /-- The shown text. -/
  source : String
  /-- Byte offset of the marked position. -/
  offset : Nat
  /-- Number of marked bytes. -/
  length : Nat
deriving DecidableEq

/-- The text whose lines the view counts: the content, or the normalized lines joined by line feeds.
-/
def Document.source (doc : Document) : LineView → List Char
  | .raw => doc.content.toList
  | .normalized => List.intercalate ['\n'] doc.normalizedLines

namespace Finding

/-- A finding of a rule in a document, counted in the normalized view. -/
def located (rule : String) (doc : Document) (line column : Nat) (message : String) : Finding :=
  { rule, location := { file := doc.fileName, line, column }, message }

/-- The finding as one line of text. -/
def text (finding : Finding) : String :=
  let { file, line, column } := finding.location
  s!"[line {line}: col {column}]; script {file}; {finding.message}"

/-- The diagnostic of the finding over the view of the document that it is counted in. -/
def diagnostic (finding : Finding) (doc : Document) : Diagnostic :=
  let source := doc.source finding.view
  { message := finding.message
    label := finding.rule
    name := doc.fileName
    source := String.ofList source
    offset := Text.offsetOf source finding.location.line finding.location.column
    length := 0 }

end Finding
end ScriptLint
