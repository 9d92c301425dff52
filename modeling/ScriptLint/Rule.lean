import ScriptLint.Context
import ScriptLint.Event
import ScriptLint.Finding

/-!
# Rules

A rule checks one document in a shared context.  It reports at most one finding and leaves a context
for the rules after it.
-/

namespace ScriptLint

/-- What checking a document comes to. -/
structure Outcome where
  /-- The first fault, if there is one. -/
  finding : Option Finding := none
  /-- The context afterwards. -/
  context : Context
  /-- What happened, in order. -/
  events : List Event := []
deriving DecidableEq

/-- A check with the names it goes by. -/
structure Rule where
  /-- Name in lower case with hyphens. -/
  name : String
  /-- Short code. -/
  code : String
  /-- What the rule demands. -/
  description : String
  /-- Check a document in a context. -/
  check : Document → Context → Outcome

/-- The outcome of a check that looks at the lines one by one and stops at the first faulty one.
Lines are counted from one; the context stays as it is. -/
def Outcome.ofFirstFault (lines : List (List Char)) (context : Context)
    (fault? : Nat → List Char → Option Finding) : Outcome :=
  { finding := lines.zipIdx.findSome? fun (line, index) => fault? (index + 1) line
    context }

end ScriptLint
