import ScriptLint.Block.Opener
import ScriptLint.Rule

/-!
# Pairing openers with closers

Checking a family of blocks first reads every unclaimed line as an opener and stops at the first
faulty one.  Then each opener, in order, takes the first unclaimed closer behind it, and both lines
are claimed.  The first opener that finds no closer is reported; the claims made before it stand.
-/

namespace ScriptLint
namespace Block

/-- A well-formed opener in a script. -/
structure Opening where
  /-- Index of its line. -/
  index : Nat
  /-- Label of the block. -/
  label : String
deriving DecidableEq

/-- A faulty opener in a script. -/
structure FaultyOpening where
  /-- Index of its line. -/
  index : Nat
  /-- Label of the block. -/
  label : String
  /-- Column that is blamed. -/
  column : Nat
  /-- What is wrong. -/
  fault : Fault
deriving DecidableEq

/-- The openers among the unclaimed lines from an index on, or the first faulty one. -/
def openings (kind : Kind) (claims : ClaimSet) :
    Nat → List (List Char) → Except FaultyOpening (List Opening)
  | _, [] => .ok []
  | index, line :: rest =>
      if claims.contains index || line == kind.closing.toList then
        openings kind claims (index + 1) rest
      else
        match kind.readOpener? line with
        | none => openings kind claims (index + 1) rest
        | some (.valid label) => (openings kind claims (index + 1) rest).map (⟨index, label⟩ :: ·)
        | some (.invalid label column fault) => .error ⟨index, label, column, fault⟩

/-- Indices of the unclaimed closers among the lines from an index on. -/
def closers (kind : Kind) (claims : ClaimSet) : Nat → List (List Char) → List Nat
  | _, [] => []
  | index, line :: rest =>
      if kind.isCloser line && !claims.contains index then
        index :: closers kind claims (index + 1) rest
      else
        closers kind claims (index + 1) rest

/-- The pairs that were made, up to the first opener without a closer. -/
structure Pairing where
  /-- Indices of openers and their closers, in the order of the openers. -/
  pairs : List (Nat × Nat) := []
  /-- The opener that found no closer. -/
  unclosed : Option Opening := none
  /-- The claims afterwards. -/
  claims : ClaimSet
deriving DecidableEq

/-- Give each opener the first closer behind it that is left.  Openers and closers ascend, so a
closer in front of one opener is in front of all later ones. -/
def pair : List Opening → List Nat → ClaimSet → Pairing
  | [], _, claims => { claims }
  | opening :: rest, closers, claims =>
      match closers.dropWhile (· ≤ opening.index) with
      | [] => { unclosed := some opening, claims }
      | closer :: closers =>
          let later := pair rest closers ((claims.insert opening.index).insert closer)
          { later with pairs := (opening.index, closer) :: later.pairs }

/-- Check the blocks of one family for the rule of this name. -/
def check (kind : Kind) (rule : String) (doc : Document) (context : Context) : Outcome :=
  let lines := doc.normalizedLines
  match openings kind context.claims 0 lines with
  | .error faulty =>
      let message := faultMessage faulty.label faulty.fault
      { finding := some (.located rule doc (faulty.index + 1) faulty.column message)
        context }
  | .ok opened =>
      let pairing := pair opened (closers kind context.claims 0 lines) context.claims
      { finding := pairing.unclosed.map fun opening =>
          .located rule doc (opening.index + 1) 1 (kind.unclosedMessage opening.label)
        context := { context with claims := pairing.claims }
        events := pairing.pairs.map fun (opener, closer) =>
          .paired doc.fileName kind.opening (opener + 1) kind.closing (closer + 1) }

end Block
end ScriptLint
