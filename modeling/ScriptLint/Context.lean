import ScriptLint.Header

/-!
# The shared context of a pass

The rules of one pass share a context: the normalized lines that a rule has claimed, by index, and
the header once it is confirmed.  A claimed line is never read again as an opener or as a closer.
Claims are kept as an ascending list, so that two claim sets with the same members are equal.
-/

namespace ScriptLint

/-- A finite set of line indices. -/
structure ClaimSet where
  /-- The members in ascending order. -/
  indices : List Nat
  /-- The members ascend strictly. -/
  ascending : indices.Pairwise (· < ·)
deriving DecidableEq

namespace ClaimSet

/-- The set without members. -/
def empty : ClaimSet := ⟨[], .nil⟩

/-- The index is a member. -/
def contains (claims : ClaimSet) (index : Nat) : Bool := claims.indices.contains index

/-- Put an index at its place in an ascending list, unless it is there. -/
def place (index : Nat) : List Nat → List Nat
  | [] => [index]
  | first :: rest =>
      if index < first then index :: first :: rest
      else if index = first then first :: rest
      else first :: place index rest

@[simp]
theorem mem_place {index other : Nat} {indices : List Nat} :
    other ∈ place index indices ↔ other = index ∨ other ∈ indices := by
  induction indices with
  | nil => simp [place]
  | cons first rest ih =>
      simp only [place]
      split
      · simp
      · split
        · next same => simp [same]
        · simp only [List.mem_cons, ih]
          constructor
          · rintro (h | h | h) <;> simp [h]
          · rintro (h | h | h) <;> simp [h]

theorem place_ascending {index : Nat} {indices : List Nat} (ascending : indices.Pairwise (· < ·)) :
    (place index indices).Pairwise (· < ·) := by
  induction indices with
  | nil => simp [place]
  | cons first rest ih =>
      have below := (List.pairwise_cons.mp ascending).1
      have later := (List.pairwise_cons.mp ascending).2
      simp only [place]
      split
      · next less =>
          refine List.pairwise_cons.mpr ⟨?_, ascending⟩
          intro other member
          rcases List.mem_cons.mp member with rfl | member
          · exact less
          · exact Nat.lt_trans less (below other member)
      · split
        · exact ascending
        · next notLess notSame =>
            refine List.pairwise_cons.mpr ⟨?_, ih later⟩
            intro other member
            rcases mem_place.mp member with rfl | member
            · omega
            · exact below other member

/-- The set with one more member. -/
def insert (claims : ClaimSet) (index : Nat) : ClaimSet :=
  { indices := place index claims.indices
    ascending := place_ascending claims.ascending }

/-- Number of members. -/
def size (claims : ClaimSet) : Nat := claims.indices.length

end ClaimSet

/-- What the rules of one pass share. -/
structure Context where
  /-- Normalized lines claimed so far. -/
  claims : ClaimSet := .empty
  /-- The confirmed header. -/
  header : Option Header := none
deriving DecidableEq

namespace Context

/-- The context at the start of a pass. -/
def fresh : Context := {}

/-- The context in which a line is claimed, too. -/
def claim (context : Context) (index : Nat) : Context :=
  { context with claims := context.claims.insert index }

/-- The context with this header on record. -/
def recordHeader (context : Context) (header : Header) : Context :=
  { context with header := some header }

end Context
end ScriptLint
