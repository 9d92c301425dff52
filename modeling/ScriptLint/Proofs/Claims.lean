import Mathlib.Data.List.Sort
import ScriptLint.Context

/-!
# Claim sets by membership

A claim set is determined by its members, so that what a check does to the claims can be said index
by index.  Only insertion changes a claim set, and it takes no member away.
-/

namespace ScriptLint
namespace ClaimSet

instance : Membership Nat ClaimSet := ⟨fun claims index => claims.contains index = true⟩

instance (claims : ClaimSet) (index : Nat) : Decidable (index ∈ claims) :=
  inferInstanceAs (Decidable (claims.contains index = true))

theorem contains_iff {claims : ClaimSet} {index : Nat} :
    claims.contains index = true ↔ index ∈ claims := Iff.rfl

theorem contains_eq_false {claims : ClaimSet} {index : Nat} :
    claims.contains index = false ↔ index ∉ claims := by
  rw [← contains_iff, Bool.not_eq_true]

theorem mem_iff_mem_indices {claims : ClaimSet} {index : Nat} :
    index ∈ claims ↔ index ∈ claims.indices := by
  rw [← contains_iff, contains, List.contains_iff_mem]

@[simp]
theorem not_mem_empty (index : Nat) : index ∉ empty := by
  simp [mem_iff_mem_indices, empty]

@[simp]
theorem mem_insert {claims : ClaimSet} {index other : Nat} :
    other ∈ claims.insert index ↔ other = index ∨ other ∈ claims := by
  simp [mem_iff_mem_indices, insert]

/-- Two claim sets with the same members are equal. -/
theorem ext_mem {left right : ClaimSet} (same : ∀ index, index ∈ left ↔ index ∈ right) :
    left = right := by
  have indices_eq : left.indices = right.indices := by
    apply List.Pairwise.eq_of_mem_iff left.ascending right.ascending
    intro index
    rw [← mem_iff_mem_indices, ← mem_iff_mem_indices]
    exact same index
  cases left
  cases right
  cases indices_eq
  rfl

theorem insert_of_mem {claims : ClaimSet} {index : Nat} (member : index ∈ claims) :
    claims.insert index = claims := by
  apply ext_mem
  intro other
  rw [mem_insert]
  constructor
  · rintro (rfl | earlier)
    · exact member
    · exact earlier
  · exact Or.inr

/-- A claim set has as many members as any list that names each of them once. -/
theorem size_eq_length {claims : ClaimSet} {indices : List Nat} (distinct : indices.Nodup)
    (same : ∀ index, index ∈ claims ↔ index ∈ indices) : claims.size = indices.length := by
  have ownDistinct : claims.indices.Nodup := claims.ascending.imp Nat.ne_of_lt
  apply List.Perm.length_eq
  apply (List.perm_ext_iff_of_nodup ownDistinct distinct).mpr
  intro index
  rw [← mem_iff_mem_indices]
  exact same index

/-! ## Claiming pairs -/

/-- The set in which both lines of every pair are claimed, too. -/
def insertPairs (claims : ClaimSet) (pairs : List (Nat × Nat)) : ClaimSet :=
  pairs.foldl (fun claims pair => (claims.insert pair.1).insert pair.2) claims

@[simp]
theorem insertPairs_nil (claims : ClaimSet) : claims.insertPairs [] = claims := rfl

@[simp]
theorem insertPairs_cons (claims : ClaimSet) (pair : Nat × Nat) (pairs : List (Nat × Nat)) :
    claims.insertPairs (pair :: pairs) =
      ((claims.insert pair.1).insert pair.2).insertPairs pairs := rfl

@[simp]
theorem mem_insertPairs {claims : ClaimSet} {pairs : List (Nat × Nat)} {index : Nat} :
    index ∈ claims.insertPairs pairs ↔
      index ∈ claims ∨ ∃ pair ∈ pairs, index = pair.1 ∨ index = pair.2 := by
  induction pairs generalizing claims with
  | nil => simp
  | cons pair pairs ih =>
      rw [insertPairs_cons, ih, mem_insert, mem_insert, List.exists_mem_cons_iff]
      constructor
      · rintro ((second | first | earlier) | later)
        · exact Or.inr (Or.inl (Or.inr second))
        · exact Or.inr (Or.inl (Or.inl first))
        · exact Or.inl earlier
        · exact Or.inr (Or.inr later)
      · rintro (earlier | (first | second) | later)
        · exact Or.inl (Or.inr (Or.inr earlier))
        · exact Or.inl (Or.inr (Or.inl first))
        · exact Or.inl (Or.inl second)
        · exact Or.inr later

end ClaimSet
end ScriptLint
