import ScriptLint.Path
import ScriptLint.Proofs.Text.Lines

/-!
# Pieces, components and order of paths

Joining an entry to a base puts its pieces behind those of the base and its components behind the
components of the base.  The order of paths is the lexicographic one of their components, so it is
total and transitive.
-/

namespace ScriptLint
namespace Path

/-! ## Pieces -/

theorem pieces_of_notMem {piece : String} (noSlash : '/' ∉ piece.toList) :
    pieces piece = [piece] := by
  rw [pieces, Text.split, List.splitOn_eq_singleton noSlash, List.map_singleton,
    String.ofList_toList]

theorem isAbsolute_of_notMem {piece : String} (noSlash : '/' ∉ piece.toList) :
    isAbsolute piece = false := by
  rw [isAbsolute, beq_eq_false_iff_ne]
  intro starts
  exact noSlash (List.mem_of_mem_head? starts)

theorem pieces_ne_nil (path : String) : pieces path ≠ [] := by
  rw [pieces, Ne, List.map_eq_nil_iff]
  exact List.splitOn_ne_nil '/' path.toList

theorem of_mem_pieces {path piece : String} (member : piece ∈ pieces path) :
    '/' ∉ piece.toList ∧ piece.toList ⊆ path.toList := by
  obtain ⟨letters, isPiece, rfl⟩ := List.mem_map.mp member
  rw [String.toList_ofList]
  exact ⟨(Text.of_mem_split isPiece).1, (Text.of_mem_split isPiece).2.subset⟩

/-- The slash that starts an absolute path has an empty piece in front. -/
theorem pieces_of_isAbsolute {path : String} (absolute : isAbsolute path = true) :
    pieces path = "" :: (pieces path).tail := by
  rw [isAbsolute, beq_iff_eq] at absolute
  obtain ⟨rest, text⟩ := List.head?_eq_some_iff.mp absolute
  rw [pieces, text, Text.split, List.splitOn_cons_eq_if_modifyHead,
    if_pos (beq_self_eq_true '/')]
  rfl

/-- The pieces on both sides of a slash. -/
theorem pieces_append_slash (left right : String) :
    pieces (left ++ "/" ++ right) = pieces left ++ pieces right := by
  have text : (left ++ "/" ++ right).toList = left.toList ++ '/' :: right.toList := by
    simp [String.toList_append]
  rw [pieces, text, Text.split, List.splitOn_append_cons_self, List.map_append]
  rfl

theorem eq_append_slash_of_getLast? {base : String} (ends : base.toList.getLast? = some '/') :
    ∃ front, base = front ++ "/" := by
  obtain ⟨front, split⟩ := List.getLast?_eq_some_iff.mp ends
  refine ⟨String.ofList front, String.toList_injective ?_⟩
  rw [split, String.toList_append, String.toList_ofList]
  rfl

/-- An entry stands behind the pieces of its base, but for an empty piece at the end of these. -/
theorem pieces_join (base : String) :
    ∃ front, (pieces base = front ∨ pieces base = front ++ [""]) ∧
      ∀ entry, isAbsolute entry = false → pieces (join base entry) = front ++ pieces entry := by
  have joined {entry : String} (relative : isAbsolute entry = false) :
      join base entry =
        if base = "" ∨ base.toList.getLast? = some '/' then base ++ entry
        else base ++ "/" ++ entry := by
    rw [join, relative]
    rfl
  by_cases empty : base = ""
  · subst empty
    refine ⟨[], Or.inr rfl, fun entry relative => ?_⟩
    rw [joined relative, if_pos (Or.inl rfl), String.empty_append, List.nil_append]
  · by_cases ends : base.toList.getLast? = some '/'
    · obtain ⟨front, rfl⟩ := eq_append_slash_of_getLast? ends
      refine ⟨pieces front, Or.inr ?_, fun entry relative => ?_⟩
      · have behind := pieces_append_slash front ""
        rwa [String.append_empty] at behind
      · rw [joined relative, if_pos (Or.inr ends), pieces_append_slash]
    · refine ⟨pieces base, Or.inl rfl, fun entry relative => ?_⟩
      rw [joined relative, if_neg (not_or.mpr ⟨empty, ends⟩), pieces_append_slash]

theorem eq_empty_of_pieces {path : String} (single : pieces path = [""]) : path = "" := by
  obtain ⟨piece, split, empty⟩ := List.map_eq_singleton_iff.mp single
  obtain ⟨-, ⟨whole, -⟩ | ⟨rest, -, none⟩⟩ := Text.split_eq_cons split
  · rw [← String.toList_inj, whole, ← String.toList_ofList (l := piece), empty]
  · exact absurd none.symm (List.splitOn_ne_nil '/' rest)

theorem head?_pieces_join {base : String} (nonempty : base ≠ "") {entry : String}
    (relative : isAbsolute entry = false) :
    (pieces (join base entry)).head? = (pieces base).head? := by
  obtain ⟨front, shape, joined⟩ := pieces_join base
  have starts : front ≠ [] := by
    rintro rfl
    exact shape.elim (pieces_ne_nil base) (fun single => nonempty (eq_empty_of_pieces single))
  rw [joined entry relative, List.head?_append_of_ne_nil _ starts]
  obtain same | same := shape
  · rw [same]
  · rw [same, List.head?_append_of_ne_nil _ starts]

theorem exists_join_eq_append {entry : String} (relative : isAbsolute entry = false)
    (base : String) : ∃ rest, join base entry = base ++ rest := by
  rw [join, relative]
  simp only [Bool.false_eq_true, if_false]
  split_ifs
  · exact ⟨entry, rfl⟩
  · exact ⟨"/" ++ entry, String.append_assoc⟩

theorem join_ne_empty {base : String} (nonempty : base ≠ "") {entry : String}
    (relative : isAbsolute entry = false) : join base entry ≠ "" := by
  obtain ⟨rest, joined⟩ := exists_join_eq_append relative base
  rw [joined, Ne, String.append_eq_empty_iff]
  exact fun empty => nonempty empty.1

theorem isAbsolute_append {base : String} (nonempty : base ≠ "") (rest : String) :
    isAbsolute (base ++ rest) = isAbsolute base := by
  obtain ⟨c, others, text⟩ :=
    List.exists_cons_of_ne_nil (mt (fun empty => String.toList_injective empty) nonempty)
  rw [isAbsolute, isAbsolute, String.toList_append, text]
  rfl

theorem isAbsolute_join {base : String} (nonempty : base ≠ "") {entry : String}
    (relative : isAbsolute entry = false) : isAbsolute (join base entry) = isAbsolute base := by
  obtain ⟨rest, joined⟩ := exists_join_eq_append relative base
  rw [joined, isAbsolute_append nonempty]

/-! ## Components -/

theorem ofPiece?_eq_none_iff {piece : String} :
    ofPiece? piece = none ↔ piece = "" ∨ piece = "." := by
  rw [ofPiece?]
  split_ifs with idle up
  · exact iff_of_true rfl idle
  · exact iff_of_false (by simp) idle
  · exact iff_of_false (by simp) idle

theorem ofPiece?_eq_name_iff {piece : String} :
    ofPiece? piece = some (.name piece) ↔ ¬(piece = "" ∨ piece = ".") ∧ piece ≠ ".." := by
  rw [ofPiece?]
  split_ifs with idle up
  · exact iff_of_false (by simp) (fun solid => solid.1 idle)
  · exact iff_of_false (by simp) (fun solid => solid.2 up)
  · exact iff_of_true rfl ⟨idle, up⟩

theorem ofPiece?_ne_current (piece : String) : ofPiece? piece ≠ some .current := by
  rw [ofPiece?]
  split_ifs <;> simp

theorem current_notMem_filterMap (names : List String) :
    .current ∉ names.filterMap ofPiece? := by
  intro member
  obtain ⟨piece, -, named⟩ := List.mem_filterMap.mp member
  exact ofPiece?_ne_current piece named

/-- A path that stays at the working directory is relative, and none of its pieces names a
component. -/
theorem of_components_current {path : String} (current : components path = [.current]) :
    isAbsolute path = false ∧ ∀ piece ∈ pieces path, piece = "" ∨ piece = "." := by
  have idle (none : (pieces path).filterMap ofPiece? = []) :
      ∀ piece ∈ pieces path, piece = "" ∨ piece = "." := fun piece member =>
    ofPiece?_eq_none_iff.mp (List.filterMap_eq_nil_iff.mp none piece member)
  rw [components] at current
  split_ifs at current with absolute dot
  · exact absurd (List.cons.inj current).1 (by decide)
  · exact ⟨by simpa using absolute, idle (List.cons.inj current).2⟩
  · have member : .current ∈ (pieces path).filterMap ofPiece? := by
      rw [List.nil_append] at current
      rw [current]
      exact List.mem_singleton_self _
    exact absurd member (current_notMem_filterMap _)

/-- The components of an entry stand behind those of its base. -/
theorem components_join {base : String} (nonempty : base ≠ "") {entry : String}
    (relative : isAbsolute entry = false) :
    components (join base entry) = components base ++ (pieces entry).filterMap ofPiece? := by
  obtain ⟨front, shape, joined⟩ := pieces_join base
  have named : (pieces base).filterMap ofPiece? = front.filterMap ofPiece? := by
    obtain same | same := shape
    · rw [same]
    · rw [same, List.filterMap_append]
      exact List.append_nil _
  rw [components, components, isAbsolute_join nonempty relative,
    head?_pieces_join nonempty relative, joined entry relative, named, List.filterMap_append,
    List.append_assoc]

/-- The components of the path without the dot that may start it. -/
def course (path : String) : List Component := (components path).filter (· ≠ .current)

theorem filter_filterMap_ofPiece? (names : List String) :
    (names.filterMap ofPiece?).filter (· ≠ .current) = names.filterMap ofPiece? := by
  refine List.filter_eq_self.mpr fun component member => decide_eq_true ?_
  rintro rfl
  exact current_notMem_filterMap names member

theorem course_eq (path : String) :
    course path =
      (if isAbsolute path then [.root] else []) ++ (pieces path).filterMap ofPiece? := by
  rw [course, components, List.filter_append, filter_filterMap_ofPiece?]
  split_ifs <;> rfl

theorem course_join {base : String} (nonempty : base ≠ "") {entry : String}
    (relative : isAbsolute entry = false) :
    course (join base entry) = course base ++ (pieces entry).filterMap ofPiece? := by
  rw [course, components_join nonempty relative, List.filter_append, filter_filterMap_ofPiece?]
  rfl

theorem filterMap_pieces_of_notMem {piece : String} (noSlash : '/' ∉ piece.toList) :
    (pieces piece).filterMap ofPiece? = (ofPiece? piece).toList := by
  rw [pieces_of_notMem noSlash, List.filterMap_cons]
  cases ofPiece? piece <;> rfl

theorem course_of_notMem {piece : String} (noSlash : '/' ∉ piece.toList) :
    course piece = (ofPiece? piece).toList := by
  rw [course_eq, isAbsolute_of_notMem noSlash, filterMap_pieces_of_notMem noSlash]
  rfl

/-- The text names an entry of a directory. -/
structure IsName (name : String) : Prop where
  noSlash : '/' ∉ name.toList
  solid : ¬(name = "" ∨ name = ".") ∧ name ≠ ".."

theorem IsName.ofPiece?_eq {name : String} (isName : IsName name) :
    ofPiece? name = some (.name name) :=
  ofPiece?_eq_name_iff.mpr isName.solid

/-! ## Order -/

/-- The bytes of a name; the other components have none. -/
def Component.bytes : Component → List Nat
  | .name text => Path.bytes text.toList
  | .root | .current | .parent => []

theorem Component.order_eq :
    Component.order = compareLex (compareOn Component.rank) (compareOn Component.bytes) := by
  funext left right
  cases left <;> cases right
  case name.name left right =>
    rw [order, orderNames]
    rfl
  all_goals rfl

instance : Std.TransCmp Component.order := by
  rw [Component.order_eq]
  infer_instance

theorem le_eq_isLE (left right : String) :
    le left right =
      (List.compareLex Component.order (components left) (components right)).isLE := by
  rw [le]
  cases List.compareLex Component.order (components left) (components right) <;> rfl

theorem le_trans {left middle right : String} (first : le left middle = true)
    (second : le middle right = true) : le left right = true := by
  rw [le_eq_isLE] at *
  exact Std.TransCmp.isLE_trans first second

theorem le_total (left right : String) : (le left right || le right left) = true := by
  have swapped : List.compareLex Component.order (components left) (components right) =
      (List.compareLex Component.order (components right) (components left)).swap :=
    Std.OrientedCmp.eq_swap
  rw [le_eq_isLE, le_eq_isLE, swapped]
  cases List.compareLex Component.order (components right) (components left) <;> rfl

theorem pairwise_mergeSort_le (paths : List String) :
    (paths.mergeSort le).Pairwise fun left right => le left right = true := by
  apply List.pairwise_mergeSort
  · intro left middle right
    exact le_trans
  · exact le_total

end Path
end ScriptLint
