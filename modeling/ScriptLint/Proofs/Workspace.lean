import Mathlib.Data.List.Nodup
import ScriptLint.Proofs.Path
import ScriptLint.Workspace

/-!
# Following paths in a workspace

A path is followed piece by piece, with the nodes above the present one at hand for `..`.  Where a
path leads to a directory, the path of an entry joined to it leads to where the entry leads from
there.
-/

namespace ScriptLint
namespace Node

/-! ## Trails -/

/-- One piece leads from a directory with these entries to a node; the nodes above the directory and
above the node are given innermost first. -/
inductive Step (above : List Node) (entries : List (String × Node)) :
    String → List Node → Node → Prop
  | stay {piece : String} (idle : piece = "" ∨ piece = ".") :
      Step above entries piece above (.directory entries)
  | top (none : above = []) : Step above entries ".." [] (.directory entries)
  | up {parent : Node} {others : List Node} (some : above = parent :: others) :
      Step above entries ".." others parent
  | down {name : String} {inner : Node} (isName : Path.ofPiece? name = some (.name name))
      (found : entries.lookup name = some inner) :
      Step above entries name (.directory entries :: above) inner

/-- The pieces lead one after the other from a node to another one. -/
inductive Trail : List Node → Node → List String → List Node → Node → Prop
  | nil (above : List Node) (node : Node) : Trail above node [] above node
  | cons {above between last : List Node} {entries : List (String × Node)} {next target : Node}
      {piece : String} {rest : List String} (first : Step above entries piece between next)
      (later : Trail between next rest last target) :
      Trail above (.directory entries) (piece :: rest) last target

theorem follow_cons_eq_ok_iff {above : List Node} {node target : Node} {piece : String}
    {rest : List String} :
    follow above node (piece :: rest) = .ok target ↔
      ∃ entries between next, node = .directory entries ∧ Step above entries piece between next ∧
        follow between next rest = .ok target := by
  constructor
  · intro reached
    cases node with
    | file text => exact nomatch reached
    | directory entries =>
        rw [follow.eq_def] at reached
        simp only at reached
        split_ifs at reached with idle isUp
        · exact ⟨entries, above, _, rfl, .stay idle, reached⟩
        · subst isUp
          cases above with
          | nil => exact ⟨entries, [], _, rfl, .top rfl, reached⟩
          | cons parent others => exact ⟨entries, others, _, rfl, .up rfl, reached⟩
        · have isName := Path.ofPiece?_eq_name_iff.mpr ⟨idle, isUp⟩
          cases found : entries.lookup piece with
          | none =>
              rw [found] at reached
              contradiction
          | some inner =>
              rw [found] at reached
              exact ⟨entries, _, inner, rfl, .down isName found, reached⟩
  · rintro ⟨entries, between, next, rfl, step, reached⟩
    rw [follow.eq_def]
    simp only
    cases step with
    | stay idle => rwa [if_pos idle]
    | top none =>
        subst none
        rwa [if_neg (by decide), if_pos rfl]
    | up some =>
        subst some
        rwa [if_neg (by decide), if_pos rfl]
    | down isName found =>
        obtain ⟨notIdle, notUp⟩ := Path.ofPiece?_eq_name_iff.mp isName
        rwa [if_neg notIdle, if_neg notUp, found]

/-- Following pieces succeeds exactly if they make a trail. -/
theorem follow_eq_ok_iff {above : List Node} {node target : Node} {pieces : List String} :
    follow above node pieces = .ok target ↔ ∃ last, Trail above node pieces last target := by
  induction pieces generalizing above node with
  | nil =>
      constructor
      · intro reached
        obtain rfl := Except.ok.inj reached
        exact ⟨above, .nil above node⟩
      · rintro ⟨last, trail⟩
        cases trail
        rfl
  | cons piece rest ih =>
      rw [follow_cons_eq_ok_iff]
      constructor
      · rintro ⟨entries, between, next, rfl, first, reached⟩
        obtain ⟨last, later⟩ := ih.mp reached
        exact ⟨last, .cons first later⟩
      · rintro ⟨last, trail⟩
        cases trail with
        | cons first later => exact ⟨_, _, _, rfl, first, ih.mpr ⟨last, later⟩⟩

/-- A trail can be cut between any two pieces. -/
theorem trail_append_iff {above last : List Node} {node target : Node} {front back : List String} :
    Trail above node (front ++ back) last target ↔
      ∃ between next,
        Trail above node front between next ∧ Trail between next back last target := by
  induction front generalizing above node with
  | nil =>
      constructor
      · intro trail
        exact ⟨above, node, .nil above node, trail⟩
      · rintro ⟨between, next, first, later⟩
        cases first
        exact later
  | cons piece front ih =>
      constructor
      · intro trail
        cases trail with
        | cons first later =>
            obtain ⟨between, next, middle, later⟩ := ih.mp later
            exact ⟨between, next, .cons first middle, later⟩
      · rintro ⟨between, next, trail, later⟩
        cases trail with
        | cons first middle => exact .cons first (ih.mpr ⟨between, next, middle, later⟩)

theorem trail_singleton {above last : List Node} {entries : List (String × Node)} {target : Node}
    {piece : String} (step : Step above entries piece last target) :
    Trail above (.directory entries) [piece] last target :=
  .cons step (.nil last target)

theorem Step.of_idle {above last : List Node} {entries : List (String × Node)} {target : Node}
    {piece : String} (idle : piece = "" ∨ piece = ".")
    (step : Step above entries piece last target) : last = above ∧ target = .directory entries := by
  cases step with
  | stay => exact ⟨rfl, rfl⟩
  | top | up => exact absurd idle (by decide)
  | down isName => exact absurd idle (Path.ofPiece?_eq_name_iff.mp isName).1

/-- Pieces that name nothing lead nowhere else. -/
theorem Trail.of_idle {above last : List Node} {node target : Node} {pieces : List String}
    (trail : Trail above node pieces last target)
    (idle : ∀ piece ∈ pieces, piece = "" ∨ piece = ".") : last = above ∧ target = node := by
  induction trail with
  | nil => exact ⟨rfl, rfl⟩
  | cons first later ih =>
      obtain ⟨firstIdle, laterIdle⟩ := List.forall_mem_cons.mp idle
      obtain ⟨rfl, rfl⟩ := first.of_idle firstIdle
      exact ih laterIdle

theorem trail_idle {pieces : List String} (idle : ∀ piece ∈ pieces, piece = "" ∨ piece = ".")
    (above : List Node) (entries : List (String × Node)) :
    Trail above (.directory entries) pieces above (.directory entries) := by
  induction pieces with
  | nil => exact .nil above _
  | cons piece rest ih =>
      obtain ⟨firstIdle, laterIdle⟩ := List.forall_mem_cons.mp idle
      exact .cons (.stay firstIdle) (ih laterIdle)

/-! ## Trees -/

/-- The names in every directory are names of entries and differ from each other. -/
inductive WellFormed : Node → Prop
  | file (text : Option String) : WellFormed (.file text)
  | directory {entries : List (String × Node)} (distinct : (entries.map Prod.fst).Nodup)
      (named : ∀ entry ∈ entries, Path.IsName entry.1)
      (inner : ∀ entry ∈ entries, WellFormed entry.2) : WellFormed (.directory entries)

/-- The node holds another one under a list of names. -/
inductive Holds : Node → List String → Node → Prop
  | self (node : Node) : Holds node [] node
  | entry {entries : List (String × Node)} {name : String} {inner found : Node}
      {names : List String} (member : (name, inner) ∈ entries) (later : Holds inner names found) :
      Holds (.directory entries) (name :: names) found

theorem lookup_of_mem {entries : List (String × Node)} (distinct : (entries.map Prod.fst).Nodup)
    {name : String} {inner : Node} (member : (name, inner) ∈ entries) :
    entries.lookup name = some inner := by
  obtain ⟨front, back, rfl⟩ := List.append_of_mem member
  refine List.lookup_eq_some_iff.mpr ⟨front, back, rfl, fun entry inFront => ?_⟩
  rw [List.map_append, List.nodup_append] at distinct
  rw [bne_iff_ne]
  exact (distinct.2.2 entry.1 (List.mem_map_of_mem inFront) name (by simp)).symm

theorem mem_of_lookup {entries : List (String × Node)} {name : String} {inner : Node}
    (found : entries.lookup name = some inner) : (name, inner) ∈ entries := by
  obtain ⟨front, back, rfl, -⟩ := List.lookup_eq_some_iff.mp found
  exact List.mem_append_right front List.mem_cons_self

theorem Holds.isName {node found : Node} {names : List String} (holds : Holds node names found)
    (wellFormed : node.WellFormed) : ∀ name ∈ names, Path.IsName name := by
  induction holds with
  | self => exact fun _ member => absurd member List.not_mem_nil
  | entry member later ih =>
      cases wellFormed with
      | directory distinct named inner =>
          exact List.forall_mem_cons.mpr ⟨named _ member, ih (inner _ member)⟩

/-- The names lead to the node that is held under them. -/
theorem Holds.trail {node found : Node} {names : List String} (holds : Holds node names found)
    (wellFormed : node.WellFormed) (above : List Node) :
    ∃ last, Trail above node names last found := by
  induction holds generalizing above with
  | self node => exact ⟨above, .nil above node⟩
  | entry member later ih =>
      cases wellFormed with
      | directory distinct named inner =>
          obtain ⟨last, trail⟩ := ih (inner _ member) _
          have found := lookup_of_mem distinct member
          exact ⟨last, .cons (.down (named _ member).ofPiece?_eq found) trail⟩

theorem Trail.wellFormed {above last : List Node} {node target : Node} {pieces : List String}
    (trail : Trail above node pieces last target) (all : ∀ tree ∈ node :: above, tree.WellFormed) :
    ∀ tree ∈ target :: last, tree.WellFormed := by
  induction trail with
  | nil => exact all
  | cons first later ih =>
      apply ih
      obtain ⟨here, above⟩ := List.forall_mem_cons.mp all
      cases first with
      | stay => exact all
      | top => exact List.forall_mem_singleton.mpr here
      | up some => exact some ▸ above
      | down isName found =>
          cases here with
          | directory distinct named inner =>
              exact List.forall_mem_cons.mpr ⟨inner _ (mem_of_lookup found), all⟩

/-! ## Descendants -/

mutual

/-- What holds of every file, and of a directory if it holds of its entries, holds of every node. -/
theorem byEntries {motive : Node → Prop} (file : ∀ text, motive (.file text))
    (directory : ∀ entries, (∀ entry ∈ entries, motive entry.2) → motive (.directory entries)) :
    ∀ node, motive node
  | .file text => file text
  | .directory entries => directory entries (byEntries_each file directory entries)

theorem byEntries_each {motive : Node → Prop} (file : ∀ text, motive (.file text))
    (directory : ∀ entries, (∀ entry ∈ entries, motive entry.2) → motive (.directory entries)) :
    ∀ entries : List (String × Node), ∀ entry ∈ entries, motive entry.2
  | [], _, member => absurd member List.not_mem_nil
  | (_, node) :: rest, entry, member => by
      obtain rfl | later := List.mem_cons.mp member
      · exact byEntries file directory node
      · exact byEntries_each file directory rest entry later

end

mutual

/-- The names under which a node holds others, and these. -/
def descendants : Node → List (List String × Node)
  | .file _ => []
  | .directory entries => descendantsOfEntries entries

/-- The names under which the entries of a directory are held and hold others. -/
def descendantsOfEntries : List (String × Node) → List (List String × Node)
  | [] => []
  | (name, node) :: rest =>
      ([name], node) ::
        ((descendants node).map (Prod.map (name :: ·) id) ++ descendantsOfEntries rest)

end

theorem descendants_directory (entries : List (String × Node)) :
    descendants (.directory entries) = entries.flatMap fun entry =>
      ([entry.1], entry.2) :: (descendants entry.2).map (Prod.map (entry.1 :: ·) id) := by
  rw [descendants]
  induction entries with
  | nil => rfl
  | cons entry rest ih => rw [descendantsOfEntries, ih, List.flatMap_cons, List.cons_append]

/-- The descendants are what the node holds below itself. -/
theorem mem_descendants {node found : Node} {names : List String} :
    (names, found) ∈ descendants node ↔ names ≠ [] ∧ Holds node names found := by
  induction node using byEntries generalizing names with
  | file text =>
      refine iff_of_false List.not_mem_nil ?_
      rintro ⟨nonempty, holds⟩
      cases holds
      exact nonempty rfl
  | directory entries ih =>
      rw [descendants_directory, List.mem_flatMap]
      constructor
      · rintro ⟨⟨name, inner⟩, member, isFirst | ⟨_, isLater⟩⟩
        · exact ⟨List.cons_ne_nil name [], .entry member (.self _)⟩
        · obtain ⟨⟨later, node⟩, below, same⟩ := List.mem_map.mp isLater
          obtain ⟨rfl, rfl⟩ := Prod.mk.inj same
          exact ⟨List.cons_ne_nil name later, .entry member ((ih _ member).mp below).2⟩
      · rintro ⟨nonempty, holds⟩
        cases holds with
        | self => exact absurd rfl nonempty
        | @entry _ name inner _ later member holds =>
            refine ⟨(name, inner), member, ?_⟩
            by_cases last : later = []
            · subst last
              cases holds
              exact List.mem_cons_self
            · have below := (ih _ member).mpr ⟨last, holds⟩
              exact List.mem_cons_of_mem _ (List.mem_map_of_mem below)

/-- Below a well-formed node no names lead to two nodes. -/
theorem WellFormed.nodup_descendants {node : Node} (wellFormed : node.WellFormed) :
    (node.descendants.map Prod.fst).Nodup := by
  induction wellFormed with
  | file => exact List.nodup_nil
  | @directory entries distinct named inner ih =>
      -- The names that start with an entry are those below it with its own name in front.
      have group (entry : String × Node) :
          (([entry.1], entry.2) :: entry.2.descendants.map (Prod.map (entry.1 :: ·) id)).map
              Prod.fst =
            [entry.1] :: (entry.2.descendants.map Prod.fst).map (entry.1 :: ·) := by
        simp only [List.map_cons, List.map_map, Function.comp_def, Prod.map_fst]
      rw [descendants_directory, List.map_flatMap, List.nodup_flatMap]
      simp only [group]
      constructor
      · intro entry member
        refine List.nodup_cons.mpr ⟨?_, (ih entry member).map (List.cons_injective)⟩
        intro again
        obtain ⟨names, isBelow, same⟩ := List.mem_map.mp again
        obtain ⟨⟨_, found⟩, below, rfl⟩ := List.mem_map.mp isBelow
        exact (mem_descendants.mp below).1 (List.cons.inj same).2
      · refine (List.pairwise_map.mp distinct).imp fun differ names inOne inOther => ?_
        have starts {entry : String × Node}
            (inGroup : names ∈ [entry.1] :: (entry.2.descendants.map Prod.fst).map (entry.1 :: ·)) :
            names.head? = some entry.1 := by
          obtain rfl | later := List.mem_cons.mp inGroup
          · rfl
          · obtain ⟨rest, -, rfl⟩ := List.mem_map.mp later
            rfl
        exact differ (Option.some.inj ((starts inOne).symm.trans (starts inOther)))

end Node

namespace Workspace

variable {workspace : Workspace} {path : String} {above : List Node} {node : Node}

/-- The path leads to the node, with these nodes above it. -/
structure Leads (workspace : Workspace) (path : String) (above : List Node) (node : Node) :
    Prop where
  nonempty : path ≠ ""
  trail : Node.Trail [] workspace.root (Path.pieces (workspace.absolute path)) above node

theorem find_eq_ok_iff :
    workspace.find path = .ok node ↔ ∃ above, workspace.Leads path above node := by
  rw [find]
  split_ifs with empty
  · exact iff_of_false (by simp) (fun ⟨_, leads⟩ => leads.nonempty empty)
  · rw [Node.follow_eq_ok_iff]
    constructor
    · rintro ⟨above, trail⟩
      exact ⟨above, empty, trail⟩
    · rintro ⟨above, leads⟩
      exact ⟨above, leads.trail⟩

/-- The pieces that a path is followed by: those of the working directory in front of a relative
path, and nothing in front of an absolute one. -/
theorem pieces_absolute (workspace : Workspace) (isAbsolute : Bool) :
    ∃ front, ∀ path, Path.isAbsolute path = isAbsolute →
      Path.pieces (workspace.absolute path) = front ++ Path.pieces path := by
  cases isAbsolute with
  | true =>
      refine ⟨[], fun path starts => ?_⟩
      rw [absolute, Path.join, if_pos starts, List.nil_append]
  | false =>
      obtain ⟨front, -, joined⟩ := Path.pieces_join workspace.directory
      exact ⟨front, joined⟩

/-- The path of an entry leads to where the entry leads from the directory. -/
theorem Leads.join {entries : List (String × Node)} {entry : String} {last : List Node}
    {target : Node} (leads : workspace.Leads path above (.directory entries))
    (noSlash : '/' ∉ entry.toList) (step : Node.Step above entries entry last target) :
    workspace.Leads (Path.join path entry) last target := by
  have relative := Path.isAbsolute_of_notMem noSlash
  obtain ⟨start, absolute⟩ := workspace.pieces_absolute (Path.isAbsolute path)
  obtain ⟨front, shape, joined⟩ := Path.pieces_join path
  have sameStart := Path.isAbsolute_join leads.nonempty relative
  refine ⟨Path.join_ne_empty leads.nonempty relative, ?_⟩
  rw [absolute _ sameStart, joined entry relative, Path.pieces_of_notMem noSlash,
    ← List.append_assoc, Node.trail_append_iff]
  refine ⟨above, .directory entries, ?_, Node.trail_singleton step⟩
  have trail := leads.trail
  rw [absolute path rfl] at trail
  obtain same | same := shape
  · rwa [same] at trail
  · -- The empty piece behind a slash at the end of the path leads nowhere else.
    rw [same, ← List.append_assoc, Node.trail_append_iff] at trail
    obtain ⟨between, next, trail, idle⟩ := trail
    obtain ⟨rfl, rfl⟩ := idle.of_idle (by simp)
    exact trail

end Workspace
end ScriptLint
