import ScriptLint.Linter.Discovery
import ScriptLint.Proofs.Glob.Walk

/-!
# Discovery of scripts

A directory is searched by a pattern that starts with its path, so its path has to stand for itself
there.  The search then finds the scripts below the directory that are not excluded, each once and
in the order of their paths.
-/

namespace ScriptLint

/-! ## What is searched for -/

/-- The path stands for itself at the front of a search.  It is text without wildcards, and the dots
that may start it are followed by a name or by `..`, if by anything. -/
structure Searchable (root : String) : Prop where
  isText : Path.isText root = true
  plain : Glob.Plain root.toList
  starts : Path.isAbsolute root = false →
    ((Path.pieces root).dropWhile (· == ".")).head? ≠ some ""

theorem Searchable.spellable {root : String} (searchable : Searchable root) :
    Glob.Place.Spellable (Glob.start root) (Glob.steps root) := by
  intro current
  rw [Glob.start] at current
  cases absolute : Path.isAbsolute root with
  | true =>
      rw [absolute] at current
      exact absurd current (by decide)
  | false =>
      rw [Glob.steps, absolute]
      exact searchable.starts absolute

/-- The last of the names is text and ends like the name of a script. -/
def EndsInScript (names : List String) : Prop :=
  ∃ name, names.getLast? = some name ∧ Path.isText name = true ∧ ".psc".toList <:+ name.toList

theorem EndsInScript.ne_nil {names : List String} (ends : EndsInScript names) : names ≠ [] := by
  obtain ⟨name, last, -⟩ := ends
  rintro rfl
  contradiction

theorem matchesName_scriptNames_iff {names : List String} (nonempty : names ≠ []) :
    Glob.matchesName .scriptNames (names.getLastD "") = true ↔ EndsInScript names := by
  rw [Glob.matchesName, Bool.and_eq_true, Glob.Pattern.isMatch_scriptNames, EndsInScript,
    List.getLastD_eq_getLast?, List.getLast?_eq_some_getLast nonempty]
  simp

/-- The path of what is held under names below a directory. -/
def pathBelow (root : String) (names : List String) : String :=
  names.foldl Glob.Place.spell (Glob.respell root)

section

variable {workspace : Workspace} {root : String} {above : List Node} {node : Node}
  (leads : workspace.Leads root above node) (searchable : Searchable root)
  (wellFormed : node.WellFormed)
include leads searchable wellFormed

theorem find_pathBelow {names : List String} {inner : Node} (holds : node.Holds names inner) :
    workspace.find (pathBelow root names) = .ok inner := by
  have areNames := holds.isName wellFormed
  have leadsHere := Glob.leads_respell leads searchable.spellable
  obtain ⟨last, trail⟩ := holds.trail wellFormed above
  have leadsBelow := Glob.Place.leads_foldl_spell trail leadsHere
    (fun name member => (areNames name member).noSlash) (Glob.Place.spellable_names areNames)
  exact Workspace.find_eq_ok_iff.mpr ⟨last, leadsBelow⟩

theorem course_pathBelow {names : List String} {inner : Node} (holds : node.Holds names inner) :
    Path.course (pathBelow root names) = Path.course root ++ names.map .name := by
  have leadsHere := Glob.leads_respell leads searchable.spellable
  rw [pathBelow, Glob.Place.course_foldl_names leadsHere.nonempty (holds.isName wellFormed),
    Glob.course_respell searchable.spellable]

end

/-! ## What is found -/

/-- The places of the scripts below a directory. -/
def scriptPlaces (root : String) (node : Node) : List Glob.Place :=
  (node.descendants.filter fun descendant =>
    Glob.matchesName .scriptNames (descendant.1.getLastD "")).map
      (Glob.Place.ofDescendant (Glob.respell root))

theorem mem_scriptPlaces_iff {root : String} {node : Node} {place : Glob.Place} :
    place ∈ scriptPlaces root node ↔
      ∃ names inner, node.Holds names inner ∧ EndsInScript names ∧
        place = ⟨pathBelow root names, inner⟩ := by
  rw [scriptPlaces, List.mem_map]
  constructor
  · rintro ⟨⟨names, inner⟩, kept, rfl⟩
    obtain ⟨isBelow, matched⟩ := List.mem_filter.mp kept
    obtain ⟨nonempty, holds⟩ := Node.mem_descendants.mp isBelow
    exact ⟨names, inner, holds, (matchesName_scriptNames_iff nonempty).mp matched, rfl⟩
  · rintro ⟨names, inner, holds, ends, rfl⟩
    have nonempty := ends.ne_nil
    have isBelow := Node.mem_descendants.mpr ⟨nonempty, holds⟩
    have matched := (matchesName_scriptNames_iff nonempty).mpr ends
    exact ⟨(names, inner), List.mem_filter.mpr ⟨isBelow, matched⟩, rfl⟩

theorem nodup_scriptPlaces {root : String} (nonempty : Glob.respell root ≠ "") {node : Node}
    (wellFormed : node.WellFormed) : ((scriptPlaces root node).map Glob.Place.path).Nodup := by
  have all := Glob.Place.nodup_paths nonempty wellFormed
  rw [scriptPlaces, List.map_map]
  exact all.sublist (List.filter_sublist.map _)

theorem Node.isFile_iff {node : Node} : node.isFile = true ↔ ∃ text, node = .file text := by
  cases node with
  | file text => exact iff_of_true rfl ⟨text, rfl⟩
  | directory entries => exact iff_of_false (by simp [isFile, isDirectory]) (by simp)

theorem discover_eq (linter : Linter) {workspace : Workspace} {root : String} {above : List Node}
    {node : Node} (leads : workspace.Leads root above node) (searchable : Searchable root) :
    ∃ discovery, linter.discover workspace root = .ok discovery ∧
      discovery.scripts =
        ((((scriptPlaces root node).filter fun place => !linter.isExcluded place.path).filter
          fun place => place.node.isFile).map Glob.Place.path).mergeSort Path.le := by
  have shown : Path.display root = root := by rw [Path.display, if_pos searchable.isText]
  rw [Linter.discover, Linter.searchPattern, shown,
    Glob.search_below leads searchable.spellable searchable.plain]
  refine ⟨_, rfl, ?_⟩
  simp only [List.partition_eq_filter_filter]
  rfl

/-- Discovery is exact.  Below a directory whose path stands for itself, the search succeeds and
lists the scripts at any depth that are not excluded, each once and in the order of the paths.  The
listed paths continue that of the directory by the names that lead to the script, and lead there. -/
theorem discovers_exactly (linter : Linter) {workspace : Workspace} {root : String} {node : Node}
    (wellFormed : workspace.root.WellFormed) (found : workspace.find root = .ok node)
    (searchable : Searchable root) :
    ∃ discovery, linter.discover workspace root = .ok discovery ∧
      (∀ path, path ∈ discovery.scripts ↔
        ∃ names text, node.Holds names (.file text) ∧ EndsInScript names ∧
          pathBelow root names = path ∧ linter.isExcluded path = false) ∧
      discovery.scripts.Nodup ∧
      discovery.scripts.Pairwise (fun left right => Path.le left right = true) ∧
      ∀ names inner, node.Holds names inner →
        Path.course (pathBelow root names) = Path.course root ++ names.map .name ∧
          workspace.find (pathBelow root names) = .ok inner := by
  obtain ⟨above, leads⟩ := Workspace.find_eq_ok_iff.mp found
  have nodeWellFormed : node.WellFormed :=
    leads.trail.wellFormed (List.forall_mem_singleton.mpr wellFormed) node List.mem_cons_self
  obtain ⟨discovery, discovered, listed⟩ := discover_eq linter leads searchable
  refine ⟨discovery, discovered, fun path => ?_, ?_, ?_, fun names inner holds => ?_⟩
  · simp only [listed, List.mem_mergeSort, List.mem_map, List.mem_filter, mem_scriptPlaces_iff,
      Node.isFile_iff]
    constructor
    · rintro ⟨_, ⟨⟨⟨names, inner, holds, ends, rfl⟩, included⟩, text, rfl⟩, rfl⟩
      exact ⟨names, text, holds, ends, rfl, by simpa using included⟩
    · rintro ⟨names, text, holds, ends, rfl, included⟩
      exact ⟨⟨pathBelow root names, .file text⟩,
        ⟨⟨⟨names, _, holds, ends, rfl⟩, by simpa using included⟩, text, rfl⟩, rfl⟩
  · have nonempty := (Glob.leads_respell leads searchable.spellable).nonempty
    rw [listed, (List.mergeSort_perm _ _).nodup_iff]
    exact (nodup_scriptPlaces nonempty nodeWellFormed).sublist
      ((List.filter_sublist.trans List.filter_sublist).map _)
  · rw [listed]
    exact Path.pairwise_mergeSort_le _
  · exact ⟨course_pathBelow leads searchable nodeWellFormed holds,
      find_pathBelow leads searchable nodeWellFormed holds⟩

/-- Scripts in a hidden directory are found, and the dot in front of the path disappears. -/
theorem discovers_exactly_hidden :
    let hidden : Node := .directory [("B.psc", .file none)]
    let mods : Node := .directory [(".old", hidden), ("A.psc", .file (some ""))]
    let workspace : Workspace := { root := .directory [("mods", mods)] }
    let linter : Linter := { rules := [], excludes := ["**/A*"] }
    workspace.root.WellFormed ∧ workspace.find "./mods" = .ok mods ∧ Searchable "./mods" ∧
      ∃ discovery, linter.discover workspace "./mods" = .ok discovery ∧
        "mods/.old/B.psc" ∈ discovery.scripts ∧ "mods/A.psc" ∉ discovery.scripts := by
  intro hidden mods workspace linter
  have hiddenWellFormed : hidden.WellFormed :=
    .directory (by decide) (List.forall_mem_singleton.mpr ⟨by decide, by decide⟩)
      (List.forall_mem_singleton.mpr (.file none))
  have modsWellFormed : mods.WellFormed := by
    refine .directory (by decide) (List.forall_mem_cons.mpr ⟨⟨by decide, by decide⟩, ?_⟩)
      (List.forall_mem_cons.mpr ⟨hiddenWellFormed, ?_⟩)
    · exact List.forall_mem_singleton.mpr ⟨by decide, by decide⟩
    · exact List.forall_mem_singleton.mpr (.file _)
  have wellFormed : workspace.root.WellFormed :=
    .directory (by decide) (List.forall_mem_singleton.mpr ⟨by decide, by decide⟩)
      (List.forall_mem_singleton.mpr modsWellFormed)
  have found : workspace.find "./mods" = .ok mods := by
    have pieces : Path.pieces (workspace.absolute "./mods") = ["", ".", "mods"] := by
      decide +kernel
    rw [Workspace.find, if_neg (by decide), pieces, Node.follow_eq_ok_iff]
    exact ⟨_, .cons (.stay (Or.inl rfl)) (.cons (.stay (Or.inr rfl))
      (.cons (.down (by decide) (Node.lookup_of_mem (by decide) List.mem_cons_self)) (.nil _ _)))⟩
  have searchable : Searchable "./mods" := by
    refine ⟨by decide, fun c member => ?_, fun _ => by decide⟩
    have plain : "./mods".toList.all (fun c => c ≠ '?' ∧ c ≠ '*' ∧ c ≠ '[') = true := by decide
    exact of_decide_eq_true (List.all_eq_true.mp plain c member)
  obtain ⟨discovery, discovered, listed, -⟩ := discovers_exactly linter wellFormed found searchable
  refine ⟨wellFormed, found, searchable, discovery, discovered, ?_, ?_⟩
  · refine (listed _).mpr ⟨[".old", "B.psc"], none, ?_, ?_, ?_, ?_⟩
    · exact .entry List.mem_cons_self (.entry List.mem_cons_self (.self _))
    · exact ⟨"B.psc", rfl, by decide, by decide⟩
    · decide +kernel
    · decide +kernel
  · intro member
    obtain ⟨_, _, _, _, _, included⟩ := (listed _).mp member
    exact absurd included (by decide +kernel)

/-- A directory with brackets in its name is there and holds a script.  The search takes the
brackets for a class and lists the script of another directory instead.  In the same workspace, the
working directory is found under `./`, but the search loses its dot and lists nothing. -/
theorem discovery_reads_root_as_pattern :
    let bracketed : Node := .directory [("a.psc", .file (some ""))]
    let other : Node := .directory [("b.psc", .file (some ""))]
    let workspace : Workspace := { root := .directory [("[x]", bracketed), ("x", other)] }
    let linter : Linter := { rules := [] }
    (workspace.find "[x]" = .ok bracketed ∧ bracketed.Holds ["a.psc"] (.file (some "")) ∧
      linter.isExcluded "[x]/a.psc" = false ∧
        linter.discover workspace "[x]" = .ok ⟨["x/b.psc"], []⟩) ∧
      workspace.find "./" = .ok workspace.root ∧ linter.discover workspace "./" = .ok ⟨[], []⟩ := by
  intro bracketed other workspace linter
  have found : workspace.find "[x]" = .ok bracketed := by
    have pieces : Path.pieces (workspace.absolute "[x]") = ["", "[x]"] := by decide +kernel
    rw [Workspace.find, if_neg (by decide), pieces, Node.follow_eq_ok_iff]
    exact ⟨_, .cons (.stay (Or.inl rfl))
      (.cons (.down (by decide) (Node.lookup_of_mem (by decide) List.mem_cons_self)) (.nil _ _))⟩
  have foundHere : workspace.find "./" = .ok workspace.root := by
    have pieces : Path.pieces (workspace.absolute "./") = ["", ".", ""] := by decide +kernel
    rw [Workspace.find, if_neg (by decide), pieces, Node.follow_eq_ok_iff]
    exact ⟨_, Node.trail_idle (by simp) [] _⟩
  exact ⟨⟨found, .entry List.mem_cons_self (.self _), rfl, by decide +kernel⟩, foundHere,
    by decide +kernel⟩

end ScriptLint
