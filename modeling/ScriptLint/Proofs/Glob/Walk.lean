import ScriptLint.Glob.Walk
import ScriptLint.Proofs.Glob.Pattern
import ScriptLint.Proofs.Workspace

/-!
# Walking below a path

Walking by a path without wildcards leads to where the path leads.  A search for scripts below such
a path finds what is held there under names of which the last one is the name of a script, and it
spells a different path for each.
-/

namespace ScriptLint
namespace Glob

/-! ## The components of a search -/

theorem mapM_eq_ok {ε α β : Type} {f : α → Except ε β} {g : α → β} {entries : List α}
    (each : ∀ entry ∈ entries, f entry = .ok (g entry)) : entries.mapM f = .ok (entries.map g) := by
  induction entries with
  | nil => rfl
  | cons entry entries ih =>
      obtain ⟨first, others⟩ := List.forall_mem_cons.mp each
      rw [List.mapM_cons, first, ih others]
      rfl

theorem mergeRecursive_cons {first : Pattern} (single : first.isRecursive = false)
    (rest : List Pattern) : mergeRecursive (first :: rest) = first :: mergeRecursive rest := by
  cases rest with
  | nil => rfl
  | cons second rest => rw [mergeRecursive, single, Bool.false_and, if_neg Bool.false_ne_true]

theorem mergeRecursive_plain (texts : List String) :
    mergeRecursive (texts.map Pattern.plain ++ [.everything, .scriptNames]) =
      texts.map Pattern.plain ++ [.everything, .scriptNames] := by
  induction texts with
  | nil => rfl
  | cons text texts ih =>
      rw [List.map_cons, List.cons_append, mergeRecursive_cons (Pattern.isRecursive_plain text), ih]

/-- Where the search for a pattern starts. -/
def start (pattern : String) : String := if Path.isAbsolute pattern then "/" else "."

/-- The pieces of a pattern that are walked from its start. -/
def steps (pattern : String) : List String :=
  if Path.isAbsolute pattern then (Path.pieces pattern).tail else Path.pieces pattern

theorem of_mem_steps {path piece : String} (member : piece ∈ steps path) :
    '/' ∉ piece.toList ∧ piece.toList ⊆ path.toList := by
  rw [steps] at member
  split_ifs at member
  · exact Path.of_mem_pieces (List.mem_of_mem_tail member)
  · exact Path.of_mem_pieces member

theorem search_of_parsed {workspace : Workspace} {text : String} {pattern : Pattern}
    {components : List Pattern} {node : Node} (whole : Pattern.parse text = .ok pattern)
    (parsed : (steps text).mapM Pattern.parse = .ok components)
    (found : workspace.find (start text) = .ok node) :
    search workspace text =
      .ok (walk workspace (mergeRecursive components) ⟨start text, node⟩) := by
  rw [steps] at parsed
  rw [start] at found ⊢
  simp only [search, whole, parsed, found, bind, Except.bind]

section

variable {root : String} (nonempty : root ≠ "")
include nonempty

theorem start_search : start (root ++ "/**/*.psc") = start root := by
  rw [start, start, Path.isAbsolute_append nonempty]

theorem steps_search : steps (root ++ "/**/*.psc") = steps root ++ ["**", "*.psc"] := by
  have pieces : Path.pieces (root ++ "/**/*.psc") = Path.pieces root ++ ["**", "*.psc"] := by
    have split : root ++ "/**/*.psc" = root ++ "/" ++ "**/*.psc" := by
      rw [String.append_assoc]
      rfl
    rw [split, Path.pieces_append_slash]
    rfl
  rw [steps, steps, Path.isAbsolute_append nonempty, pieces]
  split_ifs
  · exact List.tail_append_of_ne_nil (Path.pieces_ne_nil root)
  · rfl

/-- The search for the scripts below a path without wildcards walks the path from its start. -/
theorem search_plain (plain : Plain root.toList) {workspace : Workspace} {node : Node}
    (found : workspace.find (start root) = .ok node) :
    search workspace (root ++ "/**/*.psc") =
      .ok (walk workspace ((steps root).map Pattern.plain ++ [.everything, .scriptNames])
        ⟨start root, node⟩) := by
  have parsed : (steps (root ++ "/**/*.psc")).mapM Pattern.parse =
      .ok ((steps root).map Pattern.plain ++ [.everything, .scriptNames]) := by
    have each (piece : String) (member : piece ∈ steps root) :
        Pattern.parse piece = .ok (.plain piece) :=
      Pattern.parse_plain fun c inPiece => plain c ((of_mem_steps member).2 inPiece)
    rw [steps_search nonempty, List.mapM_append, mapM_eq_ok each]
    rfl
  obtain ⟨tokens, read⟩ := exists_readTokens_search plain 0 none
  have whole : Pattern.parse (root ++ "/**/*.psc") = .ok ⟨tokens⟩ := by
    rw [Pattern.parse, String.toList_append, read]
    rfl
  rw [← start_search nonempty] at found ⊢
  rw [search_of_parsed whole parsed found, mergeRecursive_plain]

end

/-! ## Spelling -/

namespace Place

variable {path entry : String}

theorem spell_of_current (current : Path.components path = [.current]) :
    spell path entry = entry := by
  rw [spell, if_pos current]

theorem spell_of_ne_current (moved : Path.components path ≠ [.current]) :
    spell path entry = Path.join path entry := by
  rw [spell, if_neg moved]

/-- The path of an entry as it is spelled leads to where the entry leads from the directory, unless
an empty entry takes the place of a dot. -/
theorem leads_spell {workspace : Workspace} {above last : List Node}
    {entries : List (String × Node)} {target : Node}
    (leads : workspace.Leads path above (.directory entries)) (noSlash : '/' ∉ entry.toList)
    (solid : Path.components path = [.current] → entry ≠ "")
    (step : Node.Step above entries entry last target) :
    workspace.Leads (spell path entry) last target := by
  by_cases current : Path.components path = [.current]
  · -- The path names nothing, so it leads to the working directory, and the entry on from there.
    obtain ⟨relative, idle⟩ := Path.of_components_current current
    obtain ⟨front, absolute⟩ := workspace.pieces_absolute false
    have trail := leads.trail
    rw [absolute path relative, Node.trail_append_iff] at trail
    obtain ⟨between, next, trail, stays⟩ := trail
    obtain ⟨rfl, rfl⟩ := stays.of_idle idle
    rw [spell_of_current current]
    refine ⟨solid current, ?_⟩
    rw [absolute entry (Path.isAbsolute_of_notMem noSlash), Path.pieces_of_notMem noSlash,
      Node.trail_append_iff]
    exact ⟨_, _, trail, Node.trail_singleton step⟩
  · rw [spell_of_ne_current current]
    exact leads.join noSlash step

/-- The pieces can be spelled one after the other from a path: no empty piece comes first behind
dots that disappear. -/
def Spellable (path : String) (pieces : List String) : Prop :=
  Path.components path = [.current] → (pieces.dropWhile (· == ".")).head? ≠ some ""

theorem components_spell (nonempty : path ≠ "") (moved : Path.components path ≠ [.current])
    (noSlash : '/' ∉ entry.toList) :
    Path.components (spell path entry) = Path.components path ++ (Path.ofPiece? entry).toList := by
  rw [spell_of_ne_current moved, Path.components_join nonempty (Path.isAbsolute_of_notMem noSlash),
    Path.filterMap_pieces_of_notMem noSlash]

theorem components_spell_ne_current (nonempty : path ≠ "")
    (moved : Path.components path ≠ [.current]) (noSlash : '/' ∉ entry.toList) :
    Path.components (spell path entry) ≠ [.current] := by
  rw [components_spell nonempty moved noSlash]
  cases named : Path.ofPiece? entry with
  | none => simpa using moved
  | some component =>
      intro current
      have last := congrArg List.getLast? current
      simp only [Option.toList_some, List.getLast?_append, List.getLast?_singleton] at last
      obtain rfl := Option.some.inj last
      exact Path.ofPiece?_ne_current entry named

theorem Spellable.first {rest : List String} (spellable : Spellable path (entry :: rest)) :
    Path.components path = [.current] → entry ≠ "" := by
  rintro current rfl
  exact spellable current rfl

theorem Spellable.later {rest : List String} (spellable : Spellable path (entry :: rest))
    (nonempty : path ≠ "") (noSlash : '/' ∉ entry.toList) : Spellable (spell path entry) rest := by
  by_cases current : Path.components path = [.current]
  · have keeps := spellable current
    rw [spell_of_current current]
    intro currentEntry
    -- Only another dot is spelled as a dot again.
    have idle := (Path.of_components_current currentEntry).2
    rw [Path.pieces_of_notMem noSlash, List.forall_mem_singleton] at idle
    obtain rfl := idle.resolve_left (spellable.first current)
    exact keeps
  · exact fun currentEntry =>
      absurd currentEntry (components_spell_ne_current nonempty current noSlash)

theorem course_spell (nonempty : path ≠ "") (noSlash : '/' ∉ entry.toList) :
    Path.course (spell path entry) = Path.course path ++ (Path.ofPiece? entry).toList := by
  by_cases current : Path.components path = [.current]
  · have noCourse : Path.course path = [] := by
      rw [Path.course, current]
      rfl
    rw [spell_of_current current, Path.course_of_notMem noSlash, noCourse, List.nil_append]
  · rw [spell_of_ne_current current,
      Path.course_join nonempty (Path.isAbsolute_of_notMem noSlash),
      Path.filterMap_pieces_of_notMem noSlash]

theorem spell_ne_empty (nonempty : path ≠ "") (noSlash : '/' ∉ entry.toList)
    (solid : Path.components path = [.current] → entry ≠ "") : spell path entry ≠ "" := by
  by_cases current : Path.components path = [.current]
  · rw [spell_of_current current]
    exact solid current
  · rw [spell_of_ne_current current]
    exact Path.join_ne_empty nonempty (Path.isAbsolute_of_notMem noSlash)

/-- The course of pieces stands behind that of the path from which they are spelled. -/
theorem course_foldl_spell {pieces : List String} (nonempty : path ≠ "")
    (noSlash : ∀ piece ∈ pieces, '/' ∉ piece.toList) (spellable : Spellable path pieces) :
    Path.course (pieces.foldl spell path) =
      Path.course path ++ pieces.filterMap Path.ofPiece? := by
  induction pieces generalizing path with
  | nil => exact (List.append_nil _).symm
  | cons piece pieces ih =>
      obtain ⟨firstSlash, laterSlash⟩ := List.forall_mem_cons.mp noSlash
      rw [List.foldl_cons, ih (spell_ne_empty nonempty firstSlash spellable.first) laterSlash
        (spellable.later nonempty firstSlash), course_spell nonempty firstSlash, List.append_assoc,
        List.filterMap_cons]
      cases Path.ofPiece? piece <;> rfl

/-- Pieces as they are spelled one after the other lead to where they lead from the node. -/
theorem leads_foldl_spell {workspace : Workspace} {above last : List Node} {node target : Node}
    {pieces : List String} (trail : Node.Trail above node pieces last target)
    (leads : workspace.Leads path above node) (noSlash : ∀ piece ∈ pieces, '/' ∉ piece.toList)
    (spellable : Spellable path pieces) :
    workspace.Leads (pieces.foldl spell path) last target := by
  induction trail generalizing path with
  | nil => exact leads
  | cons first later ih =>
      obtain ⟨firstSlash, laterSlash⟩ := List.forall_mem_cons.mp noSlash
      exact ih (leads_spell leads firstSlash spellable.first first) laterSlash
        (spellable.later leads.nonempty firstSlash)

end Place

/-- Walking by pieces without wildcards leads to where they lead. -/
theorem walk_plain {workspace : Workspace} {above last : List Node} {node target : Node}
    {path : String} {pieces : List String} (trail : Node.Trail above node pieces last target)
    (leads : workspace.Leads path above node) (noSlash : ∀ piece ∈ pieces, '/' ∉ piece.toList)
    (spellable : Place.Spellable path pieces) (rest : List Pattern) :
    walk workspace (pieces.map Pattern.plain ++ rest) ⟨path, node⟩ =
      walk workspace rest ⟨pieces.foldl Place.spell path, target⟩ := by
  induction trail generalizing path with
  | nil => rfl
  | @cons above between last entries next target piece others first later ih =>
      obtain ⟨firstSlash, laterSlash⟩ := List.forall_mem_cons.mp noSlash
      have leadsOn := Place.leads_spell leads firstSlash spellable.first first
      have found : workspace.find (Place.spell path piece) = .ok next :=
        Workspace.find_eq_ok_iff.mpr ⟨_, leadsOn⟩
      have place : Place.find? workspace path piece = some ⟨Place.spell path piece, next⟩ := by
        rw [Place.find?, found]
      rw [List.map_cons, List.cons_append, walk, Pattern.literal?_plain]
      simp only [place, Option.toList_some, List.flatMap_singleton]
      exact ih leadsOn laterSlash (spellable.later leads.nonempty firstSlash)

/-! ## Everything below a directory -/

namespace Place

/-- The place of what is held under names below a path. -/
def ofDescendant (path : String) (descendant : List String × Node) : Place :=
  ⟨descendant.1.foldl spell path, descendant.2⟩

theorem below_directory (path : String) (entries : List (String × Node)) :
    below path (.directory entries) = entries.flatMap fun entry =>
      (entry.1, ⟨spell path entry.1, entry.2⟩) :: below (spell path entry.1) entry.2 := by
  rw [below]
  induction entries with
  | nil => rfl
  | cons entry rest ih => rw [belowEntries, ih, List.flatMap_cons, List.cons_append]

/-- Below a path are the places of the descendants, each with its last name. -/
theorem below_eq (path : String) (node : Node) :
    below path node = node.descendants.map fun descendant =>
      (descendant.1.getLastD "", ofDescendant path descendant) := by
  induction node using Node.byEntries generalizing path with
  | file text => rfl
  | directory entries ih =>
      rw [below_directory, Node.descendants_directory, List.map_flatMap]
      refine List.flatMap_congr fun entry member => ?_
      rw [ih entry member, List.map_cons, List.map_map]
      refine congrArg (_ :: ·) (List.map_congr_left ?_)
      rintro ⟨names, found⟩ below
      obtain ⟨nonempty, -⟩ := Node.mem_descendants.mp below
      obtain ⟨first, others, rfl⟩ := List.exists_cons_of_ne_nil nonempty
      rfl

/-- Names can be spelled from any path. -/
theorem spellable_names {path : String} {names : List String}
    (areNames : ∀ name ∈ names, Path.IsName name) : Spellable path names := by
  intro _
  cases names with
  | nil => simp
  | cons name names =>
      obtain ⟨isName, -⟩ := List.forall_mem_cons.mp areNames
      obtain ⟨notEmpty, notDot⟩ := not_or.mp isName.solid.1
      rw [List.dropWhile_cons_of_neg (by simpa using notDot)]
      simpa using notEmpty

theorem filterMap_names {names : List String} (areNames : ∀ name ∈ names, Path.IsName name) :
    names.filterMap Path.ofPiece? = names.map .name := by
  rw [← List.filterMap_eq_map]
  exact List.filterMap_congr fun name member => (areNames name member).ofPiece?_eq

theorem course_foldl_names {path : String} (nonempty : path ≠ "") {names : List String}
    (areNames : ∀ name ∈ names, Path.IsName name) :
    Path.course (names.foldl spell path) = Path.course path ++ names.map .name := by
  rw [course_foldl_spell nonempty (fun name member => (areNames name member).noSlash)
    (spellable_names areNames), filterMap_names areNames]

/-- What a well-formed directory holds under different names is at different paths. -/
theorem nodup_paths {path : String} (nonempty : path ≠ "") {node : Node}
    (wellFormed : node.WellFormed) :
    (node.descendants.map fun descendant => (ofDescendant path descendant).path).Nodup := by
  have byNames : node.descendants.map (fun descendant => (ofDescendant path descendant).path) =
      (node.descendants.map Prod.fst).map (List.foldl spell path) := by
    rw [List.map_map]
    rfl
  have spelled (names : List String) (member : names ∈ node.descendants.map Prod.fst) :
      Path.course (names.foldl spell path) = Path.course path ++ names.map .name := by
    obtain ⟨⟨_, found⟩, isBelow, rfl⟩ := List.mem_map.mp member
    exact course_foldl_names nonempty ((Node.mem_descendants.mp isBelow).2.isName wellFormed)
  -- The names can be told from the course of the path.
  rw [byNames]
  refine wellFormed.nodup_descendants.map_on fun names isBelow others areBelow same => ?_
  have courses := congrArg Path.course same
  rw [spelled names isBelow, spelled others areBelow] at courses
  exact List.map_injective_iff.mpr (fun _ _ => Path.Component.name.inj)
    (List.append_cancel_left courses)

end Place

theorem walk_scripts (workspace : Workspace) (place : Place) :
    walk workspace [.everything, .scriptNames] place =
      ((Place.below place.path place.node).filter fun entry =>
        matchesName .scriptNames entry.1).map Prod.snd := by
  have notLiteral : Pattern.everything.literal? = none := rfl
  have recursive : Pattern.everything.isRecursive = true := rfl
  rw [walk, notLiteral, recursive]
  simp only [if_true, walk]
  exact List.map_eq_flatMap.symm

theorem isAbsolute_start (root : String) : Path.isAbsolute (start root) = Path.isAbsolute root := by
  rw [start]
  cases Path.isAbsolute root <;> rfl

theorem start_ne_empty (root : String) : start root ≠ "" := by
  rw [start]
  cases Path.isAbsolute root <;> decide

theorem idle_of_mem_pieces_start (root : String) :
    ∀ piece ∈ Path.pieces (start root), piece = "" ∨ piece = "." := by
  rw [start]
  cases Path.isAbsolute root <;> decide

/-- A path leads on from its start. -/
theorem exists_leads_start {workspace : Workspace} {root : String} {above : List Node} {node : Node}
    (leads : workspace.Leads root above node) :
    ∃ first home, workspace.Leads (start root) first home ∧
      Node.Trail first home (steps root) above node := by
  obtain ⟨front, absolute⟩ := workspace.pieces_absolute (Path.isAbsolute root)
  have trail := leads.trail
  rw [absolute root rfl, Node.trail_append_iff] at trail
  obtain ⟨first, home, toHome, onward⟩ := trail
  -- Every path has a piece, and the first one already needs a directory to be followed in.
  have isDirectory : ∃ entries, home = .directory entries := by
    obtain ⟨piece, rest, pieces⟩ := List.exists_cons_of_ne_nil (Path.pieces_ne_nil root)
    rw [pieces] at onward
    cases onward
    exact ⟨_, rfl⟩
  obtain ⟨entries, rfl⟩ := isDirectory
  refine ⟨first, .directory entries, ⟨start_ne_empty root, ?_⟩, ?_⟩
  · rw [absolute _ (isAbsolute_start root), Node.trail_append_iff]
    exact ⟨first, _, toHome, Node.trail_idle (idle_of_mem_pieces_start root) first entries⟩
  · rw [steps]
    split_ifs with starts
    · rw [Path.pieces_of_isAbsolute starts] at onward
      cases onward with
      | cons stays later =>
          obtain ⟨rfl, rfl⟩ := stays.of_idle (Or.inl rfl)
          exact later
    · exact onward

/-! ## The search below a path -/

/-- A path as a search spells it. -/
def respell (root : String) : String := (steps root).foldl Place.spell (start root)

theorem course_respell {root : String} (spellable : Place.Spellable (start root) (steps root)) :
    Path.course (respell root) = Path.course root := by
  have noSlash (piece : String) (member : piece ∈ steps root) := (of_mem_steps member).1
  rw [respell, Place.course_foldl_spell (start_ne_empty root) noSlash spellable,
    Path.course_eq root, steps, start]
  cases starts : Path.isAbsolute root with
  | true =>
      rw [Path.pieces_of_isAbsolute starts]
      rfl
  | false => rfl

section

variable {workspace : Workspace} {root : String} {above : List Node} {node : Node}
  (leads : workspace.Leads root above node)
  (spellable : Place.Spellable (start root) (steps root))
include leads spellable

theorem leads_respell : workspace.Leads (respell root) above node := by
  obtain ⟨first, home, leadsHome, onward⟩ := exists_leads_start leads
  exact Place.leads_foldl_spell onward leadsHome (fun _ member => (of_mem_steps member).1) spellable

/-- The search for scripts below a path without wildcards finds what is held there under names of
which the last one is the name of a script. -/
theorem search_below (plain : Plain root.toList) :
    search workspace (root ++ "/**/*.psc") =
      .ok ((node.descendants.filter fun descendant =>
        matchesName .scriptNames (descendant.1.getLastD "")).map
          (Place.ofDescendant (respell root))) := by
  obtain ⟨first, home, leadsHome, onward⟩ := exists_leads_start leads
  have found : workspace.find (start root) = .ok home :=
    Workspace.find_eq_ok_iff.mpr ⟨first, leadsHome⟩
  have noSlash (piece : String) (member : piece ∈ steps root) := (of_mem_steps member).1
  rw [search_plain leads.nonempty plain found,
    walk_plain onward leadsHome noSlash spellable, walk_scripts, Place.below_eq,
    List.filter_map, List.map_map]
  rfl

end

end Glob
end ScriptLint
