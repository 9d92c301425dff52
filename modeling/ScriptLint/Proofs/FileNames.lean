import ScriptLint.Proofs.Path
import ScriptLint.Workspace.Script

/-!
# Names of scripts

The name of a file is the last piece of its path that is neither empty nor a dot, so slashes and
dots behind it do not count.  It falls into a stem and an extension at its last dot, unless that dot
starts the name or is missing.  A script that is loaded from a file therefore has the names that its
path alone gives it.
-/

namespace ScriptLint

namespace Path

/-! ## The last name of a path -/

/-- The entry that the component names. -/
def Component.name? : Component → Option String
  | .name text => some text
  | .root | .current | .parent => none

/-- What starts a path names no entry, so the last name is found among the pieces. -/
theorem fileName?_eq (path : String) :
    fileName? path = ((pieces path).filterMap ofPiece?).getLast?.bind Component.name? := by
  have named : fileName? path = (components path).getLast?.bind Component.name? := by
    rw [fileName?]
    rcases (components path).getLast? with _ | ⟨_ | _ | _ | text⟩ <;> rfl
  rw [named, components, List.getLast?_append]
  cases (List.filterMap ofPiece? (pieces path)).getLast? with
  | some component => rfl
  | none => split_ifs <;> rfl

theorem eq_of_ofPiece?_eq_name {piece text : String} (named : ofPiece? piece = some (.name text)) :
    piece = text := by
  rw [ofPiece?] at named
  split_ifs at named
  · exact absurd (Option.some.inj named) Component.noConfusion
  · exact Component.name.inj (Option.some.inj named)

/-- The path ends in the name of an entry: all pieces behind it are empty or dots. -/
def EndsIn (path name : String) : Prop :=
  IsName name ∧ ∃ front idle, pieces path = front ++ name :: idle ∧
    ∀ piece ∈ idle, piece = "" ∨ piece = "."

theorem fileName?_eq_some_iff {path name : String} :
    fileName? path = some name ↔ EndsIn path name := by
  rw [fileName?_eq, Option.bind_eq_some_iff]
  constructor
  · rintro ⟨component, last, isNamed⟩
    cases component with
    | root | current | parent => contradiction
    | name text =>
        obtain rfl := Option.some.inj isNamed
        obtain ⟨before, split⟩ := List.getLast?_eq_some_iff.mp last
        obtain ⟨front, rear, parts, -, ends⟩ := List.filterMap_eq_append_iff.mp split
        obtain ⟨skipped, piece, idle, rfl, -, read, none⟩ := List.filterMap_eq_cons_iff.mp ends
        obtain rfl := eq_of_ofPiece?_eq_name read
        have isPiece : piece ∈ pieces path := by simp [parts]
        refine ⟨⟨(of_mem_pieces isPiece).1, ofPiece?_eq_name_iff.mp read⟩, front ++ skipped, idle,
          by rw [parts, List.append_assoc], fun other member => ?_⟩
        exact ofPiece?_eq_none_iff.mp (List.filterMap_eq_nil_iff.mp none other member)
  · rintro ⟨isName, front, idle, parts, none⟩
    have nothing : idle.filterMap ofPiece? = [] :=
      List.filterMap_eq_nil_iff.mpr fun other member => ofPiece?_eq_none_iff.mpr (none other member)
    refine ⟨.name name, ?_, rfl⟩
    rw [parts, List.filterMap_append, List.filterMap_cons, isName.ofPiece?_eq]
    simp [nothing]

/-- A piece that names no component does not change the last name. -/
theorem fileName?_append_slash (path piece : String) (noSlash : '/' ∉ piece.toList)
    (idle : piece = "" ∨ piece = ".") : fileName? (path ++ "/" ++ piece) = fileName? path := by
  have nothing : (pieces piece).filterMap ofPiece? = [] := by
    rw [filterMap_pieces_of_notMem noSlash, ofPiece?_eq_none_iff.mpr idle]
    rfl
  rw [fileName?_eq, fileName?_eq, pieces_append_slash, List.filterMap_append, nothing,
    List.append_nil]

/-! ## Stem and extension -/

theorem ne_dot_of_mem_reverse {text : List Char} (noDot : '.' ∉ text) :
    ∀ c ∈ text.reverse, (c != '.') = true := by
  intro c member
  rw [bne_iff_ne]
  rintro rfl
  exact noDot (List.mem_reverse.mp member)

theorem cutExtension_append {stem extension : String} (nonempty : stem ≠ "")
    (noDot : '.' ∉ extension.toList) :
    cutExtension (stem ++ "." ++ extension) = (stem, some extension) := by
  obtain ⟨c, before, text⟩ : ∃ c before, stem.toList.reverse = c :: before :=
    List.exists_cons_of_ne_nil (by simpa using nonempty)
  have reversed : (stem ++ "." ++ extension).toList.reverse =
      extension.toList.reverse ++ '.' :: c :: before := by
    simp [String.toList_append, text]
  have others := ne_dot_of_mem_reverse noDot
  have stops : Text.Stops (· != '.') ('.' :: c :: before) := rfl
  rw [cutExtension, reversed]
  simp only [Text.dropWhile_append_stops others stops, Text.takeWhile_append_stops others stops]
  rw [← text, List.reverse_reverse, String.ofList_toList, List.reverse_reverse,
    String.ofList_toList]

/-- A dot that starts the name cuts off no extension. -/
theorem cutExtension_of_notMem {name : String} (noDot : '.' ∉ name.toList.tail) :
    cutExtension name = (name, none) := by
  rw [cutExtension]
  cases text : name.toList with
  | nil => rfl
  | cons c rest =>
      rw [text, List.tail_cons] at noDot
      -- At most the first character is left once everything up to a dot is dropped.
      rw [List.reverse_cons, List.dropWhile_append_of_pos (ne_dot_of_mem_reverse noDot),
        List.dropWhile_cons]
      cases c != '.' <;> rfl

/-- A dot behind the first character of a name cuts it in two at the last one. -/
theorem exists_append_of_mem {name : String} (dot : '.' ∈ name.toList.tail) :
    ∃ stem extension, stem ≠ "" ∧ '.' ∉ extension.toList ∧ name = stem ++ "." ++ extension := by
  obtain ⟨behind, before, split, last⟩ :=
    List.eq_append_cons_of_mem (List.mem_reverse.mpr dot)
  have tail : name.toList.tail = before.reverse ++ '.' :: behind.reverse := by
    rw [← List.reverse_reverse name.toList.tail, split]
    simp
  cases text : name.toList with
  | nil =>
      rw [text] at dot
      contradiction
  | cons c rest =>
      rw [text, List.tail_cons] at tail
      refine ⟨String.ofList (c :: before.reverse), String.ofList behind.reverse, ?_, ?_, ?_⟩
      · simp
      · simpa using last
      · apply String.toList_injective
        simp [String.toList_append, text, tail]

/-- A name is its own stem, or it is cut at its last dot. -/
theorem cutExtension_cases (name : String) :
    (cutExtension name = (name, none) ∧ '.' ∉ name.toList.tail) ∨
      ∃ stem extension, cutExtension name = (stem, some extension) ∧ stem ≠ "" ∧
        '.' ∉ extension.toList ∧ name = stem ++ "." ++ extension := by
  by_cases dot : '.' ∈ name.toList.tail
  · obtain ⟨stem, extension, nonempty, noDot, rfl⟩ := exists_append_of_mem dot
    exact Or.inr ⟨stem, extension, cutExtension_append nonempty noDot, nonempty, noDot, rfl⟩
  · exact Or.inl ⟨cutExtension_of_notMem dot, dot⟩

end Path

/-! ## Loading -/

namespace Document

variable {workspace : Workspace} {path : String} {doc : Document}

theorem load_eq_ok (loaded : load workspace path = .ok doc) :
    Path.fileName? doc.path = some doc.fileName ∧
      Path.cutExtension doc.fileName = (doc.scriptName, some scriptExtension) := by
  rw [load] at loaded
  split at loaded
  · contradiction
  · contradiction
  · split at loaded
    · contradiction
    · next fileName named =>
        split_ifs at loaded with _ isScript
        split at loaded
        · contradiction
        · obtain rfl := Except.ok.inj loaded
          exact ⟨named, Prod.ext rfl (not_not.mp isScript)⟩

/-- The file name is what the path ends in, and empty if it ends in no name. -/
theorem endsIn_iff_fileName_ofPath (path content name : String) :
    Path.EndsIn path name ↔ name ≠ "" ∧ (ofPath path content).fileName = name := by
  rw [← Path.fileName?_eq_some_iff]
  constructor
  · intro named
    refine ⟨fun empty => ?_, by rw [ofPath, named]; rfl⟩
    exact (Path.fileName?_eq_some_iff.mp named).1.solid.1 (Or.inl empty)
  · rintro ⟨nonempty, rfl⟩
    cases named : Path.fileName? path with
    | none => exact absurd (by rw [ofPath, named]; rfl) nonempty
    | some name => rw [ofPath, named]; rfl

end Document

/-- A script that loads is named after its file, which ends in `.psc`, and has the names that its
path gives it.  These are the name that the path ends in and its part up to the last dot, if there
is one behind the first character.  A slash or a dot behind it does not change them. -/
theorem names_follow_path (workspace : Workspace) (path content : String) :
    (∀ doc, Document.load workspace path = .ok doc →
      doc.scriptName ≠ "" ∧ doc.fileName = doc.scriptName ++ ".psc" ∧
      '/' ∉ doc.fileName.toList ∧ Document.ofPath doc.path doc.content = doc) ∧
    (∀ name, Path.EndsIn path name ↔
      name ≠ "" ∧ (Document.ofPath path content).fileName = name) ∧
    (∀ ending ∈ ["/", "/."],
      (Document.ofPath (path ++ ending) content).fileName =
        (Document.ofPath path content).fileName ∧
      (Document.ofPath (path ++ ending) content).scriptName =
        (Document.ofPath path content).scriptName) ∧
    ((Document.ofPath path content).scriptName = (Document.ofPath path content).fileName ∧
        '.' ∉ (Document.ofPath path content).fileName.toList.tail ∨
      ∃ extension, (Document.ofPath path content).fileName =
          (Document.ofPath path content).scriptName ++ "." ++ extension ∧
        (Document.ofPath path content).scriptName ≠ "" ∧ '.' ∉ extension.toList) := by
  refine ⟨?_, Document.endsIn_iff_fileName_ofPath path content, ?_, ?_⟩
  · intro doc loaded
    obtain ⟨named, cut⟩ := Document.load_eq_ok loaded
    obtain ⟨whole, -⟩ | ⟨stem, extension, parts, nonempty, -, joined⟩ :=
      Path.cutExtension_cases doc.fileName
    · exact absurd (congrArg Prod.snd (whole.symm.trans cut)) (by simp)
    · obtain ⟨rfl, isScript⟩ := Prod.mk.inj (parts.symm.trans cut)
      obtain rfl := Option.some.inj isScript
      have isName := (Path.fileName?_eq_some_iff.mp named).1
      refine ⟨nonempty, joined.trans String.append_assoc, isName.noSlash, ?_⟩
      simp only [Document.ofPath, named, Option.getD_some, Path.stem, cut]
  · intro ending isEnding
    have sameName : Path.fileName? (path ++ ending) = Path.fileName? path := by
      obtain rfl | rfl := List.mem_pair.mp isEnding
      · have behind := Path.fileName?_append_slash path "" (by decide) (Or.inl rfl)
        rwa [String.append_empty] at behind
      · have behind := Path.fileName?_append_slash path "." (by decide) (Or.inr rfl)
        rwa [String.append_assoc] at behind
    simp only [Document.ofPath, sameName, and_self]
  · obtain ⟨whole, noDot⟩ | ⟨stem, extension, parts, nonempty, noDot, joined⟩ :=
      Path.cutExtension_cases (Document.ofPath path content).fileName
    · exact Or.inl ⟨congrArg Prod.fst whole, noDot⟩
    · have isStem : (Document.ofPath path content).scriptName = stem := congrArg Prod.fst parts
      rw [isStem]
      exact Or.inr ⟨extension, joined, nonempty, noDot⟩

/-- A file whose stem is a dot, at a relative path with a repeated slash. -/
theorem names_follow_path_dots :
    let scripts : Node := .directory [("..psc", .file (some "Scriptname ."))]
    let workspace : Workspace :=
      { root := .directory [("w", .directory [("d", scripts)])], directory := "/w" }
    let doc : Document := ⟨"/w/d//..psc", "..psc", ".", "Scriptname ."⟩
    (Document.load workspace "d//..psc" = .ok doc ∧ doc.scriptName ≠ "" ∧
      doc.fileName = doc.scriptName ++ ".psc" ∧ '/' ∉ doc.fileName.toList ∧
      Document.ofPath doc.path doc.content = doc) ∧
    "/." ∈ ["/", "/."] ∧
      (Document.ofPath ("d//..psc" ++ "/.") "").fileName =
        (Document.ofPath "d//..psc" "").fileName ∧
      (Document.ofPath ("d//..psc" ++ "/.") "").scriptName =
        (Document.ofPath "d//..psc" "").scriptName := by
  intro scripts workspace doc
  have loaded : Document.load workspace "d//..psc" = .ok doc := by decide +kernel
  have isEnding : "/." ∈ ["/", "/."] := by decide
  obtain ⟨loads, -, ends, -⟩ := names_follow_path workspace "d//..psc" ""
  exact ⟨⟨loaded, loads doc loaded⟩, isEnding, ends "/." isEnding⟩

end ScriptLint
