import Mathlib.Data.List.DropRight
import Mathlib.Data.List.Induction
import ScriptLint.Proofs.Text.Runs

/-!
# Pieces and lines

Both views of a text come from its pieces between line feeds: a physical line is a piece with or
without the carriage return at its end, and the normalized lines are the trimmed pieces that carry
code.  An offset is the length of what stands in front of a line and of what stands in front of it
in the line.
-/

namespace ScriptLint
namespace Text

/-! ## Pieces -/

/-- The first piece ends at the first separator, or is all of the text. -/
theorem split_eq_cons {separator : Char} {text piece : List Char} {pieces : List (List Char)}
    (splits : split separator text = piece :: pieces) :
    separator ∉ piece ∧ (text = piece ∧ pieces = [] ∨
      ∃ rest, text = piece ++ separator :: rest ∧ pieces = split separator rest) := by
  by_cases member : separator ∈ text
  · obtain ⟨front, rest, rfl, notMem⟩ := List.eq_append_cons_of_mem member
    rw [split, List.splitOn_append_cons_self_of_not_mem notMem] at splits
    obtain ⟨rfl, rfl⟩ := List.cons.inj splits
    exact ⟨notMem, Or.inr ⟨rest, rfl, rfl⟩⟩
  · rw [split, List.splitOn_eq_singleton member] at splits
    obtain ⟨rfl, rfl⟩ := List.cons.inj splits
    exact ⟨member, Or.inl ⟨rfl, rfl⟩⟩

/-- A piece is a part of the text without the separator. -/
theorem of_mem_split {separator : Char} {text piece : List Char}
    (member : piece ∈ split separator text) : separator ∉ piece ∧ piece <:+: text := by
  generalize splits : split separator text = pieces at member
  induction pieces generalizing text with
  | nil => exact absurd member List.not_mem_nil
  | cons first others ih =>
      obtain ⟨notMem, ⟨rfl, rfl⟩ | ⟨rest, rfl, rfl⟩⟩ := split_eq_cons splits
      · obtain rfl := List.mem_singleton.mp member
        exact ⟨notMem, List.infix_refl piece⟩
      · rcases List.mem_cons.mp member with rfl | later
        · exact ⟨notMem, (List.prefix_append piece _).isInfix⟩
        · obtain ⟨notMemLater, inRest⟩ := ih rfl later
          exact ⟨notMemLater, inRest.trans ⟨first ++ [separator], [], by simp⟩⟩

/-- A character at the end of a text is at the end of its last piece. -/
theorem split_concat {separator c : Char} (text : List Char) (other : c ≠ separator) :
    ∃ pieces last, split separator text = pieces ++ [last] ∧
      split separator (text ++ [c]) = pieces ++ [last ++ [c]] := by
  generalize splits : split separator text = pieces
  induction pieces generalizing text with
  | nil => exact absurd splits (List.splitOn_ne_nil separator text)
  | cons first others ih =>
      obtain ⟨notMem, ⟨rfl, rfl⟩ | ⟨rest, rfl, rfl⟩⟩ := split_eq_cons splits
      · refine ⟨[], text, rfl, List.splitOn_eq_singleton ?_⟩
        simpa [other.symm] using notMem
      · obtain ⟨pieces, last, before, after⟩ := ih rest rfl
        refine ⟨first :: pieces, last, by rw [before, List.cons_append], ?_⟩
        rw [List.append_assoc, List.cons_append, split,
          List.splitOn_append_cons_self_of_not_mem notMem, ← split, after, List.cons_append]

/-! ## Trimming -/

/-- A text is what is left of it and the run that is dropped at its end. -/
theorem dropEndWhile_append (p : Char → Bool) (text : List Char) :
    dropEndWhile p text ++ text.rtakeWhile p = text := by
  rw [dropEndWhile, List.rtakeWhile, ← List.reverse_append, List.takeWhile_append_dropWhile,
    List.reverse_reverse]

theorem isPrefix_dropEndWhile (p : Char → Bool) (text : List Char) : dropEndWhile p text <+: text :=
  ⟨text.rtakeWhile p, dropEndWhile_append p text⟩

theorem getLast?_dropEndWhile (p : Char → Bool) (text : List Char) :
    (dropEndWhile p text).getLast?.any p = false := by
  rw [dropEndWhile, List.getLast?_reverse]
  exact stops_dropWhile p text.reverse

/-- A run is dropped at the end of a text that does not end in the class. -/
theorem dropEndWhile_append_run {p : Char → Bool} {text run : List Char}
    (ends : text.getLast?.any p = false) (all : ∀ c ∈ run, p c = true) :
    dropEndWhile p (text ++ run) = text := by
  rw [List.getLast?_eq_head?_reverse] at ends
  rw [dropEndWhile, List.reverse_append,
    dropWhile_append_stops (fun c member => all c (List.mem_reverse.mp member)) ends,
    List.reverse_reverse]

theorem trim_cons_of_isSpace {c : Char} (blank : isSpace c = true) (text : List Char) :
    trim (c :: text) = trim text := by
  rw [trim, List.dropWhile_cons_of_pos blank, trim]

theorem trimEnd_concat_of_isSpace {c : Char} (blank : isSpace c = true) (text : List Char) :
    trimEnd (text ++ [c]) = trimEnd text :=
  List.rdropWhile_concat_pos isSpace text c blank

theorem trimEnd_concat {c : Char} (solid : isSpace c = false) (text : List Char) :
    trimEnd (text ++ [c]) = text ++ [c] :=
  List.rdropWhile_concat_neg isSpace text c (Bool.not_eq_true _ ▸ solid)

theorem trim_concat_of_isSpace {c : Char} (blank : isSpace c = true) (text : List Char) :
    trim (text ++ [c]) = trim text := by
  rw [trim, trim, List.dropWhile_append]
  split_ifs with allBlank
  · rw [List.isEmpty_iff.mp allBlank, List.dropWhile_cons_of_pos blank, List.dropWhile_nil]
  · exact trimEnd_concat_of_isSpace blank _

theorem trimEnd_append {c : Char} (solid : isSpace c = false) (front text : List Char) :
    trimEnd (front ++ [c] ++ text) = front ++ [c] ++ trimEnd text := by
  induction text using List.reverseRecOn with
  | nil =>
      rw [List.append_nil, trimEnd_concat solid]
      exact (List.append_nil _).symm
  | append_singleton text last ih =>
      rw [← List.append_assoc]
      cases blank : isSpace last with
      | true => rw [trimEnd_concat_of_isSpace blank, trimEnd_concat_of_isSpace blank, ih]
      | false => rw [trimEnd_concat blank, trimEnd_concat blank, List.append_assoc]

/-- The two ends can be trimmed in either order. -/
theorem afterSpace_trimEnd (text : List Char) : afterSpace (trimEnd text) = trim text := by
  induction text using List.reverseRecOn with
  | nil => rfl
  | append_singleton text last ih =>
      cases blank : isSpace last with
      | true => rw [trimEnd_concat_of_isSpace blank, ih, trim_concat_of_isSpace blank]
      | false =>
          rw [trimEnd_concat blank, trim, afterSpace, List.dropWhile_append]
          split_ifs with allBlank
          · rw [List.dropWhile_cons_of_neg (by simp [blank])]
            exact (trimEnd_concat blank []).symm
          · exact (trimEnd_concat blank _).symm

theorem trim_sublist (text : List Char) : (trim text).Sublist text :=
  ((List.rdropWhile_prefix isSpace _).sublist).trans (List.dropWhile_sublist isSpace)

theorem trim_dropReturn (piece : List Char) : trim (dropReturn piece) = trim piece := by
  rw [dropReturn]
  split_ifs with returns
  · obtain ⟨front, rfl⟩ := List.getLast?_eq_some_iff.mp returns
    rw [List.dropLast_concat, trim_concat_of_isSpace (by decide)]
  · rfl

/-! ## Normalized lines -/

/-- The trimmed pieces that carry code. -/
def codeLines (pieces : List (List Char)) : List (List Char) := (pieces.map trim).filter isCode

theorem codeLines_cons (piece : List Char) (pieces : List (List Char)) :
    codeLines (piece :: pieces) = codeLines [piece] ++ codeLines pieces := by
  rw [← List.singleton_append, codeLines, List.map_append, List.filter_append]
  rfl

theorem codeLines_append (front back : List (List Char)) :
    codeLines (front ++ back) = codeLines front ++ codeLines back := by
  rw [codeLines, List.map_append, List.filter_append]
  rfl

theorem codeLines_congr {piece other : List Char} (same : trim piece = trim other) :
    codeLines [piece] = codeLines [other] := by
  rw [codeLines, codeLines, List.map_singleton, List.map_singleton, same]

theorem codeLines_nil_piece : codeLines [[]] = [] := rfl

theorem linesOfPieces_cons_cons (piece next : List Char) (pieces : List (List Char)) :
    linesOfPieces (piece :: next :: pieces) = dropReturn piece :: linesOfPieces (next :: pieces) :=
  rfl

theorem codeLines_linesOfPieces (pieces : List (List Char)) :
    codeLines (linesOfPieces pieces) = codeLines pieces := by
  induction pieces with
  | nil => rfl
  | cons piece pieces ih =>
      cases pieces with
      | nil =>
          rw [linesOfPieces]
          split_ifs with empty
          · rw [List.isEmpty_iff.mp empty]
            rfl
          · rfl
      | cons next pieces =>
          rw [linesOfPieces_cons_cons, codeLines_cons, ih, codeLines_cons piece,
            codeLines_congr (trim_dropReturn piece)]

/-- White space in front of a text carries no code. -/
theorem codeLines_cons_of_isSpace {c : Char} (blank : isSpace c = true) (text : List Char) :
    codeLines (split '\n' (c :: text)) = codeLines (split '\n' text) := by
  rw [split, List.splitOn_cons_eq_if_modifyHead, split]
  split_ifs
  · rw [codeLines_cons, codeLines_nil_piece, List.nil_append]
  · cases found : text.splitOn '\n' with
    | nil => exact absurd found (List.splitOn_ne_nil '\n' text)
    | cons piece pieces =>
        rw [List.modifyHead_cons, codeLines_cons,
          codeLines_congr (trim_cons_of_isSpace blank piece), ← codeLines_cons]

/-- White space behind a text carries no code. -/
theorem codeLines_concat_of_isSpace {c : Char} (blank : isSpace c = true) (text : List Char) :
    codeLines (split '\n' (text ++ [c])) = codeLines (split '\n' text) := by
  by_cases feed : c = '\n'
  · rw [feed, split, List.splitOn_append_cons_self, codeLines_append, List.splitOn_nil,
      codeLines_nil_piece, List.append_nil]
  · obtain ⟨pieces, last, before, after⟩ := split_concat text feed
    rw [before, after, codeLines_append, codeLines_append,
      codeLines_congr (trim_concat_of_isSpace blank last)]

/-- Trimming the whole text first makes no difference to the lines that carry code. -/
theorem codeLines_trim (text : List Char) :
    codeLines (split '\n' (trim text)) = codeLines (split '\n' text) := by
  have front : ∀ text, codeLines (split '\n' (text.dropWhile isSpace)) =
      codeLines (split '\n' text) := by
    intro text
    induction text with
    | nil => rfl
    | cons c rest ih =>
        by_cases blank : isSpace c = true
        · rw [List.dropWhile_cons_of_pos blank, ih, codeLines_cons_of_isSpace blank]
        · rw [List.dropWhile_cons_of_neg blank]
  have back : ∀ text, codeLines (split '\n' (trimEnd text)) = codeLines (split '\n' text) := by
    intro text
    induction text using List.reverseRecOn with
    | nil => rfl
    | append_singleton front c ih =>
        by_cases blank : isSpace c = true
        · rw [codeLines_concat_of_isSpace blank, ← ih]
          exact congrArg (fun text => codeLines (split '\n' text))
            (List.rdropWhile_concat_pos isSpace front c blank)
        · exact congrArg (fun text => codeLines (split '\n' text))
            (List.rdropWhile_concat_neg isSpace front c blank)
  rw [trim, back, front]

/-- The normalized lines of a text are its trimmed pieces that carry code. -/
theorem normalize_eq (text : List Char) : normalize text = codeLines (split '\n' text) := by
  have lines_eq : normalize text = codeLines (lines (trim text)) := rfl
  rw [lines_eq, lines, codeLines_linesOfPieces, codeLines_trim]

/-- A normalized line carries code and has no line feed in it. -/
theorem of_mem_normalize {text line : List Char} (member : line ∈ normalize text) :
    isCode line = true ∧ '\n' ∉ line := by
  rw [normalize_eq, codeLines] at member
  obtain ⟨trimmed, carriesCode⟩ := List.mem_filter.mp member
  obtain ⟨piece, isPiece, rfl⟩ := List.mem_map.mp trimmed
  exact ⟨carriesCode, fun feed => (of_mem_split isPiece).1 ((trim_sublist piece).mem feed)⟩

/-- A normalized line does not end in white space. -/
theorem getLast?_of_mem_normalize {text line : List Char} (member : line ∈ normalize text) :
    line.getLast?.any isSpace = false := by
  rw [normalize_eq, codeLines] at member
  obtain ⟨piece, -, rfl⟩ := List.mem_map.mp (List.mem_filter.mp member).1
  exact getLast?_dropEndWhile isSpace _

theorem ne_nil_of_isCode {line : List Char} (carriesCode : isCode line = true) : line ≠ [] := by
  rintro rfl
  contradiction

/-- The normalized lines joined by line feeds fall into these lines again. -/
theorem split_intercalate_normalize {text : List Char} (nonempty : normalize text ≠ []) :
    split '\n' (List.intercalate ['\n'] (normalize text)) = normalize text :=
  List.splitOn_intercalate '\n' (fun _ member => (of_mem_normalize member).2) nonempty

/-! ## Physical lines -/

theorem dropReturn_prefix (piece : List Char) : dropReturn piece <+: piece := by
  rw [dropReturn]
  split_ifs
  · exact List.dropLast_prefix piece
  · exact List.prefix_rfl

/-- A physical line is the piece with its index, possibly without a carriage return. -/
theorem getElem?_lines {text line : List Char} {index : Nat}
    (found : (lines text)[index]? = some line) :
    ∃ piece, (split '\n' text)[index]? = some piece ∧ line <+: piece := by
  rw [lines] at found
  generalize split '\n' text = pieces at found ⊢
  induction pieces generalizing index with
  | nil => simp [linesOfPieces] at found
  | cons piece pieces ih =>
      cases pieces with
      | nil =>
          rw [linesOfPieces] at found
          split_ifs at found with empty
          · simp at found
          · exact ⟨line, found, List.prefix_rfl⟩
      | cons next pieces =>
          rw [linesOfPieces_cons_cons] at found
          cases index with
          | zero =>
              obtain rfl := Option.some.inj found
              exact ⟨piece, rfl, dropReturn_prefix piece⟩
          | succ index => exact ih found

/-! ## Offsets -/

/-- The line with the index starts behind this part of a text: it holds the line feeds of the lines
in front and nothing of the line itself. -/
structure StartsLine (index : Nat) (front : List Char) : Prop where
  feeds : front.count '\n' = index
  whole : front = [] ∨ front.getLast? = some '\n'

/-- The start of a piece is the length of what stands in front of it. -/
theorem pieceStart_eq {text piece : List Char} {index : Nat}
    (found : (split '\n' text)[index]? = some piece) :
    ∃ front back, text = front ++ piece ++ back ∧ StartsLine index front ∧
      pieceStart (split '\n' text) index = byteLength front := by
  induction index generalizing text with
  | zero =>
      cases splits : split '\n' text with
      | nil => simp [splits] at found
      | cons first others =>
          rw [splits] at found
          obtain rfl := Option.some.inj found
          refine ⟨[], ?_⟩
          obtain ⟨-, ⟨rfl, -⟩ | ⟨rest, rfl, -⟩⟩ := split_eq_cons splits
          · exact ⟨[], by simp, ⟨rfl, Or.inl rfl⟩, rfl⟩
          · exact ⟨'\n' :: rest, by simp, ⟨rfl, Or.inl rfl⟩, rfl⟩
  | succ index ih =>
      cases splits : split '\n' text with
      | nil => simp [splits] at found
      | cons first others =>
          rw [splits] at found
          obtain ⟨notMem, ⟨-, rfl⟩ | ⟨rest, rfl, rfl⟩⟩ := split_eq_cons splits
          · simp at found
          · obtain ⟨front, back, rfl, ⟨feeds, whole⟩, start⟩ := ih found
            refine ⟨first ++ '\n' :: front, back, by simp, ⟨?_, Or.inr ?_⟩, ?_⟩
            · rw [List.count_append, List.count_cons_self, feeds, List.count_eq_zero.mpr notMem,
                Nat.zero_add]
            · rcases whole with rfl | last
              · simp
              · simp [List.getLast?_append, List.getLast?_cons, last]
            · rw [pieceStart, start, byteLength_append, byteLength]
              have one : '\n'.utf8Size = 1 := by decide
              omega

theorem offsetOf_of_found {text piece : List Char} {index : Nat} (column : Nat)
    (found : (split '\n' text)[index]? = some piece) :
    offsetOf text (index + 1) column =
      pieceStart (split '\n' text) index + min (column - 1) (byteLength piece) := by
  simp only [offsetOf, found]

/-- A column inside a piece is not clamped. -/
theorem offsetOf_eq {text piece : List Char} {index column : Nat}
    (found : (split '\n' text)[index]? = some piece) (inside : column - 1 ≤ byteLength piece) :
    offsetOf text (index + 1) column = pieceStart (split '\n' text) index + (column - 1) := by
  rw [offsetOf_of_found column found, Nat.min_eq_left inside]

end Text
end ScriptLint
