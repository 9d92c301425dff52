import Mathlib.Data.List.DropRight
import ScriptLint.Proofs.Text.Lines

/-!
# Lines and columns as offsets

The offset of a line and a column never leaves the text and keeps the order of positions, whatever
numbers are given for them.  It undoes the counting of positions: a byte is found again by the line
feeds in front of it and its distance from the start of its line.  The sums on the way to an offset
stay so close to the length of the text that they fit into machine words.
-/

namespace ScriptLint
namespace Text

/-! ## Starts of pieces -/

theorem pieceStart_succ {pieces : List (List Char)} {index : Nat} {piece : List Char}
    (found : pieces[index]? = some piece) :
    pieceStart pieces (index + 1) = pieceStart pieces index + byteLength piece + 1 := by
  induction pieces generalizing index with
  | nil => simp at found
  | cons first pieces ih =>
      cases index with
      | zero =>
          obtain rfl := Option.some.inj found
          cases pieces <;> simp [pieceStart]
      | succ index =>
          have next := ih found
          rw [pieceStart, next, pieceStart]
          omega

theorem pieceStart_mono (pieces : List (List Char)) {index later : Nat} (ordered : index ≤ later) :
    pieceStart pieces index ≤ pieceStart pieces later := by
  induction pieces generalizing index later with
  | nil => simp [pieceStart]
  | cons first pieces ih =>
      cases index with
      | zero => exact Nat.zero_le _
      | succ index =>
          obtain ⟨later, rfl⟩ := Nat.exists_eq_add_of_lt ordered
          have tail := @ih index (index + later) (Nat.le_add_right index later)
          rw [pieceStart, pieceStart]
          omega

/-- A piece behind the last one would start one byte behind the text. -/
theorem pieceStart_length (text : List Char) :
    pieceStart (split '\n' text) (split '\n' text).length = byteLength text + 1 := by
  generalize splits : split '\n' text = pieces
  induction pieces generalizing text with
  | nil => exact absurd splits (List.splitOn_ne_nil '\n' text)
  | cons first others ih =>
      obtain ⟨-, ⟨rfl, rfl⟩ | ⟨rest, rfl, rfl⟩⟩ := split_eq_cons splits
      · rfl
      · have one : '\n'.utf8Size = 1 := by decide
        rw [List.length_cons, pieceStart, ih rest rfl, byteLength_append, byteLength, one]
        omega

theorem pieceStart_add_le {text piece : List Char} {index : Nat}
    (found : (split '\n' text)[index]? = some piece) :
    pieceStart (split '\n' text) index + byteLength piece ≤ byteLength text := by
  obtain ⟨front, back, rfl, -, start⟩ := pieceStart_eq found
  rw [start, byteLength_append, byteLength_append]
  omega

/-! ## Bounds and order -/

theorem offsetOf_of_beyond {text : List Char} {index : Nat} (column : Nat)
    (beyond : (split '\n' text)[index]? = none) :
    offsetOf text (index + 1) column = byteLength text := by
  simp only [offsetOf, beyond]

theorem offsetOf_le (text : List Char) (line column : Nat) :
    offsetOf text line column ≤ byteLength text := by
  cases line with
  | zero => exact Nat.zero_le _
  | succ index =>
      cases found : (split '\n' text)[index]? with
      | none => rw [offsetOf_of_beyond column found]
      | some piece =>
          have inside := pieceStart_add_le found
          rw [offsetOf_of_found column found]
          omega

theorem offsetOf_mono_column (text : List Char) (line : Nat) {column later : Nat}
    (ordered : column ≤ later) : offsetOf text line column ≤ offsetOf text line later := by
  cases line with
  | zero => exact Nat.le_refl 0
  | succ index =>
      cases found : (split '\n' text)[index]? with
      | none => rw [offsetOf_of_beyond column found, offsetOf_of_beyond later found]
      | some piece =>
          rw [offsetOf_of_found column found, offsetOf_of_found later found]
          omega

/-- All of a line stands in front of all of a later line. -/
theorem offsetOf_mono_line (text : List Char) {line later : Nat} (ordered : line < later)
    (column other : Nat) : offsetOf text line column ≤ offsetOf text later other := by
  obtain ⟨last, rfl⟩ := Nat.exists_eq_succ_of_ne_zero (Nat.ne_zero_of_lt ordered)
  cases line with
  | zero => exact Nat.zero_le _
  | succ index =>
      cases foundLast : (split '\n' text)[last]? with
      | none =>
          rw [offsetOf_of_beyond other foundLast]
          exact offsetOf_le text (index + 1) column
      | some lastPiece =>
          have inside := (List.getElem?_eq_some_iff.mp foundLast).1
          have before : index < last := Nat.lt_of_succ_lt_succ ordered
          have found := List.getElem?_eq_getElem (Nat.lt_trans before inside)
          have starts := pieceStart_mono (split '\n' text) before
          rw [Nat.succ_eq_add_one, pieceStart_succ found] at starts
          rw [offsetOf_of_found column found, offsetOf_of_found other foundLast]
          omega

/-! ## Counting the position of a byte -/

/-- The bytes of the text in UTF-8. -/
def bytes (text : List Char) : List UInt8 := text.flatMap String.utf8EncodeChar

/-- The byte of a line feed. -/
def feedByte : UInt8 := 0x0A

/-- Number of line feeds among the bytes in front of an offset. -/
def feedsBefore (text : List Char) (offset : Nat) : Nat :=
  ((bytes text).take offset).count feedByte

/-- Offset at which the line of an offset starts: behind the last line feed in front of the offset,
or at the start of the text. -/
def lineStart (text : List Char) (offset : Nat) : Nat :=
  (((bytes text).take offset).rdropWhile (· != feedByte)).length

theorem bytes_append (left right : List Char) : bytes (left ++ right) = bytes left ++ bytes right :=
  List.flatMap_append

theorem length_bytes (text : List Char) : (bytes text).length = byteLength text := by
  induction text with
  | nil => rfl
  | cons c rest ih =>
      rw [← List.singleton_append, bytes_append, List.length_append, ih, List.singleton_append,
        byteLength, bytes, List.flatMap_singleton, String.length_utf8EncodeChar]

theorem le_toNat_of_wide {c : Char} (wide : ¬c.val.toNat ≤ 127) :
    ∀ byte ∈ String.utf8EncodeChar c, 128 ≤ byte.toNat := by
  rw [String.utf8EncodeChar, if_neg wide]
  split_ifs
  all_goals
    simp only [List.forall_mem_cons, List.not_mem_nil, false_implies, implies_true, and_true,
      UInt8.toNat_ofNat']
    omega

/-- Among the bytes of a character, that of a line feed stands only for a line feed. -/
theorem eq_of_feedByte_mem {c : Char} (member : feedByte ∈ String.utf8EncodeChar c) : c = '\n' := by
  by_cases narrow : c.val.toNat ≤ 127
  · rw [String.utf8EncodeChar, if_pos narrow] at member
    have codes := congrArg UInt8.toNat (List.mem_singleton.mp member)
    rw [UInt8.toNat_ofNat', Nat.mod_eq_of_lt (by omega)] at codes
    rw [← Char.ofNat_toNat c]
    exact congrArg Char.ofNat codes.symm
  · exact absurd (le_toNat_of_wide narrow feedByte member) (by decide)

theorem feedByte_notMem_bytes {piece : List Char} (unbroken : '\n' ∉ piece) :
    feedByte ∉ bytes piece := by
  rw [bytes, List.mem_flatMap]
  rintro ⟨c, inPiece, inBytes⟩
  rw [eq_of_feedByte_mem inBytes] at inPiece
  exact unbroken inPiece

section Counting

variable {piece rest : List Char} {offset : Nat}

/-- Inside the first piece there is nothing to count. -/
theorem feedByte_notMem_take (unbroken : '\n' ∉ piece) (inside : offset ≤ byteLength piece) :
    feedByte ∉ (bytes (piece ++ rest)).take offset := by
  rw [bytes_append, List.take_append_of_le_length (by rwa [length_bytes])]
  intro member
  exact feedByte_notMem_bytes unbroken (List.mem_of_mem_take member)

theorem feedsBefore_of_le (unbroken : '\n' ∉ piece) (inside : offset ≤ byteLength piece) :
    feedsBefore (piece ++ rest) offset = 0 :=
  List.count_eq_zero.mpr (feedByte_notMem_take unbroken inside)

theorem lineStart_of_le (unbroken : '\n' ∉ piece) (inside : offset ≤ byteLength piece) :
    lineStart (piece ++ rest) offset = 0 := by
  rw [lineStart, List.length_eq_zero_iff, List.rdropWhile_eq_nil_iff]
  intro byte member
  rw [bne_iff_ne]
  rintro rfl
  exact feedByte_notMem_take unbroken inside member

/-- What stands in front of an offset behind the first piece. -/
theorem take_bytes_of_gt (piece rest : List Char) (offset : Nat) :
    (bytes (piece ++ '\n' :: rest)).take (byteLength piece + 1 + offset) =
      bytes piece ++ feedByte :: (bytes rest).take offset := by
  have feed : bytes ('\n' :: rest) = feedByte :: bytes rest := rfl
  rw [bytes_append, feed, ← length_bytes, Nat.add_assoc, List.take_length_add_append, Nat.add_comm,
    List.take_succ_cons]

theorem feedsBefore_of_gt (unbroken : '\n' ∉ piece) :
    feedsBefore (piece ++ '\n' :: rest) (byteLength piece + 1 + offset) =
      feedsBefore rest offset + 1 := by
  rw [feedsBefore, take_bytes_of_gt, List.count_append, List.count_cons_self,
    List.count_eq_zero.mpr (feedByte_notMem_bytes unbroken), Nat.zero_add, feedsBefore]

theorem lineStart_of_gt :
    lineStart (piece ++ '\n' :: rest) (byteLength piece + 1 + offset) =
      byteLength piece + 1 + lineStart rest offset := by
  rw [lineStart, take_bytes_of_gt, lineStart]
  generalize (bytes rest).take offset = behind
  have kept : (bytes piece ++ feedByte :: behind).rdropWhile (· != feedByte) =
      bytes piece ++ feedByte :: behind.rdropWhile (· != feedByte) := by
    induction behind using List.reverseRecOn with
    | nil => exact List.rdropWhile_concat_neg _ _ _ (by decide)
    | append_singleton behind byte ih =>
        rw [← List.cons_append, ← List.append_assoc, List.rdropWhile_concat, List.rdropWhile_concat,
          ih]
        split_ifs
        · rfl
        · rw [List.append_assoc, List.cons_append]
  rw [kept, List.length_append, List.length_cons, length_bytes]
  omega

end Counting

/-- The line feeds in front of a byte lead to the piece that the byte stands in or ends. -/
theorem exists_piece_of_offset {text : List Char} {offset : Nat}
    (inside : offset ≤ byteLength text) :
    ∃ piece, (split '\n' text)[feedsBefore text offset]? = some piece ∧
      pieceStart (split '\n' text) (feedsBefore text offset) = lineStart text offset ∧
      lineStart text offset ≤ offset ∧ offset ≤ lineStart text offset + byteLength piece := by
  generalize splits : split '\n' text = pieces
  induction pieces generalizing text offset with
  | nil => exact absurd splits (List.splitOn_ne_nil '\n' text)
  | cons piece pieces ih =>
      -- The offset is in the first piece, or behind the line feed that ends it.
      obtain ⟨unbroken, ⟨rfl, rfl⟩ | ⟨rest, rfl, rfl⟩⟩ := split_eq_cons splits
      · have feeds := @feedsBefore_of_le _ [] _ unbroken inside
        have start := @lineStart_of_le _ [] _ unbroken inside
        rw [List.append_nil] at feeds start
        rw [feeds, start]
        exact ⟨text, rfl, rfl, Nat.zero_le offset, by omega⟩
      · rcases Nat.lt_or_ge (byteLength piece) offset with behind | within
        · obtain ⟨later, rfl⟩ := Nat.exists_eq_add_of_le (Nat.succ_le_of_lt behind)
          have one : '\n'.utf8Size = 1 := by decide
          rw [byteLength_append, byteLength, one] at inside
          have laterInside : later ≤ byteLength rest := by omega
          obtain ⟨last, found, start, startLe, leEnd⟩ := ih laterInside rfl
          rw [Nat.succ_eq_add_one, feedsBefore_of_gt unbroken, lineStart_of_gt]
          exact ⟨last, found, by rw [pieceStart, start], by omega, by omega⟩
        · rw [feedsBefore_of_le unbroken within, lineStart_of_le unbroken within]
          exact ⟨piece, rfl, rfl, Nat.zero_le offset, by omega⟩

/-- A byte is found again by its position. -/
theorem offsetOf_position {text : List Char} {offset : Nat} (inside : offset ≤ byteLength text) :
    offsetOf text (1 + feedsBefore text offset) (1 + offset - lineStart text offset) = offset := by
  obtain ⟨piece, found, start, startLe, leEnd⟩ := exists_piece_of_offset inside
  rw [Nat.add_comm 1, offsetOf_of_found _ found, start]
  omega

/-! ## Offsets in machine words -/

/-- The number, if it fits into a machine word of 64 bits. -/
def word? (number : Nat) : Option Nat := if number < UInt64.size then some number else none

/-- The search for a line and a column in pieces, of which the first has an index and starts at an
offset.  Every sum on the way has to fit into a machine word.  Without the line, the search ends at
the end of the text. -/
def seek? (ending line column : Nat) : List (List Char) → Nat → Nat → Option Nat
  | [], _, _ => some ending
  | piece :: pieces, index, offset => do
      let number ← word? (index + 1)
      if number = line then
        word? (offset + min (column - 1) (byteLength piece))
      else
        let width ← word? (byteLength piece + 1)
        let next ← word? (offset + width)
        seek? ending line column pieces number next

/-- Byte offset of a line and a column, computed in machine words. -/
def offsetInWords? (text : List Char) (line column : Nat) : Option Nat :=
  if line = 0 then some 0 else seek? (byteLength text) line column (split '\n' text) 0 0

theorem word?_of_lt {number : Nat} (fits : number < UInt64.size) : word? number = some number :=
  if_pos fits

/-- The search needs no sum beyond the end of the pieces and finds the line that is meant. -/
theorem seek?_eq {ending line column index offset : Nat} {pieces : List (List Char)}
    (ahead : index < line) (indexLe : index ≤ offset)
    (fits : offset + pieceStart pieces pieces.length < UInt64.size) :
    seek? ending line column pieces index offset =
      some (pieces[line - 1 - index]?.elim ending fun piece =>
        offset + pieceStart pieces (line - 1 - index) + min (column - 1) (byteLength piece)) := by
  induction pieces generalizing index offset with
  | nil => rfl
  | cons piece pieces ih =>
      rw [List.length_cons, pieceStart] at fits
      rw [seek?, word?_of_lt (by omega)]
      by_cases isLine : index + 1 = line
      · have first : line - 1 - index = 0 := by omega
        have sumFits : offset + min (column - 1) (byteLength piece) < UInt64.size := by omega
        simp only [Option.bind_eq_bind, Option.bind_some, if_pos isLine, word?_of_lt sumFits, first]
        rfl
      · obtain ⟨later, isLater⟩ : ∃ later, line - 1 - index = later + 1 :=
          ⟨line - 2 - index, by omega⟩
        have laterEq : line - 1 - (index + 1) = later := by omega
        have widthFits : byteLength piece + 1 < UInt64.size := by omega
        have nextFits : offset + (byteLength piece + 1) < UInt64.size := by omega
        have found := @ih (index + 1) (offset + (byteLength piece + 1)) (by omega) (by omega)
          (by omega)
        simp only [Option.bind_eq_bind, Option.bind_some, if_neg isLine, word?_of_lt widthFits,
          word?_of_lt nextFits, found, isLater, laterEq, List.getElem?_cons_succ, pieceStart,
          Nat.add_assoc]

theorem offsetInWords?_eq {text : List Char} (fits : byteLength text + 1 < UInt64.size)
    (line column : Nat) : offsetInWords? text line column = some (offsetOf text line column) := by
  cases line with
  | zero => rfl
  | succ index =>
      have found := @seek?_eq (byteLength text) (index + 1) column 0 0 (split '\n' text)
        (Nat.succ_pos index) (Nat.le_refl 0) (by rw [pieceStart_length]; omega)
      rw [offsetInWords?, if_neg (Nat.succ_ne_zero index), found, Nat.add_sub_cancel, Nat.sub_zero]
      cases isPiece : (split '\n' text)[index]? with
      | none =>
          rw [offsetOf_of_beyond column isPiece]
          rfl
      | some piece =>
          rw [offsetOf_of_found column isPiece, Nat.zero_add]
          rfl

/-- An offset stays in the text, and no sum on the way to it leaves the machine words unless the
text is as long as the greatest of them.  A byte, or the end of the text, is found again by the line
feeds in front of it and its distance from the start of its line.  Positions and their offsets are
in the same order. -/
theorem offsetOf_inverts_counting (text : List Char) :
    (∀ line column, offsetOf text line column ≤ byteLength text) ∧
    (byteLength text + 1 < UInt64.size →
      ∀ line column, offsetInWords? text line column = some (offsetOf text line column)) ∧
    (∀ offset ≤ byteLength text,
      offsetOf text (1 + feedsBefore text offset) (1 + offset - lineStart text offset) = offset) ∧
    ∀ line column later other, line < later ∨ line = later ∧ column ≤ other →
      offsetOf text line column ≤ offsetOf text later other := by
  refine ⟨offsetOf_le text, offsetInWords?_eq, fun offset => offsetOf_position, ?_⟩
  intro line column later other ordered
  rcases ordered with before | ⟨rfl, within⟩
  · exact offsetOf_mono_line text before column other
  · exact offsetOf_mono_column text line within

/-- The second byte of a character, a line that is clamped, and a line behind the text. -/
theorem offsetOf_inverts_counting_extreme :
    let text := "é\n\r\n".toList
    byteLength text + 1 < UInt64.size ∧
      offsetOf text (1 + feedsBefore text 1) (1 + 1 - lineStart text 1) = 1 ∧
      offsetInWords? text 2 (UInt64.size - 1) = some 4 ∧
      offsetInWords? text (UInt64.size - 1) 0 = some 5 ∧
      offsetOf text 2 (UInt64.size - 1) ≤ offsetOf text (UInt64.size - 1) 0 := by
  intro text
  have fits : byteLength text + 1 < UInt64.size := by decide +kernel
  obtain ⟨-, inWords, inverse, ordered⟩ := offsetOf_inverts_counting text
  refine ⟨fits, inverse 1 (by decide +kernel), ?_, ?_, ordered _ _ _ _ (Or.inl (by decide))⟩
  · rw [inWords fits]
    decide +kernel
  · rw [inWords fits]
    decide +kernel

end Text
end ScriptLint
