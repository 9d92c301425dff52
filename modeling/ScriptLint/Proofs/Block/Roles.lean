import ScriptLint.Block.Pairing
import ScriptLint.Proofs.Claims

/-!
# Roles of lines

A line can open a block of a family or close one, never both.  The unclaimed lines of a script with
either role are listed here by index, in a form that shows how the lists depend on the claims: they
do so only at lines with a role, and more claims only take entries out of them.
-/

namespace ScriptLint
namespace Block

/-! ## One role in a family -/

/-- The line reads as an opener of the family, well formed or not. -/
def Kind.isOpener (kind : Kind) (line : List Char) : Bool := (kind.readOpener? line).isSome

/-- The line opens or closes blocks of the family. -/
def Kind.HasRole (kind : Kind) (line : List Char) : Prop :=
  kind.isOpener line = true ∨ kind.isCloser line = true

instance (kind : Kind) (line : List Char) : Decidable (kind.HasRole line) :=
  inferInstanceAs (Decidable (_ ∨ _))

/-- A line that closes a block does not read as an opener of the same family. -/
theorem Kind.readOpener?_of_isCloser {kind : Kind} {line : List Char}
    (closes : kind.isCloser line = true) : kind.readOpener? line = none := by
  cases kind with
  | function | event =>
      obtain rfl := eq_of_beq closes
      decide
  | ifTest | whileLoop =>
      -- The closing keyword starts with another letter than the opening one.
      obtain ⟨rest, rfl⟩ := List.isPrefixOf_iff_prefix.mp closes
      rfl

theorem Kind.isOpener_of_read {kind : Kind} {line : List Char} {opener : Opener}
    (read : kind.readOpener? line = some opener) : kind.isOpener line = true := by
  simp [isOpener, read]

theorem Kind.isCloser_of_isOpener {kind : Kind} {line : List Char}
    (opens : kind.isOpener line = true) : kind.isCloser line = false := by
  by_contra closes
  rw [Bool.not_eq_false] at closes
  rw [isOpener, readOpener?_of_isCloser closes] at opens
  contradiction

theorem Kind.opener_ne_closer {kind : Kind} {lines : List (List Char)} {opener closer : Nat}
    {first last : List Char} (foundFirst : lines[opener]? = some first)
    (opens : kind.isOpener first = true) (foundLast : lines[closer]? = some last)
    (closes : kind.isCloser last = true) : opener ≠ closer := by
  rintro rfl
  rw [foundFirst] at foundLast
  obtain rfl := Option.some.inj foundLast
  rw [isCloser_of_isOpener opens] at closes
  contradiction

/-- The closing keyword alone is a closer in every family. -/
theorem Kind.isCloser_closing (kind : Kind) : kind.isCloser kind.closing.toList = true := by
  cases kind <;> decide

/-! ## Unclaimed lines -/

/-- Indices of the unclaimed lines that are read as wanted, where the lines are counted from an
index. -/
def unclaimed (reads : List Char → Bool) (claims : ClaimSet) (start : Nat)
    (lines : List (List Char)) : List Nat :=
  ((lines.zipIdx start).filter fun numbered =>
    decide (numbered.2 ∉ claims) && reads numbered.1).map Prod.snd

theorem mem_unclaimed {reads : List Char → Bool} {claims : ClaimSet} {index : Nat}
    {lines : List (List Char)} :
    index ∈ unclaimed reads claims 0 lines ↔
      ∃ line, lines[index]? = some line ∧ index ∉ claims ∧ reads line = true := by
  simp [unclaimed, List.mk_mem_zipIdx_iff_getElem?]

theorem le_of_mem_unclaimed {reads : List Char → Bool} {claims : ClaimSet} {start index : Nat}
    {lines : List (List Char)} (member : index ∈ unclaimed reads claims start lines) :
    start ≤ index := by
  obtain ⟨numbered, found, rfl⟩ := List.mem_map.mp member
  exact List.le_snd_of_mem_zipIdx (List.mem_of_mem_filter found)

theorem unclaimed_ascending (reads : List Char → Bool) (claims : ClaimSet) (start : Nat)
    (lines : List (List Char)) : (unclaimed reads claims start lines).Pairwise (· < ·) := by
  have counted : ((lines.zipIdx start).map Prod.snd).Pairwise (· < ·) := by
    rw [List.zipIdx_map_snd]
    exact List.pairwise_lt_range'
  exact counted.sublist (List.filter_sublist.map Prod.snd)

theorem unclaimed_cons (reads : List Char → Bool) (claims : ClaimSet) (start : Nat)
    (line : List Char) (rest : List (List Char)) :
    unclaimed reads claims start (line :: rest) =
      if start ∉ claims ∧ reads line = true then
        start :: unclaimed reads claims (start + 1) rest
      else
        unclaimed reads claims (start + 1) rest := by
  rw [unclaimed, List.zipIdx_cons, List.filter_cons]
  simp only [Bool.and_eq_true, decide_eq_true_eq]
  split <;> rfl

/-- Claims matter only at lines that are read as wanted. -/
theorem unclaimed_congr {claims other : ClaimSet} {reads : List Char → Bool} {start : Nat}
    {lines : List (List Char)}
    (agree : ∀ numbered ∈ lines.zipIdx start, reads numbered.1 = true →
      (numbered.2 ∈ claims ↔ numbered.2 ∈ other)) :
    unclaimed reads claims start lines = unclaimed reads other start lines := by
  rw [unclaimed, unclaimed]
  congr 1
  apply List.filter_congr
  intro numbered found
  cases wanted : reads numbered.1 with
  | false => simp
  | true => simp [agree numbered found wanted]

theorem closers_eq (kind : Kind) (claims : ClaimSet) (start : Nat) (lines : List (List Char)) :
    closers kind claims start lines = unclaimed kind.isCloser claims start lines := by
  induction lines generalizing start with
  | nil => rfl
  | cons line rest ih =>
      rw [closers, unclaimed_cons, ih]
      simp [ClaimSet.contains_eq_false, and_comm]

/-! ## What openers read as -/

/-- The unclaimed lines that read as openers, each as its index and what was read. -/
def readings (kind : Kind) (claims : ClaimSet) (start : Nat) (lines : List (List Char)) :
    List (Nat × Opener) :=
  (lines.zipIdx start).filterMap fun numbered =>
    if numbered.2 ∈ claims then none else (kind.readOpener? numbered.1).map (Prod.mk numbered.2)

/-- The reading that a well-formed opener stands for. -/
def Opening.reading (opening : Opening) : Nat × Opener := (opening.index, .valid opening.label)

/-- The reading that a faulty opener stands for. -/
def FaultyOpening.reading (faulty : FaultyOpening) : Nat × Opener :=
  (faulty.index, .invalid faulty.label faulty.column faulty.fault)

theorem mem_readings {kind : Kind} {claims : ClaimSet} {lines : List (List Char)}
    {reading : Nat × Opener} :
    reading ∈ readings kind claims 0 lines ↔
      ∃ line, lines[reading.1]? = some line ∧ reading.1 ∉ claims ∧
        kind.readOpener? line = some reading.2 := by
  rw [readings, List.mem_filterMap]
  constructor
  · rintro ⟨⟨line, index⟩, found, read⟩
    by_cases claimed : index ∈ claims
    · simp [claimed] at read
    · simp only [claimed, ↓reduceIte, Option.map_eq_some_iff] at read
      obtain ⟨opener, isOpener, rfl⟩ := read
      exact ⟨line, List.mk_mem_zipIdx_iff_getElem?.mp found, claimed, isOpener⟩
  · rintro ⟨line, found, free, isOpener⟩
    refine ⟨(line, reading.1), List.mk_mem_zipIdx_iff_getElem?.mpr found, ?_⟩
    simp [free, isOpener]

theorem readings_cons (kind : Kind) (claims : ClaimSet) (start : Nat) (line : List Char)
    (rest : List (List Char)) :
    readings kind claims start (line :: rest) =
      if start ∈ claims then
        readings kind claims (start + 1) rest
      else
        match kind.readOpener? line with
        | none => readings kind claims (start + 1) rest
        | some opener => (start, opener) :: readings kind claims (start + 1) rest := by
  rw [readings, List.zipIdx_cons, List.filterMap_cons]
  by_cases claimed : start ∈ claims
  · simp [claimed, readings]
  · cases kind.readOpener? line <;> simp [claimed, readings]

theorem map_fst_readings (kind : Kind) (claims : ClaimSet) (start : Nat)
    (lines : List (List Char)) :
    (readings kind claims start lines).map Prod.fst =
      unclaimed kind.isOpener claims start lines := by
  induction lines generalizing start with
  | nil => rfl
  | cons line rest ih =>
      rw [readings_cons, unclaimed_cons]
      by_cases claimed : start ∈ claims
      · simp [claimed, ih]
      · cases read : kind.readOpener? line <;> simp [claimed, read, Kind.isOpener, ih]

/-- More claims take readings out. -/
theorem readings_of_subset {claims grown : ClaimSet} (subset : ∀ index ∈ claims, index ∈ grown)
    (kind : Kind) (start : Nat) (lines : List (List Char)) :
    readings kind grown start lines =
      (readings kind claims start lines).filter fun reading => decide (reading.1 ∉ grown) := by
  rw [readings, readings, List.filter_filterMap]
  apply List.filterMap_congr
  rintro ⟨line, index⟩ -
  by_cases member : index ∈ grown
  · by_cases earlier : index ∈ claims
    · simp [member, earlier]
    · cases kind.readOpener? line <;> simp [member, earlier, Option.filter]
  · have free : index ∉ claims := fun earlier => member (subset index earlier)
    cases kind.readOpener? line <;> simp [member, free, Option.filter]

/-- Claims matter only at lines that read as openers. -/
theorem readings_congr {kind : Kind} {claims other : ClaimSet} {start : Nat}
    {lines : List (List Char)}
    (agree : ∀ numbered ∈ lines.zipIdx start, kind.isOpener numbered.1 = true →
      (numbered.2 ∈ claims ↔ numbered.2 ∈ other)) :
    readings kind claims start lines = readings kind other start lines := by
  apply List.filterMap_congr
  intro numbered found
  cases read : kind.readOpener? numbered.1 with
  | none => simp
  | some opener => simp [agree numbered found (Kind.isOpener_of_read read)]

/-! ## Collecting openings -/

/-- The closing keyword need not be passed over, since it does not read as an opener. -/
theorem openings_cons (kind : Kind) (claims : ClaimSet) (start : Nat) (line : List Char)
    (rest : List (List Char)) :
    openings kind claims start (line :: rest) =
      if start ∈ claims then
        openings kind claims (start + 1) rest
      else
        match kind.readOpener? line with
        | none => openings kind claims (start + 1) rest
        | some (.valid label) =>
            (openings kind claims (start + 1) rest).map (⟨start, label⟩ :: ·)
        | some (.invalid label column fault) => .error ⟨start, label, column, fault⟩ := by
  rw [openings]
  by_cases claimed : start ∈ claims
  · rw [if_pos claimed, if_pos (by simp [ClaimSet.contains_iff, claimed])]
  · rw [if_neg claimed]
    split_ifs with passed
    · have closing : line = kind.closing.toList := by
        simpa [ClaimSet.contains_eq_false.mpr claimed] using passed
      have unread : kind.readOpener? line = none :=
        Kind.readOpener?_of_isCloser (closing ▸ kind.isCloser_closing)
      rw [unread]
    · rfl

/-- A first entry is put in front of a list exactly if there is a list. -/
private theorem map_cons_eq_ok_iff {ε α : Type} {result : Except ε (List α)} {first : α}
    {entries : List α} :
    result.map (first :: ·) = .ok entries ↔
      ∃ later, result = .ok later ∧ entries = first :: later := by
  cases result with
  | error => simp [Except.map]
  | ok later => simp [Except.map, eq_comm]

/-- Openings are collected exactly if all openers are well formed, and then all of them are. -/
theorem openings_eq_ok_iff {kind : Kind} {claims : ClaimSet} {start : Nat}
    {lines : List (List Char)} {opened : List Opening} :
    openings kind claims start lines = .ok opened ↔
      readings kind claims start lines = opened.map Opening.reading := by
  induction lines generalizing start opened with
  | nil => cases opened <;> simp [openings, readings]
  | cons line rest ih =>
      rw [openings_cons, readings_cons]
      split_ifs with claimed
      · exact ih
      · split
        · next unread => rw [unread]; exact ih
        · next label read =>
            rw [read]
            rw [map_cons_eq_ok_iff]
            cases opened with
            | nil => simp
            | cons opening later =>
                obtain ⟨index, name⟩ := opening
                simp [ih, Opening.reading, and_comm, eq_comm]
        · next label column fault read =>
            rw [read]
            cases opened <;> simp [Opening.reading]

/-- Collecting stops at a faulty opener exactly if all openers before it are well formed. -/
theorem openings_eq_error_iff {kind : Kind} {claims : ClaimSet} {start : Nat}
    {lines : List (List Char)} {faulty : FaultyOpening} :
    openings kind claims start lines = .error faulty ↔
      ∃ (before : List Opening) (after : List (Nat × Opener)),
        readings kind claims start lines =
          before.map Opening.reading ++ faulty.reading :: after := by
  induction lines generalizing start with
  | nil => simp [openings, readings]
  | cons line rest ih =>
      rw [openings_cons, readings_cons]
      split_ifs with claimed
      · exact ih
      · split
        · next unread => rw [unread]; exact ih
        · next label read =>
            have skipped : (openings kind claims (start + 1) rest).map (⟨start, label⟩ :: ·) =
                .error faulty ↔ openings kind claims (start + 1) rest = .error faulty := by
              cases openings kind claims (start + 1) rest <;> simp [Except.map]
            rw [skipped, ih, read]
            constructor
            · rintro ⟨before, after, split⟩
              exact ⟨⟨start, label⟩ :: before, after, by simp [split, Opening.reading]⟩
            · rintro ⟨before, after, split⟩
              cases before with
              | nil => simp [FaultyOpening.reading] at split
              | cons opening before => exact ⟨before, after, (List.cons.inj split).2⟩
        · next label column fault read =>
            rw [read]
            constructor
            · rintro ⟨rfl⟩
              exact ⟨[], _, rfl⟩
            · rintro ⟨before, after, split⟩
              cases before with
              | nil =>
                  obtain ⟨index, name, place, wrong⟩ := faulty
                  simp [FaultyOpening.reading] at split
                  simp [split]
              | cons opening before => simp [Opening.reading] at split

/-- What is collected depends on the readings alone. -/
theorem openings_congr {kind : Kind} {claims other : ClaimSet} {start : Nat}
    {lines : List (List Char)}
    (same : readings kind claims start lines = readings kind other start lines) :
    openings kind claims start lines = openings kind other start lines := by
  cases collected : openings kind claims start lines with
  | ok opened =>
      rw [openings_eq_ok_iff, same, ← openings_eq_ok_iff] at collected
      exact collected.symm
  | error faulty =>
      rw [openings_eq_error_iff, same, ← openings_eq_error_iff] at collected
      exact collected.symm

/-- With more claims the openings that are not claimed are left. -/
theorem openings_of_subset {kind : Kind} {claims grown : ClaimSet} {start : Nat}
    {lines : List (List Char)} {opened : List Opening}
    (subset : ∀ index ∈ claims, index ∈ grown)
    (collected : openings kind claims start lines = .ok opened) :
    openings kind grown start lines =
      .ok (opened.filter fun opening => decide (opening.index ∉ grown)) := by
  rw [openings_eq_ok_iff] at collected ⊢
  rw [readings_of_subset subset, collected, List.filter_map]
  rfl

theorem mem_openings {kind : Kind} {claims : ClaimSet} {lines : List (List Char)}
    {opened : List Opening} (collected : openings kind claims 0 lines = .ok opened)
    {opening : Opening} (member : opening ∈ opened) :
    ∃ line, lines[opening.index]? = some line ∧ opening.index ∉ claims ∧
      kind.readOpener? line = some (.valid opening.label) := by
  have reading : opening.reading ∈ readings kind claims 0 lines := by
    rw [openings_eq_ok_iff.mp collected]
    exact List.mem_map_of_mem member
  exact mem_readings.mp reading

theorem read_of_refused {kind : Kind} {claims : ClaimSet} {lines : List (List Char)}
    {faulty : FaultyOpening} (refused : openings kind claims 0 lines = .error faulty) :
    ∃ line, lines[faulty.index]? = some line ∧ faulty.index ∉ claims ∧
      kind.readOpener? line = some (.invalid faulty.label faulty.column faulty.fault) := by
  obtain ⟨before, after, split⟩ := openings_eq_error_iff.mp refused
  have reading : faulty.reading ∈ readings kind claims 0 lines := by
    rw [split]
    exact List.mem_append_right _ List.mem_cons_self
  exact mem_readings.mp reading

theorem map_index_openings {kind : Kind} {claims : ClaimSet} {start : Nat}
    {lines : List (List Char)} {opened : List Opening}
    (collected : openings kind claims start lines = .ok opened) :
    opened.map Opening.index = unclaimed kind.isOpener claims start lines := by
  rw [← map_fst_readings, openings_eq_ok_iff.mp collected, List.map_map]
  rfl

theorem openings_ascending {kind : Kind} {claims : ClaimSet} {start : Nat}
    {lines : List (List Char)} {opened : List Opening}
    (collected : openings kind claims start lines = .ok opened) :
    opened.Pairwise fun earlier later => earlier.index < later.index := by
  rw [← List.pairwise_map, map_index_openings collected]
  exact unclaimed_ascending kind.isOpener claims start lines

end Block
end ScriptLint
