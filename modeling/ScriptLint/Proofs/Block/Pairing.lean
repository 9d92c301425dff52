import ScriptLint.Proofs.Block.Roles

/-!
# What pairing claims

Pairing takes the openers in order and gives each the first closer that is left behind it.  The
pairs it makes and the opener at which it stops depend on the openers and closers alone; the claims
only grow by the pairs.  A check of a family therefore changes the context by the pairs it makes and
in no other way.
-/

namespace ScriptLint
namespace Block

/-! ## Pairs without claims -/

/-- The pairs that are made, up to the first opener without a closer. -/
def matched : List Opening → List Nat → List (Nat × Nat)
  | [], _ => []
  | opening :: rest, closers =>
      match closers.dropWhile (· ≤ opening.index) with
      | [] => []
      | closer :: later => (opening.index, closer) :: matched rest later

/-- The first opener without a closer. -/
def unmatched? : List Opening → List Nat → Option Opening
  | [], _ => none
  | opening :: rest, closers =>
      match closers.dropWhile (· ≤ opening.index) with
      | [] => some opening
      | _ :: later => unmatched? rest later

section Steps

variable {opening : Opening} {rest : List Opening} {closers later : List Nat} {closer : Nat}

theorem matched_of_none (none_left : closers.dropWhile (· ≤ opening.index) = []) :
    matched (opening :: rest) closers = [] := by
  rw [matched, none_left]

theorem matched_of_next (next : closers.dropWhile (· ≤ opening.index) = closer :: later) :
    matched (opening :: rest) closers = (opening.index, closer) :: matched rest later := by
  rw [matched, next]

theorem unmatched?_of_none (none_left : closers.dropWhile (· ≤ opening.index) = []) :
    unmatched? (opening :: rest) closers = some opening := by
  rw [unmatched?, none_left]

theorem unmatched?_of_next (next : closers.dropWhile (· ≤ opening.index) = closer :: later) :
    unmatched? (opening :: rest) closers = unmatched? rest later := by
  rw [unmatched?, next]

end Steps

theorem pair_eq (opened : List Opening) (closers : List Nat) (claims : ClaimSet) :
    pair opened closers claims =
      { pairs := matched opened closers
        unclosed := unmatched? opened closers
        claims := claims.insertPairs (matched opened closers) } := by
  induction opened generalizing closers claims with
  | nil => rfl
  | cons opening rest ih =>
      rw [pair, matched, unmatched?]
      cases closers.dropWhile (· ≤ opening.index) with
      | nil => rfl
      | cons closer later => simp only [ih, ClaimSet.insertPairs_cons]

/-! ## The closers behind a line -/

theorem mem_dropWhile_le {closers : List Nat} (ascending : closers.Pairwise (· < ·))
    {bound index : Nat} :
    index ∈ closers.dropWhile (· ≤ bound) ↔ index ∈ closers ∧ bound < index := by
  induction closers with
  | nil => simp
  | cons first rest ih =>
      obtain ⟨below, restAscends⟩ := List.pairwise_cons.mp ascending
      by_cases skipped : first ≤ bound
      · rw [List.dropWhile_cons_of_pos (by simpa using skipped), ih restAscends, List.mem_cons]
        constructor
        · rintro ⟨member, behind⟩
          exact ⟨Or.inr member, behind⟩
        · rintro ⟨rfl | member, behind⟩
          · omega
          · exact ⟨member, behind⟩
      · rw [List.dropWhile_cons_of_neg (by simpa using skipped)]
        constructor
        · intro member
          refine ⟨member, ?_⟩
          rcases List.mem_cons.mp member with rfl | member
          · omega
          · have := below index member
            omega
        · exact And.left

/-- The first closer behind a line is followed by the other closers behind that line. -/
theorem first_behind {closers later : List Nat} {bound closer : Nat}
    (ascending : closers.Pairwise (· < ·))
    (next : closers.dropWhile (· ≤ bound) = closer :: later) :
    (∀ index, index = closer ∨ index ∈ later ↔ index ∈ closers ∧ bound < index) ∧
      (∀ index ∈ later, closer < index) ∧ later.Pairwise (· < ·) := by
  have behind : (closer :: later).Pairwise (· < ·) :=
    next ▸ ascending.sublist (List.dropWhile_sublist _)
  refine ⟨?_, List.pairwise_cons.mp behind⟩
  intro index
  rw [← List.mem_cons, ← next]
  exact mem_dropWhile_le ascending

/-! ## The pairs that are made -/

/-- A pair joins an opener to a closer behind it. -/
theorem of_mem_matched {opened : List Opening} {closers : List Nat}
    (ascending : closers.Pairwise (· < ·)) {pair : Nat × Nat}
    (made : pair ∈ matched opened closers) :
    (∃ opening ∈ opened, opening.index = pair.1) ∧ pair.2 ∈ closers ∧ pair.1 < pair.2 := by
  induction opened generalizing closers with
  | nil => simp [matched] at made
  | cons opening rest ih =>
      cases next : closers.dropWhile (· ≤ opening.index) with
      | nil => simp [matched_of_none next] at made
      | cons closer later =>
          obtain ⟨behind, -, laterAscends⟩ := first_behind ascending next
          rw [matched_of_next next] at made
          rcases List.mem_cons.mp made with rfl | made
          · obtain ⟨member, below⟩ := (behind closer).mp (Or.inl rfl)
            exact ⟨⟨opening, List.mem_cons_self, rfl⟩, member, below⟩
          · obtain ⟨⟨source, member, index_eq⟩, closes, below⟩ := ih laterAscends made
            exact ⟨⟨source, List.mem_cons_of_mem _ member, index_eq⟩,
              ((behind pair.2).mp (Or.inr closes)).1, below⟩

/-- Later openers get later closers. -/
theorem matched_ascending {opened : List Opening} {closers : List Nat}
    (openersAscend : opened.Pairwise fun earlier later => earlier.index < later.index)
    (ascending : closers.Pairwise (· < ·)) :
    (matched opened closers).Pairwise fun earlier later =>
      earlier.1 < later.1 ∧ earlier.2 < later.2 := by
  induction opened generalizing closers with
  | nil => exact .nil
  | cons opening rest ih =>
      obtain ⟨below, restAscends⟩ := List.pairwise_cons.mp openersAscend
      cases next : closers.dropWhile (· ≤ opening.index) with
      | nil =>
          rw [matched_of_none next]
          exact .nil
      | cons closer later =>
          obtain ⟨-, laterBehind, laterAscends⟩ := first_behind ascending next
          rw [matched_of_next next]
          refine List.pairwise_cons.mpr ⟨?_, ih restAscends laterAscends⟩
          intro pair made
          obtain ⟨⟨source, member, index_eq⟩, closes, -⟩ := of_mem_matched laterAscends made
          exact ⟨index_eq ▸ below source member, laterBehind pair.2 closes⟩

/-- Without an opener that is left over, all openers are paired. -/
theorem map_fst_matched {opened : List Opening} {closers : List Nat}
    (complete : unmatched? opened closers = none) :
    (matched opened closers).map Prod.fst = opened.map Opening.index := by
  induction opened generalizing closers with
  | nil => rfl
  | cons opening rest ih =>
      cases next : closers.dropWhile (· ≤ opening.index) with
      | nil => simp [unmatched?_of_none next] at complete
      | cons closer later =>
          rw [unmatched?_of_next next] at complete
          rw [matched_of_next next, List.map_cons, List.map_cons, ih complete]

/-- The openers in front of the one that is left over are paired as if they were all, and those
behind it do not matter. -/
theorem split_at_unmatched {opened : List Opening} {closers : List Nat} {opening : Opening}
    (stopped : unmatched? opened closers = some opening) :
    ∃ before after, opened = before ++ opening :: after ∧
      matched opened closers = matched before closers ∧ unmatched? before closers = none ∧
      unmatched? (before ++ [opening]) closers = some opening := by
  induction opened generalizing closers with
  | nil => simp [unmatched?] at stopped
  | cons first rest ih =>
      cases next : closers.dropWhile (· ≤ first.index) with
      | nil =>
          rw [unmatched?_of_none next] at stopped
          obtain rfl := Option.some.inj stopped
          exact ⟨[], rest, rfl, matched_of_none next, rfl, unmatched?_of_none next⟩
      | cons closer later =>
          rw [unmatched?_of_next next] at stopped
          obtain ⟨before, after, rfl, same, complete, stoppedThere⟩ := ih stopped
          refine ⟨first :: before, after, rfl, ?_, ?_, ?_⟩
          · rw [matched_of_next next, matched_of_next next, same]
          · rw [unmatched?_of_next next, complete]
          · rw [List.cons_append, unmatched?_of_next next, stoppedThere]

theorem mem_of_unmatched? {opened : List Opening} {closers : List Nat} {opening : Opening}
    (stopped : unmatched? opened closers = some opening) : opening ∈ opened := by
  obtain ⟨before, after, rfl, -⟩ := split_at_unmatched stopped
  exact List.mem_append_right before List.mem_cons_self

/-- Every closer behind the opener that is left over is taken by an earlier one. -/
theorem taken_behind_unmatched {opened : List Opening} {closers : List Nat} {opening : Opening}
    (openersAscend : opened.Pairwise fun earlier later => earlier.index < later.index)
    (ascending : closers.Pairwise (· < ·))
    (stopped : unmatched? opened closers = some opening) {closer : Nat}
    (closes : closer ∈ closers) (behindOpening : opening.index < closer) :
    ∃ pair ∈ matched opened closers, pair.2 = closer := by
  induction opened generalizing closers with
  | nil => simp [unmatched?] at stopped
  | cons first rest ih =>
      obtain ⟨below, restAscends⟩ := List.pairwise_cons.mp openersAscend
      cases next : closers.dropWhile (· ≤ first.index) with
      | nil =>
          rw [unmatched?_of_none next] at stopped
          obtain rfl := Option.some.inj stopped
          have behind := (mem_dropWhile_le ascending).mpr ⟨closes, behindOpening⟩
          rw [next] at behind
          contradiction
      | cons taken later =>
          rw [unmatched?_of_next next] at stopped
          rw [matched_of_next next]
          obtain ⟨behind, -, laterAscends⟩ := first_behind ascending next
          obtain ⟨before, after, rfl, -⟩ := split_at_unmatched stopped
          have firstBelow : first.index < opening.index := below opening (by simp)
          rcases (behind closer).mpr ⟨closes, by omega⟩ with rfl | member
          · exact ⟨_, List.mem_cons_self, rfl⟩
          · obtain ⟨pair, made, ends⟩ := ih restAscends laterAscends stopped member
            exact ⟨pair, List.mem_cons_of_mem _ made, ends⟩

/-! ## Families without unclaimed openers -/

section Lines

variable {kind : Kind} {lines : List (List Char)} {claims : ClaimSet}

theorem closers_ascending (kind : Kind) (claims : ClaimSet) (start : Nat)
    (lines : List (List Char)) : (closers kind claims start lines).Pairwise (· < ·) := by
  rw [closers_eq]
  exact unclaimed_ascending kind.isCloser claims start lines

/-- All lines that read as openers of the family are claimed. -/
def Settled (kind : Kind) (lines : List (List Char)) (claims : ClaimSet) : Prop :=
  ∀ index line, lines[index]? = some line → kind.isOpener line = true → index ∈ claims

theorem Settled.mono {grown : ClaimSet} (settled : Settled kind lines claims)
    (subset : ∀ index ∈ claims, index ∈ grown) : Settled kind lines grown :=
  fun index line found opens => subset index (settled index line found opens)

theorem openings_of_settled (settled : Settled kind lines claims) :
    openings kind claims 0 lines = .ok [] := by
  rw [openings_eq_ok_iff, List.map_nil, List.eq_nil_iff_forall_not_mem]
  intro reading member
  obtain ⟨line, found, free, read⟩ := mem_readings.mp member
  exact free (settled reading.1 line found (Kind.isOpener_of_read read))

/-- Pairing that leaves no opener over claims all of them. -/
theorem index_mem_insertPairs {opened : List Opening} {taken : List Nat} (claims : ClaimSet)
    (complete : unmatched? opened taken = none) {index : Nat}
    (opener : index ∈ opened.map Opening.index) :
    index ∈ claims.insertPairs (matched opened taken) := by
  rw [← map_fst_matched complete] at opener
  obtain ⟨pair, made, rfl⟩ := List.mem_map.mp opener
  exact ClaimSet.mem_insertPairs.mpr (Or.inr ⟨pair, made, Or.inl rfl⟩)

theorem settled_insertPairs {opened : List Opening}
    (collected : openings kind claims 0 lines = .ok opened)
    (complete : unmatched? opened (closers kind claims 0 lines) = none) :
    Settled kind lines (claims.insertPairs (matched opened (closers kind claims 0 lines))) := by
  intro index line found opens
  by_cases claimed : index ∈ claims
  · exact ClaimSet.mem_insertPairs.mpr (Or.inl claimed)
  · apply index_mem_insertPairs claims complete
    rw [map_index_openings collected]
    exact mem_unclaimed.mpr ⟨line, found, claimed, opens⟩

/-- An opener behind those that are paired stays unclaimed. -/
theorem index_notMem_insertPairs {before after : List Opening} {opening : Opening}
    (collected : openings kind claims 0 lines = .ok (before ++ opening :: after)) :
    opening.index ∉ claims.insertPairs (matched before (closers kind claims 0 lines)) := by
  have closersAscend := closers_ascending kind claims 0 lines
  obtain ⟨line, found, unclaimed, read⟩ :=
    mem_openings collected (List.mem_append_right before List.mem_cons_self)
  rw [ClaimSet.mem_insertPairs]
  rintro (claimed | ⟨pair, made, asOpener | asCloser⟩)
  · exact unclaimed claimed
  · -- An opener that was paired stands in front of this one.
    obtain ⟨⟨source, member, index_eq⟩, -, -⟩ := of_mem_matched closersAscend made
    have below := (List.pairwise_append.mp (openings_ascending collected)).2.2 source member
      opening List.mem_cons_self
    omega
  · -- A closer that was paired is no opener.
    obtain ⟨-, closes, -⟩ := of_mem_matched closersAscend made
    rw [closers_eq, ← asCloser] at closes
    obtain ⟨last, foundLast, -, isCloser⟩ := mem_unclaimed.mp closes
    exact Kind.opener_ne_closer found (Kind.isOpener_of_read read) foundLast isCloser rfl

/-- The opener at which pairing stops is the first one that stays unclaimed. -/
theorem openings_after_stop {opened : List Opening} {opening : Opening} {grown : ClaimSet}
    (collected : openings kind claims 0 lines = .ok opened)
    (stopped : unmatched? opened (closers kind claims 0 lines) = some opening)
    (grows : grown = claims.insertPairs (matched opened (closers kind claims 0 lines))) :
    ∃ rest, openings kind grown 0 lines = .ok (opening :: rest) := by
  obtain ⟨before, after, rfl, same, complete, -⟩ := split_at_unmatched stopped
  rw [same] at grows
  have subset : ∀ index ∈ claims, index ∈ grown := by
    intro index claimed
    rw [grows]
    exact ClaimSet.mem_insertPairs.mpr (Or.inl claimed)
  have dropped : before.filter (fun earlier => decide (earlier.index ∉ grown)) = [] := by
    rw [List.filter_eq_nil_iff]
    intro earlier member
    have claimed := index_mem_insertPairs claims complete (List.mem_map_of_mem member)
    rw [← grows] at claimed
    simpa using claimed
  have free : opening.index ∉ grown := by
    rw [grows]
    exact index_notMem_insertPairs collected
  rw [openings_of_subset subset collected, List.filter_append, dropped,
    List.filter_cons_of_pos (by simpa using free), List.nil_append]
  exact ⟨_, rfl⟩

/-- No closer is left behind the opener at which pairing stops. -/
theorem closers_after_stop {opened : List Opening} {opening : Opening} {grown : ClaimSet}
    (collected : openings kind claims 0 lines = .ok opened)
    (stopped : unmatched? opened (closers kind claims 0 lines) = some opening)
    (grows : grown = claims.insertPairs (matched opened (closers kind claims 0 lines))) :
    (closers kind grown 0 lines).dropWhile (· ≤ opening.index) = [] := by
  rw [List.eq_nil_iff_forall_not_mem]
  intro closer left
  obtain ⟨closes, behind⟩ := (mem_dropWhile_le (closers_ascending ..)).mp left
  rw [closers_eq] at closes
  obtain ⟨line, found, free, isCloser⟩ := mem_unclaimed.mp closes
  rw [grows, ClaimSet.mem_insertPairs, not_or] at free
  have earlier : closer ∈ closers kind claims 0 lines := by
    rw [closers_eq]
    exact mem_unclaimed.mpr ⟨line, found, free.1, isCloser⟩
  obtain ⟨pair, made, rfl⟩ := taken_behind_unmatched (openings_ascending collected)
    (closers_ascending ..) stopped earlier behind
  exact free.2 ⟨pair, made, Or.inr rfl⟩

end Lines

/-! ## Checks of a family -/

section Checks

-- Unfolding the lines of a script helps no proof here and costs much.
attribute [local irreducible] Document.normalizedLines

variable {kind : Kind} {rule : String} {doc : Document} {context : Context}

theorem check_of_error {faulty : FaultyOpening}
    (refused : openings kind context.claims 0 doc.normalizedLines = .error faulty) :
    check kind rule doc context =
      { finding := some (.located rule doc (faulty.index + 1) faulty.column
          (faultMessage faulty.label faulty.fault))
        context } := by
  rw [check]
  simp only [refused]

theorem check_of_ok {opened : List Opening}
    (collected : openings kind context.claims 0 doc.normalizedLines = .ok opened) :
    let closers := closers kind context.claims 0 doc.normalizedLines
    check kind rule doc context =
      { finding := (unmatched? opened closers).map fun opening =>
          .located rule doc (opening.index + 1) 1 (kind.unclosedMessage opening.label)
        context := { context with claims := context.claims.insertPairs (matched opened closers) }
        events := (matched opened closers).map fun (opener, closer) =>
          .paired doc.fileName kind.opening (opener + 1) kind.closing (closer + 1) } := by
  rw [check]
  simp only [collected, pair_eq]

/-- The pairs that a check of the family makes among the lines. -/
def pairsMade (kind : Kind) (lines : List (List Char)) (claims : ClaimSet) : List (Nat × Nat) :=
  match openings kind claims 0 lines with
  | .error _ => []
  | .ok opened => matched opened (closers kind claims 0 lines)

/-- A check claims the lines of the pairs that it makes, whatever it finds, and changes nothing
else. -/
theorem check_context (kind : Kind) (rule : String) (doc : Document) (context : Context) :
    (check kind rule doc context).context =
      { context with
        claims := context.claims.insertPairs
          (pairsMade kind doc.normalizedLines context.claims) } := by
  rw [pairsMade]
  cases collected : openings kind context.claims 0 doc.normalizedLines with
  | error faulty =>
      rw [check_of_error collected]
      rfl
  | ok opened => rw [check_of_ok collected]

/-- A check pairs an unclaimed well-formed opener with an unclaimed closer behind it. -/
theorem of_mem_pairsMade {lines : List (List Char)} {claims : ClaimSet} {pair : Nat × Nat}
    (made : pair ∈ pairsMade kind lines claims) :
    pair.1 < pair.2 ∧
      (∃ line label, lines[pair.1]? = some line ∧ pair.1 ∉ claims ∧
        kind.readOpener? line = some (.valid label)) ∧
      ∃ line, lines[pair.2]? = some line ∧ pair.2 ∉ claims ∧ kind.isCloser line = true := by
  rw [pairsMade] at made
  cases collected : openings kind claims 0 lines with
  | error faulty => simp [collected] at made
  | ok opened =>
      rw [collected] at made
      obtain ⟨⟨opening, member, index_eq⟩, closes, below⟩ :=
        of_mem_matched (closers_ascending kind claims 0 lines) made
      obtain ⟨line, found, free, read⟩ := mem_openings collected member
      rw [closers_eq] at closes
      rw [index_eq] at found free
      exact ⟨below, ⟨line, opening.label, found, free, read⟩, mem_unclaimed.mp closes⟩

theorem pairsMade_ascending (kind : Kind) (lines : List (List Char)) (claims : ClaimSet) :
    (pairsMade kind lines claims).Pairwise fun earlier later =>
      earlier.1 < later.1 ∧ earlier.2 < later.2 := by
  rw [pairsMade]
  cases collected : openings kind claims 0 lines with
  | error faulty => exact .nil
  | ok opened => exact matched_ascending (openings_ascending collected) (closers_ascending ..)

/-- Nothing is left to do for a settled family. -/
theorem check_of_settled (settled : Settled kind doc.normalizedLines context.claims) :
    check kind rule doc context = { context } :=
  check_of_ok (openings_of_settled settled)

/-- A check without a finding settles the family. -/
theorem settled_of_clean (clean : (check kind rule doc context).finding = none) :
    Settled kind doc.normalizedLines (check kind rule doc context).context.claims := by
  cases collected : openings kind context.claims 0 doc.normalizedLines with
  | error faulty => simp [check_of_error collected] at clean
  | ok opened =>
      rw [check_of_ok collected] at clean ⊢
      exact settled_insertPairs collected (Option.map_eq_none_iff.mp clean)

/-- A second check in the context that the first one left finds the same and claims nothing. -/
theorem check_twice (kind : Kind) (rule : String) (doc : Document) (context : Context) :
    let first := check kind rule doc context
    (check kind rule doc first.context).finding = first.finding ∧
      (check kind rule doc first.context).context = first.context := by
  cases collected : openings kind context.claims 0 doc.normalizedLines with
  | error faulty =>
      -- The context is as it was, so the second check is the first one.
      have same : (check kind rule doc context).context = context := by
        rw [check_of_error collected]
      simp only [same, and_self]
  | ok opened =>
      cases stopped : unmatched? opened (closers kind context.claims 0 doc.normalizedLines) with
      | none =>
          have clean : (check kind rule doc context).finding = none := by
            simp [check_of_ok collected, stopped]
          simp only [check_of_settled (settled_of_clean clean), clean, and_self]
      | some opening =>
          obtain ⟨rest, collectedAgain⟩ := openings_after_stop collected stopped rfl
          have noneLeft := closers_after_stop collected stopped rfl
          rw [check_of_ok collected]
          simp only
          rw [check_of_ok collectedAgain]
          simp only [stopped, unmatched?_of_none noneLeft, matched_of_none noneLeft,
            ClaimSet.insertPairs_nil, and_self]

end Checks

end Block
end ScriptLint
