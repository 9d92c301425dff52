import ScriptLint.Proofs.Block.Nesting

/-!
# Contexts after a failed check

A check that finds something has stopped on its way, and what it has done until then is known
exactly.  Only a block that is not closed leaves claims behind: those of the pairs that were made
before its opener.  A faulty opener is reported before any pair is made, whatever stands in front of
it.
-/

namespace ScriptLint

attribute [local irreducible] Document.normalizedLines

namespace Block

variable {kind : Kind} {lines : List (List Char)} {claims : ClaimSet}

/-! ## Pairing with claims -/

/-- The line is an unclaimed closer of the family. -/
def FreeCloser (kind : Kind) (lines : List (List Char)) (claims : ClaimSet) (index : Nat) : Prop :=
  index ∉ claims ∧ ∃ line, lines[index]? = some line ∧ kind.isCloser line = true

theorem freeCloser_insert {index other : Nat} :
    FreeCloser kind lines (claims.insert other) index ↔
      index ≠ other ∧ FreeCloser kind lines claims index := by
  rw [FreeCloser, FreeCloser, ClaimSet.mem_insert, not_or, and_assoc]

theorem mem_closers {index : Nat} :
    index ∈ closers kind claims 0 lines ↔ FreeCloser kind lines claims index := by
  rw [closers_eq, mem_unclaimed, FreeCloser]
  constructor
  · rintro ⟨line, found, free, closes⟩
    exact ⟨free, line, found, closes⟩
  · rintro ⟨free, line, found, closes⟩
    exact ⟨line, found, free, closes⟩

/-- The openers are paired in order: each with the first closer behind it that is unclaimed when its
turn comes, upon which both lines are claimed. -/
inductive PairsInOrder (kind : Kind) (lines : List (List Char)) :
    ClaimSet → List Nat → List (Nat × Nat) → Prop where
  | nil (claims : ClaimSet) : PairsInOrder kind lines claims [] []
  | cons {claims : ClaimSet} {opener closer : Nat} {openers : List Nat} {pairs : List (Nat × Nat)}
      (first : IsLeast {index | opener < index ∧ FreeCloser kind lines claims index} closer)
      (later : PairsInOrder kind lines ((claims.insert opener).insert closer) openers pairs) :
      PairsInOrder kind lines claims (opener :: openers) ((opener, closer) :: pairs)

/-- If every opener finds a closer, the pairs are made in order.  No opener lies below the bound,
and behind it the closers that are left are those that are unclaimed. -/
theorem pairsInOrder_matched {opened : List Opening} {closers : List Nat} {bound : Nat}
    (openersAscend : opened.Pairwise fun earlier later => earlier.index < later.index)
    (ascending : closers.Pairwise (· < ·)) (above : ∀ opening ∈ opened, bound ≤ opening.index)
    (left : ∀ index, bound < index → (index ∈ closers ↔ FreeCloser kind lines claims index))
    (complete : unmatched? opened closers = none) :
    PairsInOrder kind lines claims (opened.map Opening.index) (matched opened closers) := by
  induction opened generalizing closers claims bound with
  | nil => exact .nil claims
  | cons opening rest ih =>
      obtain ⟨below, restAscends⟩ := List.pairwise_cons.mp openersAscend
      have openingAbove := above opening List.mem_cons_self
      cases next : closers.dropWhile (· ≤ opening.index) with
      | nil => simp [unmatched?_of_none next] at complete
      | cons closer later =>
          obtain ⟨behind, laterBehind, laterAscends⟩ := first_behind ascending next
          rw [unmatched?_of_next next] at complete
          rw [matched_of_next next, List.map_cons]
          have free : ∀ index, opening.index < index →
              (index = closer ∨ index ∈ later ↔ FreeCloser kind lines claims index) := by
            intro index indexBehind
            rw [behind, and_iff_left indexBehind]
            exact left index (by omega)
          have closerBehind := ((behind closer).mp (Or.inl rfl)).2
          refine .cons ⟨⟨closerBehind, (free closer closerBehind).mp (Or.inl rfl)⟩, ?_⟩ ?_
          · rintro index ⟨indexBehind, isFree⟩
            rcases (free index indexBehind).mpr isFree with rfl | member
            · exact Nat.le_refl index
            · exact Nat.le_of_lt (laterBehind index member)
          · refine ih restAscends laterAscends
              (fun other member => Nat.le_of_lt (below other member)) ?_ complete
            -- Of the lines behind the opener only its closer was free and is claimed now.
            intro index indexBehind
            rw [freeCloser_insert, freeCloser_insert, ← free index indexBehind]
            constructor
            · intro member
              have closerBelow := laterBehind index member
              exact ⟨by omega, by omega, Or.inr member⟩
            · rintro ⟨notCloser, -, isCloser | member⟩
              · exact absurd isCloser notCloser
              · exact member

/-- The openers in front of one of them, as lines. -/
theorem map_index_before {before after : List Opening} {opening : Opening}
    (collected : openings kind claims 0 lines = .ok (before ++ opening :: after)) :
    before.map Opening.index =
      (unclaimed kind.isOpener claims 0 lines).filter (· < opening.index) := by
  obtain ⟨-, tailAscends, across⟩ := List.pairwise_append.mp (openings_ascending collected)
  have behind := (List.pairwise_cons.mp tailAscends).1
  have kept : (before.map Opening.index).filter (· < opening.index) =
      before.map Opening.index := by
    rw [List.filter_eq_self]
    intro index member
    obtain ⟨earlier, isBefore, rfl⟩ := List.mem_map.mp member
    simpa using across earlier isBefore opening List.mem_cons_self
  have dropped : (after.map Opening.index).filter (· < opening.index) = [] := by
    rw [List.filter_eq_nil_iff]
    intro index member
    obtain ⟨later, isAfter, rfl⟩ := List.mem_map.mp member
    simpa using Nat.le_of_lt (behind later isAfter)
  rw [← map_index_openings collected, List.map_append, List.map_cons, List.filter_append, kept,
    List.filter_cons_of_neg (by simp), dropped, List.append_nil]

/-- A check that stops at an opener has paired the openers in front of it in order. -/
theorem pairsInOrder_of_stopped {opened : List Opening} {opening : Opening}
    (collected : openings kind claims 0 lines = .ok opened)
    (stopped : unmatched? opened (closers kind claims 0 lines) = some opening) :
    PairsInOrder kind lines claims
      ((unclaimed kind.isOpener claims 0 lines).filter (· < opening.index))
      (matched opened (closers kind claims 0 lines)) := by
  obtain ⟨before, after, rfl, same, complete, -⟩ := split_at_unmatched stopped
  rw [← map_index_before collected, same]
  exact pairsInOrder_matched (List.pairwise_append.mp (openings_ascending collected)).1
    (closers_ascending kind claims 0 lines) (fun earlier _ => Nat.zero_le earlier.index)
    (fun index _ => mem_closers) complete

/-! ## Faulty openers -/

/-- The line is unclaimed and reads as a faulty opener of the family. -/
def FaultyAt (kind : Kind) (lines : List (List Char)) (claims : ClaimSet) (index : Nat) : Prop :=
  ∃ line label column fault, lines[index]? = some line ∧ index ∉ claims ∧
    kind.readOpener? line = some (.invalid label column fault)

theorem faultyAt_iff {index : Nat} :
    FaultyAt kind lines claims index ↔
      ∃ label column fault,
        (index, Opener.invalid label column fault) ∈ readings kind claims 0 lines := by
  simp only [mem_readings]
  constructor
  · rintro ⟨line, label, column, fault, faulty⟩
    exact ⟨label, column, fault, line, faulty⟩
  · rintro ⟨label, column, fault, line, faulty⟩
    exact ⟨line, label, column, fault, faulty⟩

/-- Collecting openings stops at the first faulty opener. -/
theorem isLeast_faulty {faulty : FaultyOpening}
    (refused : openings kind claims 0 lines = .error faulty) :
    IsLeast {index | FaultyAt kind lines claims index} faulty.index := by
  constructor
  · obtain ⟨line, isFaulty⟩ := read_of_refused refused
    exact ⟨line, faulty.label, faulty.column, faulty.fault, isFaulty⟩
  · rintro index isFaulty
    obtain ⟨label, column, fault, member⟩ := faultyAt_iff.mp isFaulty
    obtain ⟨before, after, split⟩ := openings_eq_error_iff.mp refused
    have ascending : ((readings kind claims 0 lines).map Prod.fst).Pairwise (· < ·) := by
      rw [map_fst_readings]
      exact unclaimed_ascending kind.isOpener claims 0 lines
    rw [List.pairwise_map, split] at ascending
    have behind := (List.pairwise_cons.mp (List.pairwise_append.mp ascending).2.1).1
    rw [split] at member
    rcases List.mem_append.mp member with isBefore | isLater
    · simp [Opening.reading] at isBefore
    · rcases List.mem_cons.mp isLater with same | isAfter
      · exact Nat.le_of_eq (congrArg Prod.fst same).symm
      · exact Nat.le_of_lt (behind _ isAfter)

/-- Openings are collected only if no opener is faulty. -/
theorem not_faultyAt {opened : List Opening}
    (collected : openings kind claims 0 lines = .ok opened) (index : Nat) :
    ¬FaultyAt kind lines claims index := by
  intro isFaulty
  obtain ⟨label, column, fault, member⟩ := faultyAt_iff.mp isFaulty
  rw [openings_eq_ok_iff.mp collected] at member
  simp [Opening.reading] at member

/-! ## Checks of a family -/

section Checks

variable {doc : Document} {context : Context}

/-- The finding says that the block of the well-formed opener on a line is not closed. -/
def NotClosed (kind : Kind) (doc : Document) (index : Nat) (finding : Finding) : Prop :=
  ∃ line label, doc.normalizedLines[index]? = some line ∧
    kind.readOpener? line = some (.valid label) ∧
    finding = .located kind.rule.name doc (index + 1) 1 (kind.unclosedMessage label)

/-- The first faulty opener is reported, and nothing is claimed. -/
theorem check_of_faultyAt
    (some_faulty : ∃ index, FaultyAt kind doc.normalizedLines context.claims index) :
    ∃ index line label column fault,
      IsLeast {index | FaultyAt kind doc.normalizedLines context.claims index} index ∧
      doc.normalizedLines[index]? = some line ∧
      kind.readOpener? line = some (.invalid label column fault) ∧
      (kind.rule.check doc context).finding = some (.located kind.rule.name doc (index + 1) column
        (faultMessage label fault)) ∧
      (kind.rule.check doc context).context = context := by
  cases collected : openings kind context.claims 0 doc.normalizedLines with
  | ok opened =>
      obtain ⟨index, isFaulty⟩ := some_faulty
      exact absurd isFaulty (not_faultyAt collected index)
  | error faulty =>
      obtain ⟨line, found, -, read⟩ := read_of_refused collected
      rw [kind.check_rule, check_of_error collected]
      exact ⟨faulty.index, line, faulty.label, faulty.column, faulty.fault,
        isLeast_faulty collected, found, read, rfl, rfl⟩

/-- Without a faulty opener a block that is not closed is reported, and the pairs of the openers in
front of it are claimed. -/
theorem check_of_not_faultyAt
    (none_faulty : ∀ index, ¬FaultyAt kind doc.normalizedLines context.claims index)
    {finding : Finding} (reported : (kind.rule.check doc context).finding = some finding) :
    ∃ opener pairs, NotClosed kind doc opener finding ∧ opener ∉ context.claims ∧
      PairsInOrder kind doc.normalizedLines context.claims
        ((unclaimed kind.isOpener context.claims 0 doc.normalizedLines).filter (· < opener))
        pairs ∧
      (kind.rule.check doc context).context =
        { context with claims := context.claims.insertPairs pairs } := by
  cases collected : openings kind context.claims 0 doc.normalizedLines with
  | error faulty => exact absurd (isLeast_faulty collected).1 (none_faulty faulty.index)
  | ok opened =>
      rw [kind.check_rule, check_of_ok collected] at reported ⊢
      obtain ⟨opening, stopped, rfl⟩ := Option.map_eq_some_iff.mp reported
      obtain ⟨line, found, free, read⟩ := mem_openings collected (mem_of_unmatched? stopped)
      exact ⟨opening.index, _, ⟨line, opening.label, found, read, rfl⟩, free,
        pairsInOrder_of_stopped collected stopped, rfl⟩

end Checks

end Block

open Block

/-- What a failed check leaves behind.  A finding other than that of a block that is not closed
comes with the context as it was.  The rule of a family reports its first faulty opener, if there is
one, and then has claimed nothing; otherwise it reports a block that is not closed, and has claimed
the pairs of the openers in front of it. -/
theorem failed_check_context {rule : Rule} (catalogued : rule ∈ Rule.all) (doc : Document)
    (context : Context) :
    let lines := doc.normalizedLines
    let outcome := rule.check doc context
    (∀ finding, outcome.finding = some finding →
      (∀ kind index, rule = Kind.rule kind → ¬NotClosed kind doc index finding) →
        outcome.context = context) ∧
      ∀ kind, rule = Kind.rule kind →
        ((∃ index, FaultyAt kind lines context.claims index) →
          ∃ index line label column fault,
            IsLeast {index | FaultyAt kind lines context.claims index} index ∧
            lines[index]? = some line ∧
            kind.readOpener? line = some (.invalid label column fault) ∧
            outcome.finding = some (.located rule.name doc (index + 1) column
              (faultMessage label fault)) ∧
            outcome.context = context) ∧
        ((∀ index, ¬FaultyAt kind lines context.claims index) →
          ∀ finding, outcome.finding = some finding →
            ∃ opener pairs, NotClosed kind doc opener finding ∧ opener ∉ context.claims ∧
              PairsInOrder kind lines context.claims
                ((unclaimed kind.isOpener context.claims 0 lines).filter (· < opener)) pairs ∧
              (∀ index, index ∈ outcome.context.claims ↔
                index ∈ context.claims ∨ ∃ pair ∈ pairs, index = pair.1 ∨ index = pair.2) ∧
              outcome.context.header = context.header) := by
  intro lines outcome
  constructor
  · intro finding reported other
    obtain stateless | rfl | ⟨kind, rfl⟩ := Rule.cases_of_mem_all catalogued
    · exact congrArg Outcome.context (stateless.check_eq doc context)
    · cases read : Rule.readHeader doc with
      | error blame => exact congrArg Outcome.context (Rule.scriptName_check_of_error read context)
      | ok header => simp [outcome, Rule.scriptName_check_of_ok read] at reported
    · by_cases some_faulty : ∃ index, FaultyAt kind lines context.claims index
      · obtain ⟨_, _, _, _, _, -, -, -, -, unchanged⟩ := check_of_faultyAt some_faulty
        exact unchanged
      · obtain ⟨opener, _, notClosed, -⟩ :=
          check_of_not_faultyAt (not_exists.mp some_faulty) reported
        exact absurd notClosed (other kind opener rfl)
  · rintro kind rfl
    refine ⟨check_of_faultyAt, ?_⟩
    intro none_faulty finding reported
    obtain ⟨opener, pairs, notClosed, free, paired, context_eq⟩ :=
      check_of_not_faultyAt none_faulty reported
    refine ⟨opener, pairs, notClosed, free, paired, ?_, ?_⟩
    · intro index
      rw [context_eq]
      exact ClaimSet.mem_insertPairs
    · rw [context_eq]

/-- The two openers in front of the one that is blamed have taken both closers. -/
theorem failed_check_context_unclosed :
    let doc := Document.ofPath "test.psc" "if a\nif b\nif c\nendif\nendif"
    let outcome := Rule.ifStatement.check doc .fresh
    Rule.ifStatement ∈ Rule.all ∧
      (∀ index, ¬FaultyAt .ifTest doc.normalizedLines .empty index) ∧
      outcome.finding = some (.located "if-statement" doc 3 1 "if is not closed (missing endif)") ∧
      (∃ pairs, PairsInOrder .ifTest doc.normalizedLines .empty [0, 1] pairs ∧
        ∀ index, index ∈ outcome.context.claims ↔
          index ∈ ClaimSet.empty ∨ ∃ pair ∈ pairs, index = pair.1 ∨ index = pair.2) ∧
      outcome.context.claims.indices = [0, 1, 3, 4] := by
  intro doc outcome
  have catalogued : Rule.ifStatement ∈ Rule.all := by simp [Rule.all, Rule.standard]
  have collected : openings .ifTest .empty 0 doc.normalizedLines =
      .ok [⟨0, "if"⟩, ⟨1, "if"⟩, ⟨2, "if"⟩] := by decide +kernel
  have reported : outcome.finding =
      some (.located "if-statement" doc 3 1 "if is not closed (missing endif)") := by
    decide +kernel
  obtain ⟨opener, pairs, ⟨_, _, -, -, located⟩, -, paired, claims_iff, -⟩ :=
    ((failed_check_context catalogued doc .fresh).2 .ifTest rfl).2 (not_faultyAt collected) _
      reported
  have opener_eq : opener = 2 := by
    have line_eq := congrArg (fun finding => finding.location.line) located
    simp only [Finding.located] at line_eq
    omega
  subst opener_eq
  have openers : (unclaimed Kind.ifTest.isOpener Context.fresh.claims 0
      doc.normalizedLines).filter (· < 2) = [0, 1] := by decide +kernel
  rw [openers] at paired
  exact ⟨catalogued, not_faultyAt collected, reported, ⟨pairs, paired, claims_iff⟩,
    by decide +kernel⟩

end ScriptLint
