import Mathlib.Data.List.TakeWhile
import Mathlib.Order.Bounds.Basic
import ScriptLint.Proofs.Catalogue

/-!
# Pairing and nesting

Pairing gives the first opener the first closer behind it, so it crosses nested blocks where a
reader would nest them.  Its verdict is nevertheless that of a scan that keeps the open blocks on a
stack: both succeed exactly if from no position on the openers outnumber the closers.  The link
between the two is the exchange of closers in an assignment of closers to openers, which also shows
that the opener that is blamed is the first one that no assignment can serve.
-/

namespace ScriptLint
namespace Block

/-! ## Counting from a position -/

/-- Number of indices at or behind a position. -/
def countFrom (position : Nat) (indices : List Nat) : Nat := indices.countP (position ≤ ·)

theorem countFrom_cons (position index : Nat) (indices : List Nat) :
    countFrom position (index :: indices) =
      countFrom position indices + if position ≤ index then 1 else 0 := by
  simp [countFrom, List.countP_cons]

theorem countFrom_append (position : Nat) (front back : List Nat) :
    countFrom position (front ++ back) = countFrom position front + countFrom position back :=
  List.countP_append

theorem countFrom_le_length (position : Nat) (indices : List Nat) :
    countFrom position indices ≤ indices.length := List.countP_le_length

theorem countFrom_of_le {position : Nat} {indices : List Nat}
    (behind : ∀ index ∈ indices, position ≤ index) :
    countFrom position indices = indices.length := by
  rw [countFrom, List.countP_eq_length]
  simpa using behind

theorem countFrom_zero (indices : List Nat) : countFrom 0 indices = indices.length :=
  countFrom_of_le fun index _ => Nat.zero_le index

/-- An opener in front of all other lines has to find one closer more than they need. -/
theorem counts_opener_iff {start : Nat} {openers closers : List Nat}
    (openersBehind : ∀ index ∈ openers, start < index)
    (closersBehind : ∀ index ∈ closers, start < index) :
    (∀ position, countFrom position (start :: openers) ≤ countFrom position closers) ↔
      openers.length + 1 ≤ closers.length ∧
        ∀ position, countFrom position openers ≤ countFrom position closers := by
  constructor
  · intro counts
    constructor
    · have total := counts start
      rw [countFrom_cons, if_pos (Nat.le_refl start),
        countFrom_of_le fun index member => Nat.le_of_lt (openersBehind index member),
        countFrom_of_le fun index member => Nat.le_of_lt (closersBehind index member)] at total
      exact total
    · intro position
      have count := counts position
      rw [countFrom_cons] at count
      omega
  · rintro ⟨total, counts⟩ position
    rw [countFrom_cons]
    split_ifs with inFront
    · have allClosers : countFrom position closers = closers.length :=
        countFrom_of_le fun index member =>
          Nat.le_trans inFront (Nat.le_of_lt (closersBehind index member))
      have someOpeners := countFrom_le_length position openers
      omega
    · exact counts position

/-- A closer in front of all openers is of no use to them. -/
theorem counts_closer_iff {start : Nat} {openers closers : List Nat}
    (openersBehind : ∀ index ∈ openers, start < index)
    (closersBehind : ∀ index ∈ closers, start < index) :
    (∀ position, countFrom position openers ≤ countFrom position (start :: closers)) ↔
      ∀ position, countFrom position openers ≤ countFrom position closers := by
  constructor
  · intro counts position
    by_cases inFront : position ≤ start
    · -- From the line behind the closer on the counts are complete.
      have count := counts (start + 1)
      rw [countFrom_cons, if_neg (by omega), countFrom_of_le openersBehind,
        countFrom_of_le closersBehind] at count
      have allClosers : countFrom position closers = closers.length :=
        countFrom_of_le fun index member =>
          Nat.le_trans inFront (Nat.le_of_lt (closersBehind index member))
      have someOpeners := countFrom_le_length position openers
      omega
    · have count := counts position
      rw [countFrom_cons, if_neg inFront] at count
      exact count
  · intro counts position
    rw [countFrom_cons]
    exact Nat.le_add_right_of_le (counts position)

/-! ## The scan with a stack -/

/-- Scan lines, counted from an index, with the open blocks on a stack, the innermost first.  An
opener goes on the stack and a closer takes the innermost block off it; a closer without an open
block is passed over. -/
def openBlocks (kind : Kind) (claims : ClaimSet) : Nat → List (List Char) → List Nat → List Nat
  | _, [], stack => stack
  | index, line :: rest, stack =>
      if index ∈ claims then openBlocks kind claims (index + 1) rest stack
      else if kind.isOpener line then openBlocks kind claims (index + 1) rest (index :: stack)
      else if kind.isCloser line then openBlocks kind claims (index + 1) rest stack.tail
      else openBlocks kind claims (index + 1) rest stack

/-- The scan ends with an empty stack exactly if the closers suffice for the blocks that are open
and for all openers, and from every position on for the openers behind it. -/
theorem openBlocks_eq_nil_iff (kind : Kind) (claims : ClaimSet) (start : Nat)
    (lines : List (List Char)) (stack : List Nat) :
    openBlocks kind claims start lines stack = [] ↔
      stack.length + (unclaimed kind.isOpener claims start lines).length ≤
          (unclaimed kind.isCloser claims start lines).length ∧
        ∀ position, countFrom position (unclaimed kind.isOpener claims start lines) ≤
          countFrom position (unclaimed kind.isCloser claims start lines) := by
  induction lines generalizing start stack with
  | nil => simp [openBlocks, unclaimed, countFrom]
  | cons line rest ih =>
      have openersBehind : ∀ index ∈ unclaimed kind.isOpener claims (start + 1) rest,
          start < index := fun index member => le_of_mem_unclaimed member
      have closersBehind : ∀ index ∈ unclaimed kind.isCloser claims (start + 1) rest,
          start < index := fun index member => le_of_mem_unclaimed member
      rw [openBlocks, unclaimed_cons, unclaimed_cons]
      by_cases claimed : start ∈ claims
      · simp only [claimed, not_true_eq_false, false_and, ↓reduceIte]
        exact ih (start + 1) stack
      · by_cases opens : kind.isOpener line = true
        · have noCloser := Kind.isCloser_of_isOpener opens
          simp only [claimed, opens, noCloser, not_false_eq_true, true_and, Bool.false_eq_true,
            ↓reduceIte]
          rw [ih, counts_opener_iff openersBehind closersBehind, List.length_cons,
            List.length_cons]
          constructor
          · rintro ⟨total, counts⟩
            exact ⟨by omega, by omega, counts⟩
          · rintro ⟨total, -, counts⟩
            exact ⟨by omega, counts⟩
        · by_cases closes : kind.isCloser line = true
          · simp only [claimed, opens, closes, not_false_eq_true, true_and, Bool.false_eq_true,
              ↓reduceIte]
            rw [ih, counts_closer_iff openersBehind closersBehind, List.length_tail,
              List.length_cons]
            constructor
            · rintro ⟨total, counts⟩
              exact ⟨by omega, counts⟩
            · rintro ⟨total, counts⟩
              have all := counts 0
              rw [countFrom_zero, countFrom_zero] at all
              exact ⟨by omega, counts⟩
          · simp only [claimed, opens, closes, Bool.false_eq_true, and_false, ↓reduceIte]
            exact ih (start + 1) stack

/-! ## Assignments -/

/-- Every opener can be given a closer behind it, no two of them the same one. -/
def Assignable (openers closers : List Nat) : Prop :=
  ∃ closerOf : Nat → Nat,
    (∀ opener ∈ openers, opener < closerOf opener ∧ closerOf opener ∈ closers) ∧
      ∀ first ∈ openers, ∀ second ∈ openers, closerOf first = closerOf second → first = second

theorem assignable_nil (closers : List Nat) : Assignable [] closers := ⟨id, by simp, by simp⟩

/-- Fewer openers are easier to serve. -/
theorem Assignable.of_subset {openers fewer closers : List Nat}
    (assignable : Assignable openers closers) (subset : ∀ opener ∈ fewer, opener ∈ openers) :
    Assignable fewer closers := by
  obtain ⟨closerOf, behind, injective⟩ := assignable
  refine ⟨closerOf, fun opener member => behind opener (subset opener member), ?_⟩
  intro first firstMember second secondMember same
  exact injective first (subset first firstMember) second (subset second secondMember) same

theorem not_assignable_of_none {opener : Nat} {rest closers : List Nat}
    (ascending : closers.Pairwise (· < ·))
    (noneLeft : closers.dropWhile (· ≤ opener) = []) : ¬Assignable (opener :: rest) closers := by
  rintro ⟨closerOf, behind, -⟩
  obtain ⟨below, member⟩ := behind opener List.mem_cons_self
  have left := (mem_dropWhile_le ascending).mpr ⟨member, below⟩
  rw [noneLeft] at left
  contradiction

/-- The first opener can be given the first closer behind it: an opener that has this closer in an
assignment changes it for the one of the first opener. -/
theorem Assignable.exchange {opener closer : Nat} {rest closers later : List Nat}
    (openersAscend : ∀ other ∈ rest, opener < other) (ascending : closers.Pairwise (· < ·))
    (next : closers.dropWhile (· ≤ opener) = closer :: later)
    (assignable : Assignable (opener :: rest) closers) : Assignable rest later := by
  obtain ⟨closerOf, behind, injective⟩ := assignable
  obtain ⟨choices, laterBehind, -⟩ := first_behind ascending next
  obtain ⟨openerBelow, openerCloser⟩ := behind opener List.mem_cons_self
  have distinct : ∀ other ∈ rest, closerOf opener ≠ closerOf other := by
    intro other member same
    have equal := injective opener List.mem_cons_self other (List.mem_cons_of_mem _ member) same
    have below := openersAscend other member
    omega
  have choice : ∀ other ∈ rest, closerOf other = closer ∨ closerOf other ∈ later := by
    intro other member
    obtain ⟨below, closes⟩ := behind other (List.mem_cons_of_mem _ member)
    have openerFirst := openersAscend other member
    exact (choices _).mpr ⟨closes, by omega⟩
  refine ⟨fun other => if closerOf other = closer then closerOf opener else closerOf other, ?_, ?_⟩
  · intro other member
    obtain ⟨below, -⟩ := behind other (List.mem_cons_of_mem _ member)
    beta_reduce
    split_ifs with exchanged
    · rcases (choices (closerOf opener)).mpr ⟨openerCloser, openerBelow⟩ with same | behindCloser
      · exact absurd (same.trans exchanged.symm) (distinct other member)
      · have closerFirst := laterBehind _ behindCloser
        exact ⟨by omega, behindCloser⟩
    · exact ⟨below, (choice other member).resolve_left exchanged⟩
  · intro first firstMember second secondMember
    have firstIn : first ∈ opener :: rest := List.mem_cons_of_mem _ firstMember
    have secondIn : second ∈ opener :: rest := List.mem_cons_of_mem _ secondMember
    beta_reduce
    split_ifs with firstHas secondHas secondHas
    · exact fun _ => injective first firstIn second secondIn (firstHas.trans secondHas.symm)
    · exact fun same => absurd same (distinct second secondMember)
    · exact fun same => absurd same.symm (distinct first firstMember)
    · exact injective first firstIn second secondIn

/-- An assignment for the later openers leaves the first closer for the first opener. -/
theorem Assignable.extend {opener closer : Nat} {rest closers later : List Nat}
    (openersAscend : ∀ other ∈ rest, opener < other) (ascending : closers.Pairwise (· < ·))
    (next : closers.dropWhile (· ≤ opener) = closer :: later) (assignable : Assignable rest later) :
    Assignable (opener :: rest) closers := by
  obtain ⟨closerOf, behind, injective⟩ := assignable
  obtain ⟨choices, laterBehind, -⟩ := first_behind ascending next
  have isOther : ∀ other ∈ rest, other ≠ opener := fun other member =>
    Nat.ne_of_gt (openersAscend other member)
  have notFirst : ∀ other ∈ rest, closerOf other ≠ closer := fun other member =>
    Nat.ne_of_gt (laterBehind _ (behind other member).2)
  refine ⟨fun other => if other = opener then closer else closerOf other, ?_, ?_⟩
  · intro other member
    rcases List.mem_cons.mp member with rfl | member
    · simp only [↓reduceIte]
      exact ((choices closer).mp (Or.inl rfl)).symm
    · simp only [isOther other member, ↓reduceIte]
      obtain ⟨below, closes⟩ := behind other member
      exact ⟨below, ((choices _).mp (Or.inr closes)).1⟩
  · intro first firstMember second secondMember
    beta_reduce
    rcases List.mem_cons.mp firstMember with firstIs | firstIn
    · rcases List.mem_cons.mp secondMember with secondIs | secondIn
      · exact fun _ => firstIs.trans secondIs.symm
      · rw [if_pos firstIs, if_neg (isOther second secondIn)]
        exact fun same => absurd same.symm (notFirst second secondIn)
    · rcases List.mem_cons.mp secondMember with secondIs | secondIn
      · rw [if_neg (isOther first firstIn), if_pos secondIs]
        exact fun same => absurd same (notFirst first firstIn)
      · rw [if_neg (isOther first firstIn), if_neg (isOther second secondIn)]
        exact injective first firstIn second secondIn

theorem assignable_cons_iff {opener closer : Nat} {rest closers later : List Nat}
    (openersAscend : ∀ other ∈ rest, opener < other) (ascending : closers.Pairwise (· < ·))
    (next : closers.dropWhile (· ≤ opener) = closer :: later) :
    Assignable (opener :: rest) closers ↔ Assignable rest later :=
  ⟨Assignable.exchange openersAscend ascending next, Assignable.extend openersAscend ascending next⟩

/-- Pairing leaves no opener over exactly if some assignment serves them all. -/
theorem unmatched?_eq_none_iff {opened : List Opening} {closers : List Nat}
    (openersAscend : opened.Pairwise fun earlier later => earlier.index < later.index)
    (ascending : closers.Pairwise (· < ·)) :
    unmatched? opened closers = none ↔ Assignable (opened.map Opening.index) closers := by
  induction opened generalizing closers with
  | nil => simp [unmatched?, assignable_nil]
  | cons opening rest ih =>
      obtain ⟨below, restAscends⟩ := List.pairwise_cons.mp openersAscend
      have restBelow : ∀ other ∈ rest.map Opening.index, opening.index < other := by
        simpa using below
      rw [List.map_cons]
      cases next : closers.dropWhile (· ≤ opening.index) with
      | nil => simp [unmatched?_of_none next, not_assignable_of_none ascending next]
      | cons closer later =>
          obtain ⟨-, -, laterAscends⟩ := first_behind ascending next
          rw [unmatched?_of_next next, ih restAscends laterAscends,
            assignable_cons_iff restBelow ascending next]

/-! ## Assignments and counting -/

/-- From an opener on, only the closers that pairing looks at are counted. -/
theorem countFrom_dropWhile {opener position : Nat} {closers : List Nat}
    (notCloser : opener ∉ closers) (behind : opener ≤ position) :
    countFrom position (closers.dropWhile (· ≤ opener)) = countFrom position closers := by
  have passed : countFrom position (closers.takeWhile (· ≤ opener)) = 0 := by
    rw [countFrom, List.countP_eq_zero]
    intro index member
    have notBehind := List.mem_takeWhile_imp member
    have isCloser := (List.takeWhile_sublist _).mem member
    have other : index ≠ opener := fun same => notCloser (same ▸ isCloser)
    simp only [decide_eq_true_eq] at notBehind ⊢
    omega
  have split := countFrom_append position (closers.takeWhile (· ≤ opener))
    (closers.dropWhile (· ≤ opener))
  rw [List.takeWhile_append_dropWhile, passed, Nat.zero_add] at split
  exact split.symm

/-- Taking the first opener and the first closer behind it away does not change whether the closers
suffice from every position on. -/
theorem counts_cons_iff {opener closer : Nat} {rest closers later : List Nat}
    (openersAscend : ∀ other ∈ rest, opener < other) (ascending : closers.Pairwise (· < ·))
    (notCloser : opener ∉ closers)
    (next : closers.dropWhile (· ≤ opener) = closer :: later) :
    (∀ position, countFrom position (opener :: rest) ≤ countFrom position closers) ↔
      ∀ position, countFrom position rest ≤ countFrom position later := by
  obtain ⟨choices, laterBehind, -⟩ := first_behind ascending next
  obtain ⟨-, closerBehind⟩ := (choices closer).mp (Or.inl rfl)
  have seen : ∀ position, opener ≤ position →
      countFrom position closers = countFrom position (closer :: later) := by
    intro position behind
    rw [← next, countFrom_dropWhile notCloser behind]
  have allRest : countFrom opener rest = rest.length :=
    countFrom_of_le fun other member => Nat.le_of_lt (openersAscend other member)
  have allLater : ∀ position ≤ closer, countFrom position later = later.length :=
    fun position inFront => countFrom_of_le fun index member =>
      Nat.le_trans inFront (Nat.le_of_lt (laterBehind index member))
  constructor
  · intro counts position
    by_cases inFront : position ≤ closer
    · have total := counts opener
      rw [countFrom_cons, if_pos (Nat.le_refl _), allRest, seen opener (Nat.le_refl _),
        countFrom_cons, if_pos (Nat.le_of_lt closerBehind),
        allLater opener (Nat.le_of_lt closerBehind)] at total
      have someRest := countFrom_le_length position rest
      rw [allLater position inFront]
      omega
    · have count := counts position
      rw [countFrom_cons, seen position (by omega), countFrom_cons, if_neg inFront] at count
      omega
  · intro counts position
    by_cases inFront : position ≤ opener
    · have total := counts opener
      rw [allRest, allLater opener (Nat.le_of_lt closerBehind)] at total
      have fromOpener : countFrom opener closers ≤ countFrom position closers := by
        apply List.countP_mono_left
        intro index _ behind
        simp only [decide_eq_true_eq] at behind ⊢
        omega
      rw [seen opener (Nat.le_refl _), countFrom_cons, if_pos (Nat.le_of_lt closerBehind),
        allLater opener (Nat.le_of_lt closerBehind)] at fromOpener
      have someRest := countFrom_le_length position rest
      rw [countFrom_cons, if_pos inFront]
      omega
    · have count := counts position
      rw [countFrom_cons, if_neg inFront, seen position (by omega), countFrom_cons]
      omega

/-- Openers can be served exactly if from no position on they outnumber the closers. -/
theorem assignable_iff_counts {openers closers : List Nat}
    (openersAscend : openers.Pairwise (· < ·)) (ascending : closers.Pairwise (· < ·))
    (disjoint : ∀ opener ∈ openers, opener ∉ closers) :
    Assignable openers closers ↔
      ∀ position, countFrom position openers ≤ countFrom position closers := by
  induction openers generalizing closers with
  | nil => simp [assignable_nil, countFrom]
  | cons opener rest ih =>
      obtain ⟨below, restAscends⟩ := List.pairwise_cons.mp openersAscend
      have notCloser := disjoint opener List.mem_cons_self
      cases next : closers.dropWhile (· ≤ opener) with
      | nil =>
          refine iff_of_false (not_assignable_of_none ascending next) ?_
          intro counts
          have count := counts opener
          rw [countFrom_cons, if_pos (Nat.le_refl _),
            ← countFrom_dropWhile notCloser (Nat.le_refl _), next] at count
          simp [countFrom] at count
      | cons closer later =>
          obtain ⟨choices, -, laterAscends⟩ := first_behind ascending next
          have restDisjoint : ∀ other ∈ rest, other ∉ later := fun other member isCloser =>
            disjoint other (List.mem_cons_of_mem _ member) ((choices other).mp (Or.inr isCloser)).1
          rw [assignable_cons_iff below ascending next, ih restAscends laterAscends restDisjoint,
            counts_cons_iff below ascending notCloser next]

/-! ## The opener that is blamed -/

/-- The opener that pairing leaves over is the first one that cannot be served together with the
openers in front of it. -/
theorem isLeast_unmatched {opened : List Opening} {closers : List Nat} {opening : Opening}
    (openersAscend : opened.Pairwise fun earlier later => earlier.index < later.index)
    (ascending : closers.Pairwise (· < ·))
    (stopped : unmatched? opened closers = some opening) :
    IsLeast
      {index | index ∈ opened.map Opening.index ∧
        ¬Assignable ((opened.map Opening.index).filter (· ≤ index)) closers}
      opening.index := by
  obtain ⟨before, after, rfl, -, complete, stoppedThere⟩ := split_at_unmatched stopped
  obtain ⟨beforeAscends, restAscends, separated⟩ := List.pairwise_append.mp openersAscend
  have beforeBelow : ∀ earlier ∈ before, earlier.index < opening.index :=
    fun earlier member => separated earlier member opening List.mem_cons_self
  have openingFirst := (List.pairwise_cons.mp restAscends).1
  have upToAscends : (before ++ [opening]).Pairwise
      fun earlier later => earlier.index < later.index :=
    openersAscend.sublist (by simp)
  constructor
  · refine ⟨by simp, ?_⟩
    intro assignable
    have served : Assignable ((before ++ [opening]).map Opening.index) closers := by
      apply assignable.of_subset
      intro index member
      simp only [List.map_append, List.map_cons, List.map_nil, List.mem_append, List.mem_map,
        List.mem_singleton] at member
      rw [List.mem_filter]
      rcases member with ⟨earlier, isEarlier, rfl⟩ | rfl
      · have below := beforeBelow earlier isEarlier
        exact ⟨List.mem_map_of_mem (List.mem_append_left _ isEarlier), by simp; omega⟩
      · exact ⟨by simp, by simp⟩
    rw [← unmatched?_eq_none_iff upToAscends ascending, stoppedThere] at served
    contradiction
  · rintro index ⟨-, notServed⟩
    by_contra inFront
    apply notServed
    apply ((unmatched?_eq_none_iff beforeAscends ascending).mp complete).of_subset
    -- What stands in front of the opener belongs to the openers that are paired.
    intro other member
    obtain ⟨isOpener, atMost⟩ := List.mem_filter.mp member
    obtain ⟨source, isSource, rfl⟩ := List.mem_map.mp isOpener
    simp only [decide_eq_true_eq] at atMost
    rcases List.mem_append.mp isSource with isEarlier | isLater
    · exact List.mem_map_of_mem isEarlier
    · rcases List.mem_cons.mp isLater with rfl | isLater
      · omega
      · have behind := openingFirst source isLater
        omega

/-! ## Verdicts -/

/-- The opener is well formed. -/
def Opener.isValid : Opener → Bool
  | .valid _ => true
  | .invalid .. => false

/-- Every unclaimed line that reads as an opener of the family reads as a well-formed one. -/
def WellFormed (kind : Kind) (claims : ClaimSet) (lines : List (List Char)) : Prop :=
  ∀ index line opener, lines[index]? = some line → index ∉ claims →
    kind.readOpener? line = some opener → opener.isValid = true

theorem wellFormed_iff {kind : Kind} {claims : ClaimSet} {lines : List (List Char)} :
    (∀ reading ∈ readings kind claims 0 lines, reading.2.isValid = true) ↔
      WellFormed kind claims lines := by
  constructor
  · intro valid index line opener found free read
    exact valid (index, opener) (mem_readings.mpr ⟨line, found, free, read⟩)
  · intro wellFormed reading member
    obtain ⟨line, found, free, read⟩ := mem_readings.mp member
    exact wellFormed reading.1 line reading.2 found free read

instance (kind : Kind) (claims : ClaimSet) (lines : List (List Char)) :
    Decidable (WellFormed kind claims lines) :=
  decidable_of_iff _ wellFormed_iff

theorem openings_of_wellFormed {kind : Kind} {claims : ClaimSet} {lines : List (List Char)}
    (wellFormed : WellFormed kind claims lines) :
    ∃ opened, openings kind claims 0 lines = .ok opened := by
  cases collected : openings kind claims 0 lines with
  | ok opened => exact ⟨opened, rfl⟩
  | error faulty =>
      obtain ⟨before, after, split⟩ := openings_eq_error_iff.mp collected
      have valid := wellFormed_iff.mpr wellFormed faulty.reading (by rw [split]; simp)
      contradiction

theorem unclaimed_disjoint (kind : Kind) (claims : ClaimSet) (lines : List (List Char)) :
    ∀ index ∈ unclaimed kind.isOpener claims 0 lines,
      index ∉ unclaimed kind.isCloser claims 0 lines := by
  intro index opener closer
  obtain ⟨line, found, -, opens⟩ := mem_unclaimed.mp opener
  obtain ⟨last, foundLast, -, closes⟩ := mem_unclaimed.mp closer
  exact Kind.opener_ne_closer found opens foundLast closes rfl

section

attribute [local irreducible] Document.normalizedLines

/-- If all openers are well formed, the rule of a family has nothing to report exactly if the blocks
nest, which is so exactly if from no position on the openers outnumber the closers.  Otherwise it
reports the first opener that cannot be given a closer together with those in front of it. -/
theorem check_agrees_with_nesting (kind : Kind) (doc : Document) (context : Context)
    (wellFormed : WellFormed kind context.claims doc.normalizedLines) :
    let openers := unclaimed kind.isOpener context.claims 0 doc.normalizedLines
    let closers := unclaimed kind.isCloser context.claims 0 doc.normalizedLines
    let finding := (kind.rule.check doc context).finding
    (finding = none ↔ openBlocks kind context.claims 0 doc.normalizedLines [] = []) ∧
      (finding = none ↔
        ∀ position, countFrom position openers ≤ countFrom position closers) ∧
      ∀ found, finding = some found →
        ∃ index label,
          IsLeast
            {index | index ∈ openers ∧ ¬Assignable (openers.filter (· ≤ index)) closers} index ∧
          (∃ line, doc.normalizedLines[index]? = some line ∧
            kind.readOpener? line = some (.valid label)) ∧
          found = .located kind.rule.name doc (index + 1) 1 (kind.unclosedMessage label) := by
  intro openers closers finding
  obtain ⟨opened, collected⟩ := openings_of_wellFormed wellFormed
  have openersAscend := openings_ascending collected
  have closersAscend : closers.Pairwise (· < ·) := unclaimed_ascending ..
  have finding_eq : finding = (unmatched? opened closers).map fun opening =>
      .located kind.rule.name doc (opening.index + 1) 1 (kind.unclosedMessage opening.label) := by
    simp only [finding, kind.check_rule, check_of_ok collected, closers_eq, closers]
  have clean_iff : finding = none ↔
      ∀ position, countFrom position openers ≤ countFrom position closers := by
    rw [finding_eq, Option.map_eq_none_iff, unmatched?_eq_none_iff openersAscend closersAscend,
      map_index_openings collected]
    exact assignable_iff_counts (unclaimed_ascending ..) closersAscend
      (unclaimed_disjoint kind context.claims doc.normalizedLines)
  refine ⟨?_, clean_iff, ?_⟩
  · rw [clean_iff, openBlocks_eq_nil_iff]
    constructor
    · intro counts
      have total := counts 0
      rw [countFrom_zero, countFrom_zero] at total
      exact ⟨by simpa using total, counts⟩
    · exact And.right
  · intro found reported
    rw [finding_eq, Option.map_eq_some_iff] at reported
    obtain ⟨opening, stopped, rfl⟩ := reported
    have least := isLeast_unmatched openersAscend closersAscend stopped
    rw [map_index_openings collected] at least
    obtain ⟨before, after, rfl, -⟩ := split_at_unmatched stopped
    obtain ⟨line, found, -, read⟩ :=
      mem_openings collected (List.mem_append_right before List.mem_cons_self)
    exact ⟨opening.index, opening.label, least, ⟨line, found, read⟩, rfl⟩

end

/-- Of two nested blocks with one closer the outer one is paired with it and the inner one is
blamed, while the scan leaves the outer one open. -/
theorem check_agrees_with_nesting_unclosed :
    let doc := Document.ofPath "test.psc" "if a\nendif\nif b\nif c\nendif"
    WellFormed .ifTest Context.fresh.claims doc.normalizedLines ∧
      ((Rule.ifStatement.check doc .fresh).finding = none ↔
        openBlocks .ifTest .empty 0 doc.normalizedLines [] = []) ∧
      (Rule.ifStatement.check doc .fresh).finding.map (·.location.line) = some 4 ∧
      openBlocks .ifTest .empty 0 doc.normalizedLines [] = [2] := by
  intro doc
  have wellFormed : WellFormed .ifTest Context.fresh.claims doc.normalizedLines := by
    decide +kernel
  refine ⟨wellFormed, ?_, by decide +kernel, by decide +kernel⟩
  exact (check_agrees_with_nesting .ifTest doc .fresh wellFormed).1

end Block
end ScriptLint
