import Mathlib.Data.List.Nodup
import ScriptLint.Proofs.Catalogue

/-!
# Sessions

In a session a document is checked by rules in any order and any number of times, each check in the
context that the one before it left and whatever it found.  The claims at the end of a session are
accounted for by the pairs that its checks made and by the line of a confirmed header, and no line
is in two pairs.
-/

namespace ScriptLint

attribute [local irreducible] Document.normalizedLines

/-! ## Pairs of a check -/

namespace Block

/-- Two lines that were claimed together as a block of a family. -/
structure Pair where
  /-- Family of the block. -/
  family : Kind
  /-- Index of the opener. -/
  opener : Nat
  /-- Index of the closer. -/
  closer : Nat
deriving DecidableEq

namespace Pair

/-- The lines of the pair. -/
def lines (pair : Pair) : List Nat := [pair.opener, pair.closer]

/-- The pair joins a well-formed opener of its family to a closer of its family behind it. -/
structure Joins (pair : Pair) (text : List (List Char)) : Prop where
  behind : pair.opener < pair.closer
  inside : pair.closer < text.length
  opens : ∃ line label, text[pair.opener]? = some line ∧
    pair.family.readOpener? line = some (.valid label)
  closes : ∃ line, text[pair.closer]? = some line ∧ pair.family.isCloser line = true

theorem Joins.opener_ne_closer {first second : Pair} {text : List (List Char)}
    (joinsFirst : first.Joins text) (joinsSecond : second.Joins text)
    (same : first.family = second.family) : first.opener ≠ second.closer := by
  obtain ⟨line, label, found, read⟩ := joinsFirst.opens
  obtain ⟨last, foundLast, closes⟩ := joinsSecond.closes
  rw [same] at read
  exact Kind.opener_ne_closer found (Kind.isOpener_of_read read) foundLast closes

theorem length_flatMap_lines (pairs : List Pair) :
    (pairs.flatMap lines).length = 2 * pairs.length := by
  induction pairs with
  | nil => rfl
  | cons pair pairs ih =>
      rw [List.flatMap_cons, List.length_append, ih, List.length_cons, lines]
      simp only [List.length_cons, List.length_nil]
      omega

theorem mem_flatMap_lines {pairs : List Pair} {index : Nat} :
    index ∈ pairs.flatMap lines ↔ ∃ pair ∈ pairs, index ∈ pair.lines := List.mem_flatMap

end Pair
end Block

namespace Rule

open Block (Pair)

/-- The pairs that a check by the rule makes. -/
def pairs (rule : Rule) (doc : Document) (context : Context) : List Pair :=
  match rule.family? with
  | none => []
  | some kind =>
      (Block.pairsMade kind doc.normalizedLines context.claims).map fun (opener, closer) =>
        ⟨kind, opener, closer⟩

theorem pairs_of_none {rule : Rule} (noFamily : rule.family? = none) (doc : Document)
    (context : Context) : rule.pairs doc context = [] := by
  rw [pairs, noFamily]

theorem pairs_rule (kind : Block.Kind) (doc : Document) (context : Context) :
    kind.rule.pairs doc context =
      (Block.pairsMade kind doc.normalizedLines context.claims).map fun (opener, closer) =>
        ⟨kind, opener, closer⟩ := by
  rw [pairs, family?_rule]

/-- A check pairs unclaimed lines of the family of its rule. -/
theorem of_mem_pairs {rule : Rule} (catalogued : rule ∈ all) {doc : Document} {context : Context}
    {pair : Pair} (made : pair ∈ rule.pairs doc context) :
    pair.family.rule = rule ∧ pair.Joins doc.normalizedLines ∧
      ∀ index ∈ pair.lines, index ∉ context.claims := by
  cases family : rule.family? with
  | none => simp [pairs_of_none family] at made
  | some kind =>
      obtain rfl := eq_rule_of_family? catalogued family
      rw [pairs_rule] at made
      obtain ⟨⟨opener, closer⟩, madeThere, rfl⟩ := List.mem_map.mp made
      obtain ⟨behind, ⟨line, label, found, free, read⟩, ⟨last, foundLast, freeLast, closes⟩⟩ :=
        Block.of_mem_pairsMade madeThere
      refine ⟨rfl, ⟨behind, ?_, ⟨line, label, found, read⟩, ⟨last, foundLast, closes⟩⟩, ?_⟩
      · exact (List.getElem?_eq_some_iff.mp foundLast).1
      · intro index member
        simp only [Pair.lines, List.mem_cons, List.not_mem_nil, or_false] at member
        rcases member with rfl | rfl
        · exact free
        · exact freeLast

/-- Within one check later openers get later closers. -/
theorem pairs_ascending {rule : Rule} (catalogued : rule ∈ all) (doc : Document)
    (context : Context) :
    (rule.pairs doc context).Pairwise fun earlier later =>
      earlier.opener < later.opener ∧ earlier.closer < later.closer := by
  cases family : rule.family? with
  | none => simp [pairs_of_none family]
  | some kind =>
      rw [eq_rule_of_family? catalogued family, pairs_rule, List.pairwise_map]
      exact Block.pairsMade_ascending kind doc.normalizedLines context.claims

/-- Within one check no line is paired twice. -/
theorem pairs_nodup {rule : Rule} (catalogued : rule ∈ all) (doc : Document)
    (context : Context) : ((rule.pairs doc context).flatMap Pair.lines).Nodup := by
  rw [List.nodup_flatMap]
  constructor
  · intro pair made
    have behind := (of_mem_pairs catalogued made).2.1.behind
    simp only [Pair.lines, List.nodup_cons, List.mem_singleton, List.not_mem_nil,
      not_false_eq_true, List.nodup_nil, and_true]
    omega
  · refine (pairs_ascending catalogued doc context).imp_of_mem ?_
    intro earlier later madeEarlier madeLater ascending
    obtain ⟨ruleEarlier, joinsEarlier, -⟩ := of_mem_pairs catalogued madeEarlier
    obtain ⟨ruleLater, joinsLater, -⟩ := of_mem_pairs catalogued madeLater
    have sameFamily : earlier.family = later.family :=
      rule_injective (ruleEarlier.trans ruleLater.symm)
    have forwards := joinsEarlier.opener_ne_closer joinsLater sameFamily
    have backwards := joinsLater.opener_ne_closer joinsEarlier sameFamily.symm
    intro index inEarlier inLater
    simp only [Pair.lines, List.mem_cons, List.not_mem_nil, or_false] at inEarlier inLater
    omega

/-- What one check claims: the lines of its pairs, and the first line if it confirms the header. -/
theorem mem_claims_check {rule : Rule} (catalogued : rule ∈ all) (doc : Document)
    (context : Context) (index : Nat) :
    index ∈ (rule.check doc context).context.claims ↔
      index ∈ context.claims ∨ (∃ pair ∈ rule.pairs doc context, index ∈ pair.lines) ∨
        index = 0 ∧ rule = scriptName ∧ (rule.check doc context).finding = none := by
  obtain stateless | rfl | ⟨kind, rfl⟩ := cases_of_mem_all catalogued
  · rw [stateless.check_eq, pairs_of_none stateless.family?_eq]
    simp [stateless.ne_scriptName]
  · cases read : readHeader doc with
    | error blame =>
        rw [scriptName_check_of_error read]
        simp [pairs_of_none]
    | ok header =>
        rw [scriptName_check_of_ok read]
        simp only [Context.claim, Context.recordHeader, ClaimSet.mem_insert,
          pairs_of_none family?_scriptName, List.not_mem_nil, false_and, exists_false, false_or,
          and_true]
        exact or_comm
  · rw [kind.check_rule, Block.check_context]
    simp only [ClaimSet.mem_insertPairs, pairs_rule, rule_ne_scriptName, false_and, and_false,
      or_false, List.mem_map, exists_exists_and_eq_and, Pair.lines, List.mem_cons, List.not_mem_nil]

end Rule

/-! ## Sequences of checks -/

open Block (Pair)

/-- The context after checks by the rules in order, whatever they find. -/
def session (doc : Document) (rules : List Rule) (context : Context) : Context :=
  rules.foldl (fun context rule => (rule.check doc context).context) context

/-- The pairs that the checks of a session make, in order. -/
def sessionPairs (doc : Document) : List Rule → Context → List Pair
  | [], _ => []
  | rule :: rest, context =>
      rule.pairs doc context ++ sessionPairs doc rest (rule.check doc context).context

/-- Some check of the session confirms the header. -/
def Confirms (doc : Document) (rules : List Rule) (context : Context) : Prop :=
  ∃ earlier later, rules = earlier ++ Rule.scriptName :: later ∧
    (Rule.scriptName.check doc (session doc earlier context)).finding = none

@[simp]
theorem session_nil (doc : Document) (context : Context) : session doc [] context = context := rfl

@[simp]
theorem session_cons (doc : Document) (rule : Rule) (rest : List Rule) (context : Context) :
    session doc (rule :: rest) context = session doc rest (rule.check doc context).context := rfl

theorem session_append (doc : Document) (earlier later : List Rule) (context : Context) :
    session doc (earlier ++ later) context = session doc later (session doc earlier context) :=
  List.foldl_append

theorem sessionPairs_append (doc : Document) (earlier later : List Rule) (context : Context) :
    sessionPairs doc (earlier ++ later) context =
      sessionPairs doc earlier context ++ sessionPairs doc later (session doc earlier context) := by
  induction earlier generalizing context with
  | nil => rfl
  | cons rule rest ih =>
      rw [List.cons_append, sessionPairs, ih, sessionPairs, session_cons, List.append_assoc]

theorem confirms_cons (doc : Document) (rule : Rule) (rest : List Rule) (context : Context) :
    Confirms doc (rule :: rest) context ↔
      rule = Rule.scriptName ∧ (rule.check doc context).finding = none ∨
        Confirms doc rest (rule.check doc context).context := by
  constructor
  · rintro ⟨earlier, later, split, confirmed⟩
    cases earlier with
    | nil =>
        obtain ⟨rfl, rfl⟩ := List.cons.inj split
        exact Or.inl ⟨rfl, confirmed⟩
    | cons first earlier =>
        obtain ⟨rfl, rfl⟩ := List.cons.inj split
        exact Or.inr ⟨earlier, later, rfl, confirmed⟩
  · rintro (⟨rfl, confirmed⟩ | ⟨earlier, later, rfl, confirmed⟩)
    · exact ⟨[], rest, rfl, confirmed⟩
    · exact ⟨rule :: earlier, later, rfl, confirmed⟩

section Runs

variable {doc : Document} {rules : List Rule} (catalogued : ∀ rule ∈ rules, rule ∈ Rule.all)

include catalogued

/-- No session takes a claim back. -/
theorem claims_subset_session (context : Context) :
    ∀ index ∈ context.claims, index ∈ (session doc rules context).claims := by
  induction rules generalizing context with
  | nil => exact fun index claimed => claimed
  | cons rule rest ih =>
      obtain ⟨first, others⟩ := List.forall_mem_cons.mp catalogued
      intro index claimed
      exact ih others _ index (Rule.claims_subset_check first doc context index claimed)

/-- Lines that are claimed when a session starts are not paired in it. -/
theorem of_mem_sessionPairs {context : Context} {pair : Pair}
    (made : pair ∈ sessionPairs doc rules context) :
    pair.family.rule ∈ rules ∧ pair.Joins doc.normalizedLines ∧
      ∀ index ∈ pair.lines, index ∉ context.claims := by
  induction rules generalizing context with
  | nil => simp [sessionPairs] at made
  | cons rule rest ih =>
      obtain ⟨first, others⟩ := List.forall_mem_cons.mp catalogued
      rw [sessionPairs, List.mem_append] at made
      rcases made with made | made
      · obtain ⟨ruleIs, joins, free⟩ := Rule.of_mem_pairs first made
        exact ⟨ruleIs ▸ List.mem_cons_self, joins, free⟩
      · obtain ⟨ruleIn, joins, free⟩ := ih others made
        refine ⟨List.mem_cons_of_mem _ ruleIn, joins, ?_⟩
        intro index member claimed
        exact free index member (Rule.claims_subset_check first doc context index claimed)

/-- A session claims the lines of its pairs, and the first line if it confirms the header. -/
theorem mem_claims_session (context : Context) (index : Nat) :
    index ∈ (session doc rules context).claims ↔
      index ∈ context.claims ∨ (∃ pair ∈ sessionPairs doc rules context, index ∈ pair.lines) ∨
        index = 0 ∧ Confirms doc rules context := by
  induction rules generalizing context with
  | nil => simp [sessionPairs, Confirms]
  | cons rule rest ih =>
      obtain ⟨first, others⟩ := List.forall_mem_cons.mp catalogued
      rw [session_cons, ih others, Rule.mem_claims_check first, confirms_cons, sessionPairs,
        and_or_left]
      simp only [List.mem_append, or_and_right, exists_or]
      constructor
      · rintro ((claimed | paired | confirmed) | paired | confirmed)
        · exact Or.inl claimed
        · exact Or.inr (Or.inl (Or.inl paired))
        · exact Or.inr (Or.inr (Or.inl confirmed))
        · exact Or.inr (Or.inl (Or.inr paired))
        · exact Or.inr (Or.inr (Or.inr confirmed))
      · rintro (claimed | (paired | paired) | confirmed | confirmed)
        · exact Or.inl (Or.inl claimed)
        · exact Or.inl (Or.inr (Or.inl paired))
        · exact Or.inr (Or.inl paired)
        · exact Or.inl (Or.inr (Or.inr confirmed))
        · exact Or.inr (Or.inr confirmed)

/-- In a session no line is paired twice. -/
theorem sessionPairs_nodup (context : Context) :
    ((sessionPairs doc rules context).flatMap Pair.lines).Nodup := by
  induction rules generalizing context with
  | nil => exact List.nodup_nil
  | cons rule rest ih =>
      obtain ⟨first, others⟩ := List.forall_mem_cons.mp catalogued
      rw [sessionPairs, List.flatMap_append, List.nodup_append]
      refine ⟨Rule.pairs_nodup first doc context, ih others _, ?_⟩
      -- What the first check paired is claimed when the other checks start.
      intro index now other later same
      obtain ⟨pair, made, member⟩ := Pair.mem_flatMap_lines.mp later
      obtain ⟨-, -, free⟩ := of_mem_sessionPairs others made
      apply free other member
      rw [← same, Rule.mem_claims_check first]
      exact Or.inr (Or.inl (Pair.mem_flatMap_lines.mp now))

end Runs

/-- No pair takes the first line once it was claimed for the header. -/
theorem zero_notMem_lines_of_header_first {doc : Document} {earlier later : List Rule}
    (catalogued : ∀ rule ∈ earlier ++ Rule.scriptName :: later, rule ∈ Rule.all)
    {context : Context} (headerFirst : ∀ kind : Block.Kind, kind.rule ∉ earlier)
    (confirmed : (Rule.scriptName.check doc (session doc earlier context)).finding = none) :
    ∀ pair ∈ sessionPairs doc (earlier ++ Rule.scriptName :: later) context, 0 ∉ pair.lines := by
  obtain ⟨before, fromHeader⟩ := List.forall_mem_append.mp catalogued
  obtain ⟨header, behind⟩ := List.forall_mem_cons.mp fromHeader
  intro pair made
  rw [sessionPairs_append, sessionPairs, Rule.pairs_of_none Rule.family?_scriptName,
    List.nil_append, List.mem_append] at made
  rcases made with made | made
  · exact absurd (of_mem_sessionPairs before made).1 (headerFirst pair.family)
  · intro member
    apply (of_mem_sessionPairs behind made).2.2 0 member
    rw [Rule.mem_claims_check header]
    exact Or.inr (Or.inr ⟨rfl, rfl, confirmed⟩)

/-- The claims of a session that starts fresh are the lines of its pairs, with the first line if
some check of it confirms the header.  Each pair is a block of a family whose rule the session runs,
and no line is in two of them. -/
theorem session_claims_are_pairs (doc : Document) (rules : List Rule)
    (catalogued : ∀ rule ∈ rules, rule ∈ Rule.all) :
    (∀ pair ∈ sessionPairs doc rules .fresh,
      pair.family.rule ∈ rules ∧ pair.Joins doc.normalizedLines) ∧
    ((sessionPairs doc rules .fresh).flatMap Pair.lines).Nodup ∧
    (∀ index, index ∈ (session doc rules .fresh).claims ↔
      (∃ pair ∈ sessionPairs doc rules .fresh, index ∈ pair.lines) ∨
        index = 0 ∧ Confirms doc rules .fresh) ∧
    (∀ earlier later, rules = earlier ++ later →
      ∀ index ∈ (session doc earlier .fresh).claims, index ∈ (session doc rules .fresh).claims) ∧
    (∀ earlier rule later, rules = earlier ++ rule :: later →
      (rule.pairs doc (session doc earlier .fresh)).Pairwise fun first second =>
        first.opener < second.opener ∧ first.closer < second.closer) ∧
    (∀ earlier later, rules = earlier ++ Rule.scriptName :: later →
      (∀ kind : Block.Kind, kind.rule ∉ earlier) →
      (Rule.scriptName.check doc (session doc earlier .fresh)).finding = none →
      (∀ pair ∈ sessionPairs doc rules .fresh, 0 ∉ pair.lines) ∧
        (session doc rules .fresh).claims.size =
          1 + 2 * (sessionPairs doc rules .fresh).length) := by
  have claimed : ∀ index, index ∈ (session doc rules .fresh).claims ↔
      (∃ pair ∈ sessionPairs doc rules .fresh, index ∈ pair.lines) ∨
        index = 0 ∧ Confirms doc rules .fresh := by
    intro index
    rw [mem_claims_session catalogued]
    exact or_iff_right (ClaimSet.not_mem_empty index)
  have apart : ((sessionPairs doc rules .fresh).flatMap Pair.lines).Nodup :=
    sessionPairs_nodup catalogued .fresh
  refine ⟨?_, apart, claimed, ?_, ?_, ?_⟩
  · intro pair made
    obtain ⟨ruleIn, joins, -⟩ := of_mem_sessionPairs catalogued made
    exact ⟨ruleIn, joins⟩
  · rintro earlier later rfl
    rw [session_append]
    exact claims_subset_session (List.forall_mem_append.mp catalogued).2 _
  · rintro earlier rule later rfl
    have ruleIn : rule ∈ earlier ++ rule :: later := by simp
    exact Rule.pairs_ascending (catalogued rule ruleIn) doc _
  · rintro earlier later rfl headerFirst confirmed
    have untouched := zero_notMem_lines_of_header_first catalogued headerFirst confirmed
    refine ⟨untouched, ?_⟩
    set pairs := sessionPairs doc (earlier ++ Rule.scriptName :: later) .fresh
    have distinct : (0 :: pairs.flatMap Pair.lines).Nodup := by
      refine List.nodup_cons.mpr ⟨?_, apart⟩
      intro member
      obtain ⟨pair, made, inPair⟩ := Pair.mem_flatMap_lines.mp member
      exact untouched pair made inPair
    rw [ClaimSet.size_eq_length distinct, List.length_cons, Pair.length_flatMap_lines, Nat.add_comm]
    intro index
    rw [claimed, List.mem_cons, Pair.mem_flatMap_lines, or_comm,
      and_iff_left ⟨earlier, later, rfl, confirmed⟩]

theorem session_claims_are_pairs_crossing :
    let doc := Document.ofPath "test.psc"
      "Scriptname test\nif a\nendif Function f()\nEndFunction\nif b"
    let rules := Rule.scriptName :: Rule.all
    (∀ rule ∈ rules, rule ∈ Rule.all) ∧
      (session doc rules .fresh).claims.size = 1 + 2 * (sessionPairs doc rules .fresh).length ∧
      sessionPairs doc rules .fresh = [⟨.function, 2, 3⟩] := by
  intro doc rules
  have catalogued : ∀ rule ∈ rules, rule ∈ Rule.all := by
    simp [rules, Rule.all, Rule.standard]
  obtain ⟨-, -, -, -, -, counted⟩ := session_claims_are_pairs doc rules catalogued
  refine ⟨catalogued, ?_, by decide +kernel⟩
  exact (counted [] Rule.all rfl (fun kind => List.not_mem_nil) (by decide +kernel)).2

end ScriptLint
