import ScriptLint.Linter
import ScriptLint.Proofs.Catalogue

/-!
# Passes over a shared context

A pass comes down to its active rules: it checks by them in order, each in the context that the one
before it left, until one of them has a finding.  A rule that found nothing rests in the context it
leaves: it would find nothing again and change nothing, whatever other rules claim meanwhile.  Hence
a second pass in the context that a pass left repeats its finding and changes nothing.
-/

namespace ScriptLint

attribute [local irreducible] Document.normalizedLines

/-- What an outcome says, without the events that led to it. -/
def Outcome.verdict (outcome : Outcome) : Option Finding × Context :=
  (outcome.finding, outcome.context)

/-! ## One rule -/

namespace Rule

variable {rule : Rule} {doc : Document} {context : Context}

/-- A check repeated in the context that it left comes to the same verdict. -/
theorem check_again (catalogued : rule ∈ all) (doc : Document) (context : Context) :
    (rule.check doc (rule.check doc context).context).verdict =
      (rule.check doc context).verdict := by
  obtain stateless | rfl | ⟨kind, rfl⟩ := cases_of_mem_all catalogued
  · rw [stateless.check_eq doc context, stateless.check_eq]
  · cases read : readHeader doc with
    | error blame =>
        rw [scriptName_check_of_error read context, scriptName_check_of_error read]
    | ok header =>
        rw [scriptName_check_of_ok read context, scriptName_check_of_ok read]
        have reclaimed : (context.claims.insert 0).insert 0 = context.claims.insert 0 :=
          ClaimSet.insert_of_mem (ClaimSet.mem_insert.mpr (Or.inl rfl))
        simp only [Outcome.verdict, Context.claim, Context.recordHeader, reclaimed]
  · rw [kind.check_rule]
    obtain ⟨sameFinding, sameContext⟩ := Block.check_twice kind kind.rule.name doc context
    exact Prod.ext sameFinding sameContext

/-- A check by the rule in this context finds nothing and changes nothing. -/
structure Rests (rule : Rule) (doc : Document) (context : Context) : Prop where
  clean : (rule.check doc context).finding = none
  unchanged : (rule.check doc context).context = context

theorem rests_of_clean (catalogued : rule ∈ all)
    (clean : (rule.check doc context).finding = none) :
    rule.Rests doc (rule.check doc context).context where
  clean := (congrArg Prod.fst (check_again catalogued doc context)).trans clean
  unchanged := congrArg Prod.snd (check_again catalogued doc context)

theorem Stateless.rests_iff (stateless : rule.Stateless) :
    rule.Rests doc context ↔ (rule.check doc .fresh).finding = none := by
  constructor
  · intro rests
    have clean := rests.clean
    rw [stateless.check_eq] at clean
    exact clean
  · intro clean
    constructor
    · rw [stateless.check_eq]
      exact clean
    · rw [stateless.check_eq]

theorem rests_scriptName_iff :
    scriptName.Rests doc context ↔
      ∃ header, readHeader doc = .ok header ∧ context.header = some header ∧
        0 ∈ context.claims := by
  constructor
  · rintro ⟨clean, unchanged⟩
    cases read : readHeader doc with
    | error blame =>
        rw [scriptName_check_of_error read] at clean
        contradiction
    | ok header =>
        rw [scriptName_check_of_ok read] at unchanged
        refine ⟨header, rfl, ?_, ?_⟩
        · rw [← unchanged]
          rfl
        · rw [← unchanged]
          exact ClaimSet.mem_insert.mpr (Or.inl rfl)
  · rintro ⟨header, read, recorded, claimed⟩
    have same : (context.recordHeader header).claim 0 = context := by
      obtain ⟨claims, _⟩ := context
      obtain rfl := recorded
      simp only [Context.claim, Context.recordHeader, ClaimSet.insert_of_mem claimed]
    constructor
    · rw [scriptName_check_of_ok read]
    · rw [scriptName_check_of_ok read, same]

theorem rests_rule_iff {kind : Block.Kind} :
    kind.rule.Rests doc context ↔
      Block.Settled kind doc.normalizedLines context.claims := by
  constructor
  · rintro ⟨clean, unchanged⟩
    rw [kind.check_rule] at clean unchanged
    have settled := Block.settled_of_clean clean
    rwa [unchanged] at settled
  · intro settled
    constructor
    · rw [kind.check_rule, Block.check_of_settled settled]
    · rw [kind.check_rule, Block.check_of_settled settled]

/-- A rule that rests keeps resting while other rules check. -/
theorem Rests.after_check (catalogued : rule ∈ all) (rests : rule.Rests doc context) {other : Rule}
    (otherCatalogued : other ∈ all) : rule.Rests doc (other.check doc context).context := by
  have grows := claims_subset_check otherCatalogued doc context
  obtain stateless | rfl | ⟨kind, rfl⟩ := cases_of_mem_all catalogued
  · rw [stateless.rests_iff] at rests ⊢
    exact rests
  · rw [rests_scriptName_iff] at rests ⊢
    obtain ⟨header, read, recorded, claimed⟩ := rests
    refine ⟨header, read, ?_, grows 0 claimed⟩
    rw [header_check otherCatalogued, recorded]
    cases again : (other.check doc .fresh).context.header with
    | none => rfl
    | some found =>
        have sameHeader := (readHeader_of_recorded otherCatalogued again).symm.trans read
        rw [Except.ok.inj sameHeader]
        rfl
  · rw [rests_rule_iff] at rests ⊢
    exact rests.mono grows

end Rule

/-! ## The active rules in order -/

/-- Check by the rules in order until one of them has a finding. -/
def pass (doc : Document) : List Rule → Context → Option Finding × Context
  | [], context => (none, context)
  | rule :: rest, context =>
      match (rule.check doc context).finding with
      | some finding => (some finding, (rule.check doc context).context)
      | none => pass doc rest (rule.check doc context).context

section Pass

variable {doc : Document} {rule : Rule} {rest rules : List Rule} {context : Context}

theorem pass_cons_of_finding {finding : Finding}
    (found : (rule.check doc context).finding = some finding) :
    pass doc (rule :: rest) context = (rule.check doc context).verdict := by
  rw [pass, Outcome.verdict, found]

theorem pass_cons_of_clean (clean : (rule.check doc context).finding = none) :
    pass doc (rule :: rest) context = pass doc rest (rule.check doc context).context := by
  rw [pass, clean]

/-- A rule that rests keeps resting throughout a pass. -/
theorem Rule.Rests.after_pass (catalogued : rule ∈ Rule.all)
    (allCatalogued : ∀ rule ∈ rules, rule ∈ Rule.all) (rests : rule.Rests doc context) :
    rule.Rests doc (pass doc rules context).2 := by
  induction rules generalizing context with
  | nil => exact rests
  | cons first rest ih =>
      obtain ⟨firstIn, restIn⟩ := List.forall_mem_cons.mp allCatalogued
      have stillRests := rests.after_check catalogued firstIn
      cases found : (first.check doc context).finding with
      | none =>
          rw [pass_cons_of_clean found]
          exact ih restIn stillRests
      | some finding =>
          rw [pass_cons_of_finding found]
          exact stillRests

/-- A second pass in the context that a pass left comes to the same verdict. -/
theorem pass_again (catalogued : ∀ rule ∈ rules, rule ∈ Rule.all) (context : Context) :
    pass doc rules (pass doc rules context).2 = pass doc rules context := by
  induction rules generalizing context with
  | nil => rfl
  | cons first rest ih =>
      obtain ⟨firstIn, restIn⟩ := List.forall_mem_cons.mp catalogued
      have again := Rule.check_again firstIn doc context
      cases found : (first.check doc context).finding with
      | some finding =>
          rw [pass_cons_of_finding found]
          have foundAgain := (congrArg Prod.fst again).trans found
          exact (pass_cons_of_finding foundAgain).trans again
      | none =>
          -- The first rule rests in what the others leave, so the second pass is theirs.
          rw [pass_cons_of_clean found]
          have rests := (Rule.rests_of_clean firstIn found).after_pass firstIn restIn
          rw [pass_cons_of_clean rests.clean, rests.unchanged]
          exact ih restIn _

end Pass

namespace Linter

/-- The rules that the settings leave on, in the order in which they run. -/
def active (linter : Linter) : List Rule :=
  linter.rules.filter fun rule => linter.settings.isEnabled rule.name

theorem active_catalogued {linter : Linter} (catalogued : ∀ rule ∈ linter.rules, rule ∈ Rule.all) :
    ∀ rule ∈ linter.active, rule ∈ Rule.all := by
  intro rule member
  exact catalogued rule (List.mem_filter.mp member).1

/-- A pass comes down to its active rules. -/
theorem verdict_run (linter : Linter) (doc : Document) (context : Context) :
    (linter.run doc context).verdict = pass doc linter.active context := by
  obtain ⟨rules, excludes, settings⟩ := linter
  simp only [run, active]
  induction rules generalizing context with
  | nil => rfl
  | cons rule rest ih =>
      rw [runRules, List.filter_cons]
      split
      · cases found : (rule.check doc context).finding with
        | some finding =>
            rw [pass_cons_of_finding found]
            simp only [found, Outcome.verdict]
        | none =>
            rw [pass_cons_of_clean found, ← ih]
            simp only [found, Outcome.verdict]
      · exact ih context

end Linter

/-- A second pass in the context that a pass left repeats its finding and leaves the context as it
is, and so does a second check by a single rule. -/
theorem run_repeats (linter : Linter) (catalogued : ∀ rule ∈ linter.rules, rule ∈ Rule.all)
    (doc : Document) (context : Context) :
    (linter.run doc (linter.run doc context).context).finding = (linter.run doc context).finding ∧
    (linter.run doc (linter.run doc context).context).context = (linter.run doc context).context ∧
    ∀ rule ∈ Rule.all,
      (rule.check doc (rule.check doc context).context).finding =
        (rule.check doc context).finding ∧
      (rule.check doc (rule.check doc context).context).context =
        (rule.check doc context).context := by
  have first := linter.verdict_run doc context
  have second : (linter.run doc (linter.run doc context).context).verdict =
      (linter.run doc context).verdict := by
    calc (linter.run doc (linter.run doc context).context).verdict
        = pass doc linter.active (linter.run doc context).verdict.2 := linter.verdict_run doc _
      _ = pass doc linter.active (pass doc linter.active context).2 := by rw [first]
      _ = pass doc linter.active context := pass_again (Linter.active_catalogued catalogued) context
      _ = (linter.run doc context).verdict := first.symm
  refine ⟨congrArg Prod.fst second, congrArg Prod.snd second, ?_⟩
  intro rule ruleIn
  have again := Rule.check_again ruleIn doc context
  exact ⟨congrArg Prod.fst again, congrArg Prod.snd again⟩

theorem run_repeats_unclosed :
    let linter : Linter := { rules := [.scriptName, .ifStatement] }
    let doc := Document.ofPath "test.psc" "Scriptname test\nif a\nendif\nif b\nendif"
    let context : Context := { claims := ClaimSet.empty.insert 4 }
    (∀ rule ∈ linter.rules, rule ∈ Rule.all) ∧
      (linter.run doc context).finding.isSome = true ∧
      (linter.run doc context).context.claims.indices = [0, 1, 2, 4] ∧
      (linter.run doc (linter.run doc context).context).finding =
        (linter.run doc context).finding ∧
      (linter.run doc (linter.run doc context).context).context =
        (linter.run doc context).context := by
  intro linter doc context
  have catalogued : ∀ rule ∈ linter.rules, rule ∈ Rule.all := by
    simp [linter, Rule.all, Rule.standard]
  obtain ⟨sameFinding, sameContext, -⟩ := run_repeats linter catalogued doc context
  exact ⟨catalogued, by decide +kernel, by decide +kernel, sameFinding, sameContext⟩

end ScriptLint
