import ScriptLint.Proofs.Pass
import ScriptLint.Proofs.Session

/-!
# Rules that do not meet

The rules of a pass meet only in the claims, and a family reads claims only at lines that have a
role in it.  Where no line has a role in two families that are run, and the first line has none in
any of them if the header rule is run, every rule finds in the shared context what it finds alone.
The pass then reports the first of these findings, and the context of a clean pass does not depend
on the order of the rules.
-/

namespace ScriptLint

attribute [local irreducible] Document.normalizedLines

/-! ## What a family reads of the claims -/

namespace Block

/-- Two claim sets agree at every line that has a role in the family. -/
def AgreeOnRoles (kind : Kind) (lines : List (List Char)) (claims other : ClaimSet) : Prop :=
  ∀ index line, lines[index]? = some line → kind.HasRole line → (index ∈ claims ↔ index ∈ other)

section Frame

variable {kind : Kind} {lines : List (List Char)} {claims other : ClaimSet}

theorem AgreeOnRoles.openings_eq (agree : AgreeOnRoles kind lines claims other) :
    openings kind claims 0 lines = openings kind other 0 lines := by
  apply openings_congr
  apply readings_congr
  intro numbered member opens
  exact agree numbered.2 numbered.1 (List.mem_zipIdx_iff_getElem?.mp member) (Or.inl opens)

theorem AgreeOnRoles.closers_eq (agree : AgreeOnRoles kind lines claims other) :
    closers kind claims 0 lines = closers kind other 0 lines := by
  rw [Block.closers_eq, Block.closers_eq]
  apply unclaimed_congr
  intro numbered member closes
  exact agree numbered.2 numbered.1 (List.mem_zipIdx_iff_getElem?.mp member) (Or.inr closes)

theorem AgreeOnRoles.pairsMade_eq (agree : AgreeOnRoles kind lines claims other) :
    pairsMade kind lines claims = pairsMade kind lines other := by
  rw [pairsMade, pairsMade, agree.openings_eq, agree.closers_eq]

theorem AgreeOnRoles.finding_eq {rule : String} {doc : Document} {left right : Context}
    (agree : AgreeOnRoles kind doc.normalizedLines left.claims right.claims) :
    (check kind rule doc left).finding = (check kind rule doc right).finding := by
  have sameOpenings := agree.openings_eq
  cases collected : openings kind right.claims 0 doc.normalizedLines with
  | error faulty =>
      rw [check_of_error collected, check_of_error (sameOpenings.trans collected)]
  | ok opened =>
      rw [check_of_ok collected, check_of_ok (sameOpenings.trans collected), agree.closers_eq]

end Frame

end Block

/-! ## Rules apart -/

/-- No line has a role in two families that are run, and none of them gives a role to the first line
if the header rule is run. -/
structure RolesApart (doc : Document) (rules : List Rule) : Prop where
  families : ∀ kind other : Block.Kind, kind.rule ∈ rules → other.rule ∈ rules → kind ≠ other →
    ∀ line ∈ doc.normalizedLines, ¬(kind.HasRole line ∧ other.HasRole line)
  header : Rule.scriptName ∈ rules → ∀ kind : Block.Kind, kind.rule ∈ rules →
    ∀ line ∈ doc.normalizedLines.head?, ¬kind.HasRole line

/-- A rule alone claims lines with a role in its family, and the header rule the first line. -/
theorem Rule.of_mem_claims_alone {rule : Rule} (catalogued : rule ∈ all) {doc : Document}
    {index : Nat} (claimed : index ∈ (rule.check doc .fresh).context.claims) :
    (rule = scriptName ∧ index = 0) ∨
      ∃ kind : Block.Kind, rule = kind.rule ∧
        ∃ line, doc.normalizedLines[index]? = some line ∧ kind.HasRole line := by
  rw [mem_claims_check catalogued] at claimed
  rcases claimed with earlier | ⟨pair, made, member⟩ | ⟨rfl, rfl, -⟩
  · exact absurd earlier (ClaimSet.not_mem_empty index)
  · obtain ⟨rfl, joins, -⟩ := of_mem_pairs catalogued made
    refine Or.inr ⟨pair.family, rfl, ?_⟩
    simp only [Block.Pair.lines, List.mem_cons, List.not_mem_nil, or_false] at member
    rcases member with rfl | rfl
    · obtain ⟨line, label, found, read⟩ := joins.opens
      exact ⟨line, found, Or.inl (Block.Kind.isOpener_of_read read)⟩
    · obtain ⟨line, found, closes⟩ := joins.closes
      exact ⟨line, found, Or.inr closes⟩
  · exact Or.inl ⟨rfl, rfl⟩

/-! ## What a pass gathers -/

/-- The rules done so far are clean alone, and the context holds what they leave alone. -/
structure Gathered (doc : Document) (done : List Rule) (context : Context) : Prop where
  clean : ∀ rule ∈ done, (rule.check doc .fresh).finding = none
  claims : ∀ index, index ∈ context.claims ↔
    ∃ rule ∈ done, index ∈ (rule.check doc .fresh).context.claims
  header : ∀ header, context.header = some header ↔
    ∃ rule ∈ done, (rule.check doc .fresh).context.header = some header

theorem gathered_nil (doc : Document) : Gathered doc [] .fresh where
  clean := by simp
  claims := by simp [Context.fresh]
  header := by simp [Context.fresh]

/-- The order in which rules were done leaves no trace. -/
theorem Gathered.context_eq {doc : Document} {done other : List Rule} {left right : Context}
    (gathered : Gathered doc done left) (gatheredToo : Gathered doc other right)
    (same : done.Perm other) : left = right := by
  obtain ⟨leftClaims, leftHeader⟩ := left
  obtain ⟨rightClaims, rightHeader⟩ := right
  have sameClaims : leftClaims = rightClaims := by
    apply ClaimSet.ext_mem
    intro index
    rw [gathered.claims index, gatheredToo.claims index]
    simp only [same.mem_iff]
  have sameHeader : leftHeader = rightHeader := by
    apply Option.ext
    intro header
    rw [gathered.header header, gatheredToo.header header]
    simp only [same.mem_iff]
  rw [sameClaims, sameHeader]

section Gathering

variable {doc : Document} {rules done : List Rule} {context : Context}
  (catalogued : ∀ rule ∈ rules, rule ∈ Rule.all) (apart : RolesApart doc rules)
  (within : done ⊆ rules) (gathered : Gathered doc done context)

include catalogued apart within gathered

/-- The claims gathered so far do not touch the roles of a family that has not been run. -/
theorem Gathered.agreeOnRoles {kind : Block.Kind} (runs : kind.rule ∈ rules)
    (fresh : kind.rule ∉ done) :
    Block.AgreeOnRoles kind doc.normalizedLines context.claims Context.fresh.claims := by
  intro index line found role
  refine iff_of_false ?_ (ClaimSet.not_mem_empty index)
  intro claimed
  obtain ⟨rule, ruleDone, claimedAlone⟩ := (gathered.claims index).mp claimed
  have ruleRuns := within ruleDone
  obtain ⟨rfl, rfl⟩ | ⟨other, rfl, line', found', otherRole⟩ :=
    Rule.of_mem_claims_alone (catalogued rule ruleRuns) claimedAlone
  · exact apart.header ruleRuns kind runs line (by rwa [List.head?_eq_getElem?]) role
  · rw [found] at found'
    obtain rfl := Option.some.inj found'
    have distinct : kind ≠ other := by
      rintro rfl
      exact fresh ruleDone
    exact apart.families kind other runs ruleRuns distinct line (List.mem_of_getElem? found)
      ⟨role, otherRole⟩

/-- In the context of the pass a rule finds what it finds alone, and adds the claims that it makes
alone. -/
theorem Gathered.check_eq_alone {rule : Rule} (runs : rule ∈ rules) :
    (rule.check doc context).finding = (rule.check doc .fresh).finding ∧
      ∀ index, index ∈ (rule.check doc context).context.claims ↔
        index ∈ context.claims ∨ index ∈ (rule.check doc .fresh).context.claims := by
  obtain stateless | rfl | ⟨kind, rfl⟩ := Rule.cases_of_mem_all (catalogued rule runs)
  · rw [stateless.check_eq doc context, stateless.check_eq doc .fresh]
    exact ⟨rfl, fun index => (or_iff_left (ClaimSet.not_mem_empty index)).symm⟩
  · refine ⟨Rule.scriptName_finding doc context .fresh, ?_⟩
    intro index
    rw [Rule.mem_claims_check (catalogued _ runs), Rule.mem_claims_check (catalogued _ runs),
      Rule.pairs_of_none Rule.family?_scriptName, Rule.pairs_of_none Rule.family?_scriptName,
      Rule.scriptName_finding doc context .fresh]
    simp [Context.fresh]
  · by_cases already : kind.rule ∈ done
    · -- The family is settled, and its claims are in the context already.
      have clean := gathered.clean kind.rule already
      have contained : ∀ index ∈ (kind.rule.check doc .fresh).context.claims,
          index ∈ context.claims :=
        fun index claimed => (gathered.claims index).mpr ⟨kind.rule, already, claimed⟩
      have rests : kind.rule.Rests doc context := by
        have restsAlone := Rule.rests_of_clean (catalogued _ runs) clean
        rw [Rule.rests_rule_iff] at restsAlone ⊢
        exact restsAlone.mono contained
      refine ⟨rests.clean.trans clean.symm, ?_⟩
      intro index
      rw [rests.unchanged]
      exact (or_iff_left_of_imp (contained index)).symm
    · have agree := gathered.agreeOnRoles catalogued apart within runs already
      rw [kind.check_rule]
      refine ⟨agree.finding_eq, ?_⟩
      intro index
      rw [Block.check_context, Block.check_context, agree.pairsMade_eq]
      simp [Context.fresh]

/-- A rule that is clean alone adds itself to what is gathered. -/
theorem Gathered.after_check {rule : Rule} (runs : rule ∈ rules)
    (clean : (rule.check doc .fresh).finding = none) :
    Gathered doc (done ++ [rule]) (rule.check doc context).context where
  clean := by
    rw [List.forall_mem_append]
    exact ⟨gathered.clean, by simpa using clean⟩
  claims := by
    intro index
    rw [(gathered.check_eq_alone catalogued apart within runs).2, gathered.claims]
    simp only [List.mem_append, List.mem_singleton, or_and_right, exists_or, exists_eq_left]
  header := by
    intro header
    have unique : ∀ {other : Rule} {found : Header}, other ∈ rules →
        (other.check doc .fresh).context.header = some found →
        Rule.readHeader doc = .ok found :=
      fun otherRuns => Rule.readHeader_of_recorded (catalogued _ otherRuns)
    rw [Rule.header_check (catalogued rule runs), Option.or_eq_some_iff, gathered.header]
    simp only [List.mem_append, List.mem_singleton, or_and_right, exists_or, exists_eq_left]
    constructor
    · rintro (now | ⟨-, earlier⟩)
      · exact Or.inr now
      · exact Or.inl earlier
    · rintro (⟨other, otherDone, recorded⟩ | now)
      · cases again : (rule.check doc .fresh).context.header with
        | none => exact Or.inr ⟨rfl, other, otherDone, recorded⟩
        | some found =>
            have sameHeader := (unique runs again).symm.trans (unique (within otherDone) recorded)
            exact Or.inl (congrArg some (Except.ok.inj sameHeader))
      · exact Or.inl now

/-- A pass reports the first finding that a rule has alone, and a clean pass gathers all rules. -/
theorem Gathered.after_pass {todo : List Rule} (todoWithin : todo ⊆ rules) :
    (pass doc todo context).1 = todo.findSome? (fun rule => (rule.check doc .fresh).finding) ∧
      ((pass doc todo context).1 = none →
        Gathered doc (done ++ todo) (pass doc todo context).2) := by
  induction todo generalizing done context with
  | nil =>
      rw [List.append_nil]
      exact ⟨rfl, fun _ => gathered⟩
  | cons rule rest ih =>
      obtain ⟨runs, restWithin⟩ := List.cons_subset.mp todoWithin
      have alone := (gathered.check_eq_alone catalogued apart within runs).1
      rw [List.findSome?_cons, ← alone]
      cases found : (rule.check doc context).finding with
      | some finding =>
          rw [pass_cons_of_finding found, Outcome.verdict, found]
          exact ⟨rfl, fun clean => absurd clean (by simp)⟩
      | none =>
          rw [pass_cons_of_clean found]
          have grown := gathered.after_check catalogued apart within runs (alone.symm.trans found)
          have grownWithin : done ++ [rule] ⊆ rules := by
            rw [List.append_subset]
            exact ⟨within, by simpa using runs⟩
          have later := ih grownWithin grown restWithin
          rwa [List.append_assoc, List.singleton_append] at later

end Gathering

theorem Linter.lint_eq_pass (linter : Linter) (doc : Document) :
    linter.lint doc = (pass doc linter.active .fresh).1 :=
  congrArg Prod.fst (linter.verdict_run doc .fresh)

/-- Where roles are apart, a pass reports the first finding that one of its rules has alone.
Whether it is clean does not depend on the order of the rules, nor does the context that a clean
pass leaves. -/
theorem lint_eq_first_alone (linter : Linter) (doc : Document)
    (catalogued : ∀ rule ∈ linter.rules, rule ∈ Rule.all)
    (apart : RolesApart doc linter.active) :
    linter.lint doc =
        linter.active.findSome? (fun rule => (rule.check doc .fresh).finding) ∧
      ∀ rules : List Rule, rules.Perm linter.rules →
        (({ linter with rules } : Linter).lint doc = none ↔ linter.lint doc = none) ∧
        (linter.lint doc = none →
          (({ linter with rules } : Linter).run doc .fresh).context =
            (linter.run doc .fresh).context) := by
  have activeIn := Linter.active_catalogued catalogued
  have first := (gathered_nil doc).after_pass activeIn apart (List.nil_subset _)
    (List.Subset.refl linter.active)
  refine ⟨(linter.lint_eq_pass doc).trans first.1, ?_⟩
  intro rules permuted
  set reordered : Linter := { linter with rules }
  have activePermuted : reordered.active.Perm linter.active := permuted.filter _
  have second := (gathered_nil doc).after_pass activeIn apart (List.nil_subset _)
    activePermuted.subset
  have cleanTogether : reordered.lint doc = none ↔ linter.lint doc = none := by
    rw [reordered.lint_eq_pass, linter.lint_eq_pass, first.1, second.1]
    simp only [List.findSome?_eq_none_iff, activePermuted.mem_iff]
  refine ⟨cleanTogether, ?_⟩
  intro clean
  have cleanReordered := cleanTogether.mpr clean
  rw [Linter.lint_eq_pass] at clean cleanReordered
  have sameContext := (second.2 cleanReordered).context_eq (first.2 clean) activePermuted
  rw [← reordered.verdict_run, ← linter.verdict_run] at sameContext
  exact sameContext

theorem lint_eq_first_alone_reversed :
    let linter : Linter := { rules := Rule.all }
    let doc := Document.ofPath "test.psc" "Scriptname test\nFunction f()\nif a\nendif\nEndFunction"
    RolesApart doc linter.active ∧ linter.lint doc = none ∧
      ({ rules := Rule.all.reverse } : Linter).lint doc = none ∧
      (({ rules := Rule.all.reverse } : Linter).run doc .fresh).context =
        (linter.run doc .fresh).context := by
  intro linter doc
  have lines : doc.normalizedLines = ["Scriptname test".toList, "Function f()".toList,
      "if a".toList, "endif".toList, "EndFunction".toList] := by decide +kernel
  have apart : RolesApart doc linter.active := by
    constructor
    · intro kind other _ _
      rw [lines]
      cases kind <;> cases other <;> decide +kernel
    · intro _ kind _
      rw [lines]
      cases kind <;> decide +kernel
  have clean : linter.lint doc = none := by decide +kernel
  obtain ⟨-, reorder⟩ := lint_eq_first_alone linter doc (fun rule member => member) apart
  obtain ⟨cleanTogether, sameContext⟩ := reorder _ Rule.all.reverse_perm
  exact ⟨apart, clean, cleanTogether.mpr clean, sameContext clean⟩

end ScriptLint
