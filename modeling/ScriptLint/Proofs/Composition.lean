import ScriptLint.Proofs.Pass

/-!
# Passes in parts

A pass over two lists of rules is a pass over the first and, if nothing was found, one over the
second in the context that the first has left.  This holds of any rules, whatever their checks do
with the context.  A finding therefore comes from the first enabled rule that has one in the context
that the enabled rules before it have left, and the rules behind it are not invoked.
-/

namespace ScriptLint

namespace Outcome

/-- The outcome with events in front of its own. -/
def after (events : List Event) (outcome : Outcome) : Outcome :=
  { outcome with events := events ++ outcome.events }

/-- Go on after an outcome in the context that it leaves, unless it has a finding. -/
def andThen (first : Outcome) (next : Context → Outcome) : Outcome :=
  if first.finding.isSome then first else (next first.context).after first.events

theorem andThen_of_finding {first : Outcome} {finding : Finding}
    (found : first.finding = some finding) (next : Context → Outcome) :
    first.andThen next = first := by
  rw [andThen, found]
  rfl

theorem andThen_of_clean {first : Outcome} (clean : first.finding = none)
    (next : Context → Outcome) :
    first.andThen next = (next first.context).after first.events := by
  rw [andThen, clean]
  rfl

/-- What was told before does not matter to what follows. -/
theorem after_andThen (events : List Event) (first : Outcome) (next : Context → Outcome) :
    (first.after events).andThen next = (first.andThen next).after events := by
  have sameFinding : (first.after events).finding = first.finding := rfl
  cases found : first.finding with
  | some finding =>
      rw [andThen_of_finding (sameFinding.trans found), andThen_of_finding found]
  | none =>
      rw [andThen_of_clean (sameFinding.trans found), andThen_of_clean found]
      simp only [after, List.append_assoc]

end Outcome

namespace Linter

/-- The linter with other rules. -/
def withRules (linter : Linter) (rules : List Rule) : Linter := { linter with rules }

section Rules

variable {settings : Settings} {doc : Document} {rule : Rule} {context : Context}

/-! ## One rule in front of others -/

theorem runRules_of_disabled (disabled : ¬settings.isEnabled rule.name = true)
    (rest : List Rule) :
    runRules settings doc (rule :: rest) context =
      (runRules settings doc rest context).after [.skipping rule.name] := by
  rw [runRules, if_neg disabled]
  rfl

theorem runRules_of_finding (enabled : settings.isEnabled rule.name = true) {finding : Finding}
    (found : (rule.check doc context).finding = some finding) (rest : List Rule) :
    runRules settings doc (rule :: rest) context =
      { finding := some finding
        context := (rule.check doc context).context
        events := .running rule.name doc.fileName :: (rule.check doc context).events ++
          [.failed doc.fileName rule.name finding.message] } := by
  rw [runRules, if_pos enabled]
  simp only [found]

theorem runRules_of_clean (enabled : settings.isEnabled rule.name = true)
    (clean : (rule.check doc context).finding = none) (rest : List Rule) :
    runRules settings doc (rule :: rest) context =
      (runRules settings doc rest (rule.check doc context).context).after
        (.running rule.name doc.fileName :: (rule.check doc context).events) := by
  rw [runRules, if_pos enabled]
  simp only [clean]
  rfl

/-- Induction along a pass: a rule is passed over, ends the pass, or hands its context on. -/
@[elab_as_elim]
theorem pass_induction {motive : List Rule → Context → Prop} (settings : Settings) (doc : Document)
    (done : ∀ context, motive [] context)
    (skip : ∀ (rule : Rule) (rest : List Rule) (context : Context),
      ¬settings.isEnabled rule.name = true → motive rest context → motive (rule :: rest) context)
    (stop : ∀ (rule : Rule) (rest : List Rule) (context : Context) (finding : Finding),
      settings.isEnabled rule.name = true → (rule.check doc context).finding = some finding →
      motive (rule :: rest) context)
    (next : ∀ (rule : Rule) (rest : List Rule) (context : Context),
      settings.isEnabled rule.name = true → (rule.check doc context).finding = none →
      motive rest (rule.check doc context).context → motive (rule :: rest) context)
    (rules : List Rule) (context : Context) : motive rules context := by
  induction rules generalizing context with
  | nil => exact done context
  | cons rule rest ih =>
      by_cases enabled : settings.isEnabled rule.name = true
      · cases checked : (rule.check doc context).finding with
        | some finding => exact stop rule rest context finding enabled checked
        | none => exact next rule rest context enabled checked (ih _)
      · exact skip rule rest context enabled (ih context)

/-! ## Rules in front of others -/

theorem runRules_append (first second : List Rule) (context : Context) :
    runRules settings doc (first ++ second) context =
      (runRules settings doc first context).andThen (runRules settings doc second) := by
  induction first, context using pass_induction settings doc with
  | done context => rfl
  | skip rule rest context disabled ih =>
      rw [List.cons_append, runRules_of_disabled disabled, runRules_of_disabled disabled, ih,
        Outcome.after_andThen]
  | stop rule rest context finding enabled found =>
      rw [List.cons_append, runRules_of_finding enabled found, runRules_of_finding enabled found,
        Outcome.andThen_of_finding rfl]
  | next rule rest context enabled clean ih =>
      rw [List.cons_append, runRules_of_clean enabled clean, runRules_of_clean enabled clean, ih,
        Outcome.after_andThen]

/-! ## The rule that finds something -/

/-- Every enabled rule finds nothing in the context that the enabled rules before it have left, and
the last of them leaves a context. -/
inductive Clears (settings : Settings) (doc : Document) : List Rule → Context → Context → Prop where
  | nil (context : Context) : Clears settings doc [] context context
  | skip {rule : Rule} {rest : List Rule} {context left : Context}
      (disabled : settings.isEnabled rule.name = false)
      (later : Clears settings doc rest context left) :
      Clears settings doc (rule :: rest) context left
  | check {rule : Rule} {rest : List Rule} {context left : Context}
      (enabled : settings.isEnabled rule.name = true)
      (clean : (rule.check doc context).finding = none)
      (later : Clears settings doc rest (rule.check doc context).context left) :
      Clears settings doc (rule :: rest) context left

theorem clears_of_clean {rules : List Rule}
    (clean : (runRules settings doc rules context).finding = none) :
    Clears settings doc rules context (runRules settings doc rules context).context := by
  induction rules, context using pass_induction settings doc with
  | done context => exact .nil context
  | skip rule rest context disabled ih =>
      rw [runRules_of_disabled disabled] at clean ⊢
      exact .skip (Bool.eq_false_iff.mpr disabled) (ih clean)
  | stop rule rest context finding enabled found =>
      rw [runRules_of_finding enabled found] at clean
      contradiction
  | next rule rest context enabled checked ih =>
      rw [runRules_of_clean enabled checked] at clean ⊢
      exact .check enabled checked (ih clean)

theorem Clears.verdict_eq {rules : List Rule} {left : Context}
    (clears : Clears settings doc rules context left) :
    (runRules settings doc rules context).verdict = (none, left) := by
  induction clears with
  | nil => rfl
  | skip disabled _ ih =>
      rw [runRules_of_disabled (Bool.eq_false_iff.mp disabled)]
      exact ih
  | check enabled clean _ ih =>
      rw [runRules_of_clean enabled clean]
      exact ih

theorem exists_split_of_finding {rules : List Rule} {finding : Finding}
    (found : (runRules settings doc rules context).finding = some finding) :
    ∃ before rule behind handed, rules = before ++ rule :: behind ∧
      settings.isEnabled rule.name = true ∧ Clears settings doc before context handed ∧
      (rule.check doc handed).finding = some finding := by
  induction rules, context using pass_induction settings doc with
  | done context => contradiction
  | skip rule rest context disabled ih =>
      rw [runRules_of_disabled disabled] at found
      obtain ⟨before, last, behind, handed, rfl, enabled, clears, isFound⟩ := ih found
      exact ⟨rule :: before, last, behind, handed, rfl, enabled,
        .skip (Bool.eq_false_iff.mpr disabled) clears, isFound⟩
  | stop rule rest context other enabled checked =>
      rw [runRules_of_finding enabled checked] at found
      obtain rfl := Option.some.inj found
      exact ⟨[], rule, rest, context, rfl, enabled, .nil context, checked⟩
  | next rule rest context firstEnabled checked ih =>
      rw [runRules_of_clean firstEnabled checked] at found
      obtain ⟨before, last, behind, handed, rfl, enabled, clears, isFound⟩ := ih found
      exact ⟨rule :: before, last, behind, handed, rfl, enabled,
        .check firstEnabled checked clears, isFound⟩

/-- The rules behind one with a finding leave no trace. -/
theorem Clears.runRules_split {before : List Rule} {handed : Context}
    (clears : Clears settings doc before context handed)
    (enabled : settings.isEnabled rule.name = true) {finding : Finding}
    (found : (rule.check doc handed).finding = some finding) (behind : List Rule) :
    (runRules settings doc (before ++ rule :: behind) context).verdict =
      (rule.check doc handed).verdict := by
  obtain ⟨clean, isHanded⟩ := Prod.mk.inj clears.verdict_eq
  rw [runRules_append, Outcome.andThen_of_clean clean, isHanded, runRules_of_finding enabled found,
    Outcome.verdict, Outcome.verdict, found]
  rfl

end Rules

end Linter

/-! ## The rules that are invoked -/

/-- The rule, which tells nothing of its checks. -/
def Rule.muted (rule : Rule) : Rule :=
  { rule with check := fun doc context => { rule.check doc context with events := [] } }

/-- The rule that the event says is run. -/
def Event.started? : Event → Option String
  | .running rule _ => some rule
  | _ => none

namespace Linter

/-- The names of the rules that a pass invokes, in order.  A pass tells of every rule before it
invokes it, and the rules themselves are kept from telling anything. -/
def invokedBy (settings : Settings) (doc : Document) (rules : List Rule) (context : Context) :
    List String :=
  (runRules settings doc (rules.map Rule.muted) context).events.filterMap Event.started?

/-- The names of the rules that the linter invokes in a pass. -/
def invoked (linter : Linter) (doc : Document) (context : Context) : List String :=
  invokedBy linter.settings doc linter.rules context

section Invoked

variable {settings : Settings} {doc : Document} {rule : Rule} {context : Context}

/-- A pass takes the same course over rules that tell nothing. -/
theorem verdict_muted (rules : List Rule) (context : Context) :
    (runRules settings doc (rules.map Rule.muted) context).verdict =
      (runRules settings doc rules context).verdict := by
  induction rules, context using pass_induction settings doc with
  | done context => rfl
  | skip rule rest context disabled ih =>
      rw [List.map_cons, @runRules_of_disabled settings doc rule.muted context disabled,
        runRules_of_disabled disabled]
      exact ih
  | stop rule rest context finding enabled found =>
      rw [List.map_cons, @runRules_of_finding settings doc rule.muted context enabled finding found,
        runRules_of_finding enabled found]
      rfl
  | next rule rest context enabled clean ih =>
      rw [List.map_cons, @runRules_of_clean settings doc rule.muted context enabled clean,
        runRules_of_clean enabled clean]
      exact ih

theorem invokedBy_of_disabled (disabled : ¬settings.isEnabled rule.name = true)
    (rest : List Rule) :
    invokedBy settings doc (rule :: rest) context = invokedBy settings doc rest context := by
  rw [invokedBy, List.map_cons, @runRules_of_disabled settings doc rule.muted context disabled]
  rfl

theorem invokedBy_of_finding (enabled : settings.isEnabled rule.name = true) {finding : Finding}
    (found : (rule.check doc context).finding = some finding) (rest : List Rule) :
    invokedBy settings doc (rule :: rest) context = [rule.name] := by
  rw [invokedBy, List.map_cons,
    @runRules_of_finding settings doc rule.muted context enabled finding found]
  rfl

theorem invokedBy_of_clean (enabled : settings.isEnabled rule.name = true)
    (clean : (rule.check doc context).finding = none) (rest : List Rule) :
    invokedBy settings doc (rule :: rest) context =
      rule.name :: invokedBy settings doc rest (rule.check doc context).context := by
  rw [invokedBy, List.map_cons, @runRules_of_clean settings doc rule.muted context enabled clean]
  rfl

theorem invokedBy_append (first second : List Rule) (context : Context) :
    invokedBy settings doc (first ++ second) context =
      invokedBy settings doc first context ++
        if (runRules settings doc first context).finding.isSome then []
        else invokedBy settings doc second (runRules settings doc first context).context := by
  obtain ⟨sameFinding, sameContext⟩ :=
    Prod.mk.inj (@verdict_muted settings doc first context)
  rw [invokedBy, List.map_append, runRules_append]
  cases found : (runRules settings doc first context).finding with
  | some finding =>
      rw [Outcome.andThen_of_finding (sameFinding.trans found)]
      exact (List.append_nil _).symm
  | none =>
      rw [Outcome.andThen_of_clean (sameFinding.trans found), sameContext]
      exact List.filterMap_append

/-- Rules that are switched off are not invoked. -/
theorem invokedBy_filter (rules : List Rule) (context : Context) :
    invokedBy settings doc (rules.filter fun rule => settings.isEnabled rule.name) context =
      invokedBy settings doc rules context := by
  induction rules, context using pass_induction settings doc with
  | done context => rfl
  | skip rule rest context disabled ih =>
      rw [List.filter_cons, if_neg disabled, invokedBy_of_disabled disabled, ih]
  | stop rule rest context finding enabled found =>
      rw [List.filter_cons, if_pos enabled, invokedBy_of_finding enabled found,
        invokedBy_of_finding enabled found]
  | next rule rest context enabled clean ih =>
      rw [List.filter_cons, if_pos enabled, invokedBy_of_clean enabled clean,
        invokedBy_of_clean enabled clean, ih]

/-- Rules that find nothing are all invoked, unless they are switched off. -/
theorem Clears.invokedBy_eq {rules : List Rule} {left : Context}
    (clears : Clears settings doc rules context left) :
    invokedBy settings doc rules context = (rules.map Rule.name).filter settings.isEnabled := by
  induction clears with
  | nil => rfl
  | skip disabled _ ih =>
      have off := Bool.eq_false_iff.mp disabled
      rw [invokedBy_of_disabled off, ih, List.map_cons, List.filter_cons_of_neg off]
  | check enabled clean _ ih =>
      rw [invokedBy_of_clean enabled clean, ih, List.map_cons, List.filter_cons_of_pos enabled]

/-- A finding ends the calls. -/
theorem Clears.invokedBy_split {before : List Rule} {handed : Context}
    (clears : Clears settings doc before context handed)
    (enabled : settings.isEnabled rule.name = true) {finding : Finding}
    (found : (rule.check doc handed).finding = some finding) (behind : List Rule) :
    invokedBy settings doc (before ++ rule :: behind) context =
      (before.map Rule.name).filter settings.isEnabled ++ [rule.name] := by
  obtain ⟨clean, isHanded⟩ := Prod.mk.inj clears.verdict_eq
  rw [invokedBy_append, clean, isHanded, clears.invokedBy_eq, invokedBy_of_finding enabled found]
  rfl

end Invoked

/-- Passes of the same active rules come to the same verdict and invoke the same rules. -/
theorem run_withRules {linter : Linter} {kept : List Rule}
    (sameActive : (linter.withRules kept).active = linter.active) (doc : Document)
    (context : Context) :
    ((linter.withRules kept).run doc context).verdict = (linter.run doc context).verdict ∧
      (linter.withRules kept).invoked doc context = linter.invoked doc context := by
  constructor
  · rw [verdict_run, verdict_run, sameActive]
  · calc
      (linter.withRules kept).invoked doc context
          = invokedBy linter.settings doc (linter.withRules kept).active context :=
        (invokedBy_filter kept context).symm
      _ = invokedBy linter.settings doc linter.active context := by rw [sameActive]
      _ = linter.invoked doc context := invokedBy_filter linter.rules context

end Linter

/-- A pass has a finding exactly if its rules split at an enabled rule that has it, in the context
that the enabled rules in front have left without a finding.  The pass leaves the context of that
rule and invokes no rule behind it.  A pass over rules in two parts goes on with the second part
only after a clean pass over the first.  Rules that are switched off can be left out, and a clean
pass invokes the active rules. -/
theorem pass_fails_fast (linter : Linter) (doc : Document) (context : Context) :
    (∀ finding left names,
      ((linter.run doc context).finding = some finding ∧
        (linter.run doc context).context = left ∧ linter.invoked doc context = names) ↔
      ∃ before rule behind handed, linter.rules = before ++ rule :: behind ∧
        linter.settings.isEnabled rule.name = true ∧
        Linter.Clears linter.settings doc before context handed ∧
        (rule.check doc handed).finding = some finding ∧
        (rule.check doc handed).context = left ∧
        (linter.withRules before).activeRules ++ [rule.name] = names) ∧
    (∀ first second,
      (linter.withRules (first ++ second)).run doc context =
        ((linter.withRules first).run doc context).andThen ((linter.withRules second).run doc) ∧
      (linter.withRules (first ++ second)).invoked doc context =
        (linter.withRules first).invoked doc context ++
          if ((linter.withRules first).run doc context).finding.isSome then []
          else (linter.withRules second).invoked doc
            ((linter.withRules first).run doc context).context) ∧
    (∀ kept, (linter.withRules kept).active = linter.active →
      ((linter.withRules kept).run doc context).finding = (linter.run doc context).finding ∧
      ((linter.withRules kept).run doc context).context = (linter.run doc context).context ∧
      (linter.withRules kept).invoked doc context = linter.invoked doc context) ∧
    ((linter.run doc context).finding = none →
      linter.invoked doc context = linter.activeRules) := by
  refine ⟨?_, ?_, ?_, ?_⟩
  · intro finding left names
    constructor
    · rintro ⟨found, rfl, rfl⟩
      obtain ⟨before, rule, behind, handed, split, enabled, clears, isFound⟩ :=
        Linter.exists_split_of_finding found
      have verdict := clears.runRules_split enabled isFound behind
      have invoked := clears.invokedBy_split enabled isFound behind
      rw [← split] at verdict invoked
      exact ⟨before, rule, behind, handed, split, enabled, clears, isFound,
        (congrArg Prod.snd verdict).symm, invoked.symm⟩
    · rintro ⟨before, rule, behind, handed, split, enabled, clears, isFound, rfl, rfl⟩
      have verdict := clears.runRules_split enabled isFound behind
      have invoked := clears.invokedBy_split enabled isFound behind
      rw [← split] at verdict invoked
      exact ⟨(congrArg Prod.fst verdict).trans isFound, congrArg Prod.snd verdict, invoked⟩
  · intro first second
    exact ⟨Linter.runRules_append first second context,
      Linter.invokedBy_append first second context⟩
  · intro kept sameActive
    obtain ⟨sameVerdict, sameInvoked⟩ := Linter.run_withRules sameActive doc context
    exact ⟨congrArg Prod.fst sameVerdict, congrArg Prod.snd sameVerdict, sameInvoked⟩
  · intro clean
    exact (Linter.clears_of_clean clean).invokedBy_eq

/-- A rule that reads what the first rule has claimed, with a rule in between that is switched off,
and the rules up to there as a clean pass. -/
theorem pass_fails_fast_claimed :
    let claims : Rule := ⟨"claims", "", "", fun _ context => { context := context.claim 0 }⟩
    let refuses (name : String) : Rule := ⟨name, "", "", fun doc context =>
      { finding := if context.claims.contains 0 then some (.located name doc 1 1 "") else none
        context := context.claim 7 }⟩
    let linter : Linter :=
      { rules := [claims, refuses "off", refuses "on", claims]
        settings := { rules := [("off", some false)] } }
    let doc := Document.ofPath "test.psc" ""
    ((linter.run doc .fresh).finding = some (.located "on" doc 1 1 "") ∧
      (linter.run doc .fresh).context = (Context.fresh.claim 0).claim 7 ∧
      linter.invoked doc .fresh = ["claims", "on"]) ∧
    ((linter.withRules [claims, refuses "on", claims]).active = linter.active ∧
      (linter.withRules [claims, refuses "on", claims]).invoked doc .fresh = ["claims", "on"]) ∧
    ((linter.withRules [claims, refuses "off"]).run doc .fresh).finding = none ∧
      (linter.withRules [claims, refuses "off"]).invoked doc .fresh = ["claims"] := by
  intro claims refuses linter doc
  have clears : Linter.Clears linter.settings doc [claims, refuses "off"] .fresh
      (Context.fresh.claim 0) :=
    .check (by decide) rfl (.skip (by decide) (.nil _))
  obtain ⟨splits, -, deletes, -⟩ := pass_fails_fast linter doc .fresh
  obtain ⟨-, -, -, invokes⟩ := pass_fails_fast (linter.withRules [claims, refuses "off"]) doc .fresh
  have found := (splits (.located "on" doc 1 1 "") ((Context.fresh.claim 0).claim 7)
    ["claims", "on"]).mpr ⟨[claims, refuses "off"], refuses "on", [claims], Context.fresh.claim 0,
      rfl, by decide, clears, by decide +kernel, rfl, by decide +kernel⟩
  have sameActive : (linter.withRules [claims, refuses "on", claims]).active = linter.active := rfl
  have clean := congrArg Prod.fst clears.verdict_eq
  exact ⟨found, ⟨sameActive, (deletes _ sameActive).2.2.trans found.2.2⟩, clean,
    (invokes clean).trans (by decide +kernel)⟩

end ScriptLint
