import ScriptLint.Linter.Batch
import ScriptLint.Proofs.Composition

/-!
# Rules that are switched off

A linter that passes over some of its rules does what a linter of the other rules does, and tells
besides which rules it passes over.  This goes for single passes and for batches.  A linter that
passes over nothing runs its rules on every script that loads, in order, up to the first rule that
has a finding.
-/

namespace ScriptLint

attribute [local irreducible] Document.normalizedLines

/-! ## What events tell of rules -/

namespace Event

/-- The event tells of a rule that is passed over. -/
def isSkipping : Event → Bool
  | .skipping _ => true
  | _ => false

/-- The rule that the event says is run, and the name of the script. -/
def run? : Event → Option (String × String)
  | .running rule file => some (rule, file)
  | _ => none

end Event

/-- The events but for those that tell of a rule that is passed over. -/
def unskipped (events : List Event) : List Event := events.filter fun event => !event.isSkipping

/-- The rules that the events say are run, each with the name of the script, in order. -/
def runs (events : List Event) : List (String × String) := events.filterMap Event.run?

/-- None of the events tells of a rule that is run or passed over. -/
def Quiet (events : List Event) : Prop :=
  ∀ event ∈ events, event.isSkipping = false ∧ event.run? = none

theorem unskipped_append (first second : List Event) :
    unskipped (first ++ second) = unskipped first ++ unskipped second :=
  List.filter_append first second

theorem runs_append (first second : List Event) :
    runs (first ++ second) = runs first ++ runs second :=
  List.filterMap_append

theorem runs_unskipped (events : List Event) : runs (unskipped events) = runs events := by
  rw [unskipped, runs, List.filterMap_filter]
  refine congrArg (events.filterMap ·) (funext fun event => ?_)
  cases event <;> rfl

theorem Quiet.unskipped_eq {events : List Event} (quiet : Quiet events) :
    unskipped events = events := by
  refine List.filter_eq_self.mpr fun event member => ?_
  rw [(quiet event member).1, Bool.not_false]

theorem Quiet.runs_eq {events : List Event} (quiet : Quiet events) : runs events = [] :=
  List.filterMap_eq_nil_iff.mpr fun event member => (quiet event member).2

theorem Quiet.append {first second : List Event} (firstQuiet : Quiet first)
    (secondQuiet : Quiet second) : Quiet (first ++ second) :=
  List.forall_mem_append.mpr ⟨firstQuiet, secondQuiet⟩

theorem quiet_map {α : Type} {tell : α → Event}
    (each : ∀ what, (tell what).isSkipping = false ∧ (tell what).run? = none) (list : List α) :
    Quiet (list.map tell) := by
  intro event member
  obtain ⟨what, -, rfl⟩ := List.mem_map.mp member
  exact each what

/-- Only a linter tells of rules that are run or passed over. -/
theorem Rule.quiet_check {rule : Rule} (catalogued : rule ∈ all) (doc : Document)
    (context : Context) : Quiet (rule.check doc context).events := by
  obtain stateless | rfl | ⟨kind, rfl⟩ := cases_of_mem_all catalogued
  · rw [stateless.check_eq]
    exact List.forall_mem_nil _
  · cases read : readHeader doc with
    | error blame =>
        rw [scriptName_check_of_error read]
        exact List.forall_mem_nil _
    | ok header =>
        rw [scriptName_check_of_ok read]
        exact List.forall_mem_singleton.mpr ⟨rfl, rfl⟩
  · rw [kind.check_rule]
    cases collected : Block.openings kind context.claims 0 doc.normalizedLines with
    | error faulty =>
        rw [Block.check_of_error collected]
        exact List.forall_mem_nil _
    | ok opened =>
        rw [Block.check_of_ok collected]
        exact quiet_map (fun _ => ⟨rfl, rfl⟩) _

/-! ## Passes -/

/-- The outcome without a word on the rules that are passed over. -/
def Outcome.unskipped (outcome : Outcome) : Outcome :=
  { outcome with events := ScriptLint.unskipped outcome.events }

theorem Outcome.unskipped_after (events : List Event) (outcome : Outcome) :
    (outcome.after events).unskipped =
      outcome.unskipped.after (ScriptLint.unskipped events) := by
  simp only [Outcome.unskipped, Outcome.after, unskipped_append]

/-- The rules that checks in order get to: all up to the first one with a finding. -/
def reached (doc : Document) : List Rule → Context → List Rule
  | [], _ => []
  | rule :: rest, context =>
      let outcome := rule.check doc context
      rule :: if outcome.finding.isSome then [] else reached doc rest outcome.context

namespace Linter

variable {linter : Linter} {workspace : Workspace}

theorem unskipped_running {rule : Rule} (catalogued : rule ∈ Rule.all) (doc : Document)
    (context : Context) :
    unskipped (.running rule.name doc.fileName :: (rule.check doc context).events) =
      .running rule.name doc.fileName :: (rule.check doc context).events := by
  rw [← List.singleton_append, unskipped_append,
    (Rule.quiet_check catalogued doc context).unskipped_eq]
  rfl

theorem runs_running {rule : Rule} (catalogued : rule ∈ Rule.all) (doc : Document)
    (context : Context) :
    runs (.running rule.name doc.fileName :: (rule.check doc context).events) =
      [(rule.name, doc.fileName)] := by
  rw [← List.singleton_append, runs_append, (Rule.quiet_check catalogued doc context).runs_eq]
  rfl

/-- A pass without a word on the rules that are passed over is one over the active rules. -/
theorem unskipped_runRules (settings : Settings) (doc : Document) {rules : List Rule}
    (catalogued : ∀ rule ∈ rules, rule ∈ Rule.all) (context : Context) :
    (runRules settings doc rules context).unskipped =
      runRules {} doc (rules.filter fun rule => settings.isEnabled rule.name) context := by
  induction rules, context using pass_induction settings doc with
  | done context => rfl
  | skip rule rest context disabled ih =>
      rw [runRules_of_disabled disabled, List.filter_cons, if_neg disabled,
        Outcome.unskipped_after, ih (List.forall_mem_cons.mp catalogued).2]
      rfl
  | stop rule rest context finding enabled found =>
      rw [runRules_of_finding enabled found, List.filter_cons, if_pos enabled,
        runRules_of_finding rfl found, Outcome.unskipped, unskipped_append,
        unskipped_running (catalogued rule List.mem_cons_self)]
      rfl
  | next rule rest context enabled clean ih =>
      rw [runRules_of_clean enabled clean, List.filter_cons, if_pos enabled,
        runRules_of_clean rfl clean, Outcome.unskipped_after,
        unskipped_running (catalogued rule List.mem_cons_self),
        ih (List.forall_mem_cons.mp catalogued).2]

/-- With nothing switched off, a pass runs its rules up to the first one with a finding. -/
theorem runs_runRules (doc : Document) {rules : List Rule}
    (catalogued : ∀ rule ∈ rules, rule ∈ Rule.all) (context : Context) :
    runs (runRules {} doc rules context).events =
      (reached doc rules context).map fun rule => (rule.name, doc.fileName) := by
  induction rules, context using pass_induction {} doc with
  | done context => rfl
  | skip rule rest context disabled ih => exact absurd rfl disabled
  | stop rule rest context finding enabled found =>
      rw [runRules_of_finding enabled found, runs_append,
        runs_running (catalogued rule List.mem_cons_self), reached, found]
      rfl
  | next rule rest context enabled clean ih =>
      rw [runRules_of_clean enabled clean, Outcome.after, runs_append,
        runs_running (catalogued rule List.mem_cons_self), reached, clean,
        ih (List.forall_mem_cons.mp catalogued).2]
      rfl

/-- A pass depends on the settings only by the switches of its rules. -/
theorem runRules_congr {settings other : Settings} {rules : List Rule}
    (same : ∀ rule ∈ rules, settings.isEnabled rule.name = other.isEnabled rule.name)
    (doc : Document) (context : Context) :
    runRules settings doc rules context = runRules other doc rules context := by
  induction rules generalizing context with
  | nil => rfl
  | cons rule rest ih =>
      obtain ⟨sameFirst, sameRest⟩ := List.forall_mem_cons.mp same
      simp only [runRules, sameFirst, ih sameRest]

theorem activeRules_eq (linter : Linter) : linter.activeRules = linter.active.map Rule.name :=
  List.filter_map

/-- The linter of the active rules, with no rule switched off. -/
def unswitched (linter : Linter) : Linter :=
  { rules := linter.active, excludes := linter.excludes }

theorem unswitched_ofSettings (rules : List Rule) (excludes : List String) (settings : Settings) :
    (ofSettings rules excludes settings).unswitched =
      { rules := rules.filter fun rule => settings.isEnabled rule.name
        excludes := excludes ++ settings.exclude } := rfl

theorem unskipped_run (catalogued : ∀ rule ∈ linter.rules, rule ∈ Rule.all) (doc : Document)
    (context : Context) :
    (linter.run doc context).unskipped = linter.unswitched.run doc context :=
  unskipped_runRules linter.settings doc catalogued context

end Linter

/-! ## Batches -/

/-- The value without a word on the rules that are passed over. -/
def Logged.unskipped {α : Type} (logged : Logged α) : Logged α :=
  { logged with events := ScriptLint.unskipped logged.events }

/-- The documents of the scripts, up to the first one that does not load. -/
def Document.loadAll (workspace : Workspace) : List String → List Document
  | [] => []
  | path :: rest =>
      match load workspace path with
      | .error _ => []
      | .ok doc => doc :: loadAll workspace rest

namespace Linter

variable {linter : Linter} {workspace : Workspace}

theorem collect_unswitched (paths : List String) :
    linter.unswitched.collect workspace paths = linter.collect workspace paths := by
  induction paths with
  | nil => rfl
  | cons path rest ih =>
      rw [collect, collect, ih]
      rfl

theorem quiet_collect (paths : List String) :
    Quiet (linter.collect workspace paths).events := by
  induction paths with
  | nil => exact List.forall_mem_nil _
  | cons path rest ih =>
      rw [collect]
      split_ifs
      · cases linter.discover workspace path with
        | error fault => exact List.forall_mem_nil _
        | ok discovery => exact (quiet_map (fun _ => ⟨rfl, rfl⟩) _).append ih
      · exact ih

theorem unskipped_analyzeScripts (catalogued : ∀ rule ∈ linter.rules, rule ∈ Rule.all)
    (scripts : List String) (analysis : Analysis) :
    (linter.analyzeScripts workspace scripts analysis).unskipped =
      linter.unswitched.analyzeScripts workspace scripts analysis := by
  induction scripts generalizing analysis with
  | nil => rfl
  | cons path rest ih =>
      cases loaded : Document.load workspace path with
      | error error =>
          simp only [analyzeScripts, loaded]
          rfl
      | ok doc =>
          simp only [analyzeScripts, loaded, ← unskipped_run catalogued, Outcome.unskipped, ← ih,
            Logged.unskipped]
          rw [← List.singleton_append, unskipped_append, unskipped_append]
          rfl

theorem runs_analyzeScripts (scripts : List String) (analysis : Analysis) :
    runs (linter.analyzeScripts workspace scripts analysis).events =
      (Document.loadAll workspace scripts).flatMap fun doc =>
        runs (linter.run doc .fresh).events := by
  induction scripts generalizing analysis with
  | nil => rfl
  | cons path rest ih =>
      cases loaded : Document.load workspace path with
      | error error =>
          simp only [analyzeScripts, Document.loadAll, loaded]
          rfl
      | ok doc =>
          simp only [analyzeScripts, Document.loadAll, loaded, List.flatMap_cons]
          rw [← List.singleton_append, runs_append, runs_append, ih]
          rfl

theorem unskipped_analyze (catalogued : ∀ rule ∈ linter.rules, rule ∈ Rule.all)
    (paths : List String) :
    (linter.analyze workspace paths).unskipped = linter.unswitched.analyze workspace paths := by
  have told := (@quiet_collect linter workspace paths).unskipped_eq
  rw [analyze, analyze, collect_unswitched]
  cases collected : (linter.collect workspace paths).value with
  | error fault => simp only [Logged.unskipped, told]
  | ok scripts =>
      simp only [← unskipped_analyzeScripts catalogued, Logged.unskipped]
      cases linted : (linter.analyzeScripts workspace scripts {}).value with
      | error error =>
          simp only [unskipped_append, told]
          rfl
      | ok analysis =>
          simp only [unskipped_append, told]
          rfl

/-- A batch runs what the passes over its documents run. -/
theorem runs_analyze {paths scripts : List String}
    (collected : (linter.collect workspace paths).value = .ok scripts) :
    runs (linter.analyze workspace paths).events =
      (Document.loadAll workspace scripts).flatMap fun doc =>
        runs (linter.run doc .fresh).events := by
  have told := (@quiet_collect linter workspace paths).runs_eq
  rw [← runs_analyzeScripts scripts {}, analyze, collected]
  simp only
  cases linted : (linter.analyzeScripts workspace scripts {}).value with
  | error error =>
      simp only [runs_append, told]
      rfl
  | ok analysis =>
      simp only [runs_append, told]
      exact List.append_nil _

end Linter
end ScriptLint
