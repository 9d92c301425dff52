import Mathlib.Data.List.Forall2
import ScriptLint.Command.Run

/-!
# A batch is its scripts

The scripts that a list of paths stands for are loaded one after the other.  Either all of them
load, or one of them is the first that does not.  In the first case the analysis holds what linting
each document by itself gives, so that the analyses of two lists of paths add up; in the second
case there is none.  The command that lints exits with zero exactly if nothing fails and nothing is
found.
-/

namespace ScriptLint

/-! ## Loading -/

/-- The documents are those of the scripts, in order. -/
def Loads (workspace : Workspace) (scripts : List String) (docs : List Document) : Prop :=
  List.Forall₂ (fun path doc => Document.load workspace path = .ok doc) scripts docs

/-- The first of the scripts that does not load has this error. -/
def LoadsUpTo (workspace : Workspace) (scripts : List String) (error : Document.LoadError) : Prop :=
  ∃ before path after docs, scripts = before ++ path :: after ∧ Loads workspace before docs ∧
    Document.load workspace path = .error error

theorem Loads.append {workspace : Workspace} {first second : List String}
    {left right : List Document} (firstLoads : Loads workspace first left)
    (secondLoads : Loads workspace second right) :
    Loads workspace (first ++ second) (left ++ right) := by
  induction firstLoads with
  | nil => exact secondLoads
  | cons loaded _ ih => exact .cons loaded ih

theorem exists_loads_iff {workspace : Workspace} {scripts : List String} :
    (∃ docs, Loads workspace scripts docs) ↔
      ∀ path ∈ scripts, ∃ doc, Document.load workspace path = .ok doc := by
  induction scripts with
  | nil => exact ⟨fun _ => by simp, fun _ => ⟨[], .nil⟩⟩
  | cons path rest ih =>
      rw [List.forall_mem_cons, ← ih]
      constructor
      · rintro ⟨_, _ | ⟨loaded, loads⟩⟩
        exact ⟨⟨_, loaded⟩, _, loads⟩
      · rintro ⟨⟨doc, loaded⟩, docs, loads⟩
        exact ⟨doc :: docs, .cons loaded loads⟩

theorem LoadsUpTo.cons {workspace : Workspace} {path : String} {rest : List String}
    {doc : Document} {error : Document.LoadError} (loaded : Document.load workspace path = .ok doc)
    (later : LoadsUpTo workspace rest error) : LoadsUpTo workspace (path :: rest) error := by
  obtain ⟨before, failing, after, docs, rfl, loads, failed⟩ := later
  exact ⟨path :: before, failing, after, doc :: docs, rfl, .cons loaded loads, failed⟩

/-- Either all scripts load, or one of them is the first that does not. -/
theorem loads_or_loadsUpTo (workspace : Workspace) (scripts : List String) :
    (∃ docs, Loads workspace scripts docs) ∨ ∃ error, LoadsUpTo workspace scripts error := by
  induction scripts with
  | nil => exact Or.inl ⟨[], .nil⟩
  | cons path rest ih =>
      cases loaded : Document.load workspace path with
      | error error => exact Or.inr ⟨error, [], path, rest, [], rfl, .nil, loaded⟩
      | ok doc =>
          rcases ih with ⟨docs, loads⟩ | ⟨error, later⟩
          · exact Or.inl ⟨doc :: docs, .cons loaded loads⟩
          · exact Or.inr ⟨error, later.cons loaded⟩

/-! ## Analyses of documents -/

namespace Analysis

/-- What linting each document by itself gives. -/
def ofDocuments (linter : Linter) (docs : List Document) : Analysis :=
  { report := { findings := docs.filterMap linter.lint, filesChecked := docs.length }
    failures := docs.filterMap fun doc => (linter.lint doc).map (doc, ·) }

/-- One analysis after the other; the numbers of scripts are added. -/
instance : Append Analysis where
  append first second :=
    { report :=
        { findings := first.report.findings ++ second.report.findings
          filesChecked := first.report.filesChecked + second.report.filesChecked }
      failures := first.failures ++ second.failures }

@[ext]
theorem ext {first second : Analysis}
    (findings : first.report.findings = second.report.findings)
    (filesChecked : first.report.filesChecked = second.report.filesChecked)
    (failures : first.failures = second.failures) : first = second := by
  obtain ⟨⟨_, _⟩, _⟩ := first
  obtain ⟨⟨_, _⟩, _⟩ := second
  cases findings
  cases filesChecked
  cases failures
  rfl

@[simp]
theorem findings_append (first second : Analysis) :
    (first ++ second).report.findings = first.report.findings ++ second.report.findings := rfl

@[simp]
theorem filesChecked_append (first second : Analysis) :
    (first ++ second).report.filesChecked =
      first.report.filesChecked + second.report.filesChecked := rfl

@[simp]
theorem failures_append (first second : Analysis) :
    (first ++ second).failures = first.failures ++ second.failures := rfl

theorem ofDocuments_append (linter : Linter) (left right : List Document) :
    ofDocuments linter (left ++ right) = ofDocuments linter left ++ ofDocuments linter right := by
  ext1 <;> simp [ofDocuments]

theorem empty_append (analysis : Analysis) : ({} : Analysis) ++ analysis = analysis := by
  ext1 <;> simp

/-- Recording a document and going on is going on with one document more. -/
theorem record_append (linter : Linter) (analysis : Analysis) (doc : Document)
    (docs : List Document) :
    analysis.record doc (linter.lint doc) ++ ofDocuments linter docs =
      analysis ++ ofDocuments linter (doc :: docs) := by
  have counts (count more : Nat) : count + 1 + more = count + (more + 1) := by omega
  cases outcome : linter.lint doc <;> ext1 <;>
    simp [ofDocuments, record, Report.record, outcome, counts]

/-- The findings of the failing scripts are those of the report. -/
theorem findings_of_failures (linter : Linter) (docs : List Document) :
    (ofDocuments linter docs).failures.map Prod.snd =
      (ofDocuments linter docs).report.findings := by
  simp only [ofDocuments, List.map_filterMap, Option.map_map, Function.comp_def, Option.map_id']

theorem hasFindings_eq_false_iff (linter : Linter) (docs : List Document) :
    (ofDocuments linter docs).report.hasFindings = false ↔
      ∀ doc ∈ docs, linter.lint doc = none := by
  simp [ofDocuments, Report.hasFindings]

end Analysis

/-! ## Batches -/

namespace Linter

variable {linter : Linter} {workspace : Workspace}

theorem analyzeScripts_of_loads {scripts : List String} {docs : List Document}
    (loads : Loads workspace scripts docs) (analysis : Analysis) :
    (linter.analyzeScripts workspace scripts analysis).value =
      .ok (analysis ++ .ofDocuments linter docs) := by
  induction loads generalizing analysis with
  | nil =>
      refine congrArg Except.ok ?_
      ext1 <;> simp [Analysis.ofDocuments]
  | cons loaded _ ih =>
      simp only [analyzeScripts, loaded]
      rw [ih, ← Analysis.record_append]
      rfl

theorem analyzeScripts_of_loadsUpTo {scripts : List String} {error : Document.LoadError}
    (fails : LoadsUpTo workspace scripts error) (analysis : Analysis) :
    (linter.analyzeScripts workspace scripts analysis).value = .error error := by
  obtain ⟨before, path, after, docs, rfl, loads, failed⟩ := fails
  -- What was recorded so far changes along the scripts that load, and is lost at the first failure.
  induction loads generalizing analysis with
  | nil => simp only [List.nil_append, analyzeScripts, failed]
  | cons loaded _ ih => simp only [List.cons_append, analyzeScripts, loaded, ih]

theorem analyze_of_fault {paths : List String} {fault : Glob.Fault}
    (collected : (linter.collect workspace paths).value = .error fault) :
    (linter.analyze workspace paths).value = .error (.badPattern fault) := by
  simp only [analyze, collected]

theorem analyze_of_loads {paths scripts : List String} {docs : List Document}
    (collected : (linter.collect workspace paths).value = .ok scripts)
    (loads : Loads workspace scripts docs) :
    (linter.analyze workspace paths).value = .ok (.ofDocuments linter docs) := by
  have linted : (linter.analyzeScripts workspace scripts {}).value =
      .ok (.ofDocuments linter docs) := by
    rw [analyzeScripts_of_loads loads, Analysis.empty_append]
  simp only [analyze, collected, linted]

theorem analyze_of_loadsUpTo {paths scripts : List String} {error : Document.LoadError}
    (collected : (linter.collect workspace paths).value = .ok scripts)
    (fails : LoadsUpTo workspace scripts error) :
    (linter.analyze workspace paths).value = .error (.unloadable error) := by
  simp only [analyze, collected, analyzeScripts_of_loadsUpTo fails]

theorem exists_collect_of_analyze {paths : List String} {analysis : Analysis}
    (analyzed : (linter.analyze workspace paths).value = .ok analysis) :
    ∃ scripts, (linter.collect workspace paths).value = .ok scripts := by
  cases collected : (linter.collect workspace paths).value with
  | error fault => exact nomatch (analyze_of_fault collected).symm.trans analyzed
  | ok scripts => exact ⟨scripts, rfl⟩

/-- If the scripts are found, a batch has a result exactly if they load. -/
theorem analyze_eq_ok_iff {paths scripts : List String} {analysis : Analysis}
    (collected : (linter.collect workspace paths).value = .ok scripts) :
    (linter.analyze workspace paths).value = .ok analysis ↔
      ∃ docs, Loads workspace scripts docs ∧ analysis = .ofDocuments linter docs := by
  constructor
  · intro analyzed
    rcases loads_or_loadsUpTo workspace scripts with ⟨docs, loads⟩ | ⟨error, fails⟩
    · have same := analyzed.symm.trans (analyze_of_loads collected loads)
      exact ⟨docs, loads, Except.ok.inj same⟩
    · exact nomatch (analyze_of_loadsUpTo collected fails).symm.trans analyzed
  · rintro ⟨docs, loads, rfl⟩
    exact analyze_of_loads collected loads

/-- If the scripts are found, only a script that does not load leaves a batch without a result, and
the first one is to blame. -/
theorem analyze_eq_error_iff {paths scripts : List String} {error : BatchError}
    (collected : (linter.collect workspace paths).value = .ok scripts) :
    (linter.analyze workspace paths).value = .error error ↔
      ∃ cause, LoadsUpTo workspace scripts cause ∧ error = .unloadable cause := by
  constructor
  · intro failed
    rcases loads_or_loadsUpTo workspace scripts with ⟨docs, loads⟩ | ⟨cause, fails⟩
    · exact nomatch (analyze_of_loads collected loads).symm.trans failed
    · have same := failed.symm.trans (analyze_of_loadsUpTo collected fails)
      exact ⟨cause, fails, Except.error.inj same⟩
  · rintro ⟨cause, fails, rfl⟩
    exact analyze_of_loadsUpTo collected fails

/-- The scripts that one path stands for. -/
def scriptsAt (linter : Linter) (workspace : Workspace) (path : String) :
    Except Glob.Fault (List String) :=
  if workspace.isDirectory path then (linter.discover workspace path).map Discovery.scripts
  else .ok [path]

theorem collect_cons_eq_ok_iff {path : String} {rest scripts : List String} :
    (linter.collect workspace (path :: rest)).value = .ok scripts ↔
      ∃ here later, linter.scriptsAt workspace path = .ok here ∧
        (linter.collect workspace rest).value = .ok later ∧ scripts = here ++ later := by
  by_cases isDirectory : workspace.isDirectory path = true
  · cases found : linter.discover workspace path with
    | error fault => simp [collect, scriptsAt, isDirectory, found, Except.map]
    | ok discovery =>
        cases later : (linter.collect workspace rest).value <;>
          simp [collect, scriptsAt, isDirectory, found, later, Except.map, eq_comm]
  · cases later : (linter.collect workspace rest).value <;>
      simp [collect, scriptsAt, isDirectory, later, Except.map, eq_comm]

theorem collect_append {first second left right : List String}
    (firstCollected : (linter.collect workspace first).value = .ok left)
    (secondCollected : (linter.collect workspace second).value = .ok right) :
    (linter.collect workspace (first ++ second)).value = .ok (left ++ right) := by
  induction first generalizing left with
  | nil =>
      obtain rfl := Except.ok.inj firstCollected
      exact secondCollected
  | cons path rest ih =>
      obtain ⟨here, later, found, collected, rfl⟩ := collect_cons_eq_ok_iff.mp firstCollected
      refine collect_cons_eq_ok_iff.mpr ⟨here, later ++ right, found, ih collected, ?_⟩
      exact List.append_assoc here later right

end Linter

/-! ## The command that lints -/

namespace Command

/-- The settings load, the scripts that the paths stand for are found, all of them load, and linting
finds nothing in any of them. -/
def FindsNothing (environment : Environment) (workspace : Workspace) (settingsPath : Option String)
    (paths : List String) (rules : Option String) (excludes : List String) : Prop :=
  ∃ settings linter scripts docs,
    settingsAt workspace
      (Settings.locate workspace settingsPath environment.userDirectory? paths) = .ok settings ∧
    linter = Linter.ofSettings (chosenRules rules settings).value excludes settings ∧
    (linter.collect workspace paths).value = .ok scripts ∧ Loads workspace scripts docs ∧
    ∀ doc ∈ docs, linter.lint doc = none

section Exit

variable {environment : Environment} {workspace : Workspace} {settingsPath rules : Option String}
  {paths excludes : List String}

theorem check_of_findsNothing (format : Format)
    (nothing : FindsNothing environment workspace settingsPath paths rules excludes) :
    (check environment workspace settingsPath paths format rules excludes).exitCode = 0 := by
  obtain ⟨settings, linter, scripts, docs, loaded, rfl, collected, loads, clean⟩ := nothing
  have analyzed := Linter.analyze_of_loads collected loads
  have none := (Analysis.hasFindings_eq_false_iff _ docs).mpr clean
  simp only [check, loaded, analyzed, none, Bool.false_eq_true, if_false]

theorem check_of_not_findsNothing (format : Format)
    (something : ¬FindsNothing environment workspace settingsPath paths rules excludes) :
    (check environment workspace settingsPath paths format rules excludes).exitCode = 1 := by
  cases loaded : settingsAt workspace
      (Settings.locate workspace settingsPath environment.userDirectory? paths) with
  | error fault => simp only [check, loaded, failed]
  | ok settings =>
      cases analyzed : ((Linter.ofSettings (chosenRules rules settings).value excludes
          settings).analyze workspace paths).value with
      | error error => simp only [check, loaded, analyzed, failed]
      | ok analysis =>
          have found : analysis.report.hasFindings = true := by
            obtain ⟨scripts, collected⟩ := Linter.exists_collect_of_analyze analyzed
            obtain ⟨docs, loads, rfl⟩ := (Linter.analyze_eq_ok_iff collected).mp analyzed
            refine Bool.of_not_eq_false fun none => something ?_
            have clean := (Analysis.hasFindings_eq_false_iff _ docs).mp none
            exact ⟨settings, _, scripts, docs, loaded, rfl, collected, loads, clean⟩
          simp only [check, loaded, analyzed, found, if_true]

theorem run_of_check {arguments : List String} {invocation : Invocation} {format : Format}
    (isRead : readArguments environment.settingsPath arguments = .ok invocation)
    (isCheck : invocation.task = .check paths format rules excludes) :
    (run environment workspace arguments).1 =
      check environment workspace invocation.settingsPath paths format rules excludes := by
  simp only [run, isRead, perform, isCheck]

end Exit
end Command

/-- If the scripts of a batch are found, the batch has a result exactly if all of them load; else
the first one that does not is to blame.  The result counts the scripts and holds the findings of
those that fail, each linted by itself in a fresh context.  Batches add up, and the command that
lints exits with zero if it finds nothing and with one otherwise. -/
theorem batch_by_script :
    (∀ (linter : Linter) (workspace : Workspace) (paths scripts : List String),
      (linter.collect workspace paths).value = .ok scripts →
        ((∃ analysis, (linter.analyze workspace paths).value = .ok analysis) ↔
          ∀ path ∈ scripts, ∃ doc, Document.load workspace path = .ok doc) ∧
        (∀ error, (linter.analyze workspace paths).value = .error error ↔
          ∃ cause, LoadsUpTo workspace scripts cause ∧ error = .unloadable cause) ∧
        ∀ analysis, (linter.analyze workspace paths).value = .ok analysis ↔
          ∃ docs, Loads workspace scripts docs ∧ analysis = .ofDocuments linter docs ∧
            analysis.report.filesChecked = scripts.length ∧
            analysis.failures.map Prod.snd = analysis.report.findings) ∧
    (∀ (linter : Linter) (workspace : Workspace) (first second : List String)
        (left right : Analysis),
      (linter.analyze workspace first).value = .ok left →
        (linter.analyze workspace second).value = .ok right →
          (linter.analyze workspace (first ++ second)).value = .ok (left ++ right)) ∧
    ∀ (environment : Command.Environment) (workspace : Workspace) (arguments : List String)
        (invocation : Command.Invocation) (paths : List String) (format : Command.Format)
        (rules : Option String) (excludes : List String),
      Command.readArguments environment.settingsPath arguments = .ok invocation →
        invocation.task = .check paths format rules excludes →
          ((Command.run environment workspace arguments).1.exitCode = 0 ↔
            Command.FindsNothing environment workspace invocation.settingsPath paths rules
              excludes) ∧
          ((Command.run environment workspace arguments).1.exitCode = 1 ↔
            ¬Command.FindsNothing environment workspace invocation.settingsPath paths rules
              excludes) := by
  refine ⟨fun linter workspace paths scripts collected => ⟨?_, ?_, ?_⟩, ?_, ?_⟩
  · rw [← exists_loads_iff]
    constructor
    · rintro ⟨analysis, analyzed⟩
      obtain ⟨docs, loads, -⟩ := (Linter.analyze_eq_ok_iff collected).mp analyzed
      exact ⟨docs, loads⟩
    · rintro ⟨docs, loads⟩
      exact ⟨_, Linter.analyze_of_loads collected loads⟩
  · exact fun error => Linter.analyze_eq_error_iff collected
  · intro analysis
    rw [Linter.analyze_eq_ok_iff collected]
    refine exists_congr fun docs => and_congr_right fun loads => ?_
    refine (and_iff_left_of_imp ?_).symm
    rintro rfl
    exact ⟨loads.length_eq.symm, Analysis.findings_of_failures linter docs⟩
  · intro linter workspace first second left right firstAnalyzed secondAnalyzed
    obtain ⟨_, firstCollected⟩ := Linter.exists_collect_of_analyze firstAnalyzed
    obtain ⟨_, secondCollected⟩ := Linter.exists_collect_of_analyze secondAnalyzed
    obtain ⟨docs, loads, rfl⟩ := (Linter.analyze_eq_ok_iff firstCollected).mp firstAnalyzed
    obtain ⟨more, moreLoad, rfl⟩ := (Linter.analyze_eq_ok_iff secondCollected).mp secondAnalyzed
    rw [← Analysis.ofDocuments_append]
    exact Linter.analyze_of_loads (Linter.collect_append firstCollected secondCollected)
      (loads.append moreLoad)
  · intro environment workspace arguments invocation paths format rules excludes isRead isCheck
    rw [Command.run_of_check isRead isCheck]
    by_cases nothing : Command.FindsNothing environment workspace invocation.settingsPath paths
        rules excludes
    · simp [nothing, Command.check_of_findsNothing format nothing]
    · simp [nothing, Command.check_of_not_findsNothing format nothing]

theorem batch_by_script_mixed :
    let mods : Node := .directory [("B.psc", .file (some " "))]
    let workspace : Workspace :=
      { root := .directory [("C.psc", .file (some "")), ("mods", mods)] }
    let linter : Linter := { rules := [.trailingWhitespace] }
    let rules := "trailing-whitespace"
    ((linter.collect workspace ["mods", "X.psc"]).value = .ok ["mods/B.psc", "X.psc"] ∧
      (linter.analyze workspace ["mods", "X.psc"]).value =
        .error (.unloadable (.notFound "/X.psc"))) ∧
    (∃ left right, (linter.analyze workspace ["mods"]).value = .ok left ∧
      (linter.analyze workspace ["C.psc"]).value = .ok right ∧
      (linter.analyze workspace ["mods", "C.psc"]).value = .ok (left ++ right) ∧
      (left ++ right).report.filesChecked = 2 ∧ (left ++ right).report.findings ≠ []) ∧
    (Command.run {} workspace ["check", "mods", "--rules", rules]).1.exitCode = 1 ∧
    ¬Command.FindsNothing {} workspace none ["mods"] (some rules) [] ∧
    (Command.run {} workspace ["check", "C.psc", "--rules", rules]).1.exitCode = 0 ∧
    Command.FindsNothing {} workspace none ["C.psc"] (some rules) [] := by
  intro mods workspace linter rules
  obtain ⟨each, adds, exits⟩ := batch_by_script
  have loaded : Document.load workspace "mods/B.psc" = .ok ⟨"/mods/B.psc", "B.psc", "B", " "⟩ := by
    decide +kernel
  have otherLoaded : Document.load workspace "C.psc" = .ok ⟨"/C.psc", "C.psc", "C", ""⟩ := by
    decide +kernel
  have missing : Document.load workspace "X.psc" = .error (.notFound "/X.psc") := by decide +kernel
  refine ⟨?_, ?_, ?_⟩
  · have collected : (linter.collect workspace ["mods", "X.psc"]).value =
        .ok ["mods/B.psc", "X.psc"] := by decide +kernel
    obtain ⟨-, failure, -⟩ := each linter workspace _ _ collected
    refine ⟨collected, (failure _).mpr ⟨_, ?_, rfl⟩⟩
    exact ⟨["mods/B.psc"], "X.psc", [], _, rfl, .cons loaded .nil, missing⟩
  · have collected : (linter.collect workspace ["mods"]).value = .ok ["mods/B.psc"] := by
      decide +kernel
    have otherCollected : (linter.collect workspace ["C.psc"]).value = .ok ["C.psc"] := by
      decide +kernel
    obtain ⟨-, -, result⟩ := each linter workspace _ _ collected
    obtain ⟨-, -, otherResult⟩ := each linter workspace _ _ otherCollected
    have analyzed := (result _).mpr ⟨_, .cons loaded .nil, rfl, rfl, by decide +kernel⟩
    have otherAnalyzed :=
      (otherResult _).mpr ⟨_, .cons otherLoaded .nil, rfl, rfl, by decide +kernel⟩
    have both := adds linter workspace ["mods"] ["C.psc"] _ _ analyzed otherAnalyzed
    refine ⟨_, _, analyzed, otherAnalyzed, both, ?_, ?_⟩
    · rfl
    · decide +kernel
  · have failing :
        (Command.run {} workspace ["check", "mods", "--rules", rules]).1.exitCode = 1 := by
      decide +kernel
    have passing :
        (Command.run {} workspace ["check", "C.psc", "--rules", rules]).1.exitCode = 0 := by
      decide +kernel
    have failingRead : Command.readArguments none ["check", "mods", "--rules", rules] =
        .ok ⟨false, none, .check ["mods"] .text (some rules) []⟩ := by decide +kernel
    have passingRead : Command.readArguments none ["check", "C.psc", "--rules", rules] =
        .ok ⟨false, none, .check ["C.psc"] .text (some rules) []⟩ := by decide +kernel
    have something := (exits {} workspace _ _ _ _ _ _ failingRead rfl).2.mp failing
    have nothing := (exits {} workspace _ _ _ _ _ _ passingRead rfl).1.mp passing
    exact ⟨failing, something, passing, nothing⟩

end ScriptLint
