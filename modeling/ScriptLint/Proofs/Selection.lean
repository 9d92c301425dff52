import ScriptLint.Command.Run
import ScriptLint.Proofs.Switches
import ScriptLint.Proofs.Text.Lines

/-!
# The rules that run

Settings choose rules twice: a preset with its switches chooses the rules of a linter, and the
linter passes over the rules that are switched off.  The second choice leaves the first one as it
is.  A list of names and codes takes the place of the first choice only, so a command with a list
runs the rules on it, in its order and as often as it says, but for those that are switched off.
-/

namespace ScriptLint

/-! ## Rules by settings -/

namespace Settings

variable {settings : Settings}

/-- The settings switch the rule of this name explicitly, on or off. -/
def Switches (settings : Settings) (rule : String) (on : Bool) : Prop :=
  settings.rules.lookup rule = some (some on)

instance (settings : Settings) (rule : String) : DecidablePred (settings.Switches rule) := fun _ =>
  inferInstanceAs (Decidable (_ = _))

/-- The settings ask for the rule of this name: they switch it on, or they do not switch it and it
is in their preset. -/
def AsksFor (settings : Settings) (rule : String) : Prop :=
  settings.Switches rule true ∨
    (∀ on, ¬settings.Switches rule on) ∧
      (settings.preset = some "strict" ∨ rule ∈ Rule.standard.map Rule.name)

instance (settings : Settings) : DecidablePred settings.AsksFor := fun _ =>
  inferInstanceAs (Decidable (_ ∨ (∀ _, _) ∧ (_ ∨ _)))

theorem switch?_eq_some_iff {rule : String} {on : Bool} :
    settings.switch? rule = some on ↔ settings.Switches rule on :=
  Option.join_eq_some_iff

/-- The settings without what they say about rules that do not exist. -/
def known (settings : Settings) : Settings :=
  { settings with
    rules := settings.rules.filter fun entry => (Rule.all.map Rule.name).contains entry.1 }

theorem isEnabled_iff {rule : String} :
    settings.isEnabled rule = true ↔ ¬settings.Switches rule false := by
  rw [isEnabled, ← switch?_eq_some_iff]
  rcases settings.switch? rule with _ | _ | _ <;> simp

theorem switch?_known {rule : String} (catalogued : rule ∈ Rule.all.map Rule.name) :
    settings.known.switch? rule = settings.switch? rule := by
  have sameEntry (entries : List (String × Option Bool)) :
      (entries.filter fun entry => (Rule.all.map Rule.name).contains entry.1).lookup rule =
        entries.lookup rule := by
    induction entries with
    | nil => rfl
    | cons entry rest ih =>
        obtain ⟨name, way⟩ := entry
        rw [List.filter_cons]
        by_cases same : rule = name
        · subst same
          rw [if_pos (List.contains_iff_mem.mpr catalogued), List.lookup_cons_self,
            List.lookup_cons_self]
        · split_ifs
          · rw [List.lookup_cons, List.lookup_cons, beq_false_of_ne same, ih]
          · rw [List.lookup_cons, beq_false_of_ne same, ih]
  rw [switch?, switch?, known, sameEntry]

end Settings

namespace Rule

variable {settings : Settings} {rule : Rule}

/-- A preset that is missing or not known counts as the standard one. -/
theorem mem_preset_iff (catalogued : rule ∈ all) :
    rule.name ∈ (Preset.ofSettings settings).rules.map Rule.name ↔
      settings.preset = some "strict" ∨ rule.name ∈ standard.map Rule.name := by
  have inAll : rule.name ∈ all.map Rule.name := List.mem_map_of_mem catalogued
  by_cases strict : settings.preset = some "strict"
  · have isStrict : Preset.ofSettings settings = .strict := by rw [Preset.ofSettings, strict]; rfl
    rw [isStrict]
    exact iff_of_true inAll (Or.inl strict)
  · have isStandard : Preset.ofSettings settings = .standard := by
      rw [Preset.ofSettings]
      cases named : settings.preset with
      | none => rfl
      | some name =>
          rw [named, Option.some_inj] at strict
          rw [Option.bind_some, Preset.ofName?, if_neg strict]
          split_ifs <;> rfl
    rw [isStandard]
    exact (or_iff_right strict).symm

theorem isSelected_iff (catalogued : rule ∈ all) :
    isSelected settings rule = true ↔ settings.AsksFor rule.name := by
  rw [isSelected, Settings.AsksFor, ← mem_preset_iff catalogued]
  simp only [← Settings.switch?_eq_some_iff]
  rcases settings.switch? rule.name with _ | _ | _ <;> simp

theorem isEnabled_of_isSelected (chosen : isSelected settings rule = true) :
    settings.isEnabled rule.name = true := by
  rw [isSelected] at chosen
  rw [Settings.isEnabled]
  cases switch : settings.switch? rule.name with
  | none => rfl
  | some way =>
      rw [switch] at chosen
      exact chosen

theorem selected_eq (settings : Settings) :
    selected settings = all.filter fun rule => settings.AsksFor rule.name := by
  refine List.filter_congr fun rule catalogued => ?_
  rw [Bool.eq_iff_iff, isSelected_iff catalogued, decide_eq_true_iff]

theorem selected_known (settings : Settings) : selected settings.known = selected settings := by
  rw [selected_eq, selected_eq]
  refine List.filter_congr fun rule catalogued => ?_
  have sameSwitch : settings.known.switch? rule.name = settings.switch? rule.name :=
    Settings.switch?_known (List.mem_map_of_mem catalogued)
  simp only [Settings.AsksFor, ← Settings.switch?_eq_some_iff, sameSwitch]
  rfl

/-! ## Rules by name -/

/-- The text is the name of the rule, or its code in any case. -/
def GoesBy (rule : Rule) (text : String) : Prop :=
  rule.name = text ∨ rule.code.toList.map Char.toLower = text.toList.map Char.toLower

instance (rule : Rule) : DecidablePred rule.GoesBy := fun _ =>
  inferInstanceAs (Decidable (_ ∨ _))

/-- The items of a list separated by commas, without white space at their ends. -/
def items (list : String) : List String :=
  ((Text.split ',' list.toList).map Text.trim).map String.ofList

theorem items_append (first second : String) :
    items (first ++ "," ++ second) = items first ++ items second := by
  have text : (first ++ "," ++ second).toList = first.toList ++ ',' :: second.toList := by
    simp [String.toList_append]
  rw [items, text, Text.split, List.splitOn_append_cons_self, List.map_append, List.map_append]
  rfl

/-- What the rule goes by, in lower case. -/
def labels (rule : Rule) : List (List Char) :=
  [rule.name.toList.map Char.toLower, rule.code.toList.map Char.toLower]

theorem GoesBy.mem_labels {text : String} (goes : rule.GoesBy text) :
    text.toList.map Char.toLower ∈ rule.labels := by
  obtain rfl | code := goes
  · exact List.mem_cons_self
  · rw [← code]
    exact List.mem_cons_of_mem _ List.mem_cons_self

/-- No two rules go by the same text. -/
theorem labels_disjoint :
    all.Pairwise fun first second => List.Disjoint first.labels second.labels :=
  (List.nodup_flatMap.mp (by decide +kernel : (all.flatMap labels).Nodup)).2

theorem find?_eq (text : String) : find? text = all.find? fun rule => rule.GoesBy text := by
  rw [find?]
  refine congrArg all.find? (funext fun rule => ?_)
  rw [Bool.eq_iff_iff, Bool.or_eq_true, beq_iff_eq, sameIgnoringCase, beq_iff_eq,
    decide_eq_true_iff]
  exact Iff.rfl

theorem toList_find? (text : String) :
    (find? text).toList = all.filter fun rule => rule.GoesBy text := by
  rw [find?_eq]
  cases found : all.find? fun rule => rule.GoesBy text with
  | none =>
      rw [List.find?_eq_none] at found
      exact (List.filter_eq_nil_iff.mpr found).symm
  | some rule =>
      obtain ⟨goes, before, behind, split, others⟩ := List.find?_eq_some_iff_append.mp found
      have goes : rule.GoesBy text := of_decide_eq_true goes
      -- The search stops at the first rule; no rule behind it shares a label with it.
      have disjoint := labels_disjoint
      rw [split, List.pairwise_append, List.pairwise_cons] at disjoint
      have noneBefore : before.filter (fun rule => rule.GoesBy text) = [] :=
        List.filter_eq_nil_iff.mpr fun other member => by simpa using others other member
      have noneBehind : behind.filter (fun rule => rule.GoesBy text) = [] := by
        refine List.filter_eq_nil_iff.mpr fun other member also => ?_
        exact disjoint.2.1.1 other member goes.mem_labels (of_decide_eq_true also).mem_labels
      rw [split, List.filter_append, noneBefore, List.filter_cons, noneBehind,
        if_pos (decide_eq_true goes)]
      rfl

/-- A list asks for the rules that its items go by, item by item. -/
theorem named_eq (list : String) :
    named list = (items list).flatMap fun item => all.filter fun rule => rule.GoesBy item := by
  have emptyItem : find? "" = none := by decide +kernel
  simp only [← toList_find?]
  rw [named, listed, items]
  induction (Text.split ',' list.toList).map Text.trim with
  | nil => rfl
  | cons piece rest ih =>
      rw [List.map_cons, List.flatMap_cons, ← ih, List.filter_cons]
      cases piece with
      | nil => rw [String.ofList_nil, emptyItem]; rfl
      | cons c others =>
          rw [List.isEmpty_cons, Bool.not_false, if_pos rfl, List.map_cons, List.filterMap_cons]
          cases find? (String.ofList (c :: others)) <;> rfl

theorem named_append (first second : String) :
    named (first ++ "," ++ second) = named first ++ named second := by
  simp only [named_eq, items_append, List.flatMap_append]

theorem mem_all_of_mem_named {list : String} (member : rule ∈ named list) : rule ∈ all := by
  obtain ⟨text, -, found⟩ := List.mem_filterMap.mp member
  exact List.mem_of_find?_eq_some found

end Rule

/-- Rules that the settings ask for are not switched off. -/
theorem Linter.active_selected (settings : Settings) (excludes : List String) :
    (ofSettings (Rule.selected settings) excludes settings).active = Rule.selected settings :=
  List.filter_eq_self.mpr fun _ member =>
    Rule.isEnabled_of_isSelected (List.mem_filter.mp member).2

/-! ## The command that lints -/

namespace Command

/-- The result without a word on the rules that are passed over. -/
def Result.unskipped (result : Result) : Result :=
  { result with events := ScriptLint.unskipped result.events }

/-- What the command comes to with the result of a batch and what was told. -/
def Result.ofBatch (workspace : Workspace) (format : Format) (batch : Except BatchError Analysis)
    (events : List Event) : Result :=
  match batch with
  | .error error =>
      failed workspace "Failed to lint scripts" (error.message :: error.cause?.toList) events
  | .ok analysis =>
      { exitCode := if analysis.report.hasFindings then 1 else 0
        output := showResult analysis format
        events
        workspace }

theorem unskipped_ofBatch (workspace : Workspace) (format : Format)
    (batch : Except BatchError Analysis) (events : List Event) :
    (Result.ofBatch workspace format batch events).unskipped =
      Result.ofBatch workspace format batch (unskipped events) := by
  cases batch <;> rfl

theorem events_ofBatch (workspace : Workspace) (format : Format)
    (batch : Except BatchError Analysis) (events : List Event) :
    (Result.ofBatch workspace format batch events).events = events := by
  cases batch <;> rfl

/-- Lint scripts by these rules, none of which is switched off, after what was told before. -/
def lintBy (workspace : Workspace) (paths : List String) (format : Format) (rules : List Rule)
    (excludes : List String) (told : List Event) : Result :=
  let batch := Linter.analyze { rules, excludes } workspace paths
  Result.ofBatch workspace format batch.value
    (told ++ [.linting paths (rules.map Rule.name)] ++ batch.events)

/-- What is told before the scripts are linted by the rules on a list. -/
def toldBefore (source : Settings.Source) (list : String) : List Event :=
  source.foundEvents ++ source.useEvents ++ Rule.namingEvents list

theorem quiet_toldBefore (source : Settings.Source) (list : String) :
    Quiet (toldBefore source list) := by
  refine Quiet.append ?_ (quiet_map (fun _ => ⟨rfl, rfl⟩) _)
  cases source <;> simp [Quiet, Settings.Source.foundEvents, Settings.Source.useEvents,
    Event.isSkipping, Event.run?]

section Listed

variable {environment : Environment} {workspace : Workspace} {settingsPath : Option String}
  {paths : List String} {settings : Settings}
  (loaded : settingsAt workspace
    (Settings.locate workspace settingsPath environment.userDirectory? paths) = .ok settings)

include loaded

theorem check_eq_ofBatch (format : Format) (list : String) (excludes : List String) :
    let linter := Linter.ofSettings (Rule.named list) excludes settings
    check environment workspace settingsPath paths format (some list) excludes =
      Result.ofBatch workspace format (linter.analyze workspace paths).value
        (toldBefore (Settings.locate workspace settingsPath environment.userDirectory? paths)
          list ++ [.linting paths linter.activeRules] ++
          (linter.analyze workspace paths).events) := by
  simp only [check, loaded]
  rfl

/-- The command with a list of rules lints by those that are not switched off. -/
theorem unskipped_check (format : Format) (list : String) (excludes : List String) :
    (check environment workspace settingsPath paths format (some list) excludes).unskipped =
      lintBy workspace paths format
        ((Rule.named list).filter fun rule => settings.isEnabled rule.name)
        (excludes ++ settings.exclude)
        (toldBefore (Settings.locate workspace settingsPath environment.userDirectory? paths)
          list) := by
  have catalogued : ∀ rule ∈ (Linter.ofSettings (Rule.named list) excludes settings).rules,
      rule ∈ Rule.all := fun _ => Rule.mem_all_of_mem_named
  have analyzed := @Linter.unskipped_analyze _ workspace catalogued paths
  rw [Linter.unswitched_ofSettings] at analyzed
  rw [check_eq_ofBatch loaded, unskipped_ofBatch, unskipped_append, unskipped_append,
    (quiet_toldBefore _ list).unskipped_eq, Linter.activeRules_eq, lintBy, ← analyzed]
  rfl

/-- The command with a list of rules runs those that are not switched off on every script. -/
theorem runs_check (format : Format) (list : String) (excludes : List String)
    {scripts : List String}
    (collected : (Linter.collect (.ofSettings (Rule.named list) excludes settings) workspace
      paths).value = .ok scripts) :
    runs (check environment workspace settingsPath paths format (some list) excludes).events =
      (Document.loadAll workspace scripts).flatMap fun doc =>
        (reached doc ((Rule.named list).filter fun rule => settings.isEnabled rule.name)
          .fresh).map fun rule => (rule.name, doc.fileName) := by
  have catalogued : ∀ rule ∈ (Rule.named list).filter fun rule => settings.isEnabled rule.name,
      rule ∈ Rule.all := fun _ member =>
    Rule.mem_all_of_mem_named (List.mem_filter.mp member).1
  rw [← Linter.collect_unswitched, Linter.unswitched_ofSettings] at collected
  have sameEvents := congrArg Result.events (unskipped_check loaded format list excludes)
  rw [lintBy, events_ofBatch] at sameEvents
  -- What is told of rules that are passed over does not count as a run.
  rw [← runs_unskipped]
  refine (congrArg runs sameEvents).trans ?_
  rw [runs_append, runs_append, (quiet_toldBefore _ list).runs_eq, Linter.runs_analyze collected]
  simp only [Linter.run, Linter.runs_runRules _ catalogued]
  rfl

end Listed
end Command

/-- The rules that settings ask for are those of the catalogue that are switched on, or not switched
and in the preset, in the order of the catalogue.  A linter with the same settings passes over none
of them, and what the settings say about rules that do not exist has no effect.  A list of names and
codes asks for the rules that its items go by.  With such a list the command lints by these rules
but for those that are switched off: it runs them on every script that loads, in order, up to the
first finding. -/
theorem selection_agrees_with_switches :
    (∀ (settings : Settings) (excludes : List String),
      (Linter.ofSettings (Rule.selected settings) excludes settings).activeRules =
        (Rule.selected settings).map Rule.name ∧
      Rule.selected settings = Rule.all.filter (fun rule => settings.AsksFor rule.name) ∧
      Rule.selected settings.known = Rule.selected settings ∧
      ∀ doc context,
        (Linter.ofSettings (Rule.selected settings.known) excludes settings.known).run doc context =
          (Linter.ofSettings (Rule.selected settings) excludes settings).run doc context) ∧
    (∀ first second, Rule.named (first ++ "," ++ second) = Rule.named first ++ Rule.named second) ∧
    (∀ list, Rule.named list =
      (Rule.items list).flatMap fun item => Rule.all.filter fun rule => rule.GoesBy item) ∧
    ∀ (environment : Command.Environment) (workspace : Workspace) (settingsPath : Option String)
        (paths : List String) (format : Command.Format) (list : String) (excludes : List String)
        (settings : Settings),
      let source := Settings.locate workspace settingsPath environment.userDirectory? paths
      let result :=
        Command.check environment workspace settingsPath paths format (some list) excludes
      let kept := (Rule.named list).filter fun rule => ¬settings.Switches rule.name false
      Command.settingsAt workspace source = .ok settings →
        result.unskipped = Command.lintBy workspace paths format kept (excludes ++ settings.exclude)
          (Command.toldBefore source list) ∧
        ∀ scripts,
          (Linter.collect (.ofSettings (Rule.named list) excludes settings) workspace paths).value =
            .ok scripts →
          runs result.events = (Document.loadAll workspace scripts).flatMap fun doc =>
            (reached doc kept .fresh).map fun rule => (rule.name, doc.fileName) := by
  refine ⟨fun settings excludes => ⟨?_, Rule.selected_eq settings, Rule.selected_known settings,
    ?_⟩, Rule.named_append, Rule.named_eq, ?_⟩
  · rw [Linter.activeRules_eq, Linter.active_selected]
  · intro doc context
    rw [Rule.selected_known]
    refine Linter.runRules_congr (fun rule member => ?_) doc context
    have catalogued : rule ∈ Rule.all := (List.mem_filter.mp member).1
    exact congrArg (Option.getD · true) (Settings.switch?_known (List.mem_map_of_mem catalogued))
  · intro environment workspace settingsPath paths format list excludes settings source result kept
      loaded
    have isKept : kept = (Rule.named list).filter fun rule => settings.isEnabled rule.name := by
      refine List.filter_congr fun rule _ => ?_
      rw [Bool.eq_iff_iff, Settings.isEnabled_iff, decide_eq_true_iff]
    rw [isKept]
    exact ⟨Command.unskipped_check loaded format list excludes,
      fun scripts collected => Command.runs_check loaded format list excludes collected⟩

/-- A list with blanks, a code in lower case, an item that names no rule and an empty one, and
settings that switch off one of its rules. -/
theorem selection_agrees_with_switches_listed :
    let workspace : Workspace :=
      { root := .directory [("a.psc", .file (some "if a\nendif")),
          ("papyrus-lint.toml", .file (some "[rules.script-name]\nenabled = false\n"))] }
    let settings : Settings := { rules := [("script-name", some false)] }
    let list := "pl004 ,none,script-name,,if-statement, PL001"
    let source := Settings.locate workspace none none ["a.psc"]
    let result := Command.check {} workspace none ["a.psc"] .compact (some list) []
    let kept := (Rule.named list).filter fun rule => ¬settings.Switches rule.name false
    Command.settingsAt workspace source = .ok settings ∧
      result.unskipped = Command.lintBy workspace ["a.psc"] .compact kept []
        (Command.toldBefore source list) ∧
      (Linter.collect (.ofSettings (Rule.named list) [] settings) workspace ["a.psc"]).value =
        .ok ["a.psc"] ∧
      runs result.events = [("if-statement", "a.psc"), ("if-statement", "a.psc"),
        ("trailing-whitespace", "a.psc")] := by
  intro workspace settings list source result kept
  have loaded : Command.settingsAt workspace source = .ok settings := by decide +kernel
  have collected : (Linter.collect (.ofSettings (Rule.named list) [] settings) workspace
      ["a.psc"]).value = .ok ["a.psc"] := by decide +kernel
  obtain ⟨-, -, -, command⟩ := selection_agrees_with_switches
  obtain ⟨sameResult, sameRuns⟩ :=
    command {} workspace none ["a.psc"] .compact list [] settings loaded
  exact ⟨loaded, sameResult, collected, (sameRuns _ collected).trans (by decide +kernel)⟩

end ScriptLint
