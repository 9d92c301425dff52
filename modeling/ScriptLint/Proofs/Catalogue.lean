import ScriptLint.Proofs.Block.Pairing
import ScriptLint.Rule.Catalogue

/-!
# What the rules of the catalogue do to a context

Four rules check the blocks of a family.  Of the other three, two neither read nor change the
context, and the header rule always comes to the same verdict: it records the header of the script
and claims its line, or does nothing.  No rule takes a claim back.
-/

namespace ScriptLint

attribute [local irreducible] Document.normalizedLines

/-! ## Checks line by line -/

namespace Outcome

variable {α : Type} {lines : List (List Char)} {context : Context}
  {fault? : List Char → Option α} {report : Nat → List Char → α → Finding}

theorem finding_ofFirstFault_eq_none_iff :
    (ofFirstFault lines context fun line text => (fault? text).map (report line text)).finding =
        none ↔
      ∀ line ∈ lines, fault? line = none := by
  simp only [ofFirstFault, List.findSome?_eq_none_iff, Prod.forall, Option.map_eq_none_iff,
    List.mk_mem_zipIdx_iff_getElem?]
  simp only [List.mem_iff_getElem?, forall_exists_index]

/-- A check that looks at the lines one by one reports the first faulty one. -/
theorem finding_ofFirstFault_eq_some_iff {finding : Finding} :
    (ofFirstFault lines context fun line text => (fault? text).map (report line text)).finding =
        some finding ↔
      ∃ before line behind fault, lines = before ++ line :: behind ∧
        (∀ other ∈ before, fault? other = none) ∧ fault? line = some fault ∧
        finding = report (before.length + 1) line fault := by
  simp only [ofFirstFault, List.findSome?_eq_some_iff, Option.map_eq_some_iff,
    Option.map_eq_none_iff]
  constructor
  · rintro ⟨front, ⟨line, index⟩, rear, split, ⟨fault, isFault, rfl⟩, passed⟩
    obtain ⟨before, later, rfl, rfl, rest⟩ := List.zipIdx_eq_append_iff.mp split
    obtain ⟨_, behind, rfl, same, -⟩ := List.zipIdx_eq_cons_iff.mp rest.symm
    obtain ⟨rfl, rfl⟩ := Prod.mk.inj same
    refine ⟨before, line, behind, fault, rfl, ?_, isFault, by rw [Nat.zero_add]⟩
    intro other member
    obtain ⟨index, atIndex⟩ := List.mem_iff_getElem?.mp member
    exact passed (other, index) (List.mk_mem_zipIdx_iff_getElem?.mpr atIndex)
  · rintro ⟨before, line, behind, fault, rfl, passed, isFault, rfl⟩
    refine ⟨before.zipIdx, (line, before.length), behind.zipIdx (before.length + 1), ?_,
      ⟨fault, isFault, rfl⟩, ?_⟩
    · rw [List.zipIdx_append, List.zipIdx_cons, Nat.zero_add]
    · rintro ⟨other, index⟩ member
      exact passed other (List.mem_of_getElem? (List.mk_mem_zipIdx_iff_getElem?.mp member))

end Outcome

/-! ## The families -/

/-- The rule that checks the blocks of the family. -/
def Block.Kind.rule : Block.Kind → Rule
  | .function => .functionBlock
  | .event => .eventBlock
  | .ifTest => .ifStatement
  | .whileLoop => .whileLoop

theorem Block.Kind.check_rule (kind : Block.Kind) :
    kind.rule.check = Block.check kind kind.rule.name := by
  cases kind <;> rfl

namespace Rule

/-- The family whose blocks the rule checks. -/
def family? (rule : Rule) : Option Block.Kind :=
  Block.Kind.all.find? fun kind => kind.rule.name == rule.name

@[simp]
theorem family?_rule (kind : Block.Kind) : kind.rule.family? = some kind := by
  cases kind <;> decide

@[simp]
theorem family?_scriptName : scriptName.family? = none := by decide

theorem rule_ne_scriptName (kind : Block.Kind) : kind.rule ≠ scriptName := by
  intro same
  have families := congrArg family? same
  rw [family?_rule, family?_scriptName] at families
  contradiction

theorem rule_injective {kind other : Block.Kind} (same : kind.rule = other.rule) :
    kind = other := by
  have families := congrArg family? same
  rw [family?_rule, family?_rule] at families
  exact Option.some.inj families

/-- A rule other than the header rule that checks no blocks and leaves the context alone. -/
structure Stateless (rule : Rule) : Prop where
  family?_eq : rule.family? = none
  ne_scriptName : rule ≠ scriptName
  check_eq : ∀ doc context, rule.check doc context =
    { finding := (rule.check doc .fresh).finding, context }

theorem stateless_trailingWhitespace : trailingWhitespace.Stateless where
  family?_eq := by decide
  ne_scriptName := fun same => absurd (congrArg name same) (by decide)
  check_eq := fun _ _ => rfl

theorem stateless_property : property.Stateless where
  family?_eq := by decide
  ne_scriptName := fun same => absurd (congrArg name same) (by decide)
  check_eq := fun _ _ => rfl

theorem eq_of_mem_all {rule : Rule} (catalogued : rule ∈ all) :
    rule = trailingWhitespace ∨ rule = property ∨ rule = scriptName ∨
      ∃ kind : Block.Kind, rule = kind.rule := by
  simp only [all, standard, List.cons_append, List.nil_append, List.mem_cons, List.not_mem_nil,
    or_false] at catalogued
  rcases catalogued with rfl | rfl | rfl | rfl | rfl | rfl | rfl
  · exact Or.inl rfl
  · exact Or.inr (Or.inr (Or.inl rfl))
  · exact Or.inr (Or.inr (Or.inr ⟨.function, rfl⟩))
  · exact Or.inr (Or.inr (Or.inr ⟨.ifTest, rfl⟩))
  · exact Or.inr (Or.inr (Or.inr ⟨.whileLoop, rfl⟩))
  · exact Or.inr (Or.inr (Or.inr ⟨.event, rfl⟩))
  · exact Or.inr (Or.inl rfl)

/-- The seven rules, by what they do to a context. -/
theorem cases_of_mem_all {rule : Rule} (catalogued : rule ∈ all) :
    rule.Stateless ∨ rule = scriptName ∨ ∃ kind : Block.Kind, rule = kind.rule := by
  obtain rfl | rfl | isHeader | isBlock := eq_of_mem_all catalogued
  · exact Or.inl stateless_trailingWhitespace
  · exact Or.inl stateless_property
  · exact Or.inr (Or.inl isHeader)
  · exact Or.inr (Or.inr isBlock)

theorem eq_rule_of_family? {rule : Rule} (catalogued : rule ∈ all) {kind : Block.Kind}
    (family : rule.family? = some kind) : rule = kind.rule := by
  obtain stateless | rfl | ⟨other, rfl⟩ := cases_of_mem_all catalogued
  · rw [stateless.family?_eq] at family
    contradiction
  · rw [family?_scriptName] at family
    contradiction
  · rw [family?_rule] at family
    rw [Option.some.inj family]

/-! ## The header rule -/

/-- The header of the script, or what is wrong with its first line. -/
def readHeader (doc : Document) : Except Header.Blame Header :=
  match doc.normalizedLines with
  | [] => .error ⟨1, .missing⟩
  | line :: _ => Header.read doc.scriptName line

theorem scriptName_check_of_error {doc : Document} {blame : Header.Blame}
    (refused : readHeader doc = .error blame) (context : Context) :
    scriptName.check doc context =
      { finding := some (.located "script-name" doc 1 blame.column
          s!"{Header.keyword} error: {blame.fault.message}")
        context } := by
  obtain ⟨column, fault⟩ := blame
  rw [readHeader] at refused
  cases lines : doc.normalizedLines with
  | nil =>
      rw [lines] at refused
      obtain ⟨rfl, rfl⟩ := Header.Blame.mk.inj (Except.error.inj refused)
      simp only [scriptName, lines]
  | cons line rest =>
      rw [lines] at refused
      simp only [scriptName, lines, refused]

theorem scriptName_check_of_ok {doc : Document} {header : Header}
    (confirmed : readHeader doc = .ok header) (context : Context) :
    scriptName.check doc context =
      { context := (context.recordHeader header).claim 0
        events := [.confirmed doc.fileName header] } := by
  rw [readHeader] at confirmed
  cases lines : doc.normalizedLines with
  | nil =>
      rw [lines] at confirmed
      contradiction
  | cons line rest =>
      rw [lines] at confirmed
      simp only [scriptName, lines, confirmed]

/-- The verdict on the header does not depend on the context. -/
theorem scriptName_finding (doc : Document) (context other : Context) :
    (scriptName.check doc context).finding = (scriptName.check doc other).finding := by
  cases read : readHeader doc with
  | error blame => rw [scriptName_check_of_error read, scriptName_check_of_error read]
  | ok header => rw [scriptName_check_of_ok read, scriptName_check_of_ok read]

/-! ## All rules -/

/-- No rule takes a claim back. -/
theorem claims_subset_check {rule : Rule} (catalogued : rule ∈ all) (doc : Document)
    (context : Context) :
    ∀ index ∈ context.claims, index ∈ (rule.check doc context).context.claims := by
  intro index claimed
  obtain stateless | rfl | ⟨kind, rfl⟩ := cases_of_mem_all catalogued
  · rw [stateless.check_eq]
    exact claimed
  · cases read : readHeader doc with
    | error blame =>
        rw [scriptName_check_of_error read]
        exact claimed
    | ok header =>
        rw [scriptName_check_of_ok read]
        exact ClaimSet.mem_insert.mpr (Or.inr claimed)
  · rw [kind.check_rule, Block.check_context]
    exact ClaimSet.mem_insertPairs.mpr (Or.inl claimed)

/-- Whatever the context, a check puts the same header on record. -/
theorem header_check {rule : Rule} (catalogued : rule ∈ all) (doc : Document) (context : Context) :
    (rule.check doc context).context.header =
      (rule.check doc .fresh).context.header.or context.header := by
  obtain stateless | rfl | ⟨kind, rfl⟩ := cases_of_mem_all catalogued
  · rw [stateless.check_eq doc context, stateless.check_eq doc .fresh]
    rfl
  · cases read : readHeader doc with
    | error blame =>
        rw [scriptName_check_of_error read, scriptName_check_of_error read]
        rfl
    | ok header =>
        rw [scriptName_check_of_ok read, scriptName_check_of_ok read]
        rfl
  · rw [kind.check_rule, Block.check_context, Block.check_context]
    rfl

/-- The header that a check puts on record is that of the script. -/
theorem readHeader_of_recorded {rule : Rule} (catalogued : rule ∈ all) {doc : Document}
    {header : Header} (recorded : (rule.check doc .fresh).context.header = some header) :
    readHeader doc = .ok header := by
  obtain stateless | rfl | ⟨kind, rfl⟩ := cases_of_mem_all catalogued
  · rw [stateless.check_eq] at recorded
    contradiction
  · cases read : readHeader doc with
    | error blame =>
        rw [scriptName_check_of_error read] at recorded
        contradiction
    | ok found =>
        rw [scriptName_check_of_ok read] at recorded
        exact congrArg Except.ok (Option.some.inj recorded)
  · rw [kind.check_rule, Block.check_context] at recorded
    contradiction

end Rule
end ScriptLint
