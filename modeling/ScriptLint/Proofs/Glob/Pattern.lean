import ScriptLint.Glob.Pattern

/-!
# Patterns without wildcards

A text without `?`, `*` and `[` is a pattern that stands for this text only.  With the ending that
looks for scripts behind it, it still is a pattern, and the last component matches the names that
end like those of scripts.
-/

namespace ScriptLint
namespace Glob

/-! ## Patterns without wildcards -/

/-- No character of the text means anything else in a pattern. -/
def Plain (text : List Char) : Prop := ∀ c ∈ text, c ≠ '?' ∧ c ≠ '*' ∧ c ≠ '['

namespace Pattern

theorem readTokens_cons_plain {c : Char} (plain : c ≠ '?' ∧ c ≠ '*' ∧ c ≠ '[')
    (position : Nat) (previous : Option Char) (rest : List Char) :
    readTokens position previous 0 (c :: rest) =
      (readTokens (position + 1) (some c) 0 rest).map (.character c :: ·) := by
  rw [readTokens, if_neg plain.1, if_neg plain.2.1, if_neg plain.2.2]
  rfl

theorem readTokens_plain {text : List Char} (plain : Plain text) (position : Nat)
    (previous : Option Char) :
    readTokens position previous 0 text = .ok (text.map .character) := by
  induction text generalizing position previous with
  | nil => rfl
  | cons c rest ih =>
      obtain ⟨first, others⟩ := List.forall_mem_cons.mp plain
      rw [readTokens_cons_plain first, ih others]
      rfl

/-- The pattern that stands for one text only. -/
def plain (text : String) : Pattern := ⟨text.toList.map .character⟩

theorem parse_plain {text : String} (isPlain : Plain text.toList) :
    parse text = .ok (plain text) := by
  rw [parse, readTokens_plain isPlain]
  rfl

theorem literal?_plain (text : String) : (plain text).literal? = some text := by
  have read (letters : List Char) :
      (letters.map Token.character).mapM character? = some letters := by
    induction letters with
    | nil => rfl
    | cons c rest ih => rw [List.map_cons, List.mapM_cons, ih]; rfl
  rw [literal?, plain, read, Option.map_some, String.ofList_toList]

theorem isRecursive_plain (text : String) : (plain text).isRecursive = false := by
  simp [isRecursive, plain]

theorem matchTokens_plain (expected text : List Char) :
    matchTokens (expected.map .character) text = decide (text = expected) := by
  induction expected generalizing text with
  | nil => cases text <;> rfl
  | cons c expected ih =>
      cases text with
      | nil => rfl
      | cons first text => simp [matchTokens, accepts, ih]

/-! ## The names of scripts -/

/-- Any number of directories. -/
def everything : Pattern := ⟨[.anyRecursive]⟩

/-- The names that end like those of scripts. -/
def scriptNames : Pattern := ⟨.anySequence :: ".psc".toList.map .character⟩

theorem mem_suffixes {text rest : List Char} : rest ∈ suffixes text ↔ rest <:+ text := by
  induction text with
  | nil => simp [suffixes]
  | cons c text ih => rw [suffixes, List.mem_cons, ih, List.suffix_cons_iff]

theorem isMatch_scriptNames {name : String} :
    scriptNames.isMatch name = true ↔ ".psc".toList <:+ name.toList := by
  rw [isMatch_eq, scriptNames, matchTokens, List.any_eq_true]
  simp only [matchTokens_plain, decide_eq_true_eq, mem_suffixes, exists_eq_right]

end Pattern

theorem exists_readTokens_search {root : List Char} (plain : Plain root) (position : Nat)
    (previous : Option Char) :
    ∃ tokens, Pattern.readTokens position previous 0 (root ++ "/**/*.psc".toList) = .ok tokens := by
  induction root generalizing position previous with
  | nil => exact ⟨_, rfl⟩
  | cons c rest ih =>
      obtain ⟨first, others⟩ := List.forall_mem_cons.mp plain
      obtain ⟨tokens, read⟩ := ih others (position + 1) (some c)
      rw [List.cons_append, Pattern.readTokens_cons_plain first, read]
      exact ⟨_, rfl⟩

end Glob
end ScriptLint
