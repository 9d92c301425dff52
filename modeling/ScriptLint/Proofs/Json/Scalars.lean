import ScriptLint.Json.Parser
import ScriptLint.Json.Printer
import ScriptLint.Proofs.Text.Runs

/-!
# Numbers and strings read back

A number is written in its digits and a string with escapes in it.  What is read from the front of a
text that starts with such a writing is the number or the string, and the rest of the text is left.
A number needs a rest that does not go on with it; a string ends at its quotation mark whatever
follows.
-/

namespace ScriptLint
namespace Json

open Text

/-! ## Blanks -/

theorem skipBlanks_append {gap text : List Char} (blank : ∀ c ∈ gap, isBlank c = true)
    (stops : Stops isBlank text) : skipBlanks (gap ++ text) = text :=
  dropWhile_append_stops blank stops

/-- Blanks make no difference where blanks are skipped first. -/
theorem skipBlanks_gap {gap : List Char} (blank : ∀ c ∈ gap, isBlank c = true)
    (text : List Char) : skipBlanks (gap ++ text) = skipBlanks text :=
  List.dropWhile_append_of_pos blank

theorem isBlank_nil : ∀ c ∈ ([] : List Char), isBlank c = true :=
  fun _ member => absurd member List.not_mem_nil

theorem isBlank_gap (layout : Layout) (level : Nat) : ∀ c ∈ layout.gap level, isBlank c = true := by
  intro c member
  cases layout with
  | compact => exact absurd member List.not_mem_nil
  | pretty =>
      rcases List.mem_cons.mp member with rfl | isSpace
      · rfl
      · rw [List.eq_of_mem_replicate isSpace]
        rfl

/-! ## Numbers -/

/-- The character can go on with a number. -/
def continuesNumber (c : Char) : Bool := c.isDigit || c == '.' || c == 'e' || c == 'E'

section Number

variable {rest : List Char} (ends : Stops continuesNumber rest)

include ends

theorem stops_isDigit : Stops Char.isDigit rest := by
  cases rest with
  | nil => exact stops_nil Char.isDigit
  | cons c rest =>
      rw [stops_cons] at ends ⊢
      simp only [continuesNumber, Bool.or_eq_false_iff] at ends
      exact ends.1.1.1

theorem skipFraction?_of_ends : skipFraction? rest = some rest := by
  rw [skipFraction?]
  rintro behind rfl
  exact absurd (stops_cons.mp ends) (by decide)

theorem skipExponent?_of_ends : skipExponent? rest = some rest := by
  cases rest with
  | nil => rfl
  | cons c rest =>
      have isNone := stops_cons.mp ends
      have noLower : c ≠ 'e' := by
        rintro rfl
        exact absurd isNone (by decide)
      have noUpper : c ≠ 'E' := by
        rintro rfl
        exact absurd isNone (by decide)
      simp [skipExponent?, noLower, noUpper]

end Number

theorem numberOf_eq_ofDigitChars {digits : List Char} (all : ∀ c ∈ digits, c.isDigit = true)
    (init : Nat) :
    digits.foldl (fun number digit => number * 10 + digitValue digit) init =
      Nat.ofDigitChars 10 digits init := by
  induction digits generalizing init with
  | nil => rfl
  | cons c digits ih =>
      obtain ⟨isDigit, others⟩ := List.forall_mem_cons.mp all
      rw [List.foldl_cons, ih others, Nat.ofDigitChars_cons, digitValue, if_pos isDigit,
        Nat.mul_comm]

theorem isDigit_of_mem_toDigits (natural : Nat) :
    ∀ c ∈ Nat.toDigits 10 natural, c.isDigit = true :=
  fun _ member => Nat.isDigit_of_mem_toDigits (by decide) (by decide) member

theorem numberOf_toDigits (natural : Nat) : numberOf 10 (Nat.toDigits 10 natural) = natural := by
  rw [numberOf, numberOf_eq_ofDigitChars (isDigit_of_mem_toDigits natural),
    Nat.ofDigitChars_ten_toDigits]

/-- A number other than zero is not written with a zero in front. -/
theorem head?_toDigits {natural : Nat} (positive : 0 < natural) :
    (Nat.toDigits 10 natural).head? ≠ some '0' := by
  induction natural using Nat.strongRecOn with
  | ind natural ih =>
      by_cases small : natural < 10
      · rw [Nat.toDigits_of_lt_base small, List.head?_cons, Ne, Option.some.injEq,
          Nat.digitChar_eq_zero]
        omega
      · have fewer := ih (natural / 10) (by omega) (by omega)
        rw [Nat.toDigits_of_base_le (by decide) (by omega)]
        cases written : Nat.toDigits 10 (natural / 10) with
        | nil => exact absurd written Nat.toDigits_ne_nil
        | cons c digits =>
            rw [written] at fewer
            exact fewer

theorem whole?_toDigits (natural : Nat) {rest : List Char} (stops : Stops Char.isDigit rest) :
    whole? (Nat.toDigits 10 natural ++ rest) = some (Nat.toDigits 10 natural, rest) := by
  rcases Nat.eq_zero_or_pos natural with rfl | positive
  · rw [Nat.toDigits_zero]
    rfl
  · have all := isDigit_of_mem_toDigits natural
    have takes := takeWhile_append_stops all stops
    have drops := dropWhile_append_stops all stops
    have notZero := head?_toDigits positive
    cases written : Nat.toDigits 10 natural with
    | nil => exact absurd written Nat.toDigits_ne_nil
    | cons c digits =>
        rw [written] at all takes drops notZero
        have other : c ≠ '0' := fun same => notZero (congrArg some same)
        have isDigit : c.isDigit = true := all c List.mem_cons_self
        rw [List.cons_append] at takes drops ⊢
        simp only [whole?, isDigit, if_true, takes, drops]

theorem number?_toDigits (natural : Nat) {rest : List Char} (ends : Stops continuesNumber rest) :
    number? (Nat.toDigits 10 natural ++ rest) = some (.number (some natural), rest) := by
  have unsigned : after? '-' (Nat.toDigits 10 natural ++ rest) = none := by
    cases written : Nat.toDigits 10 natural with
    | nil => exact absurd written Nat.toDigits_ne_nil
    | cons c digits =>
        have isDigit := isDigit_of_mem_toDigits natural c (written ▸ List.mem_cons_self)
        have other : c ≠ '-' := by
          rintro rfl
          exact absurd isDigit (by decide)
        simp [after?, other]
  simp [number?, unsigned, whole?_toDigits natural (stops_isDigit ends),
    skipFraction?_of_ends ends, skipExponent?_of_ends ends, numberOf_toDigits]

/-- Minus zero stands for a number that is not kept. -/
theorem number?_minusZero {rest : List Char} (ends : Stops continuesNumber rest) :
    number? ('-' :: '0' :: rest) = some (.number none, rest) := by
  simp [number?, after?, whole?, skipFraction?_of_ends ends, skipExponent?_of_ends ends]

/-! ## Strings -/

/-- The escape of a control character names its code point. -/
theorem hexNumber?_control {code : Nat} (control : code < 0x20) (rest : List Char) :
    hexNumber? 4 ('0' :: '0' :: Nat.digitChar (code / 16) :: Nat.digitChar (code % 16) :: rest) =
      some (code, rest) := by
  have isHex : ∀ code < 0x20,
      ['0', '0', Nat.digitChar (code / 16), Nat.digitChar (code % 16)].all isHexDigit = true := by
    decide
  have named : ∀ code < 0x20,
      numberOf 16 ['0', '0', Nat.digitChar (code / 16), Nat.digitChar (code % 16)] = code := by
    decide
  simp [hexNumber?, isHex code control, named code control]

theorem stringUnit_control {c : Char} (control : c.toNat < 0x20) (rest : List Char) :
    stringUnit ('\\' :: 'u' :: '0' :: '0' :: Nat.digitChar (c.toNat / 16) ::
      Nat.digitChar (c.toNat % 16) :: rest) = some ([some c], rest) := by
  have noSurrogate : ¬(0xD800 ≤ c.toNat ∧ c.toNat ≤ 0xDBFF) := by omega
  have isScalar : c.toNat < 0xD800 ∨ (0xDFFF < c.toNat ∧ c.toNat < 0x110000) := by omega
  rw [stringUnit, unescape?, codeUnit?, hexNumber?_control control]
  simp only [noSurrogate, if_false, scalar?, isScalar, if_true, Char.ofNat_toNat, Option.map_some]

/-- An escaped character is read as one character of a string, which does not close it. -/
theorem read_escape (c : Char) (rest : List Char) :
    stringUnit (escape c ++ rest) = some ([some c], rest) ∧
      closeString (α := Option Char) (escape c ++ rest) = none := by
  rw [escape]
  split_ifs with quote backslash feed tab returns backspace formFeed control
  · subst quote
    exact ⟨rfl, rfl⟩
  · subst backslash
    exact ⟨rfl, rfl⟩
  · subst feed
    exact ⟨rfl, rfl⟩
  · subst tab
    exact ⟨rfl, rfl⟩
  · subst returns
    exact ⟨rfl, rfl⟩
  · subst backspace
    exact ⟨rfl, rfl⟩
  · subst formFeed
    exact ⟨rfl, rfl⟩
  · exact ⟨stringUnit_control control rest, rfl⟩
  · have printable : 0x20 ≤ c.toNat := Nat.not_lt.mp control
    simp [stringUnit, closeString, quote, printable]

theorem length_le_length_escaped (text : List Char) :
    text.length ≤ (text.flatMap escape).length := by
  induction text with
  | nil => exact Nat.le_refl 0
  | cons c text ih =>
      have written : 0 < (escape c).length := by
        rw [escape]
        split_ifs <;> exact Nat.succ_pos _
      rw [List.flatMap_cons, List.length_append, List.length_cons]
      omega

theorem until?_escaped {limit : Nat} {text : List Char} (enough : text.length < limit)
    (rest : List Char) :
    until? closeString stringUnit limit (text.flatMap escape ++ '"' :: rest) =
      some (text.map some, rest) := by
  induction text generalizing limit with
  | nil =>
      cases limit with
      | zero => contradiction
      | succ limit => rfl
  | cons c text ih =>
      cases limit with
      | zero => contradiction
      | succ limit =>
          obtain ⟨isUnit, goesOn⟩ := read_escape c (text.flatMap escape ++ '"' :: rest)
          have later := ih (Nat.lt_of_succ_lt_succ enough)
          rw [List.flatMap_cons, List.append_assoc, until?, goesOn, isUnit]
          simp [later]

theorem quoted_some (text : String) :
    quoted (some text) = '"' :: (text.toList.flatMap escape ++ ['"']) := rfl

theorem quoted_none : quoted none = ['"', '\\', 'u', 'd', '8', '0', '0', '"'] := rfl

theorem length_lt_length_quoted (text : String) :
    text.toList.length < (quoted (some text)).length := by
  have escaped := length_le_length_escaped text.toList
  rw [quoted_some, List.length_cons, List.length_append, List.length_singleton]
  omega

/-- A quoted string is read back behind its first quotation mark. -/
theorem string?_quoted (text : Option String) :
    ∃ inner, quoted text = '"' :: inner ∧
      ∀ {limit : Nat} (rest : List Char), (quoted text).length ≤ limit →
        string? limit (inner ++ rest) = some (text, rest) := by
  cases text with
  | some text =>
      refine ⟨text.toList.flatMap escape ++ ['"'], quoted_some text, ?_⟩
      intro limit rest enough
      have shorter := Nat.lt_of_lt_of_le (length_lt_length_quoted text) enough
      have allText : (text.toList.map some).mapM id = some text.toList := by
        rw [List.mapM_map]
        exact (List.mapM_pure (f := id)).trans (congrArg some (List.map_id _))
      rw [string?, List.append_assoc, List.singleton_append, until?_escaped shorter]
      simp [allText]
  | none =>
      refine ⟨['\\', 'u', 'd', '8', '0', '0', '"'], quoted_none, ?_⟩
      intro limit rest enough
      rw [quoted_none] at enough
      obtain ⟨limit, rfl⟩ := Nat.exists_eq_add_of_le' enough
      rfl

end Json
end ScriptLint
