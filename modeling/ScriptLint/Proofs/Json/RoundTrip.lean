import ScriptLint.Proofs.Json.Scalars

/-!
# Values read back

Every value is read back from its text, in either layout.  A reader bounds by a limit how much it
reads, and the length of the text is a limit that no part of a value exceeds: an array has fewer
items than characters, and so on down to the characters of its strings.
-/

namespace ScriptLint
namespace Json

open Text

namespace Value

mutual

/-- What holds of every scalar, and of an array or an object if it holds of its parts, holds of
every value. -/
theorem byParts {motive : Value → Prop} (null : motive .null) (bool : ∀ truth, motive (.bool truth))
    (number : ∀ natural, motive (.number natural)) (string : ∀ text, motive (.string text))
    (array : ∀ items, (∀ item ∈ items, motive item) → motive (.array items))
    (object : ∀ members, (∀ member ∈ members, motive member.2) → motive (.object members)) :
    ∀ value, motive value
  | .null => null
  | .bool truth => bool truth
  | .number natural => number natural
  | .string text => string text
  | .array items => array items (byParts_items null bool number string array object items)
  | .object members => object members (byParts_members null bool number string array object members)

theorem byParts_items {motive : Value → Prop} (null : motive .null)
    (bool : ∀ truth, motive (.bool truth)) (number : ∀ natural, motive (.number natural))
    (string : ∀ text, motive (.string text))
    (array : ∀ items, (∀ item ∈ items, motive item) → motive (.array items))
    (object : ∀ members, (∀ member ∈ members, motive member.2) → motive (.object members)) :
    ∀ items : List Value, ∀ item ∈ items, motive item
  | [], _, member => absurd member List.not_mem_nil
  | first :: rest, item, member => by
      rcases List.mem_cons.mp member with same | later
      · exact same ▸ byParts null bool number string array object first
      · exact byParts_items null bool number string array object rest item later

theorem byParts_members {motive : Value → Prop} (null : motive .null)
    (bool : ∀ truth, motive (.bool truth)) (number : ∀ natural, motive (.number natural))
    (string : ∀ text, motive (.string text))
    (array : ∀ items, (∀ item ∈ items, motive item) → motive (.array items))
    (object : ∀ members, (∀ member ∈ members, motive member.2) → motive (.object members)) :
    ∀ members : List (Option String × Value), ∀ member ∈ members, motive member.2
  | [], _, member => absurd member List.not_mem_nil
  | (_, value) :: rest, entry, member => by
      obtain rfl | later := List.mem_cons.mp member
      · exact byParts null bool number string array object value
      · exact byParts_members null bool number string array object rest entry later

end

end Value

/-! ## What a reader does to a writing -/

/-- The reader reads the value off every text that starts with this writing, also behind blanks,
provided that what follows does not go on with a number. -/
def Reads (reader : Reader Value) (written : List Char) (value : Value) : Prop :=
  ∀ gap rest, (∀ c ∈ gap, isBlank c = true) → Stops continuesNumber rest →
    reader (gap ++ written ++ rest) = some (value, rest)

section Layout

variable (layout : Layout) (level : Nat)

theorem stops_gap_append {text : List Char} (stops : Stops continuesNumber text) :
    Stops continuesNumber (layout.gap level ++ text) := by
  cases layout with
  | compact => exact stops
  | pretty => exact stops_cons.mpr rfl

theorem stops_writeItems (items : List Value) (rest : List Char) :
    Stops continuesNumber (writeItems layout level items ++ rest) := by
  cases items with
  | nil =>
      rw [writeItems, List.append_assoc]
      exact stops_gap_append layout level (stops_cons.mpr rfl)
  | cons item items =>
      rw [writeItems]
      exact stops_cons.mpr rfl

theorem stops_writeMembers (members : List (Option String × Value)) (rest : List Char) :
    Stops continuesNumber (writeMembers layout level members ++ rest) := by
  cases members with
  | nil =>
      rw [writeMembers, List.append_assoc]
      exact stops_gap_append layout level (stops_cons.mpr rfl)
  | cons member members =>
      rw [writeMembers]
      exact stops_cons.mpr rfl

/-- The first character of a value is no blank and closes nothing. -/
theorem exists_write_eq_cons (value : Value) :
    ∃ c more, write layout level value = c :: more ∧
      isBlank c = false ∧ c ≠ ']' ∧ c ≠ '\x7d' := by
  cases value with
  | null => exact ⟨'n', _, rfl, by decide⟩
  | bool truth =>
      cases truth with
      | true => exact ⟨'t', _, rfl, by decide⟩
      | false => exact ⟨'f', _, rfl, by decide⟩
  | string text =>
      obtain ⟨inner, starts, -⟩ := string?_quoted text
      exact ⟨'"', inner, starts, by decide⟩
  | array items =>
      cases items with
      | nil => exact ⟨'[', _, rfl, by decide⟩
      | cons item items => exact ⟨'[', _, rfl, by decide⟩
  | object members =>
      cases members with
      | nil => exact ⟨'\x7b', _, rfl, by decide⟩
      | cons member members => exact ⟨'\x7b', _, rfl, by decide⟩
  | number natural =>
      cases natural with
      | none => exact ⟨'-', _, rfl, by decide⟩
      | some natural =>
          cases written : Nat.toDigits 10 natural with
          | nil => exact absurd written Nat.toDigits_ne_nil
          | cons c digits =>
              have isDigit := isDigit_of_mem_toDigits natural c (written ▸ List.mem_cons_self)
              refine ⟨c, digits, written, ?_, ?_, ?_⟩
              · by_contra blank
                simp only [isBlank, Bool.not_eq_false, Bool.or_eq_true, beq_iff_eq] at blank
                obtain ((rfl | rfl) | rfl) | rfl := blank <;> exact absurd isDigit (by decide)
              · rintro rfl
                exact absurd isDigit (by decide)
              · rintro rfl
                exact absurd isDigit (by decide)

end Layout

/-! ## Arrays -/

section Parts

variable {layout : Layout} {level limit : Nat} {gap : List Char}

/-- The items of an array are read one after the other. -/
theorem items?_writeItems {item : Reader Value} {first : Value} {others : List Value}
    (reads : ∀ value ∈ first :: others, Reads item (write layout (level + 1) value) value)
    (enough : (writeItems layout level others).length ≤ limit)
    (blank : ∀ c ∈ gap, isBlank c = true) (rest : List Char) :
    items? item limit
        (gap ++ write layout (level + 1) first ++ (writeItems layout level others ++ rest)) =
      some (first :: others, rest) := by
  induction others generalizing first limit gap with
  | nil =>
      have read :=
        reads first List.mem_cons_self gap _ blank (stops_writeItems layout level [] rest)
      rw [writeItems] at read enough ⊢
      cases limit with
      | zero => simp at enough
      | succ limit =>
          have close : skipBlanks (layout.gap level ++ [']'] ++ rest) = ']' :: rest := by
            rw [List.append_assoc]
            exact skipBlanks_append (isBlank_gap layout level) (stops_cons.mpr rfl)
          simp only [items?, read, Option.bind_eq_bind, Option.bind_some, close]
  | cons second others ih =>
      obtain ⟨readsFirst, readsOthers⟩ := List.forall_mem_cons.mp reads
      have read := readsFirst gap _ blank (stops_writeItems layout level (second :: others) rest)
      rw [writeItems] at read enough ⊢
      simp only [List.length_append, List.length_cons] at enough
      cases limit with
      | zero => omega
      | succ limit =>
          have fewer : (writeItems layout level others).length ≤ limit := by omega
          have later := ih readsOthers fewer (isBlank_gap layout (level + 1))
          have comma : skipBlanks (',' :: layout.gap (level + 1) ++
              write layout (level + 1) second ++ writeItems layout level others ++ rest) =
              ',' :: (layout.gap (level + 1) ++ write layout (level + 1) second ++
                (writeItems layout level others ++ rest)) := by
            simp [skipBlanks, isBlank]
          simp only [items?, read, Option.bind_eq_bind, Option.bind_some, comma, later]

theorem length_lt_of_mem_writeItems {items : List Value} {item : Value} (member : item ∈ items) :
    (write layout (level + 1) item).length < (writeItems layout level items).length := by
  induction items with
  | nil => exact absurd member List.not_mem_nil
  | cons first others ih =>
      rw [writeItems]
      simp only [List.length_append, List.length_cons]
      rcases List.mem_cons.mp member with rfl | later
      · omega
      · have shorter := ih later
        omega

theorem length_item_lt {items : List Value} {item : Value} (member : item ∈ items) :
    (write layout (level + 1) item).length < (write layout level (.array items)).length := by
  cases items with
  | nil => exact absurd member List.not_mem_nil
  | cons first others =>
      rw [write]
      simp only [List.length_append, List.length_cons]
      rcases List.mem_cons.mp member with rfl | later
      · omega
      · have shorter : _ < (writeItems layout level others).length :=
          length_lt_of_mem_writeItems later
        omega

/-! ## Objects -/

/-- A key, a colon and a value are read as one member. -/
theorem member?_write {reader : Reader Value} {key : Option String} {value : Value}
    {rest : List Char} (reads : Reads reader (write layout (level + 1) value) value)
    (enough : (quoted key).length ≤ limit) (blank : ∀ c ∈ gap, isBlank c = true)
    (stops : Stops continuesNumber rest) :
    member? reader limit
        (gap ++ quoted key ++ layout.colon ++ write layout (level + 1) value ++ rest) =
      some ((key, value), rest) := by
  obtain ⟨inner, starts, readsKey⟩ := string?_quoted key
  obtain ⟨space, colon, isSpace⟩ : ∃ space, layout.colon = ':' :: space ∧
      ∀ c ∈ space, isBlank c = true := by
    cases layout with
    | compact => exact ⟨[], rfl, fun c member => absurd member List.not_mem_nil⟩
    | pretty => exact ⟨[' '], rfl, fun c member => by rw [List.mem_singleton.mp member]; rfl⟩
  have read := reads space rest isSpace stops
  have keyRead := readsKey (':' :: (space ++ write layout (level + 1) value ++ rest)) enough
  have front : skipBlanks
      (gap ++ quoted key ++ layout.colon ++ write layout (level + 1) value ++ rest) =
      '"' :: (inner ++ ':' :: (space ++ write layout (level + 1) value ++ rest)) := by
    rw [starts, colon]
    simp only [List.append_assoc, List.cons_append]
    exact skipBlanks_append blank (stops_cons.mpr rfl)
  have atColon : skipBlanks (':' :: (space ++ write layout (level + 1) value ++ rest)) =
      ':' :: (space ++ write layout (level + 1) value ++ rest) := by
    simp [skipBlanks, isBlank]
  simp only [member?, front, after?, if_true, Option.bind_eq_bind, Option.bind_some, keyRead,
    atColon, read]

/-- The members of an object are read one after the other. -/
theorem members?_writeMembers {reader : Reader Value} {key : Option String} {value : Value}
    {others : List (Option String × Value)}
    (reads : ∀ member ∈ (key, value) :: others,
      Reads reader (write layout (level + 1) member.2) member.2)
    (enough : (quoted key).length + (writeMembers layout level others).length ≤ limit)
    (blank : ∀ c ∈ gap, isBlank c = true) (rest : List Char) :
    members? reader limit
        (gap ++ quoted key ++ layout.colon ++ write layout (level + 1) value ++
          (writeMembers layout level others ++ rest)) =
      some ((key, value) :: others, rest) := by
  induction others generalizing key value limit gap with
  | nil =>
      have readsFirst := reads (key, value) List.mem_cons_self
      have stops := stops_writeMembers layout level [] rest
      rw [writeMembers] at enough stops ⊢
      simp only [List.length_append, List.length_singleton] at enough
      cases limit with
      | zero => omega
      | succ limit =>
          have shorter : (quoted key).length ≤ limit := by omega
          have close : skipBlanks (layout.gap level ++ ['\x7d'] ++ rest) = '\x7d' :: rest := by
            rw [List.append_assoc]
            exact skipBlanks_append (isBlank_gap layout level) (stops_cons.mpr rfl)
          simp only [members?, member?_write readsFirst shorter blank stops, Option.bind_eq_bind,
            Option.bind_some, close]
  | cons second others ih =>
      obtain ⟨nextKey, nextValue⟩ := second
      obtain ⟨readsFirst, readsOthers⟩ := List.forall_mem_cons.mp reads
      have stops := stops_writeMembers layout level ((nextKey, nextValue) :: others) rest
      rw [writeMembers] at enough stops ⊢
      simp only [List.length_append, List.length_cons] at enough
      cases limit with
      | zero => omega
      | succ limit =>
          have shorter : (quoted key).length ≤ limit := by omega
          have fewer : (quoted nextKey).length + (writeMembers layout level others).length ≤
              limit := by omega
          have later := ih readsOthers fewer (isBlank_gap layout (level + 1))
          have comma : skipBlanks (',' :: layout.gap (level + 1) ++ quoted nextKey ++
              layout.colon ++ write layout (level + 1) nextValue ++
              writeMembers layout level others ++ rest) =
              ',' :: (layout.gap (level + 1) ++ quoted nextKey ++ layout.colon ++
                write layout (level + 1) nextValue ++
                (writeMembers layout level others ++ rest)) := by
            simp [skipBlanks, isBlank]
          simp only [members?, member?_write readsFirst shorter blank stops, Option.bind_eq_bind,
            Option.bind_some, comma, later]

theorem length_lt_of_mem_writeMembers {members : List (Option String × Value)}
    {entry : Option String × Value} (member : entry ∈ members) :
    (write layout (level + 1) entry.2).length < (writeMembers layout level members).length := by
  induction members with
  | nil => exact absurd member List.not_mem_nil
  | cons first others ih =>
      obtain ⟨key, value⟩ := first
      rw [writeMembers]
      simp only [List.length_append, List.length_cons]
      rcases List.mem_cons.mp member with rfl | later
      · dsimp only
        omega
      · have shorter := ih later
        omega

theorem length_member_lt {members : List (Option String × Value)} {entry : Option String × Value}
    (member : entry ∈ members) :
    (write layout (level + 1) entry.2).length < (write layout level (.object members)).length := by
  cases members with
  | nil => exact absurd member List.not_mem_nil
  | cons first others =>
      obtain ⟨key, value⟩ := first
      rw [write]
      simp only [List.length_append, List.length_cons]
      rcases List.mem_cons.mp member with rfl | later
      · dsimp only
        omega
      · have shorter : _ < (writeMembers layout level others).length :=
          length_lt_of_mem_writeMembers later
        omega

end Parts

/-! ## Values -/

/-- What a value starts with is read behind blanks. -/
theorem value?_behind_gap {limit : Nat} {gap : List Char} (blank : ∀ c ∈ gap, isBlank c = true)
    (text : List Char) : value? (limit + 1) (gap ++ text) = value? (limit + 1) text := by
  rw [value?, value?, skipBlanks_gap blank]

/-- What starts with a digit or a minus is read as a number. -/
theorem value?_of_digit {c : Char} (starts : c.isDigit = true ∨ c = '-') (limit : Nat)
    (text : List Char) : value? (limit + 1) (c :: text) = number? (c :: text) := by
  have other : ∀ d : Char, (d.isDigit || d == '-') = false → c ≠ d := by
    rintro d isNone rfl
    rcases starts with isDigit | rfl
    · simp [isDigit] at isNone
    · exact absurd isNone (by decide)
  have notBlank : isBlank c = false := by
    simp [isBlank, other ' ' rfl, other '\t' rfl, other '\n' rfl, other '\r' rfl]
  have skips : skipBlanks (c :: text) = c :: text :=
    List.dropWhile_cons_of_neg (Bool.eq_false_iff.mp notBlank)
  simp [value?, skips, other '[' rfl, other '\x7b' rfl, other '"' rfl, other 'n' rfl,
    other 't' rfl, other 'f' rfl]

theorem value?_array (limit : Nat) (text : List Char) :
    value? (limit + 1) ('[' :: text) = array? (value? limit) limit text := rfl

theorem value?_object (limit : Nat) (text : List Char) :
    value? (limit + 1) ('\x7b' :: text) = object? (value? limit) limit text := rfl

theorem value?_of_string {limit : Nat} {text rest : List Char} {found : Option String}
    (read : string? limit text = some (found, rest)) :
    value? (limit + 1) ('"' :: text) = some (.string found, rest) := by
  simp [value?, skipBlanks, isBlank, read]

section Brackets

variable {reader : Reader Value} {limit : Nat} {gap text rest : List Char}
  (blank : ∀ c ∈ gap, isBlank c = true)

include blank

theorem array?_of_items {c : Char} {items : List Value} (notBlank : isBlank c = false)
    (notClose : c ≠ ']') (read : items? reader limit (c :: text) = some (items, rest)) :
    array? reader limit (gap ++ c :: text) = some (.array items, rest) := by
  rw [array?, skipBlanks_append blank (stops_cons.mpr notBlank)]
  split
  · next same => exact absurd (List.cons.inj same).1 notClose
  · rw [read]
    rfl

theorem object?_of_members {members : List (Option String × Value)}
    (read : members? reader limit ('"' :: text) = some (members, rest)) :
    object? reader limit (gap ++ '"' :: text) = some (.object members, rest) := by
  rw [object?, skipBlanks_append blank (stops_cons.mpr rfl)]
  split
  · next same => exact absurd (List.cons.inj same).1 (by decide)
  · rw [read]
    rfl

end Brackets

/-! ## Parts and the whole -/

section Whole

variable {layout : Layout}

theorem reads_number (natural : Option Nat) (level : Nat) {limit : Nat} :
    Reads (value? (limit + 1)) (write layout level (.number natural)) (.number natural) := by
  intro gap rest blank stops
  rw [List.append_assoc, value?_behind_gap blank]
  cases natural with
  | none => exact (value?_of_digit (Or.inr rfl) limit _).trans (number?_minusZero stops)
  | some natural =>
      have read := number?_toDigits natural stops
      rw [write]
      cases written : Nat.toDigits 10 natural with
      | nil => exact absurd written Nat.toDigits_ne_nil
      | cons c digits =>
          rw [written] at read
          have isDigit := isDigit_of_mem_toDigits natural c (written ▸ List.mem_cons_self)
          exact (value?_of_digit (Or.inl isDigit) limit _).trans read

theorem reads_string (text : Option String) (level : Nat) {limit : Nat}
    (enough : (quoted text).length ≤ limit) :
    Reads (value? (limit + 1)) (write layout level (.string text)) (.string text) := by
  intro gap rest blank stops
  obtain ⟨inner, starts, read⟩ := string?_quoted text
  rw [List.append_assoc, value?_behind_gap blank, write, starts, List.cons_append]
  exact value?_of_string (read rest enough)

theorem reads_array {items : List Value} {level limit : Nat}
    (reads : ∀ item ∈ items, Reads (value? limit) (write layout (level + 1) item) item)
    (enough : (write layout level (.array items)).length ≤ limit) :
    Reads (value? (limit + 1)) (write layout level (.array items)) (.array items) := by
  intro gap rest blank stops
  rw [List.append_assoc, value?_behind_gap blank]
  cases items with
  | nil => rfl
  | cons first others =>
      rw [write] at enough ⊢
      simp only [List.length_append, List.length_cons] at enough
      have fewer : (writeItems layout level others).length ≤ limit := by omega
      obtain ⟨c, more, starts, notBlank, notClose, -⟩ :=
        exists_write_eq_cons layout (level + 1) first
      have read := items?_writeItems reads fewer isBlank_nil rest
      rw [starts] at read ⊢
      simp only [List.append_assoc, List.cons_append, value?_array]
      exact array?_of_items (isBlank_gap layout (level + 1)) notBlank notClose
        (by simpa using read)

theorem reads_object {members : List (Option String × Value)} {level limit : Nat}
    (reads : ∀ member ∈ members,
      Reads (value? limit) (write layout (level + 1) member.2) member.2)
    (enough : (write layout level (.object members)).length ≤ limit) :
    Reads (value? (limit + 1)) (write layout level (.object members)) (.object members) := by
  intro gap rest blank stops
  rw [List.append_assoc, value?_behind_gap blank]
  cases members with
  | nil => rfl
  | cons first others =>
      obtain ⟨key, value⟩ := first
      rw [write] at enough ⊢
      simp only [List.length_append, List.length_cons] at enough
      have fewer : (quoted key).length + (writeMembers layout level others).length ≤ limit := by
        omega
      obtain ⟨inner, starts, -⟩ := string?_quoted key
      have read := members?_writeMembers reads fewer isBlank_nil rest
      rw [starts] at read ⊢
      simp only [List.append_assoc, List.cons_append, value?_object]
      exact object?_of_members (isBlank_gap layout (level + 1)) (by simpa using read)

/-- Every value is read from a text that starts with its writing. -/
theorem reads_write (value : Value) (level : Nat) {limit : Nat}
    (enough : (write layout level value).length ≤ limit) :
    Reads (value? (limit + 1)) (write layout level value) value := by
  induction value using Value.byParts generalizing level limit with
  | null =>
      intro gap rest blank stops
      rw [List.append_assoc, value?_behind_gap blank]
      rfl
  | bool truth =>
      intro gap rest blank stops
      rw [List.append_assoc, value?_behind_gap blank]
      cases truth <;> rfl
  | number natural => exact reads_number natural level
  | string text => exact reads_string text level enough
  | array items ih =>
      refine reads_array ?_ enough
      intro item member
      have shorter := Nat.lt_of_lt_of_le (length_item_lt member) enough
      cases limit with
      | zero => contradiction
      | succ limit => exact ih item member (level + 1) (Nat.le_of_lt_succ shorter)
  | object members ih =>
      refine reads_object ?_ enough
      intro entry member
      have shorter := Nat.lt_of_lt_of_le (length_member_lt member) enough
      cases limit with
      | zero => contradiction
      | succ limit => exact ih entry member (level + 1) (Nat.le_of_lt_succ shorter)

end Whole

/-- A value is read back from its text. -/
theorem parse?_text (layout : Layout) (value : Value) :
    parse? (value.text layout) = some value := by
  have read := reads_write value 0 (Nat.le_refl (write layout 0 value).length) [] []
    isBlank_nil (stops_nil continuesNumber)
  rw [List.nil_append, List.append_nil] at read
  rw [parse?, Value.text, String.toList_ofList, read]
  rfl

theorem text_injective {layout : Layout} {value other : Value}
    (same : value.text layout = other.text layout) : value = other := by
  have read := parse?_text layout value
  rw [same, parse?_text] at read
  exact (Option.some.inj read).symm

end Json
end ScriptLint
