import ScriptLint.Text.Reader
import ScriptLint.Toml.Value

/-!
# Scalars of TOML

Numbers, dates, times and strings.  Each kind has a reader that takes one off the front of a text.
-/

namespace ScriptLint
namespace Toml

open Text

/-! ## Characters -/

/-- A decimal digit. -/
def isDigit (c : Char) : Bool := c.isDigit

/-- A space or a tab. -/
def isBlank (c : Char) : Bool := c == ' ' || c == '\t'

/-- The text behind its initial blanks. -/
def skipBlanks (text : List Char) : List Char := text.dropWhile isBlank

/-- What follows a line feed, or a carriage return and a line feed, at the start of the text. -/
def afterNewline? : List Char → Option (List Char)
  | '\n' :: rest => some rest
  | '\r' :: '\n' :: rest => some rest
  | _ => none

/-- The character may stand in a comment: a tab or any character that is no control. -/
def isPlain (c : Char) : Bool := c == '\t' || (0x20 ≤ c.toNat && c.toNat ≠ 0x7F)

/-- What follows a comment at the start of the text, without the end of its line. -/
def afterComment? : List Char → Option (List Char)
  | '#' :: rest => some (rest.dropWhile isPlain)
  | _ => none

/-! ## Numbers -/

/-- Digits that go on after a first one; a single underscore may stand between two of them. -/
def moreDigits (isDigit : Char → Bool) : List Char → List Char × List Char
  | '_' :: c :: rest =>
      if isDigit c then
        let (digits, rest) := moreDigits isDigit rest
        (c :: digits, rest)
      else
        ([], '_' :: c :: rest)
  | c :: rest =>
      if isDigit c then
        let (digits, rest) := moreDigits isDigit rest
        (c :: digits, rest)
      else
        ([], c :: rest)
  | [] => ([], [])

/-- Digits with single underscores between them. -/
def digits? (isDigit : Char → Bool) : Reader (List Char)
  | c :: rest =>
      if isDigit c then
        let (digits, rest) := moreDigits isDigit rest
        some (c :: digits, rest)
      else
        none
  | [] => none

/-- A sign in front of a number: whether it is a minus. -/
def sign : List Char → Bool × List Char
  | '+' :: rest => (false, rest)
  | '-' :: rest => (true, rest)
  | text => (false, text)

/-- The digits of a decimal number: a zero alone, or digits that do not start with zero. -/
def decimal? (text : List Char) : Option (List Char × List Char) :=
  match text with
  | '0' :: rest => some (['0'], rest)
  | _ => digits? isDigit text

/-- The least natural number that is no integer of 64 bits. -/
def integerLimit : Nat := 0x8000000000000000

/-- An integer of at most 64 bits with its sign. -/
def integer64? (negative : Bool) (magnitude : Nat) : Option Value :=
  if negative then
    if magnitude ≤ integerLimit then some (.integer (-magnitude)) else none
  else
    if magnitude < integerLimit then some (.integer magnitude) else none

/-- The least number that rounds to infinity as a double. -/
def doubleLimit : Nat := Nat.pow 2 1024 - Nat.pow 2 970

/-- The decimal number `digits · 10 ^ (exponent - scale)` rounds to infinity as a double. -/
def isInfinite (digits : List Char) (exponent : Int) (scale : Nat) : Bool :=
  let mantissa := numberOf 10 digits
  let power := exponent - scale
  if mantissa = 0 then false
  else if 400 < power then true
  else if 0 ≤ power then doubleLimit ≤ mantissa * Nat.pow 10 power.toNat
  else if digits.length < power.natAbs then false
  else doubleLimit * Nat.pow 10 power.natAbs ≤ mantissa

/-- The exponent of a floating-point number, zero if the text does not start with one. -/
def exponent? (text : List Char) : Option (Int × List Char) :=
  match text with
  | 'e' :: rest | 'E' :: rest =>
      let (negative, rest) := sign rest
      (digits? isDigit rest).map fun (digits, rest) =>
        let magnitude : Int := numberOf 10 digits
        (if negative then -magnitude else magnitude, rest)
  | _ => some (0, text)

/-- Finish a floating-point number whose value is known; a positive one has to be finite. -/
def float? (negative : Bool) (whole fraction : List Char) (text : List Char) :
    Option (Value × List Char) :=
  match exponent? text with
  | none => none
  | some (exponent, rest) =>
      if !negative && isInfinite (whole ++ fraction) exponent fraction.length then none
      else
        let mark := if negative then ['-'] else []
        let digits := mark ++ whole ++ ['.'] ++ fraction
        some (.float s!"{String.ofList digits}e{exponent}", rest)

/-- Read an integer in a base other than ten, behind its mark. -/
def radix? (base : Nat) (isDigit : Char → Bool) (text : List Char) : Option (Value × List Char) :=
  match digits? isDigit text with
  | none => none
  | some (digits, rest) => (integer64? false (numberOf base digits)).map (·, rest)

/-- Read a decimal integer or a floating-point number. -/
def decimalNumber? (text : List Char) : Option (Value × List Char) :=
  let (negative, unsigned) := sign text
  match unsigned with
  | 'i' :: 'n' :: 'f' :: rest => some (.float "inf", rest)
  | 'n' :: 'a' :: 'n' :: rest => some (.float "nan", rest)
  | _ =>
      match decimal? unsigned with
      | none => none
      | some (whole, '.' :: rest) =>
          match digits? isDigit rest with
          | none => none
          | some (fraction, rest) => float? negative whole fraction rest
      | some (whole, 'e' :: rest) => float? negative whole [] ('e' :: rest)
      | some (whole, 'E' :: rest) => float? negative whole [] ('E' :: rest)
      | some (whole, rest) => (integer64? negative (numberOf 10 whole)).map (·, rest)

/-- Read a number. -/
def number? (text : List Char) : Option (Value × List Char) :=
  match text with
  | '0' :: 'x' :: rest => radix? 16 isHexDigit rest
  | '0' :: 'o' :: rest => radix? 8 (fun c => '0' ≤ c && c ≤ '7') rest
  | '0' :: 'b' :: rest => radix? 2 (fun c => c == '0' || c == '1') rest
  | _ => decimalNumber? text

/-! ## Dates and times -/

/-- A number of exactly two digits between two bounds. -/
def pair? (low high : Nat) : Reader Nat
  | tens :: ones :: rest =>
      let number := numberOf 10 [tens, ones]
      if isDigit tens && isDigit ones && low ≤ number && number ≤ high then some (number, rest)
      else none
  | _ => none

/-- Number of days of a month. -/
def daysOf (year month : Nat) : Nat :=
  if month = 2 then
    if year % 4 = 0 ∧ (year % 100 ≠ 0 ∨ year % 400 = 0) then 29 else 28
  else if month = 4 ∨ month = 6 ∨ month = 9 ∨ month = 11 then 30
  else 31

/-- What follows a date at the start of the text. -/
def afterDate? (text : List Char) : Option (List Char) := do
  let digits := text.take 4
  if digits.length = 4 ∧ digits.all isDigit then
    let rest ← after? '-' (text.drop 4)
    let (month, rest) ← pair? 1 12 rest
    let rest ← after? '-' rest
    let (_, rest) ← pair? 1 (daysOf (numberOf 10 digits) month) rest
    some rest
  else
    none

/-- What follows a fraction of a second, if the text starts with one. -/
def skipFraction : List Char → List Char
  | '.' :: c :: rest => if isDigit c then rest.dropWhile isDigit else '.' :: c :: rest
  | text => text

/-- What follows a time of day at the start of the text. -/
def afterTime? (text : List Char) : Option (List Char) := do
  let (_, rest) ← pair? 0 23 text
  let rest ← after? ':' rest
  let (_, rest) ← pair? 0 59 rest
  let rest ← after? ':' rest
  let (_, rest) ← pair? 0 60 rest
  some (skipFraction rest)

/-- What follows an offset from universal time, if the text starts with one. -/
def skipOffset? (text : List Char) : Option (List Char) :=
  match text with
  | 'Z' :: rest | 'z' :: rest => some rest
  | '+' :: rest | '-' :: rest => do
      let (_, rest) ← pair? 0 23 rest
      let rest ← after? ':' rest
      let (_, rest) ← pair? 0 59 rest
      some rest
  | _ => some text

/-- What follows a date, with or without a time and an offset, at the start of the text.  A blank
behind a date separates it from a time only if a time follows. -/
def afterDateTime? (text : List Char) : Option (List Char) := do
  let rest ← afterDate? text
  match rest with
  | 'T' :: time | 't' :: time => skipOffset? (← afterTime? time)
  | ' ' :: time =>
      match afterTime? time with
      | some rest => skipOffset? rest
      | none => some rest
  | _ => some rest

/-- The text looks like a date or a time of day: four digits and a hyphen, or two digits and a
colon. -/
def startsMoment (text : List Char) : Bool :=
  let isYear := (text.take 4).length == 4 && (text.take 4).all isDigit
  let isHour := (text.take 2).length == 2 && (text.take 2).all isDigit
  (isYear && (text.drop 4).head? == some '-') || (isHour && (text.drop 2).head? == some ':')

/-- Read a date, a time or both. -/
def moment? (text : List Char) : Option (Value × List Char) :=
  let rest? := if (text.drop 2).head? == some ':' then afterTime? text else afterDateTime? text
  rest?.map fun rest =>
    (.datetime (String.ofList (text.take (text.length - rest.length))), rest)

/-! ## Strings -/

/-- A character given by a fixed number of hexadecimal digits. -/
def codePoint? (count : Nat) (text : List Char) : Option (Char × List Char) :=
  match hexNumber? count text with
  | none => none
  | some (code, rest) => (scalar? code).map (·, rest)

/-- The character that an escape stands for, behind its backslash. -/
def escape? : Reader Char
  | 'b' :: rest => some ('\x08', rest)
  | 't' :: rest => some ('\t', rest)
  | 'n' :: rest => some ('\n', rest)
  | 'f' :: rest => some ('\x0c', rest)
  | 'r' :: rest => some ('\r', rest)
  | '"' :: rest => some ('"', rest)
  | '\\' :: rest => some ('\\', rest)
  | 'u' :: rest => codePoint? 4 rest
  | 'U' :: rest => codePoint? 8 rest
  | _ => none

/-- A quotation mark closes a string on one line. -/
def closeLine (mark : Char) : Reader (List Char)
  | c :: rest => if c = mark then some ([], rest) else none
  | [] => none

/-- Three quotation marks close a string on several lines; one or two more in front of them belong
to it. -/
def closeLines (mark : Char) (text : List Char) : Option (List Char × List Char) :=
  if [mark, mark, mark].isPrefixOf text then
    let rest := text.drop 3
    let extra := (rest.take 2).takeWhile (· == mark)
    some (extra, rest.drop extra.length)
  else
    none

/-- A character that stands for itself in a literal string. -/
def literalUnit : Reader (List Char)
  | c :: rest => if isPlain c then some ([c], rest) else none
  | [] => none

/-- A character or an escape in a basic string. -/
def basicUnit : Reader (List Char)
  | '\\' :: rest => (escape? rest).map fun (c, rest) => ([c], rest)
  | text => literalUnit text

/-- The text behind blanks and ends of lines; the limit has to be at least its length. -/
def skipLines : Nat → List Char → List Char
  | 0, text => text
  | limit + 1, text =>
      match afterNewline? (skipBlanks text) with
      | some rest => skipLines limit rest
      | none => skipBlanks text

/-- An end of line in a string on several lines is a line feed. -/
def newlineUnit (unit : Reader (List Char)) (text : List Char) : Option (List Char × List Char) :=
  match afterNewline? text with
  | some rest => some (['\n'], rest)
  | none => unit text

/-- A backslash at the end of a line takes the end of the line and all white space behind it away.
-/
def foldedUnit (text : List Char) : Option (List Char × List Char) :=
  match text with
  | '\\' :: rest =>
      match afterNewline? (skipBlanks rest) with
      | some behind => some ([], skipLines behind.length behind)
      | none => basicUnit text
  | _ => newlineUnit basicUnit text

/-- An end of line directly behind the opening marks does not count. -/
def skipFirstNewline (text : List Char) : List Char := (afterNewline? text).getD text

/-- Read a string on one line. -/
def lineString? (text : List Char) : Option (String × List Char) :=
  match text with
  | '"' :: rest =>
      (until? (closeLine '"') basicUnit text.length rest).map fun (body, rest) =>
        (String.ofList body, rest)
  | '\'' :: rest =>
      (until? (closeLine '\'') literalUnit text.length rest).map fun (body, rest) =>
        (String.ofList body, rest)
  | _ => none

/-- Read a string of any kind. -/
def string? (text : List Char) : Option (String × List Char) :=
  match text with
  | '"' :: '"' :: '"' :: rest =>
      (until? (closeLines '"') foldedUnit text.length (skipFirstNewline rest)).map
        fun (body, rest) => (String.ofList body, rest)
  | '\'' :: '\'' :: '\'' :: rest =>
      (until? (closeLines '\'') (newlineUnit literalUnit) text.length (skipFirstNewline rest)).map
        fun (body, rest) => (String.ofList body, rest)
  | _ => lineString? text

end Toml
end ScriptLint
