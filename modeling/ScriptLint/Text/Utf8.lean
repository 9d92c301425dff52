/-!
# Bytes as text

UTF-8 is decoded by a machine that takes one byte at a time.  Between characters it waits for a
first byte; inside a character it knows the range of the next byte.  A byte that does not fit makes
what came before it a bad sequence and is taken as a first byte.
-/

namespace ScriptLint
namespace Text

/-- A character that is not complete. -/
structure Pending where
  /-- Least next byte. -/
  low : Nat := 0x80
  /-- Greatest next byte. -/
  high : Nat := 0xBF
  /-- Number of bytes behind the next one. -/
  more : Nat
  /-- The bits so far. -/
  bits : Nat
deriving DecidableEq

/-- The character that a first byte starts, if it starts one of several bytes. -/
def Pending.start? (byte : Nat) : Option Pending :=
  if 0xC2 ≤ byte ∧ byte ≤ 0xDF then some { more := 0, bits := byte - 0xC0 }
  else if byte = 0xE0 then some { low := 0xA0, more := 1, bits := 0 }
  else if byte = 0xED then some { high := 0x9F, more := 1, bits := 0xD }
  else if 0xE1 ≤ byte ∧ byte ≤ 0xEF then some { more := 1, bits := byte - 0xE0 }
  else if byte = 0xF0 then some { low := 0x90, more := 2, bits := 0 }
  else if 0xF1 ≤ byte ∧ byte ≤ 0xF3 then some { more := 2, bits := byte - 0xF0 }
  else if byte = 0xF4 then some { high := 0x8F, more := 2, bits := 4 }
  else none

/-- Take a byte between two characters: what is complete, and what is pending. -/
def takeFirst (byte : Nat) : List (Option Char) × Option Pending :=
  if byte < 0x80 then ([some (Char.ofNat byte)], none)
  else
    match Pending.start? byte with
    | some pending => ([], some pending)
    | none => ([none], none)

/-- Take a byte: what is complete, with nothing in the place of a bad sequence, and what is pending.
-/
def takeByte : Option Pending → Nat → List (Option Char) × Option Pending
  | none, byte => takeFirst byte
  | some pending, byte =>
      if pending.low ≤ byte ∧ byte ≤ pending.high then
        let bits := pending.bits * 0x40 + (byte - 0x80)
        match pending.more with
        | 0 => ([some (Char.ofNat bits)], none)
        | more + 1 => ([], some { more, bits })
      else
        let (complete, next) := takeFirst byte
        (none :: complete, next)

/-- The characters that bytes spell, with nothing in the place of every bad sequence. -/
def decode : Option Pending → List Nat → List (Option Char)
  | none, [] => []
  | some _, [] => [none]
  | pending, byte :: rest =>
      let (complete, next) := takeByte pending byte
      complete ++ decode next rest

/-- The text that bytes spell, if all of them are UTF-8. -/
def ofBytes? (bytes : List Nat) : Option String :=
  ((decode none bytes).mapM id).map String.ofList

/-- The text that bytes spell, with a replacement character for every bad sequence. -/
def ofBytesLossy (bytes : List Nat) : String :=
  String.ofList ((decode none bytes).map fun character => character.getD '\uFFFD')

end Text
end ScriptLint
