/-!
# Text from bytes

UTF-8 is read one byte at a time by a machine that stands either between characters or inside one.
Text that is not well formed is read all the same: each longest run of bytes that could have begun
a character, and each byte that could not, becomes one replacement character.
-/

namespace ElfInspect
namespace Utf8

/-- The character that stands for bytes which are no text. -/
def replacement : Char := Char.ofNat 0xFFFD

/-- Where the reading of a text stands between two bytes. -/
inductive State where
  /-- Between characters. -/
  | start
  /-- Inside a character: `owed + 1` bytes are missing, the next one lies between `low` and
  `high`, and the bytes so far carry the bits of `code`. -/
  | within (owed : Nat) (low high : UInt8) (code : Nat)
  deriving DecidableEq, Repr

/-- The text and state after a byte that follows a complete character.  The first byte fixes the
length of a character and, to keep out long forms and surrogates, the range of the second. -/
def first (byte : UInt8) : List Char × State :=
  if byte ≤ 0x7F then ([Char.ofNat byte.toNat], .start)
  else if 0xC2 ≤ byte ∧ byte ≤ 0xDF then ([], .within 0 0x80 0xBF (byte.toNat - 0xC0))
  else if byte = 0xE0 then ([], .within 1 0xA0 0xBF 0)
  else if byte = 0xED then ([], .within 1 0x80 0x9F 0xD)
  else if 0xE1 ≤ byte ∧ byte ≤ 0xEF then ([], .within 1 0x80 0xBF (byte.toNat - 0xE0))
  else if byte = 0xF0 then ([], .within 2 0x90 0xBF 0)
  else if 0xF1 ≤ byte ∧ byte ≤ 0xF3 then ([], .within 2 0x80 0xBF (byte.toNat - 0xF0))
  else if byte = 0xF4 then ([], .within 2 0x80 0x8F 4)
  else ([replacement], .start)

/-- The text and state after one more byte.  A byte that does not go on with the character begun
ends it as ill formed and is itself read as a first byte. -/
def next : State → UInt8 → List Char × State
  | .start, byte => first byte
  | .within owed low high code, byte =>
      if low ≤ byte ∧ byte ≤ high then
        match owed with
        | 0 => ([Char.ofNat (code * 64 + (byte.toNat - 0x80))], .start)
        | owed + 1 => ([], .within owed 0x80 0xBF (code * 64 + (byte.toNat - 0x80)))
      else
        (replacement :: (first byte).1, (first byte).2)

/-- The text still to come when the bytes end in a given state. -/
def finish : State → List Char
  | .start => []
  | .within .. => [replacement]

/-- The text of the remaining bytes, read from a given state. -/
def decodeFrom : State → List UInt8 → List Char
  | state, [] => finish state
  | state, byte :: rest => (next state byte).1 ++ decodeFrom (next state byte).2 rest

/-- The text of a byte sequence, with a replacement character for each ill-formed part. -/
def decode (bytes : List UInt8) : String := String.ofList (decodeFrom .start bytes)

end Utf8
end ElfInspect
