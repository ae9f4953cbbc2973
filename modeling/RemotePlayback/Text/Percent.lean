import RemotePlayback.Bytes
import RemotePlayback.Text.Blank

/-!
Percent escapes, by which a path writes bytes that it could not hold otherwise.

A percent sign with two hexadecimal digits behind it is the byte of that number; any other percent
sign is itself.
-/

namespace RemotePlayback.Text

/-- A hexadecimal digit of either case. -/
def hexDigit? (b : UInt8) : Option UInt8 :=
  if 0x30 ≤ b ∧ b ≤ 0x39 then some (b - 0x30)
  else if 0x61 ≤ b ∧ b ≤ 0x66 then some (b - 0x61 + 10)
  else if 0x41 ≤ b ∧ b ≤ 0x46 then some (b - 0x41 + 10)
  else none

/-- Replaces the escapes by the bytes that they write. -/
def unescapePercents : Bytes → Bytes
  | 0x25 :: a :: b :: rest =>
    match hexDigit? a, hexDigit? b with
    | some x, some y => (x * 16 + y) :: unescapePercents rest
    | _, _ => 0x25 :: unescapePercents (a :: b :: rest)
  | b :: rest => b :: unescapePercents rest
  | [] => []

/-- The text of a part of a path, if its bytes are one. -/
def unescapePercents? (s : List Char) : Option String :=
  Bytes.toText? (unescapePercents (Bytes.ofText (String.ofList s)))

end RemotePlayback.Text
