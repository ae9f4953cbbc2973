import RemotePlayback.Text.Printable

/-!
Texts in quotes, as messages show them.

Quotes, backslashes and a few controls are escaped by a letter; any other character that would not
show is given by its number.
-/

namespace RemotePlayback.Text

/-- A character inside the quotes. -/
def shown (c : Char) : List Char :=
  if c = '\x00' then ['\\', '0']
  else if c = '\t' then ['\\', 't']
  else if c = '\r' then ['\\', 'r']
  else if c = '\n' then ['\\', 'n']
  else if c = '"' ∨ c = '\\' then ['\\', c]
  else if isPrintable c then [c]
  else ['\\', 'u', '\x7b'] ++ Nat.toDigits 16 c.toNat ++ ['\x7d']

/-- A text in quotes. -/
def quoted (s : String) : String := String.ofList ('"' :: (s.toList.flatMap shown ++ ['"']))

end RemotePlayback.Text
