import RemotePlayback.Table
import RemotePlayback.Json.Numeral

/-!
JSON values and their compact text.

The members of an object are kept in the order of their keys, each key once, so a value has one
text. The text has no blanks; in strings only the quote, the backslash and the control characters
are escaped, by a letter where there is one and else by four hexadecimal digits.
-/

namespace RemotePlayback

/-- A JSON value. -/
inductive Json where
  | null
  | bool (b : Bool)
  | number (n : Json.Number)
  | string (s : String)
  | array (items : List Json)
  | object (members : List (String × Json))
  deriving Inhabited

namespace Json

/-! ## Looking into a value -/

/-- The member of an object; no other value has members. -/
def member? (k : String) : Json → Option Json
  | .object ms => Entries.find? k ms
  | _ => none

/-- The text of a string. -/
def text? : Json → Option String
  | .string s => some s
  | _ => none

/-- The truth value. -/
def bool? : Json → Option Bool
  | .bool b => some b
  | _ => none

/-- The elements of an array. -/
def items? : Json → Option (List Json)
  | .array xs => some xs
  | _ => none

/-- The members of an object. -/
def members? : Json → Option (List (String × Json))
  | .object ms => some ms
  | _ => none

/-- The number. -/
def number? : Json → Option Number
  | .number n => some n
  | _ => none

/-- An integer as a value. -/
def ofInt (n : Int) : Json := .number (.integer n)

/-- A natural number as a value. -/
def ofNat (n : Nat) : Json := .number (.integer n)

/-- A text, or null for none. -/
def ofText? : Option String → Json
  | some s => .string s
  | none => .null

/-- A table of texts as an object. -/
def ofTexts (t : Table String) : Json := .object (t.map Json.string).entries

/-- An object with the given members. -/
def ofMembers (ms : List (String × Json)) : Json := .object (Entries.ofList ms)

/-! ## Compact text -/

/-- The letter that escapes a character, where there is one. -/
def escapeLetter? (c : Char) : Option Char :=
  if c = '"' then some '"'
  else if c = '\\' then some '\\'
  else if c = '\x08' then some 'b'
  else if c = '\t' then some 't'
  else if c = '\n' then some 'n'
  else if c = '\x0c' then some 'f'
  else if c = '\r' then some 'r'
  else none

/-- A character inside a string. -/
def escaped (c : Char) : List Char :=
  match escapeLetter? c with
  | some l => ['\\', l]
  | none =>
    if c.toNat < 0x20 then
      ['\\', 'u', '0', '0', Nat.digitChar (c.toNat / 16), Nat.digitChar (c.toNat % 16)]
    else [c]

/-- A string with its quotes. -/
def quoted (s : String) : List Char := '"' :: (s.toList.flatMap escaped ++ ['"'])

mutual

/-- The compact text of a value. -/
def chars : Json → List Char
  | .null => ['n', 'u', 'l', 'l']
  | .bool true => ['t', 'r', 'u', 'e']
  | .bool false => ['f', 'a', 'l', 's', 'e']
  | .number n => n.numeral.chars
  | .string s => quoted s
  | .array xs => '[' :: (itemChars xs ++ [']'])
  | .object ms => '{' :: (memberChars ms ++ ['}'])

/-- The elements of an array, with commas between them. -/
def itemChars : List Json → List Char
  | [] => []
  | x :: xs => x.chars ++ moreItemChars xs

/-- Further elements, each after a comma. -/
def moreItemChars : List Json → List Char
  | [] => []
  | x :: xs => ',' :: (x.chars ++ moreItemChars xs)

/-- The members of an object, with commas between them. -/
def memberChars : List (String × Json) → List Char
  | [] => []
  | (k, v) :: ms => quoted k ++ ':' :: (v.chars ++ moreMemberChars ms)

/-- Further members, each after a comma. -/
def moreMemberChars : List (String × Json) → List Char
  | [] => []
  | (k, v) :: ms => ',' :: (quoted k ++ ':' :: (v.chars ++ moreMemberChars ms))

end

/-- The compact text of a value. -/
def text (v : Json) : String := String.ofList v.chars

/-- The compact text of a value, encoded. -/
def bytes (v : Json) : Bytes := Bytes.ofText v.text

end Json

end RemotePlayback
