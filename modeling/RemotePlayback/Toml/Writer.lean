import RemotePlayback.Toml.Value

/-!
Writing a TOML text.

A string is written in the first of four ways that shows it without escapes, a tab aside, and else
between quotes, on one line or on several as it has them.
-/

namespace RemotePlayback.Toml

/-- The longest run of a character. -/
def longestRun (c : Char) : List Char → Nat
  | s => (go s 0 0)
where
  /-- `run` is the length of the run before, `longest` that of the longest one. -/
  go : List Char → (run longest : Nat) → Nat
    | [], _, longest => longest
    | d :: s, run, longest =>
      if d = c then go s (run + 1) (max longest (run + 1)) else go s 0 longest

/-- A control character that no string holds unescaped. -/
def isControl (c : Char) : Bool :=
  (c.toNat < 0x20 && c ≠ '\t' && c ≠ '\n') || c.toNat = 0x7F

/-- The escape of a control character by its number, or by its letter if it has one. -/
def controlEscape (c : Char) : List Char :=
  if c = '\x08' then ['\\', 'b']
  else if c = '\t' then ['\\', 't']
  else if c = '\n' then ['\\', 'n']
  else if c = '\x0c' then ['\\', 'f']
  else if c = '\r' then ['\\', 'r']
  else
    let digit (n : Nat) : Char := (Nat.digitChar n).toUpper
    ['\\', 'u', '0', '0', digit (c.toNat / 16), digit (c.toNat % 16)]

/-- The characters of a string between quotes on one line. -/
def basicChars (s : List Char) : List Char :=
  s.flatMap fun c =>
    if c = '"' ∨ c = '\\' then ['\\', c]
    else if c.toNat < 0x20 ∨ c.toNat = 0x7F then controlEscape c
    else [c]

/-- The characters of a string between tripled quotes; of three quotes in a row the last is escaped.
-/
def basicLinesChars : (quotes : Nat) → List Char → List Char
  | _, [] => []
  | quotes, c :: s =>
    if c = '"' then
      if quotes = 2 then '\\' :: '"' :: basicLinesChars 0 s
      else '"' :: basicLinesChars (quotes + 1) s
    else if c = '\\' then '\\' :: '\\' :: basicLinesChars 0 s
    else if c = '\n' then '\n' :: basicLinesChars 0 s
    else if c.toNat < 0x20 ∨ c.toNat = 0x7F then controlEscape c ++ basicLinesChars 0 s
    else c :: basicLinesChars 0 s

/-- A string between marks, with a line break behind the opening one if it has several lines. -/
def onLines (mark body : List Char) (several : Bool) : List Char :=
  mark ++ (if several then ['\n'] else []) ++ body ++ mark

/-- A string as it is written. -/
def stringChars (s : List Char) : List Char :=
  let control := s.any isControl
  let several := s.contains '\n'
  let backslash := s.contains '\\'
  let quotes := longestRun '"' s
  let apostrophes := longestRun '\'' s
  let lines := onLines ['"', '"', '"'] (basicLinesChars 0 s) several
  let line := ['"'] ++ basicChars s ++ ['"']
  if !control && !backslash && !several && quotes = 0 then line
  else if !control && !several && apostrophes = 0 then ['\''] ++ s ++ ['\'']
  else if !control && !backslash && quotes ≤ 2 then lines
  else if !control && apostrophes ≤ 2 then onLines ['\'', '\'', '\''] s several
  else if several then lines
  else line

/-- A string as it is written. -/
def stringText (s : String) : String := String.ofList (stringChars s.toList)

/-- What stands behind a key: a text, a number or a truth value. -/
inductive Plain where
  | string (s : String)
  | integer (n : Int)
  | bool (b : Bool)
  deriving DecidableEq, Inhabited

/-- A plain value as it is written. -/
def Plain.text : Plain → String
  | string s => stringText s
  | integer n => toString n
  | bool true => "true"
  | bool false => "false"

/-- The line of a pair; a pair without a value has none. -/
def pairText : String × Option Plain → String
  | (key, some v) => key ++ " = " ++ v.text ++ "\n"
  | (_, none) => ""

/-- A header and the lines of its pairs. -/
def sectionText (name : String) (pairs : List (String × Option Plain)) : String :=
  "[" ++ name ++ "]\n" ++ String.join (pairs.map pairText)

/-- Sections with an empty line between them. -/
def write (sections : List (String × List (String × Option Plain))) : String :=
  "\n".intercalate (sections.map fun s => sectionText s.1 s.2)

end RemotePlayback.Toml
