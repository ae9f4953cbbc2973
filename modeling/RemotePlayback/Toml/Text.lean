import RemotePlayback.Text.Blank

/-!
The characters of a TOML text, and its strings.

A string is written in one of four ways: between quotes, where a backslash begins an escape, or
between apostrophes, where it does not; and on one line or, with the marks tripled, on several. On
several lines a line break directly behind the opening mark is not part of the string, a line ends
with a single line feed however it was written, and a backslash at the end of a line joins it to the
next one without the blanks between them.
-/

namespace RemotePlayback.Toml

open Text (isVisible)

/-- The blanks within a line. -/
def isSpace (c : Char) : Bool := c = ' ' || c = '\t'

/-- Skips blanks. -/
def skipSpace (s : List Char) : List Char := s.dropWhile isSpace

/-- What follows a line break. -/
def newline? : List Char → Option (List Char)
  | '\n' :: rest => some rest
  | '\r' :: '\n' :: rest => some rest
  | _ => none

/-- Skips a comment, if there is one. -/
def skipComment : List Char → List Char
  | '#' :: rest => rest.dropWhile isVisible
  | s => s

/-- What follows the rest of a line that holds nothing more than a comment. -/
def lineEnd? (s : List Char) : Option (List Char) :=
  match skipComment (skipSpace s) with
  | [] => some []
  | s => newline? s

/-- Skips a line break behind an opening mark. -/
def skipNewline (s : List Char) : List Char := (newline? s).getD s

/-! ## Escapes -/

/-- What an escape by one letter stands for. -/
def letterValue? (c : Char) : Option Char :=
  if c = 'b' then some '\x08'
  else if c = 't' then some '\t'
  else if c = 'n' then some '\n'
  else if c = 'f' then some '\x0c'
  else if c = 'r' then some '\r'
  else if c = '"' ∨ c = '\\' then some c
  else none

/-- A hexadecimal digit of either case. -/
def hexValue? (c : Char) : Option Nat :=
  if c.isDigit then some (c.toNat - '0'.toNat)
  else if 'a' ≤ c ∧ c ≤ 'f' then some (c.toNat - 'a'.toNat + 10)
  else if 'A' ≤ c ∧ c ≤ 'F' then some (c.toNat - 'A'.toNat + 10)
  else none

/-- The number that hexadecimal digits write. -/
def hexNumber? (cs : List Char) : Option Nat :=
  cs.foldlM (fun n c => (hexValue? c).map (16 * n + ·)) 0

/-- The character whose number hexadecimal digits write. -/
def hexChar? (cs : List Char) : Option Char :=
  (hexNumber? cs).bind fun n => if n.isValidChar then some (Char.ofNat n) else none

/-! ## Strings on one line -/

/-- Puts a character in front of what was read behind it. -/
def after (c : Char) (r : Option (List Char × List Char)) : Option (List Char × List Char) :=
  r.map fun r => (c :: r.1, r.2)

/-- The rest of a string in quotes, and what follows it. -/
def basic? : List Char → Option (List Char × List Char)
  | [] => none
  | '"' :: rest => some ([], rest)
  | '\\' :: 'u' :: a :: b :: c :: d :: rest => do
    let x ← hexChar? [a, b, c, d]
    after x (basic? rest)
  | '\\' :: 'U' :: a :: b :: c :: d :: e :: f :: g :: h :: rest => do
    let x ← hexChar? [a, b, c, d, e, f, g, h]
    after x (basic? rest)
  | '\\' :: l :: rest => do
    let x ← letterValue? l
    after x (basic? rest)
  | c :: rest => if isVisible c ∧ c ≠ '\\' then after c (basic? rest) else none

/-- The rest of a string in apostrophes, and what follows it. -/
def literal? : List Char → Option (List Char × List Char)
  | [] => none
  | '\'' :: rest => some ([], rest)
  | c :: rest => if isVisible c then after c (literal? rest) else none

/-! ## Strings on several lines -/

/-- A backslash before this ends its line. -/
def endsLine (s : List Char) : Bool := (newline? (skipSpace s)).isSome

/--
The rest of a string in tripled quotes, and what follows it. When `joining`, the blanks and line
breaks behind a backslash at the end of a line are being skipped. One or two quotes may stand
directly before the closing mark.
-/
def basicLines? : (joining : Bool) → List Char → Option (List Char × List Char)
  | _, [] => none
  | _, '"' :: '"' :: '"' :: '"' :: '"' :: rest => some (['"', '"'], rest)
  | _, '"' :: '"' :: '"' :: '"' :: rest => some (['"'], rest)
  | _, '"' :: '"' :: '"' :: rest => some ([], rest)
  | joining, '\n' :: rest =>
    if joining then basicLines? true rest else after '\n' (basicLines? false rest)
  | joining, '\r' :: '\n' :: rest =>
    if joining then basicLines? true rest else after '\n' (basicLines? false rest)
  | _, '\\' :: 'u' :: a :: b :: c :: d :: rest => do
    let x ← hexChar? [a, b, c, d]
    after x (basicLines? false rest)
  | _, '\\' :: 'U' :: a :: b :: c :: d :: e :: f :: g :: h :: rest => do
    let x ← hexChar? [a, b, c, d, e, f, g, h]
    after x (basicLines? false rest)
  | _, '\\' :: l :: rest =>
    if endsLine (l :: rest) then basicLines? true (l :: rest)
    else do
      let x ← letterValue? l
      after x (basicLines? false rest)
  | joining, c :: rest =>
    if joining ∧ isSpace c then basicLines? true rest
    else if isVisible c ∧ c ≠ '\\' then after c (basicLines? false rest)
    else none

/-- The rest of a string in tripled apostrophes, and what follows it. -/
def literalLines? : List Char → Option (List Char × List Char)
  | [] => none
  | '\'' :: '\'' :: '\'' :: '\'' :: '\'' :: rest => some (['\'', '\''], rest)
  | '\'' :: '\'' :: '\'' :: '\'' :: rest => some (['\''], rest)
  | '\'' :: '\'' :: '\'' :: rest => some ([], rest)
  | '\n' :: rest => after '\n' (literalLines? rest)
  | '\r' :: '\n' :: rest => after '\n' (literalLines? rest)
  | c :: rest => if isVisible c then after c (literalLines? rest) else none

/-- A string written in any way, and what follows it. -/
def string? : List Char → Option (List Char × List Char)
  | '"' :: '"' :: '"' :: rest => basicLines? false (skipNewline rest)
  | '"' :: rest => basic? rest
  | '\'' :: '\'' :: '\'' :: rest => literalLines? (skipNewline rest)
  | '\'' :: rest => literal? rest
  | _ => none

end RemotePlayback.Toml
