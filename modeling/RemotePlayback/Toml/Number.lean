import RemotePlayback.Text.Decimal
import RemotePlayback.Toml.Text
import RemotePlayback.Toml.Value

/-!
Numbers and times in a TOML text.

Digits may be grouped by single underscores. An integer has no superfluous zero in front, fits 64
bits, and may also be written to the base 16, 8 or 2, then without a sign. A float has a fraction,
an exponent or both, or is infinite or no number. A time is a date of the calendar, a time of the
day or both, and if both perhaps with an offset.
-/

namespace RemotePlayback.Toml

/-! ## Digits -/

/-- Further digits of a class, an underscore allowed before each. -/
def moreDigits (isDigit : Char → Bool) : List Char → List Char × List Char
  | [] => ([], [])
  | '_' :: c :: rest =>
    if isDigit c then (c :: (moreDigits isDigit rest).1, (moreDigits isDigit rest).2)
    else ([], '_' :: c :: rest)
  | c :: rest =>
    if isDigit c then (c :: (moreDigits isDigit rest).1, (moreDigits isDigit rest).2)
    else ([], c :: rest)

/-- At least one digit of a class, without the underscores. -/
def digits? (isDigit : Char → Bool) : List Char → Option (List Char × List Char)
  | [] => none
  | c :: rest =>
    if isDigit c then some (c :: (moreDigits isDigit rest).1, (moreDigits isDigit rest).2)
    else none

/-- Exactly so many digits, and the number they write. -/
def fixedDigits? : (count : Nat) → List Char → Option (Nat × List Char)
  | count, s =>
    let ds := s.take count
    if ds.length = count ∧ ds.all Char.isDigit then
      (Text.decimalAfter? 0 ds).map fun n => (n, s.drop count)
    else none

/-- A sign, if there is one; true is minus. -/
def sign : List Char → Option Bool × List Char
  | '+' :: rest => (some false, rest)
  | '-' :: rest => (some true, rest)
  | s => (none, s)

/-- The digits of a decimal integer: a single one, or several that do not begin with a zero. -/
def decimal? : List Char → Option (List Char × List Char)
  | '0' :: rest => some (['0'], rest)
  | s => digits? Char.isDigit s

/-! ## Integers -/

/-- The integer in the range of 64 bits. -/
def integer? (n : Int) : Option Value :=
  if -2 ^ 63 ≤ n ∧ n ≤ 2 ^ 63 - 1 then some (.integer (Int64.ofInt n)) else none

/-- The number that digits to a base write. -/
def ofBase (base : Nat) (ds : List Char) : Nat :=
  ds.foldl (fun n c => base * n + (hexValue? c).getD 0) 0

/-- An integer to a base other than ten. -/
def based? (base : Nat) (s : List Char) : Option (Value × List Char) := do
  let (ds, rest) ← digits? (fun c => (hexValue? c).any (· < base)) s
  let v ← integer? (ofBase base ds)
  return (v, rest)

/-! ## Floats -/

/-- A point and the digits behind it, if there is a point. -/
def fraction? : List Char → Option (List Char × List Char)
  | '.' :: rest => digits? Char.isDigit rest
  | s => some ([], s)

/-- An exponent, if there is one. -/
def exponent? : List Char → Option (Option Int × List Char)
  | c :: rest =>
    if c = 'e' ∨ c = 'E' then do
      let (negative, rest) := sign rest
      let (ds, rest) ← digits? Char.isDigit rest
      let n : Int := ofBase 10 ds
      return (some (if negative = some true then -n else n), rest)
    else some (none, c :: rest)
  | [] => some (none, [])

/-- The float of its parts; one that is too great is refused, one that is too low is infinite. -/
def float? (negative : Bool) (whole fraction : List Char) (exponent : Int) : Option Value :=
  let d := Double.ofDecimal negative (ofBase 10 (whole ++ fraction)) (exponent - fraction.length)
  if d = Double.infinity false then none else some (.float d)

/-- A decimal number, and what follows it. -/
def decimalNumber? (s : List Char) : Option (Value × List Char) := do
  let (minus, s) := sign s
  let negative := minus = some true
  let (whole, s) ← decimal? s
  let (fraction, s) ← fraction? s
  let (exponent, s) ← exponent? s
  if fraction = [] ∧ exponent = none then
    let n : Int := ofBase 10 whole
    let v ← integer? (if negative then -n else n)
    return (v, s)
  else
    let v ← float? negative whole fraction (exponent.getD 0)
    return (v, s)

/-! ## Times -/

/-- A character that must come next. -/
def char? (c : Char) : List Char → Option (List Char)
  | [] => none
  | d :: rest => if d = c then some rest else none

/-- So many digits that write a number between bounds. -/
def digitsWithin? (count low high : Nat) (s : List Char) : Option (Nat × List Char) :=
  (fixedDigits? count s).filter fun r => low ≤ r.1 && r.1 ≤ high

/-- The number of days of a month. -/
def daysOf (year month : Nat) : Nat :=
  if month = 2 then
    if year % 4 = 0 ∧ (year % 100 ≠ 0 ∨ year % 400 = 0) then 29 else 28
  else if month = 4 ∨ month = 6 ∨ month = 9 ∨ month = 11 then 30
  else 31

/-- What follows a date of the calendar. -/
def date? (s : List Char) : Option (List Char) := do
  let (year, s) ← fixedDigits? 4 s
  let s ← char? '-' s
  let (month, s) ← digitsWithin? 2 1 12 s
  let s ← char? '-' s
  let (_, s) ← digitsWithin? 2 1 (daysOf year month) s
  return s

/-- What follows a time of the day. -/
def clock? (s : List Char) : Option (List Char) := do
  let (_, s) ← digitsWithin? 2 0 23 s
  let s ← char? ':' s
  let (_, s) ← digitsWithin? 2 0 59 s
  let s ← char? ':' s
  let (_, s) ← digitsWithin? 2 0 60 s
  match s with
  | '.' :: c :: rest => if c.isDigit then some (rest.dropWhile Char.isDigit) else none
  | '.' :: [] => none
  | s => some s

/-- What follows an offset; the text itself, if there is none. -/
def offset? : List Char → Option (List Char)
  | [] => some []
  | c :: rest =>
    if c = 'Z' ∨ c = 'z' then some rest
    else if c = '+' ∨ c = '-' then do
      let (_, s) ← digitsWithin? 2 0 23 rest
      let s ← char? ':' s
      let (_, s) ← digitsWithin? 2 0 59 s
      return s
    else some (c :: rest)

/-- What follows a time, with its date or without. -/
def time? (s : List Char) : Option (List Char) :=
  match date? s with
  | some (c :: rest) =>
    if c = 'T' ∨ c = 't' ∨ c = ' ' then
      match clock? rest with
      | some rest => offset? rest
      | none => some (c :: rest)
    else some (c :: rest)
  | some [] => some []
  | none => clock? s

/-! ## All of them -/

/-- A number or time, and what follows it. -/
def number? (s : List Char) : Option (Value × List Char) :=
  match time? s with
  | some rest => some (.time (String.ofList (s.take (s.length - rest.length))), rest)
  | none =>
    match s with
    | '0' :: 'x' :: rest => based? 16 rest
    | '0' :: 'o' :: rest => based? 8 rest
    | '0' :: 'b' :: rest => based? 2 rest
    | s =>
      match (sign s).2 with
      | 'i' :: 'n' :: 'f' :: rest => some (.float (Double.infinity ((sign s).1 = some true)), rest)
      | 'n' :: 'a' :: 'n' :: rest => some (.float (Double.nan ((sign s).1 = some true)), rest)
      | _ => decimalNumber? s

end RemotePlayback.Toml
