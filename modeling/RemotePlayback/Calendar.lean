/-!
Moments of time and their calendar text.

A moment is counted in seconds from the start of 1970, in UTC and without leap seconds. Its text is
that of RFC 3339; a year of more than four digits carries a plus sign.
-/

namespace RemotePlayback

/-- A moment, in seconds from the start of 1970. -/
structure Moment where
  seconds : Nat
  deriving DecidableEq, Inhabited

namespace Moment

/-- The last second of the year 262142, where the calendar ends. -/
def last : Nat := 8210266876799

/-- The moment of a count of seconds, if the calendar reaches it. -/
def ofSeconds? (n : Int) : Option Moment :=
  if 0 ≤ n ∧ n ≤ last then some ⟨n.toNat⟩ else none

/-- A day of the calendar. -/
structure Date where
  year : Nat
  month : Nat
  day : Nat
  deriving DecidableEq

/--
The date so many days after the first of March of the year 0. Years that begin in March end with
their leap day, so that a cycle of 400 years, its centuries, its leap cycles and its years are each
found by one division.
-/
def Date.ofDays (days : Nat) : Date :=
  let cycle := days / 146097
  let ofCycle := days % 146097
  let year := (ofCycle - ofCycle / 1460 + ofCycle / 36524 - ofCycle / 146096) / 365
  let ofYear := ofCycle - (365 * year + year / 4 - year / 100)
  let month := (5 * ofYear + 2) / 153
  let day := ofYear - (153 * month + 2) / 5 + 1
  if month < 10 then ⟨cycle * 400 + year, month + 3, day⟩
  else ⟨cycle * 400 + year + 1, month - 9, day⟩

/-- How many days lie between the first of March of the year 0 and the start of 1970. -/
def daysBefore1970 : Nat := 719468

/-- The date of a moment. -/
def date (m : Moment) : Date := Date.ofDays (m.seconds / 86400 + daysBefore1970)

/-- A number with leading zeros up to a width. -/
def padded (width n : Nat) : String :=
  let ds := Nat.toDigits 10 n
  String.ofList (List.replicate (width - ds.length) '0' ++ ds)

/-- The year in four digits, or with a plus sign in more. -/
def yearText (year : Nat) : String := if 9999 < year then "+" ++ padded 5 year else padded 4 year

/-- The text of a moment. -/
def text (m : Moment) : String :=
  let d := m.date
  yearText d.year ++ "-" ++ padded 2 d.month ++ "-" ++ padded 2 d.day ++ "T" ++
    padded 2 (m.seconds / 3600 % 24) ++ ":" ++ padded 2 (m.seconds / 60 % 60) ++ ":" ++
    padded 2 (m.seconds % 60) ++ "Z"

example : (⟨0⟩ : Moment).text = "1970-01-01T00:00:00Z" := by decide +kernel
example : (⟨951782400⟩ : Moment).text = "2000-02-29T00:00:00Z" := by decide +kernel
example : (⟨last⟩ : Moment).text = "+262142-12-31T23:59:59Z" := by decide +kernel

end Moment

end RemotePlayback
