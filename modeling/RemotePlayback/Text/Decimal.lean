import RemotePlayback.Power

/-!
Natural numbers of 64 bits, read from decimal digits.
-/

namespace RemotePlayback.Text

/-- The number of a row of decimal digits after what was read before. -/
def decimalAfter? : (before : Nat) → List Char → Option Nat
  | n, [] => some n
  | n, c :: cs => if c.isDigit then decimalAfter? (n * 10 + (c.toNat - '0'.toNat)) cs else none

/-- The number below `2 ^ 64` that a text writes, one plus sign in front allowed. -/
def word64? (s : List Char) : Option Nat :=
  let digits := match s with
    | '+' :: digits => digits
    | digits => digits
  if digits = [] then none
  else (decimalAfter? 0 digits).filter (· < 2 ^ 64)

end RemotePlayback.Text
