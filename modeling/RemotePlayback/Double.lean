import RemotePlayback.Power

/-!
Binary floating-point numbers of 64 bits, by exact arithmetic on their parts.

A double is its bit pattern. A finite one stands for `mantissa · 2 ^ exponent`; every operation
here decodes that pair, computes with natural numbers, and rounds once, to the nearest double and
on a tie to the even mantissa. `digits` is the other way: the fewest decimal digits that read back
as the same double, and of those the nearest to it.
-/

namespace RemotePlayback

/-- A floating-point number, as its bit pattern (sign, eleven bits of exponent, fraction). -/
structure Double where
  bits : UInt64
  deriving DecidableEq, Inhabited

namespace Double

/-- The integer nearest to a quotient; a tie goes to the even one. -/
def roundQuotient (num den : Nat) : Nat :=
  let q := num / den
  let r := num % den
  if 2 * r < den then q
  else if den < 2 * r then q + 1
  else if q % 2 = 0 then q else q + 1

/-- `num / den · 2 ^ (-e)` rounded to an integer. -/
def roundScaled (num den : Nat) (e : Int) : Nat :=
  if 0 ≤ e then roundQuotient num (den * 2 ^ e.toNat)
  else roundQuotient (num * 2 ^ (-e).toNat) den

/-- The greatest `e` with `2 ^ e ≤ num / den`. -/
def floorLog2 (num den : Nat) : Int :=
  let e : Int := (Nat.log2 num : Int) - Nat.log2 den
  let reached : Bool :=
    if 0 ≤ e then den * 2 ^ e.toNat ≤ num else den ≤ num * 2 ^ (-e).toNat
  if reached then e else e - 1

/-- The bit pattern with the given sign, exponent of the last place and mantissa below `2 ^ 53`. -/
def assemble (negative : Bool) (mantissa : Nat) (exponent : Int) : Double :=
  let sign : Nat := if negative then 2 ^ 63 else 0
  let biased : Nat := if mantissa < 2 ^ 52 then 0 else (exponent + 1075).toNat
  ⟨UInt64.ofNat (sign + biased * 2 ^ 52 + mantissa % 2 ^ 52)⟩

/-- The zero of a sign. -/
def zero (negative : Bool) : Double := assemble negative 0 (-1074)

/-- The double nearest to a quotient, `none` if that is beyond the finite ones. -/
def ofRatio? (negative : Bool) (num den : Nat) : Option Double :=
  if num = 0 then some (zero negative)
  else
    let e := max (floorLog2 num den - 52) (-1074)
    let m := roundScaled num den e
    let (m, e) := if m = 2 ^ 53 then (2 ^ 52, e + 1) else (m, e)
    if 971 < e then none else some (assemble negative m e)

/-- The sign bit. -/
def isNegative (d : Double) : Bool := 2 ^ 63 ≤ d.bits.toNat

/-- The field that scales the fraction. -/
def biasedExponent (d : Double) : Nat := d.bits.toNat / 2 ^ 52 % 2 ^ 11

/-- The field of the digits after the leading one. -/
def fraction (d : Double) : Nat := d.bits.toNat % 2 ^ 52

/-- The magnitude of a finite double is `mantissa · 2 ^ exponent`. -/
def mantissa (d : Double) : Nat :=
  if d.biasedExponent = 0 then d.fraction else 2 ^ 52 + d.fraction

/-- The exponent of the last place of the mantissa. -/
def exponent (d : Double) : Int :=
  if d.biasedExponent = 0 then -1074 else (d.biasedExponent : Int) - 1075

/-- The double nearest to a natural number below `2 ^ 1023`. -/
def ofNat (n : Nat) : Double := (ofRatio? false n 1).getD (zero false)

/-- The rounded product of two magnitudes. -/
def mul? (a b : Double) : Option Double :=
  let m := a.mantissa * b.mantissa
  let e := a.exponent + b.exponent
  if 0 ≤ e then ofRatio? false (m * 2 ^ e.toNat) 1 else ofRatio? false m (2 ^ (-e).toNat)

/-- The rounded quotient of two magnitudes, the second not zero. -/
def div? (a b : Double) : Option Double :=
  let e := a.exponent - b.exponent
  if 0 ≤ e then ofRatio? false (a.mantissa * 2 ^ e.toNat) b.mantissa
  else ofRatio? false a.mantissa (b.mantissa * 2 ^ (-e).toNat)

/-- The other sign. -/
def neg (d : Double) : Double :=
  ⟨UInt64.ofNat ((d.bits.toNat + 2 ^ 63) % 2 ^ 64)⟩

/-- The integer part of the magnitude. -/
def floorMagnitude (d : Double) : Nat :=
  if 0 ≤ d.exponent then d.mantissa * 2 ^ d.exponent.toNat
  else d.mantissa / 2 ^ (-d.exponent).toNat

/-- Infinity of a sign. -/
def infinity (negative : Bool) : Double :=
  ⟨if negative then 0xFFF0000000000000 else 0x7FF0000000000000⟩

/-- A value that is no number. -/
def nan (negative : Bool) : Double := ⟨if negative then 0xFFF8000000000000 else 0x7FF8000000000000⟩

/-- The double nearest to `n · 10 ^ exponent`, infinity if that is beyond the finite ones. -/
def ofDecimal (negative : Bool) (n : Nat) (exponent : Int) : Double :=
  let top := (Nat.log2 n : Int) / 4 + exponent
  if n = 0 ∨ (Nat.log2 n : Int) / 3 + 1 + exponent < -330 then zero negative
  else if 310 < top then infinity negative
  else
    let value :=
      if 0 ≤ exponent then ofRatio? negative (n * 10 ^ exponent.toNat) 1
      else ofRatio? negative n (10 ^ (-exponent).toNat)
    value.getD (infinity negative)

/-! ## Shortest decimal digits -/

/-- The decimal digits of a number, highest first; zero has one digit. -/
def decimalDigits (n : Nat) : List Nat :=
  if n < 10 then [n] else decimalDigits (n / 10) ++ [n % 10]
termination_by n
decreasing_by omega

/-- The number written by decimal digits. -/
def ofDecimalDigits (ds : List Nat) : Nat := ds.foldl (fun n d => 10 * n + d) 0

/-- The greatest `e` with `10 ^ e ≤ num / den`. -/
def floorLog10 (num den : Nat) : Int :=
  if den ≤ num then ((decimalDigits (num / den)).length : Int) - 1
  else
    let j := (decimalDigits (den / num)).length
    if num * 10 ^ (j - 1) = den then 1 - (j : Int) else -(j : Int)

/-- A quotient of natural numbers scaled by a power of ten. -/
def scaleByTen (num den : Nat) (e : Int) : Nat × Nat :=
  if 0 ≤ e then (num * 10 ^ e.toNat, den) else (num, den * 10 ^ (-e).toNat)

/--
The multiple of `10 ^ place` nearest to `value` inside the interval from `low` to `high`, all three
over the denominator `den`; the ends belong to the interval when `closed`.
-/
def hit? (low value high den : Nat) (closed : Bool) (place : Int) : Option Nat :=
  let inside (k : Nat) : Bool :=
    let (n, d) := scaleByTen k 1 place
    if closed then low * d ≤ n * den && n * den ≤ high * d
    else low * d < n * den && n * den < high * d
  let (n, d) := scaleByTen value den (-place)
  let k := n / d
  match inside k, inside (k + 1) with
  | false, false => none
  | true, false => some k
  | false, true => some (k + 1)
  | true, true => some (roundQuotient n d)

/-- Tries grids of more and more digits, from `count` on. -/
def searchDigits (low value high den : Nat) (closed : Bool) (top : Int) :
    (fuel count : Nat) → Option (Nat × Int)
  | 0, _ => none
  | fuel + 1, count =>
    let place := top + 1 - count
    match hit? low value high den closed place with
    | some k => some (k, place)
    | none => searchDigits low value high den closed top fuel (count + 1)

/-- Drops trailing zeros of a positive number, raising the place of its last digit. -/
def dropZeros : (fuel k : Nat) → Int → Nat × Int
  | 0, k, place => (k, place)
  | fuel + 1, k, place =>
    if k ≠ 0 ∧ k % 10 = 0 then dropZeros fuel (k / 10) (place + 1) else (k, place)

/--
The shortest decimal of a finite magnitude: its digits and the power of ten of the first one. The
reals that round to the double form an interval reaching half a unit in the last place to each
side, a quarter below a power of two; its ends belong to it exactly when the mantissa is even.
-/
def digits (d : Double) : List Nat × Int :=
  let m := d.mantissa
  if m = 0 then ([0], 0)
  else
    let below : Nat := if m = 2 ^ 52 ∧ -1074 < d.exponent then 1 else 2
    let e := d.exponent - 2
    let (scale, den) : Nat × Nat :=
      if 0 ≤ e then (2 ^ e.toNat, 1) else (1, 2 ^ (-e).toNat)
    let value := 4 * m * scale
    let top := floorLog10 value den
    match searchDigits ((4 * m - below) * scale) value ((4 * m + 2) * scale) den
        (m % 2 == 0) top 17 1 with
    | some (k, place) =>
      let (k, place) := dropZeros 18 k place
      let ds := decimalDigits k
      (ds, place + ds.length - 1)
    | none => ([0], 0)

end Double

end RemotePlayback
