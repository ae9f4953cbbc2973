import RemotePlayback.Bytes
import RemotePlayback.Double

/-!
Numbers in JSON: how they are written and which number a text means.

A `Numeral` is a number as it stands in a text, digit by digit. `Numeral.value?` gives its meaning:
an integer when it is written as one and fits 64 bits, else a double. The double is built as one
significand of 64 bits, scaled by one power of ten: digits that no longer fit are dropped, and a
result beyond the finite doubles has no value. In the other direction `Number.numeral` chooses the
one text that a number is written as.
-/

namespace RemotePlayback.Json

/-- A number: an integer of 64 bits, signed or unsigned, or a finite double. -/
inductive Number where
  | integer (n : Int)
  | real (d : Double)
  deriving DecidableEq, Inhabited

/-- A number as written: sign, digits, digits after the point, sign and digits of the exponent. -/
structure Numeral where
  negative : Bool
  whole : List Nat
  fraction : Option (List Nat)
  exponent : Option (Bool × List Nat)
  deriving DecidableEq, Inhabited

/-! ## Meaning -/

/-- Reads digits into a significand for as long as it stays below `2 ^ 64`. -/
def takeFitting : (significand : Nat) → List Nat → Nat × List Nat
  | s, [] => (s, [])
  | s, d :: ds => if 10 * s + d < 2 ^ 64 then takeFitting (10 * s + d) ds else (s, d :: ds)

/-- A power of ten, rounded to a double. -/
def powerOfTen (k : Nat) : Double := Double.ofNat (10 ^ k)

/--
Scales a magnitude by a power of ten in one rounding; below `10 ^ -308` it is first divided by
`10 ^ 308` as often as needed.
-/
def scale : (fuel : Nat) → Double → Int → Option Double
  | 0, d, _ => some d
  | fuel + 1, d, e =>
    if e.natAbs ≤ 308 then
      if 0 ≤ e then d.mul? (powerOfTen e.natAbs) else d.div? (powerOfTen e.natAbs)
    else if d.mantissa = 0 then some d
    else if 0 ≤ e then none
    else match d.div? (powerOfTen 308) with
      | some d => scale fuel d (e + 308)
      | none => none

namespace Numeral

/-- The greatest exponent that is computed with; larger ones mean zero or no number. -/
def maxExponent : Nat := 2 ^ 31 - 1

/-- The double that a significand and a power of ten stand for. -/
def real? (negative : Bool) (significand : Nat) (exponent : Int) : Option Number :=
  (scale 4 (Double.ofNat significand) exponent).map fun d =>
    .real (if negative then d.neg else d)

/-- An integer text; the negative zero is a double. -/
def integer (negative : Bool) (n : Nat) : Number :=
  if !negative then .integer n
  else if n = 0 then .real (Double.zero true)
  else if n ≤ 2 ^ 63 then .integer (-n)
  else .real (Double.ofNat n).neg

/-- The number that a text means, if it is in range. -/
def value? (t : Numeral) : Option Number :=
  let (s, surplus) := takeFitting 0 t.whole
  if surplus = [] ∧ t.fraction = none ∧ t.exponent = none then some (integer t.negative s)
  else
    let fraction := t.fraction.getD []
    let (s, dropped) := takeFitting s fraction
    let e : Int := (surplus.length : Int) - (fraction.length - dropped.length : Nat)
    match t.exponent with
    | none => real? t.negative s e
    | some (down, ds) =>
      let x := Double.ofDecimalDigits ds
      if maxExponent < x then
        if s ≠ 0 ∧ !down then none else some (.real (Double.zero t.negative))
      else real? t.negative s (if down then e - x else e + x)

/-! ## Text -/

/-- The characters of digits. -/
def digitChars (ds : List Nat) : List Char := ds.map Nat.digitChar

/-- The numeral's text. -/
def chars (t : Numeral) : List Char :=
  (if t.negative then ['-'] else []) ++ digitChars t.whole ++
    (match t.fraction with
      | none => []
      | some ds => '.' :: digitChars ds) ++
    (match t.exponent with
      | none => []
      | some (down, ds) => 'e' :: (if down then '-' else '+') :: digitChars ds)

/-! ## Reading -/

/-- The digit that a byte is the character of. -/
def digit? (b : UInt8) : Option Nat :=
  if 0x30 ≤ b ∧ b ≤ 0x39 then some (b.toNat - 0x30) else none

/-- The longest run of digits at the front, and the rest. -/
def digitRun : Bytes → List Nat × Bytes
  | [] => ([], [])
  | b :: rest =>
    match digit? b with
    | some d => (d :: (digitRun rest).1, (digitRun rest).2)
    | none => ([], b :: rest)

/-- At least one digit. -/
def someDigits? (s : Bytes) : Option (List Nat × Bytes) :=
  match digitRun s with
  | ([], _) => none
  | (d :: ds, rest) => some (d :: ds, rest)

/-- The digits before the point: one zero, or digits that begin with another. -/
def whole? (s : Bytes) : Option (List Nat × Bytes) :=
  match someDigits? s with
  | some (0 :: _ :: _, _) => none
  | r => r

/-- A point and at least one digit, if there is a point. -/
def fraction? : Bytes → Option (Option (List Nat) × Bytes)
  | 0x2E :: rest => (someDigits? rest).map fun r => (some r.1, r.2)
  | s => some (none, s)

/-- The letter of the exponent, a sign if there is one, and at least one digit. -/
def exponent? : Bytes → Option (Option (Bool × List Nat) × Bytes)
  | b :: rest =>
    if b = 0x65 ∨ b = 0x45 then
      match rest with
      | 0x2D :: rest => (someDigits? rest).map fun r => (some (true, r.1), r.2)
      | 0x2B :: rest => (someDigits? rest).map fun r => (some (false, r.1), r.2)
      | rest => (someDigits? rest).map fun r => (some (false, r.1), r.2)
    else some (none, b :: rest)
  | [] => some (none, [])

/-- The unsigned part of a numeral, with the sign already read. -/
def unsigned? (negative : Bool) (s : Bytes) : Option (Numeral × Bytes) := do
  let (whole, s) ← whole? s
  let (fraction, s) ← fraction? s
  let (exponent, s) ← exponent? s
  return (⟨negative, whole, fraction, exponent⟩, s)

/-- The numeral at the front of a text. -/
def read? : Bytes → Option (Numeral × Bytes)
  | 0x2D :: rest => unsigned? true rest
  | s => unsigned? false s

/-! ### Every numeral takes something off the text -/

theorem length_digitRun (s : Bytes) :
    (digitRun s).2.length + (digitRun s).1.length = s.length := by
  induction s with
  | nil => rfl
  | cons b s ih =>
    cases h : digit? b with
    | none => simp [digitRun, h]
    | some d => simp [digitRun, h]; omega

theorem length_someDigits? {s rest : Bytes} {ds : List Nat}
    (h : someDigits? s = some (ds, rest)) : rest.length < s.length := by
  have hl := length_digitRun s
  unfold someDigits? at h
  split at h
  · simp at h
  · rename_i heq
    simp only [Option.some.injEq, Prod.mk.injEq] at h
    obtain ⟨rfl, rfl⟩ := h
    simp [heq] at hl
    omega

theorem length_whole? {s rest : Bytes} {ds : List Nat} (h : whole? s = some (ds, rest)) :
    rest.length < s.length := by
  unfold whole? at h
  split at h
  · simp at h
  · exact length_someDigits? h

theorem length_fraction? {s rest : Bytes} {f : Option (List Nat)}
    (h : fraction? s = some (f, rest)) : rest.length ≤ s.length := by
  unfold fraction? at h
  split at h
  · simp only [Option.map_eq_some_iff] at h
    obtain ⟨r, hr, he⟩ := h
    obtain ⟨-, rfl⟩ := Prod.mk.inj he
    have := length_someDigits? hr
    simp; omega
  · simp only [Option.some.injEq, Prod.mk.injEq] at h
    obtain ⟨-, rfl⟩ := h
    exact Nat.le_refl _

theorem length_exponent? {s rest : Bytes} {e : Option (Bool × List Nat)}
    (h : exponent? s = some (e, rest)) : rest.length ≤ s.length := by
  have digits : ∀ {s rest : Bytes} {sign : Bool} {e : Option (Bool × List Nat)},
      (someDigits? s).map (fun r => (some (sign, r.1), r.2)) = some (e, rest) →
      rest.length < s.length := by
    intro s rest sign e h
    simp only [Option.map_eq_some_iff] at h
    obtain ⟨r, hr, he⟩ := h
    obtain ⟨-, rfl⟩ := Prod.mk.inj he
    exact length_someDigits? hr
  unfold exponent? at h
  split at h
  · split at h
    · split at h
      · have := digits h; simp; omega
      · have := digits h; simp; omega
      · have := digits h; simp; omega
    · simp only [Option.some.injEq, Prod.mk.injEq] at h
      obtain ⟨-, rfl⟩ := h
      exact Nat.le_refl _
  · simp only [Option.some.injEq, Prod.mk.injEq] at h
    obtain ⟨-, rfl⟩ := h
    exact Nat.le_refl _

theorem length_unsigned? {negative : Bool} {s rest : Bytes} {t : Numeral}
    (h : unsigned? negative s = some (t, rest)) : rest.length < s.length := by
  simp only [unsigned?, Option.bind_eq_bind, Option.bind_eq_some_iff, Prod.exists] at h
  obtain ⟨w, s₁, hw, f, s₂, hf, e, s₃, he, h⟩ := h
  cases h
  have h1 := length_whole? hw
  have h2 := length_fraction? hf
  have h3 := length_exponent? he
  omega

theorem length_read? {s rest : Bytes} {t : Numeral} (h : read? s = some (t, rest)) :
    rest.length < s.length := by
  unfold read? at h
  split at h
  · have := length_unsigned? h
    simp; omega
  · exact length_unsigned? h

end Numeral

/-! ## The written form of a number -/

namespace Number

/-- Doubles are written positionally from `10 ^ -5` up to below `10 ^ 16`. -/
def positionalFrom : Int := -5

/-- The first power of ten that is written with an exponent. -/
def positionalBelow : Int := 16

/-- The numeral that a number is written as. -/
def numeral : Number → Numeral
  | .integer n => ⟨n < 0, Double.decimalDigits n.natAbs, none, none⟩
  | .real d =>
    let (ds, top) := d.digits
    if positionalFrom ≤ top ∧ top < positionalBelow then
      if 0 ≤ top then
        let n := top.toNat + 1
        let whole := ds.take n ++ List.replicate (n - ds.length) 0
        let after := ds.drop n
        ⟨d.isNegative, whole, some (if after = [] then [0] else after), none⟩
      else
        ⟨d.isNegative, [0], some (List.replicate ((-top).toNat - 1) 0 ++ ds), none⟩
    else
      ⟨d.isNegative, ds.take 1, if ds.length = 1 then none else some (ds.drop 1),
        some (top < 0, Double.decimalDigits top.natAbs)⟩

/-- The natural number that a number is, if it is an integer of at least zero. -/
def natural? : Number → Option Nat
  | .integer n => if 0 ≤ n then some n.toNat else none
  | .real _ => none

/-- The integer that a number is. -/
def integer? : Number → Option Int
  | .integer n => some n
  | .real _ => none

/-- The double nearest to the number. -/
def toDouble : Number → Double
  | .integer n => if n < 0 then (Double.ofNat n.natAbs).neg else Double.ofNat n.natAbs
  | .real d => d

end Number

end RemotePlayback.Json
