import RemotePlayback.Double

/-! Natural numbers up to `2 ^ 53` are doubles.

A double with 53 bits of mantissa holds each of them exactly. Rounding to the nearest double scales
a number until it has 53 bits, and up to this bound scaling loses none. -/

namespace RemotePlayback.Double

/-- **A mantissa and an exponent that a finite double can have.** The leading bit is missing only
where the exponent is the lowest one. -/
structure Fits (m : Nat) (e : Int) : Prop where
  lt : m < 2 ^ 53
  leading : 2 ^ 52 ≤ m ∨ e = -1074
  low : -1074 ≤ e
  high : e ≤ 971

section Assemble

variable {m : Nat} {e : Int}

/-- The fields of the bit pattern of a positive double. -/
theorem toNat_assemble (fits : Fits m e) :
    (assemble false m e).bits.toNat =
      if m < 2 ^ 52 then m else (e + 1075).toNat * 2 ^ 52 + (m - 2 ^ 52) := by
  obtain ⟨lt, -, low, high⟩ := fits
  simp only [assemble, Bool.false_eq_true, if_false, Nat.zero_add]
  rw [UInt64.toNat_ofNat', Nat.mod_eq_of_lt] <;> split <;> omega

theorem isNegative_assemble (fits : Fits m e) : (assemble false m e).isNegative = false := by
  have high := fits.high
  have lt := fits.lt
  rw [isNegative, toNat_assemble fits, decide_eq_false_iff_not]
  split <;> omega

theorem biasedExponent_assemble (fits : Fits m e) :
    (assemble false m e).biasedExponent = if m < 2 ^ 52 then 0 else (e + 1075).toNat := by
  obtain ⟨lt, -, low, high⟩ := id fits
  rw [biasedExponent, toNat_assemble fits]
  split <;> omega

theorem fraction_assemble (fits : Fits m e) :
    (assemble false m e).fraction = if m < 2 ^ 52 then m else m - 2 ^ 52 := by
  have lt := fits.lt
  rw [fraction, toNat_assemble fits]
  split <;> omega

/-- **A double has the mantissa that it was made of.** -/
theorem mantissa_assemble (fits : Fits m e) : (assemble false m e).mantissa = m := by
  have low := fits.low
  rw [mantissa, biasedExponent_assemble fits, fraction_assemble fits]
  by_cases small : m < 2 ^ 52
  · rw [if_pos small, if_pos rfl, if_pos small]
  · rw [if_neg small, if_neg (by omega), if_neg small]
    omega

theorem exponent_assemble (fits : Fits m e) : (assemble false m e).exponent = e := by
  obtain ⟨-, leading, low, -⟩ := id fits
  rw [exponent, biasedExponent_assemble fits]
  split <;> omega

end Assemble

/-! ## Rounding -/

variable {n : Nat}

@[simp] theorem roundQuotient_one (n : Nat) : roundQuotient n 1 = n := by
  simp [roundQuotient, Nat.mod_one]

theorem floorLog2_one (positive : n ≠ 0) : floorLog2 n 1 = n.log2 := by
  have reached : 2 ^ n.log2 ≤ n := Nat.log2_self_le positive
  have one : Nat.log2 1 = 0 := by decide
  simp [floorLog2, one, reached]

/-- Scaled by a power of two, a number below `2 ^ 53` has 53 bits. -/
theorem fits_scaled (positive : n ≠ 0) (lt : n < 2 ^ 53) :
    Fits (n * 2 ^ (52 - n.log2)) ((n.log2 : Int) - 52) := by
  have few : n.log2 < 53 := (Nat.log2_lt positive).mpr lt
  refine ⟨?_, .inl ?_, by omega, by omega⟩
  · calc n * 2 ^ (52 - n.log2) < 2 ^ (n.log2 + 1) * 2 ^ (52 - n.log2) :=
          Nat.mul_lt_mul_of_pos_right Nat.lt_log2_self (Nat.two_pow_pos _)
      _ = 2 ^ 53 := by rw [← Nat.pow_add]; congr 1; omega
  · calc 2 ^ 52 = 2 ^ n.log2 * 2 ^ (52 - n.log2) := by rw [← Nat.pow_add]; congr 1; omega
      _ ≤ n * 2 ^ (52 - n.log2) := Nat.mul_le_mul_right _ (Nat.log2_self_le positive)

/-- **A natural number below `2 ^ 53` is rounded to itself.** -/
theorem ofNat_eq_assemble (positive : n ≠ 0) (lt : n < 2 ^ 53) :
    ofNat n = assemble false (n * 2 ^ (52 - n.log2)) ((n.log2 : Int) - 52) := by
  have few : n.log2 < 53 := (Nat.log2_lt positive).mpr lt
  have top : max ((n.log2 : Int) - 52) (-1074) = (n.log2 : Int) - 52 := by omega
  have rounded : roundScaled n 1 ((n.log2 : Int) - 52) = n * 2 ^ (52 - n.log2) := by
    rw [roundScaled]
    split
    · have full : n.log2 = 52 := by omega
      simp [full]
    · rw [roundQuotient_one]
      congr 2
      omega
  have below := (fits_scaled positive lt).lt
  simp only [ofNat, ofRatio?, floorLog2_one positive, top, rounded, if_neg positive,
    if_neg (Nat.ne_of_lt below)]
  rw [if_neg (by omega), Option.getD_some]

/-- **The double of a natural number up to `2 ^ 53` is that number.** -/
theorem floorMagnitude_ofNat (le : n ≤ 2 ^ 53) :
    (ofNat n).isNegative = false ∧ (ofNat n).floorMagnitude = n := by
  rcases Nat.eq_or_lt_of_le le with rfl | lt
  · decide +kernel
  by_cases positive : n = 0
  · subst positive
    decide +kernel
  have fits := fits_scaled positive lt
  have few : n.log2 < 53 := (Nat.log2_lt positive).mpr lt
  rw [ofNat_eq_assemble positive lt]
  refine ⟨isNegative_assemble fits, ?_⟩
  rw [floorMagnitude, exponent_assemble fits, mantissa_assemble fits]
  split
  · have full : n.log2 = 52 := by omega
    simp [full]
  · have back : (-((n.log2 : Int) - 52)).toNat = 52 - n.log2 := by omega
    rw [back]
    exact Nat.mul_div_cancel n (Nat.two_pow_pos _)

end RemotePlayback.Double
