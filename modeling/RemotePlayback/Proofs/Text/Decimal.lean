import RemotePlayback.Text.Decimal

/-!
Numbers that are written and read back.

Writing a number below `2 ^ 64` in decimal digits and reading it gives the number again.
-/

namespace RemotePlayback.Text

/-- Reading a row of digits is evaluating it in base ten, after what was read before. -/
theorem decimalAfter?_eq_ofDigitChars {cs : List Char} (h : ∀ c ∈ cs, c.isDigit = true) (n : Nat) :
    decimalAfter? n cs = some (Nat.ofDigitChars 10 cs n) := by
  induction cs generalizing n with
  | nil => simp [decimalAfter?]
  | cons c cs ih =>
    have hc : c.isDigit = true := h c List.mem_cons_self
    rw [decimalAfter?, if_pos hc, ih fun d hd => h d (List.mem_cons_of_mem c hd),
      Nat.ofDigitChars_cons, Nat.mul_comm]

/-- A row of digits begins with no sign. -/
theorem word64?_of_isDigit {cs : List Char} (hne : cs ≠ []) (h : ∀ c ∈ cs, c.isDigit = true) :
    word64? cs = (decimalAfter? 0 cs).filter (· < 2 ^ 64) := by
  cases cs with
  | nil => exact absurd rfl hne
  | cons c cs =>
    have hsign : c ≠ '+' := by
      rintro rfl
      exact absurd (h '+' List.mem_cons_self) (by decide)
    simp [word64?, hsign]

theorem word64?_toString {n : Nat} (h : n < 2 ^ 64) : word64? (toString n).toList = some n := by
  have hdigits : ∀ c ∈ Nat.toDigits 10 n, c.isDigit = true := fun c hc =>
    Nat.isDigit_of_mem_toDigits (by decide) (by decide) hc
  rw [Nat.toString_eq_ofList_toDigits, String.toList_ofList,
    word64?_of_isDigit Nat.toDigits_ne_nil hdigits, decimalAfter?_eq_ofDigitChars hdigits,
    Nat.ofDigitChars_ten_toDigits, Option.filter_some, if_pos (decide_eq_true h)]

end RemotePlayback.Text
