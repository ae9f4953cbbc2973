import RemotePlayback.Base64

/-! Base64 texts are read back.

Three bytes make up a number of 24 bits, which is written by four numbers of six bits. Reading puts
together the bits of neighbouring characters, so that each of the three bytes comes back; a shorter
last group is padded with zeros, which the reader finds where it looks for them. -/

namespace RemotePlayback.Base64

variable {n : Nat} {p q r s : Char} {x y z w : Nat} {rest : List Char} {b : Bytes}

/-! ## Characters -/

theorem symbolValue?_symbol (small : n < 64) : symbolValue? (symbol n) = some n := by
  revert n
  decide

/-- No number is written like the padding. -/
theorem symbol_ne_padding (small : n < 64) : symbol n ≠ '=' := by
  revert n
  decide

/-! ## Groups -/

/-- A group without padding is read as three bytes. -/
theorem decode?_group (plain : s ≠ '=') (first : symbolValue? p = some x)
    (second : symbolValue? q = some y) (third : symbolValue? r = some z)
    (fourth : symbolValue? s = some w) (tail : decode? rest = some b) :
    decode? (p :: q :: r :: s :: rest) = some (UInt8.ofNat (x * 4 + y / 16) ::
      UInt8.ofNat (y % 16 * 16 + z / 4) :: UInt8.ofNat (z % 4 * 64 + w) :: b) := by
  rw [decode?.eq_def]
  split
  case h_1 eq => cases eq
  case h_2 eq => exact absurd (by simp_all) plain
  case h_3 eq => exact absurd (by simp_all) plain
  case h_4 eq =>
    simp only [List.cons.injEq] at eq
    obtain ⟨rfl, rfl, rfl, rfl, rfl⟩ := eq
    simp [first, second, third, fourth, tail]
  case h_5 other => exact (other p q r s rest rfl).elim

/-- A group with one padding character is read as two bytes. -/
theorem decode?_two (plain : r ≠ '=') (first : symbolValue? p = some x)
    (second : symbolValue? q = some y) (third : symbolValue? r = some z) (unused : z % 4 = 0) :
    decode? [p, q, r, '='] =
      some [UInt8.ofNat (x * 4 + y / 16), UInt8.ofNat (y % 16 * 16 + z / 4)] := by
  rw [decode?.eq_def]
  split
  case h_1 eq => cases eq
  case h_2 eq => exact absurd (by simp_all) plain
  case h_3 eq =>
    simp only [List.cons.injEq] at eq
    obtain ⟨rfl, rfl, rfl, -⟩ := eq
    simp [first, second, third, unused]
  case h_4 padding eq =>
    simp only [List.cons.injEq] at eq
    exact (padding eq.2.2.2.1.symm eq.2.2.2.2.symm).elim
  case h_5 other => exact (other p q r '=' [] rfl).elim

/-- A group with two padding characters is read as one byte. -/
theorem decode?_one (first : symbolValue? p = some x) (second : symbolValue? q = some y)
    (unused : y % 16 = 0) : decode? [p, q, '=', '='] = some [UInt8.ofNat (x * 4 + y / 16)] := by
  simp [decode?, first, second, unused]

theorem ofNat_eq {a : UInt8} (h : n = a.toNat) : UInt8.ofNat n = a := by
  rw [h, UInt8.ofNat_toNat]

/-! ## Texts -/

/-- **What is encoded is read back.** -/
theorem decode?_encode (b : Bytes) : decode? (encode b) = some b := by
  induction b using encode.induct with
  | case1 => rfl
  | case2 a =>
    have bound := a.toNat_lt
    rw [encode, decode?_one (symbolValue?_symbol (by omega)) (symbolValue?_symbol (by omega))
      (by omega), ofNat_eq (a := a) (by omega)]
  | case3 a b =>
    have bounds := And.intro a.toNat_lt b.toNat_lt
    rw [encode, decode?_two (symbol_ne_padding (by omega)) (symbolValue?_symbol (by omega))
      (symbolValue?_symbol (by omega)) (symbolValue?_symbol (by omega)) (by omega),
      ofNat_eq (a := a) (by omega), ofNat_eq (a := b) (by omega)]
  | case4 a b c rest ih =>
    have bounds := And.intro a.toNat_lt (And.intro b.toNat_lt c.toNat_lt)
    rw [encode, decode?_group (symbol_ne_padding (by omega)) (symbolValue?_symbol (by omega))
      (symbolValue?_symbol (by omega)) (symbolValue?_symbol (by omega))
      (symbolValue?_symbol (by omega)) ih, ofNat_eq (a := a) (by omega),
      ofNat_eq (a := b) (by omega), ofNat_eq (a := c) (by omega)]

/-! ## Other texts -/

/-- A text that begins outside of the alphabet is no base64. -/
theorem decode?_eq_none (foreign : symbolValue? p = none) (rest : List Char) :
    decode? (p :: rest) = none := by
  rw [decode?.eq_def]
  split
  case h_1 eq => cases eq
  case h_5 => rfl
  all_goals
    rename_i eq
    obtain ⟨rfl, -⟩ := List.cons.inj eq
    simp [foreign]

/-- Every character of the alphabet is one byte: no white space, and no bracket or brace. -/
theorem byte_of_symbolValue? (h : symbolValue? p = some n) :
    ∃ b, String.utf8EncodeChar p = [b] ∧ 0x21 ≤ b ∧ b ≠ 0x5B ∧ b ≠ 0x7B := by
  have range : 0x21 ≤ p.toNat ∧ p.toNat < 0x7B ∧ p.toNat ≠ 0x5B := by
    unfold symbolValue? at h
    dsimp only at h
    split at h
    · omega
    · split at h
      · omega
      · split at h
        · omega
        · split at h
          · rename_i plus
            rw [plus]
            decide
          · split at h
            · rename_i slash
              rw [slash]
              decide
            · cases h
  obtain ⟨low, high, bracket⟩ := range
  have value : (UInt8.ofNat p.toNat).toNat = p.toNat := by
    rw [UInt8.toNat_ofNat']
    exact Nat.mod_eq_of_lt (by omega)
  refine ⟨UInt8.ofNat p.toNat, ?_, ?_, ?_, ?_⟩
  · unfold String.utf8EncodeChar
    exact if_pos (show p.toNat ≤ 0x7F by omega)
  · rw [UInt8.le_iff_toNat_le, value]
    exact low
  · exact fun eq => bracket (value.symm.trans (congrArg UInt8.toNat eq))
  · exact fun eq => absurd (value.symm.trans (congrArg UInt8.toNat eq)) (Nat.ne_of_lt high)

end RemotePlayback.Base64
