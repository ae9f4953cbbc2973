import RemotePlayback.Bytes

/-!
Numbers below `2 ^ 64` in groups of seven bits, the lowest group first.

Every byte but the last has its high bit set. Ten bytes hold 70 bits, so the tenth may only be zero
or one; a number may be padded with zero groups. `read?_write` says that reading takes back what was
written, whatever follows it.
-/

namespace RemotePlayback.Wire.Varint

/-- The number in as few bytes as possible. -/
def write (n : Nat) : Bytes :=
  if n < 128 then [UInt8.ofNat n] else UInt8.ofNat (n % 128 + 128) :: write (n / 128)
termination_by n
decreasing_by omega

/-- Reads at most `left` bytes. -/
def readUpTo? : (left : Nat) → Bytes → Option (Nat × Bytes)
  | 0, _ => none
  | _ + 1, [] => none
  | left + 1, b :: rest =>
    if b < 128 then
      if left = 0 ∧ 1 < b then none else some (b.toNat, rest)
    else (readUpTo? left rest).map fun r => (b.toNat - 128 + 128 * r.1, r.2)

/-- The number at the front, and the rest. -/
def read? (s : Bytes) : Option (Nat × Bytes) := readUpTo? 10 s

theorem length_readUpTo? {left n : Nat} {s rest : Bytes}
    (h : readUpTo? left s = some (n, rest)) : rest.length < s.length := by
  induction left generalizing s n with
  | zero => simp [readUpTo?] at h
  | succ left ih =>
    cases s with
    | nil => simp [readUpTo?] at h
    | cons b s =>
      simp only [readUpTo?] at h
      split at h
      · split at h
        · simp at h
        · simp only [Option.some.injEq, Prod.mk.injEq] at h
          simp [h.2]
      · simp only [Option.map_eq_some_iff, Prod.exists, Prod.mk.injEq] at h
        obtain ⟨m, r, hr, -, rfl⟩ := h
        have := ih hr
        simp; omega

theorem length_read? {n : Nat} {s rest : Bytes} (h : read? s = some (n, rest)) :
    rest.length < s.length := length_readUpTo? h

/-- A number of at most `7 · left` bits fits into `left` bytes; the tenth holds a single bit. -/
theorem readUpTo?_write {left n : Nat} (hleft : left < 10)
    (h : n < 2 ^ (7 * left + 1)) (rest : Bytes) :
    readUpTo? (left + 1) (write n ++ rest) = some (n, rest) := by
  induction left generalizing n with
  | zero =>
    have hn : n < 2 := by simpa using h
    rw [write, if_pos (by omega)]
    have h1 : UInt8.ofNat n < 128 := by
      rw [UInt8.lt_iff_toNat_lt, UInt8.toNat_ofNat']; simp; omega
    have h2 : ¬ (1 : UInt8) < UInt8.ofNat n := by
      rw [UInt8.lt_iff_toNat_lt, UInt8.toNat_ofNat']; simp; omega
    have h3 : n % 256 = n := Nat.mod_eq_of_lt (by omega)
    simp [readUpTo?, h1, h2, h3]
  | succ left ih =>
    rw [write]
    split
    · rename_i hn
      have h1 : UInt8.ofNat n < 128 := by
        rw [UInt8.lt_iff_toNat_lt, UInt8.toNat_ofNat']; simp; omega
      have h3 : n % 256 = n := Nat.mod_eq_of_lt (by omega)
      simp [readUpTo?, h1, h3]
    · rename_i hn
      have hb : (UInt8.ofNat (n % 128 + 128)).toNat = n % 128 + 128 := by
        rw [UInt8.toNat_ofNat']; simp; omega
      have h1 : ¬ UInt8.ofNat (n % 128 + 128) < 128 := by
        rw [UInt8.lt_iff_toNat_lt, hb]; simp
      have hlt : n / 128 < 2 ^ (7 * left + 1) := by
        apply Nat.div_lt_of_lt_mul
        calc n < 2 ^ (7 * (left + 1) + 1) := h
          _ = 128 * 2 ^ (7 * left + 1) := by
            rw [show 7 * (left + 1) + 1 = 7 + (7 * left + 1) by omega, Nat.pow_add]
      simp only [List.cons_append]
      rw [readUpTo?, if_neg h1, ih (by omega) hlt]
      simp only [Option.map_some, hb, Option.some.injEq, Prod.mk.injEq, and_true]
      omega

/-- Reading takes back what was written. -/
theorem read?_write {n : Nat} (h : n < 2 ^ 64) (rest : Bytes) :
    read? (write n ++ rest) = some (n, rest) :=
  readUpTo?_write (by omega) h rest

end RemotePlayback.Wire.Varint
