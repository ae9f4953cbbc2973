import RemotePlayback.Gzip.Member

/-! What is compressed is read back.

A member is written with its data in stored blocks, and `gunzip?_gzip` says that reading gives back
the data. Members of other writers use other blocks, but all of them begin with the same two bytes:
`magic_of_gunzip?` says that nothing else is read at all. -/

namespace RemotePlayback.Gzip

variable {data out s : Bytes}

/-! ## Blocks -/

/-- A stored block is taken whole. -/
theorem stored?_append (small : data.length ≤ maxStored) (rest : Bytes) (out : Array UInt8) :
    stored? (Bytes.ofLittleEndian 2 data.length ++ Bytes.ofLittleEndian 2 (maxStored - data.length)
      ++ data ++ rest) out = some (out ++ data.toArray, .ofBytes rest) := by
  have low : Bytes.littleEndian (Bytes.ofLittleEndian 2 data.length) = data.length := by
    rw [Bytes.littleEndian_ofLittleEndian]
    exact Nat.mod_eq_of_lt (Nat.lt_of_le_of_lt small (by decide))
  have high : Bytes.littleEndian (Bytes.ofLittleEndian 2 (maxStored - data.length)) =
      maxStored - data.length := by
    rw [Bytes.littleEndian_ofLittleEndian]
    exact Nat.mod_eq_of_lt (Nat.lt_of_le_of_lt (Nat.sub_le ..) (by decide))
  have complement : data.length + (maxStored - data.length) = 65535 := Nat.add_sub_of_le small
  simp only [Bytes.ofLittleEndian] at low high
  simp only [Bytes.ofLittleEndian, List.cons_append, List.nil_append, stored?, low, high,
    complement, if_true, Bytes.take?_append]

/-- A stored block is taken, and the blocks behind it unless it is the last. -/
theorem blocks?_storedBlock (last : Bool) (small : data.length ≤ maxStored) (fuel : Nat)
    (rest : Bytes) (out : Array UInt8) :
    blocks? (fuel + 1) (.ofBytes (storedBlock last data ++ rest)) out =
      if last then some (out ++ data.toArray, .ofBytes rest)
      else blocks? fuel (.ofBytes rest) (out ++ data.toArray) := by
  have taken := stored?_append small rest out
  have begun (b : UInt8) (t : Bytes) : (BitSource.ofBytes (b :: t)).bits? 1 =
      some (b.toNat % 2, ⟨b.toNat / 2, 7, t⟩) := rfl
  have kind (t : Bytes) : (⟨0, 7, t⟩ : BitSource).bits? 2 = some (0, ⟨0, 5, t⟩) := by
    simp [BitSource.bits?, BitSource.bit?]
  rw [storedBlock, List.cons_append, blocks?, begun]
  cases last with
  | false =>
    simp only [Bool.false_eq_true, if_false, UInt8.toNat_zero, Nat.zero_div, kind, if_true, taken]
    rfl
  | true =>
    simp only [if_true, UInt8.toNat_one]
    rw [show (1 : Nat) / 2 = 0 from rfl, kind]
    simp only [if_true, taken]

/-- Blocks take up more bytes than there are blocks. -/
theorem blocks?_storedBlocks {fuel : Nat} (enough : (storedBlocks data).length ≤ fuel)
    (rest : Bytes) (out : Array UInt8) :
    blocks? fuel (.ofBytes (storedBlocks data ++ rest)) out =
      some (out ++ data.toArray, .ofBytes rest) := by
  induction data using storedBlocks.induct generalizing fuel out with
  | case1 data small =>
    rw [storedBlocks, if_pos small] at enough ⊢
    obtain ⟨fuel, rfl⟩ : ∃ n, fuel = n + 1 := ⟨fuel - 1, by simp [storedBlock] at enough; omega⟩
    rw [blocks?_storedBlock true small, if_pos rfl]
  | case2 data large ih =>
    rw [storedBlocks, if_neg large] at enough ⊢
    have full : (data.take maxStored).length ≤ maxStored := List.length_take_le ..
    obtain ⟨fuel, rfl⟩ : ∃ n, fuel = n + 1 := ⟨fuel - 1, by simp [storedBlock] at enough; omega⟩
    have shorter : (storedBlocks (data.drop maxStored)).length ≤ fuel := by
      simp [storedBlock] at enough
      omega
    rw [List.append_assoc, blocks?_storedBlock false full, if_neg Bool.false_ne_true, ih shorter]
    simp

/-- **Stored blocks are read back**, whatever follows them. -/
theorem inflate?_storedBlocks (data rest : Bytes) :
    inflate? (storedBlocks data ++ rest) = some (data, rest) := by
  have enough : (storedBlocks data).length ≤ 8 * (storedBlocks data ++ rest).length + 1 := by
    rw [List.length_append]
    omega
  rw [inflate?, blocks?_storedBlocks enough, Option.map_some]
  simp [BitSource.ofBytes]

/-! ## Members -/

/-- Nothing stands between the header and the blocks. -/
theorem skipHeader?_header (rest : Bytes) : skipHeader? (header ++ rest) = some rest := rfl

/-- **What is compressed is read back**: a member holds the data that it was made of. -/
theorem gunzip?_gzip (data : Bytes) : gunzip? (gzip data) = some data := by
  let check := Bytes.ofLittleEndian 4 (checksum data).toNat
  let size := Bytes.ofLittleEndian 4 data.length
  have eight : (check ++ size).length = 8 := by
    rw [List.length_append, Bytes.length_ofLittleEndian, Bytes.length_ofLittleEndian]
  have trailer : Bytes.take? 8 (check ++ size) = some (check ++ size, []) := by
    have taken := Bytes.take?_append (check ++ size) []
    rwa [eight, List.append_nil] at taken
  have checkRead : Bytes.littleEndian ((check ++ size).take 4) = (checksum data).toNat := by
    rw [List.take_left' (Bytes.length_ofLittleEndian ..), Bytes.littleEndian_ofLittleEndian]
    exact Nat.mod_eq_of_lt (checksum data).toNat_lt
  have sizeRead : Bytes.littleEndian ((check ++ size).drop 4) = data.length % 2 ^ 32 := by
    rw [List.drop_left' (Bytes.length_ofLittleEndian ..), Bytes.littleEndian_ofLittleEndian]
  have whole : gzip data = header ++ (storedBlocks data ++ (check ++ size)) := by
    simp only [gzip, List.append_assoc, check, size]
  rw [gunzip?, whole, skipHeader?_header]
  simp only [Option.bind_eq_bind, Option.bind_some, inflate?_storedBlocks, trailer, checkRead,
    sizeRead, and_self, if_true, pure]

/-- Nothing is read but what begins like a member. -/
theorem magic_of_gunzip? (read : gunzip? s = some data) : magic <+: s := by
  obtain ⟨rest, skipped, -⟩ := Option.bind_eq_some_iff.mp read
  unfold skipHeader? at skipped
  split at skipped
  · exact ⟨_, rfl⟩
  · cases skipped

end RemotePlayback.Gzip
