import RemotePlayback.Proofs.Wire.Records

/-! Fields that a message does not declare.

A reader skips the complete fields whose numbers it does not know: a key, and behind it whatever the
key announces. The writer of such a field need not write numbers in as few bytes as possible; any
varint of up to ten bytes will do, in the key as well as behind it. `Filler.unknown` lets any number
of these fields stand between the records of a message. -/

namespace RemotePlayback.Wire

variable {σ : Type} {fields : List (Field σ)} {depth n tag : Nat} {m : σ} {kind : Kind}
  {s rest : Bytes}

/-! ## Numbers -/

namespace Varint

/-- **The byte strings that stand for a number**: groups of seven bits, the lowest first, and the
high bit set in all bytes but the last. The highest groups may be zero. -/
inductive Stands : Nat → Bytes → Prop where
  | last {b : UInt8} (low : b < 128) : Stands b.toNat [b]
  | more {b : UInt8} {n : Nat} {s : Bytes} (high : ¬b < 128) (others : Stands n s) :
      Stands (b.toNat - 128 + 128 * n) (b :: s)

/-- What is written of a number stands for it. -/
theorem stands_write (n : Nat) : Stands n (write n) := by
  induction n using write.induct with
  | case1 n small =>
    have byte : (UInt8.ofNat n).toNat = n := by
      rw [UInt8.toNat_ofNat']
      omega
    have low : UInt8.ofNat n < 128 := by
      rw [UInt8.lt_iff_toNat_lt, byte]
      exact small
    have stands := Stands.last low
    rw [byte] at stands
    rwa [write, if_pos small]
  | case2 n large ih =>
    have byte : (UInt8.ofNat (n % 128 + 128)).toNat = n % 128 + 128 := by
      rw [UInt8.toNat_ofNat']
      omega
    have high : ¬UInt8.ofNat (n % 128 + 128) < 128 := by
      rw [UInt8.lt_iff_toNat_lt, byte]
      exact Nat.not_lt.mpr (Nat.le_add_left ..)
    have stands := Stands.more high ih
    rw [byte, Nat.add_sub_cancel, Nat.mod_add_div] at stands
    rwa [write, if_neg large]

/-- A number of at most `7 · k + 7` bits is written in at most `k + 1` bytes. -/
theorem length_write_le {k : Nat} (range : n < 2 ^ (7 * k + 7)) : (write n).length ≤ k + 1 := by
  induction k generalizing n with
  | zero =>
    rw [write, if_pos (by simpa using range)]
    exact Nat.le_refl 1
  | succ k ih =>
    rw [write]
    split
    · exact Nat.le_add_left ..
    · have power : 2 ^ (7 * (k + 1) + 7) = 128 * 2 ^ (7 * k + 7) := by
        rw [show 7 * (k + 1) + 7 = 7 + (7 * k + 7) by omega, Nat.pow_add]
      have shorter := ih (n := n / 128) (by omega)
      rw [List.length_cons]
      omega

/-- A number is read back from all byte strings that stand for it and are not too long. -/
theorem readUpTo?_of_stands {left : Nat} (stands : Stands n s) (short : s.length ≤ left + 1)
    (range : n < 2 ^ (7 * left + 1)) (rest : Bytes) :
    readUpTo? (left + 1) (s ++ rest) = some (n, rest) := by
  induction stands generalizing left with
  | @last b low =>
    have fits : ¬(left = 0 ∧ 1 < b) := by
      rintro ⟨rfl, big⟩
      have small : b.toNat < 2 := by simpa using range
      exact absurd (UInt8.lt_iff_toNat_lt.mp big) (Nat.not_lt.mpr (Nat.le_of_lt_succ small))
    rw [List.singleton_append, readUpTo?, if_pos low, if_neg fits]
  | @more b n s high others ih =>
    have nonempty : 0 < s.length := by
      cases others <;> simp
    rw [List.length_cons] at short
    obtain ⟨left, rfl⟩ : ∃ before, left = before + 1 := ⟨left - 1, by omega⟩
    have power : 2 ^ (7 * (left + 1) + 1) = 128 * 2 ^ (7 * left + 1) := by
      rw [show 7 * (left + 1) + 1 = 7 + (7 * left + 1) by omega, Nat.pow_add]
    have shorter : s.length ≤ left + 1 := by omega
    have read := ih shorter (by omega)
    rw [List.cons_append, readUpTo?, if_neg high, read, Option.map_some]

/-- **A varint** of 64 bits, in at most ten bytes. -/
structure Is64 (n : Nat) (s : Bytes) : Prop where
  stands : Stands n s
  short : s.length ≤ 10
  range : n < 2 ^ 64

theorem is64_write (range : n < 2 ^ 64) : Is64 n (write n) where
  stands := stands_write n
  short := length_write_le (Nat.lt_of_lt_of_le range (Nat.pow_le_pow_right (by decide) (by decide)))
  range := range

theorem Is64.read? (number : Is64 n s) (rest : Bytes) : read? (s ++ rest) = some (n, rest) :=
  readUpTo?_of_stands number.stands number.short number.range rest

end Varint

/-! ## Complete fields -/

/-- **What may follow a key** of a kind. -/
inductive Content : Kind → Bytes → Prop where
  | varint {n : Nat} {s : Bytes} (number : Varint.Is64 n s) : Content .varint s
  | fixed64 {s : Bytes} (eight : s.length = 8) : Content .fixed64 s
  | fixed32 {s : Bytes} (four : s.length = 4) : Content .fixed32 s
  | counted {b length : Bytes} (number : Varint.Is64 b.length length) :
      Content .counted (length ++ b)

/-- **A complete field**: a key and what it announces. -/
inductive Complete (tag : Nat) : Bytes → Prop where
  | of {kind : Kind} {key content : Bytes} (positive : 0 < tag) (bounded : tag < 2 ^ 29)
      (number : Varint.Is64 (8 * tag + kind.number) key) (follows : Content kind content) :
      Complete tag (key ++ content)

/-- A key is read whichever way it is written. -/
theorem readKey?_of_is64 {key : Bytes} (positive : 0 < tag) (bounded : tag < 2 ^ 29)
    (number : Varint.Is64 (8 * tag + kind.number) key) (rest : Bytes) :
    readKey? (key ++ rest) = some (tag, kind, rest) := by
  have small := kind.number_lt
  have remainder : (8 * tag + kind.number) % 8 = kind.number := by omega
  have quotient : (8 * tag + kind.number) / 8 = tag := by omega
  rw [readKey?, number.read?]
  dsimp only
  rw [if_pos (by omega), remainder, quotient, Kind.ofNumber?_number, Option.map_some]

/-- What follows a key is skipped. -/
theorem skip?_of_content (follows : Content kind s) (deep : 1 ≤ depth) (rest : Bytes) :
    skip? depth tag kind (s ++ rest) = some rest := by
  have room : depth ≠ 0 := by omega
  cases follows with
  | varint number =>
    simp only [skip?, if_neg room, readPayload?, number.read?, Option.map_some]
  | fixed64 eight =>
    have taken := Bytes.take?_append s rest
    rw [eight] at taken
    simp only [skip?, if_neg room, readPayload?, taken, Option.map_some]
  | fixed32 four =>
    have taken := Bytes.take?_append s rest
    rw [four] at taken
    simp only [skip?, if_neg room, readPayload?, taken, Option.map_some]
  | counted number =>
    simp only [skip?, if_neg room, readPayload?, List.append_assoc, number.read?,
      Bytes.take?_append, Option.map_some]

/-- Merging goes on with what follows a field that is not declared. -/
theorem mergeAll?_of_unknown {rest' : Bytes} (key : readKey? s = some (tag, kind, rest))
    (unknown : fields.find? (·.tag == tag) = none)
    (skipped : skip? depth tag kind rest = some rest') :
    mergeAll? fields depth m s = mergeAll? fields depth m rest' := by
  cases s with
  | nil => cases key
  | cons b s =>
    rw [mergeAll?]
    split
    · rename_i none
      cases none.symm.trans key
    · rename_i some
      cases some.symm.trans key
      simp only [unknown]
      split
      · rename_i none
        cases none.symm.trans skipped
      · rename_i some
        cases some.symm.trans skipped
        rfl

/-- **A complete field that is not declared is skipped**, and what follows it is merged as if it had
not been there. -/
theorem Complete.mergeAll? (complete : Complete tag s) (unknown : tag ∉ fields.map (·.tag))
    (deep : 1 ≤ depth) (rest : Bytes) :
    mergeAll? fields depth m (s ++ rest) = mergeAll? fields depth m rest := by
  obtain ⟨positive, bounded, number, follows⟩ := complete
  have absent : fields.find? (·.tag == tag) = none := by
    rw [List.find?_eq_none]
    intro f mem same
    exact unknown (List.mem_map.mpr ⟨f, mem, beq_iff_eq.mp same⟩)
  rw [List.append_assoc]
  exact mergeAll?_of_unknown (readKey?_of_is64 positive bounded number _) absent
    (skip?_of_content follows deep rest)

/-- Fields that a message does not declare stand between its records. -/
def Filler.unknown : Filler where
  Fills tags s := ∃ tag, tag ∉ tags ∧ Complete tag s
  skipped := by
    intro σ fields depth m s rest fills deep
    obtain ⟨tag, unknown, complete⟩ := fills
    exact complete.mergeAll? unknown deep rest

/-! ## Fields of other writers

A writer that knows more fields writes them like all others. -/

/-- The content of a payload. -/
theorem Payload.content {p : Payload} (range : p.InRange) (short : p.body.length < 2 ^ 64) :
    Content p.kind p.body := by
  cases p with
  | varint n => exact .varint (Varint.is64_write range)
  | fixed64 n => exact .fixed64 (Bytes.length_ofLittleEndian 8 n)
  | fixed32 n => exact .fixed32 (Bytes.length_ofLittleEndian 4 n)
  | counted b =>
    rw [Payload.body, List.length_append] at short
    exact .counted (Varint.is64_write (by omega))

/-- **A record is a complete field.** -/
theorem complete_record {p : Payload} (positive : 0 < tag) (bounded : tag < 2 ^ 29)
    (range : p.InRange) (short : p.body.length < 2 ^ 64) : Complete tag (record (tag, p)) := by
  have small := p.kind.number_lt
  have key : 8 * tag + p.kind.number < 2 ^ 64 := by omega
  exact .of positive bounded (Varint.is64_write key) (p.content range short)

end RemotePlayback.Wire
