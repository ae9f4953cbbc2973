import RemotePlayback.Power

/-!
Byte strings and their reading as text.

A byte string is a list of bytes, so that readers can take it apart by recursion and return what
they left over. Text becomes bytes in the UTF-8 encoding, one character after the other; bytes
become text only when all of them are valid UTF-8. `toText?_ofText` says that nothing is lost on
the way there and back.
-/

namespace RemotePlayback

/-- A byte string, first byte first. -/
abbrev Bytes := List UInt8

namespace Bytes

/-- The UTF-8 encoding of a text. -/
def ofText (s : String) : Bytes := s.toList.flatMap String.utf8EncodeChar

/-- The text whose encoding the bytes are, if they are valid UTF-8. -/
def toText? (b : Bytes) : Option String := String.fromUTF8? ⟨b.toArray⟩

theorem toByteArray_eq_mk (b : Bytes) : b.toByteArray = ⟨b.toArray⟩ :=
  ByteArray.ext List.data_toByteArray

theorem mk_ofText (s : String) : (⟨(ofText s).toArray⟩ : ByteArray) = s.toByteArray := by
  rw [← String.utf8Encode_toList (b := s), List.utf8Encode, toByteArray_eq_mk]
  rfl

/-- Encoding loses nothing. -/
theorem toText?_ofText (s : String) : toText? (ofText s) = some s := by
  unfold toText? String.fromUTF8?
  rw [mk_ofText, dif_pos s.isValidUTF8]
  rfl

/-- Decoding loses nothing. -/
theorem ofText_of_toText? {b : Bytes} {s : String} (read : toText? b = some s) : ofText s = b := by
  have bytes : s.toByteArray = ⟨b.toArray⟩ := by
    unfold toText? String.fromUTF8? at read
    split at read
    · cases read
      rfl
    · cases read
  rw [← mk_ofText] at bytes
  exact congrArg Array.toList (ByteArray.mk.inj bytes)

/-- The number whose base-256 digits are the bytes, lowest first. -/
def littleEndian : Bytes → Nat
  | [] => 0
  | b :: rest => b.toNat + 256 * littleEndian rest

/-- The lowest `width` base-256 digits of a number, lowest first. -/
def ofLittleEndian : (width : Nat) → Nat → Bytes
  | 0, _ => []
  | width + 1, n => UInt8.ofNat (n % 256) :: ofLittleEndian width (n / 256)

@[simp] theorem length_ofLittleEndian (width n : Nat) :
    (ofLittleEndian width n).length = width := by
  induction width generalizing n with
  | zero => rfl
  | succ width ih => simp [ofLittleEndian, ih]

theorem littleEndian_ofLittleEndian (width n : Nat) :
    littleEndian (ofLittleEndian width n) = n % 256 ^ width := by
  induction width generalizing n with
  | zero => simp [ofLittleEndian, littleEndian, Nat.mod_one]
  | succ width ih =>
    rw [ofLittleEndian, littleEndian, ih, Nat.pow_succ', Nat.mod_mul]
    simp

/-- Splits off the first `n` bytes; `none` when there are fewer. -/
def take? (n : Nat) (b : Bytes) : Option (Bytes × Bytes) :=
  if n ≤ b.length then some (b.splitAt n) else none

theorem take?_append (a rest : Bytes) : take? a.length (a ++ rest) = some (a, rest) := by
  simp [take?, List.splitAt_eq]

end Bytes

end RemotePlayback
