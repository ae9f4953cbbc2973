import RemotePlayback.Json.Kept

/-! Strings in JSON are read back as they were written.

A string is written between quotes, each character as itself or by an escape. A reader first finds
the closing quote (`body?`) and then replaces the escapes (`unescape?`). Both go through the bytes
of one character at a time, so one lemma for each says what comes of the bytes of a character, and
the statements on strings follow by induction on the characters. -/

namespace RemotePlayback.Json.Document

/-! ## Bytes that stand for themselves -/

/-- A byte that neither ends a string nor begins an escape. -/
structure Bare (b : UInt8) : Prop where
  printable : ¬b < 0x20
  quote : b ≠ 0x22
  backslash : b ≠ 0x5C

theorem body?_bare {b : UInt8} (bare : Bare b) (rest : Bytes) :
    body? (b :: rest) = (body? rest).map fun r => (b :: r.1, r.2) := by
  rw [body?.eq_def]
  split
  · rename_i eq
    cases eq
  · rename_i eq
    exact absurd (List.cons.inj eq).1 bare.quote
  · rename_i eq
    exact absurd (List.cons.inj eq).1 bare.backslash
  · rename_i eq
    exact absurd (List.cons.inj eq).1 bare.backslash
  · rename_i eq
    obtain ⟨rfl, rfl⟩ := List.cons.inj eq
    exact if_neg (not_or.mpr ⟨bare.printable, bare.backslash⟩)

theorem unescape?_bare {b : UInt8} (bare : Bare b) (rest : Bytes) :
    unescape? (b :: rest) = (unescape? rest).map (b :: ·) := by
  rw [unescape?.eq_def]
  split <;> simp_all [bare.backslash]

theorem body?_bare_append {bs : Bytes} (bare : ∀ b ∈ bs, Bare b) (rest : Bytes) :
    body? (bs ++ rest) = (body? rest).map fun r => (bs ++ r.1, r.2) := by
  induction bs with
  | nil => simp
  | cons b bs ih =>
    obtain ⟨head, tail⟩ := List.forall_mem_cons.mp bare
    rw [List.cons_append, body?_bare head, ih tail, Option.map_map]
    rfl

theorem unescape?_bare_append {bs : Bytes} (bare : ∀ b ∈ bs, Bare b) (rest : Bytes) :
    unescape? (bs ++ rest) = (unescape? rest).map (bs ++ ·) := by
  induction bs with
  | nil => simp
  | cons b bs ih =>
    obtain ⟨head, tail⟩ := List.forall_mem_cons.mp bare
    rw [List.cons_append, unescape?_bare head, ih tail, Option.map_map]
    rfl

theorem bare_ofNat {n : Nat} (low : 0x20 ≤ n) (high : n < 0x100) (quote : n ≠ 0x22)
    (backslash : n ≠ 0x5C) : Bare (UInt8.ofNat n) := by
  have value : (UInt8.ofNat n).toNat = n := by
    rw [UInt8.toNat_ofNat']
    exact Nat.mod_eq_of_lt high
  refine ⟨?_, ?_, ?_⟩
  · rw [UInt8.lt_iff_toNat_lt, value]
    exact Nat.not_lt.mpr low
  · exact fun eq => quote (value.symm.trans (congrArg UInt8.toNat eq))
  · exact fun eq => backslash (value.symm.trans (congrArg UInt8.toNat eq))

/-- A character that is not escaped is written by bytes that stand for themselves. -/
theorem bare_of_unescaped {c : Char} (printable : 0x20 ≤ c.toNat) (quote : c ≠ '"')
    (backslash : c ≠ '\\') : ∀ b ∈ String.utf8EncodeChar c, Bare b := by
  -- all bytes of a character beyond the first 128 are beyond them, too
  have wide {n : Nat} (low : 0x80 ≤ n) (high : n < 0x100) : Bare (UInt8.ofNat n) :=
    bare_ofNat (by omega) high (by omega) (by omega)
  intro b mem
  unfold String.utf8EncodeChar at mem
  dsimp only at mem
  split at mem
  · rename_i narrow
    obtain rfl := List.mem_singleton.mp mem
    refine bare_ofNat printable (by omega) (fun eq => quote ?_) (fun eq => backslash ?_)
    · exact Char.toNat_inj.mp eq
    · exact Char.toNat_inj.mp eq
  · split at mem
    · simp only [List.mem_cons, List.not_mem_nil, or_false] at mem
      rcases mem with rfl | rfl <;> exact wide (by omega) (by omega)
    · split at mem
      · simp only [List.mem_cons, List.not_mem_nil, or_false] at mem
        rcases mem with rfl | rfl | rfl <;> exact wide (by omega) (by omega)
      · simp only [List.mem_cons, List.not_mem_nil, or_false] at mem
        rcases mem with rfl | rfl | rfl | rfl <;> exact wide (by omega) (by omega)

/-! ## Escapes -/

theorem body?_letter {b v : UInt8} (letter : letterValue? b = some v) (other : b ≠ 0x75)
    (rest : Bytes) :
    body? (0x5C :: b :: rest) = (body? rest).map fun r => (0x5C :: b :: r.1, r.2) := by
  rw [body?.eq_def]
  split
  · rename_i eq
    cases eq
  · rename_i eq
    exact absurd (List.cons.inj eq).1 (by decide)
  · rename_i eq
    obtain ⟨-, eq⟩ := List.cons.inj eq
    exact absurd (List.cons.inj eq).1 other
  · rename_i eq
    obtain ⟨-, eq⟩ := List.cons.inj eq
    obtain ⟨rfl, rfl⟩ := List.cons.inj eq
    exact if_pos (by rw [letter]; rfl)
  · rename_i plain eq
    obtain ⟨rfl, rfl⟩ := List.cons.inj eq
    exact (plain b rest rfl rfl).elim

theorem unescape?_letter {b v : UInt8} (letter : letterValue? b = some v) (other : b ≠ 0x75)
    (rest : Bytes) : unescape? (0x5C :: b :: rest) = (unescape? rest).map (v :: ·) := by
  rw [unescape?.eq_def]
  split
  · rename_i eq
    cases eq
  · rename_i eq
    obtain ⟨-, eq⟩ := List.cons.inj eq
    exact absurd (List.cons.inj eq).1 other
  · rename_i eq
    obtain ⟨-, eq⟩ := List.cons.inj eq
    obtain ⟨rfl, rfl⟩ := List.cons.inj eq
    rw [letter]
  · rename_i plain eq
    obtain ⟨rfl, rfl⟩ := List.cons.inj eq
    exact (plain b rest rfl rfl).elim

theorem body?_hex {a b c d : UInt8} (hex : isHex4 a b c d = true) (rest : Bytes) :
    body? (0x5C :: 0x75 :: a :: b :: c :: d :: rest) =
      (body? rest).map fun r => (0x5C :: 0x75 :: a :: b :: c :: d :: r.1, r.2) := by
  rw [body?.eq_def]
  exact if_pos hex

/-- Four digits that are not half of a pair stand for a character. -/
theorem unescape?_hex {a b c d : UInt8} (single : hex4 a b c d < 0xD800) (rest : Bytes) :
    unescape? (0x5C :: 0x75 :: a :: b :: c :: d :: rest) =
      (unescape? rest).map (String.utf8EncodeChar (Char.ofNat (hex4 a b c d)) ++ ·) := by
  have low : ¬isLowSurrogate (hex4 a b c d) = true := by
    simp [isLowSurrogate]
    omega
  have high : ¬isHighSurrogate (hex4 a b c d) = true := by
    simp [isHighSurrogate]
    omega
  rw [unescape?.eq_def]
  exact (if_neg low).trans (if_neg high)

/-! ## Characters -/

/-- The bytes by which a character is written inside a string. -/
def written (c : Char) : Bytes := (Json.escaped c).flatMap String.utf8EncodeChar

/-- **How a character is written**: as itself, by a letter after a backslash, or by its number. -/
inductive Written (c : Char) : Bytes → Prop where
  | bare (bare : ∀ b ∈ String.utf8EncodeChar c, Bare b) : Written c (String.utf8EncodeChar c)
  | letter {b v : UInt8} (letter : letterValue? b = some v) (other : b ≠ 0x75)
      (value : String.utf8EncodeChar c = [v]) : Written c [0x5C, b]
  | number {x y : UInt8} (hex : isHex4 0x30 0x30 x y = true) (value : hex4 0x30 0x30 x y = c.toNat)
      (small : c.toNat < 0x20) : Written c [0x5C, 0x75, 0x30, 0x30, x, y]

theorem escapeLetter?_eq_some {c l : Char} (h : Json.escapeLetter? c = some l) :
    ∃ b v, String.utf8EncodeChar l = [b] ∧ letterValue? b = some v ∧ b ≠ 0x75 ∧
      String.utf8EncodeChar c = [v] := by
  unfold Json.escapeLetter? at h
  repeat' split at h
  all_goals cases h
  all_goals subst_vars
  all_goals exact ⟨_, _, rfl, rfl, by decide, rfl⟩

theorem ne_of_escapeLetter?_eq_none {c : Char} (h : Json.escapeLetter? c = none) :
    c ≠ '"' ∧ c ≠ '\\' := by
  constructor <;> (rintro rfl; cases h)

/-- The byte of a hexadecimal digit. -/
def hexByte (n : Nat) : UInt8 := UInt8.ofNat (Nat.digitChar n).toNat

theorem utf8EncodeChar_digitChar {n : Nat} (small : n < 16) :
    String.utf8EncodeChar (Nat.digitChar n) = [hexByte n] := by
  revert n
  decide

theorem hex4_hexByte {n : Nat} (small : n < 0x20) :
    isHex4 0x30 0x30 (hexByte (n / 16)) (hexByte (n % 16)) = true ∧
      hex4 0x30 0x30 (hexByte (n / 16)) (hexByte (n % 16)) = n := by
  revert n
  decide

theorem written_written (c : Char) : Written c (written c) := by
  unfold written Json.escaped
  split
  · rename_i l letter
    obtain ⟨b, v, byte, value, other, plain⟩ := escapeLetter?_eq_some letter
    have bytes : ['\\', l].flatMap String.utf8EncodeChar = [0x5C, b] := by
      simp only [List.flatMap_cons, List.flatMap_nil, byte]
      rfl
    rw [bytes]
    exact .letter value other plain
  · rename_i unescaped
    obtain ⟨quote, backslash⟩ := ne_of_escapeLetter?_eq_none unescaped
    split
    · rename_i small
      have bytes : ['\\', 'u', '0', '0', Nat.digitChar (c.toNat / 16),
          Nat.digitChar (c.toNat % 16)].flatMap String.utf8EncodeChar =
          [0x5C, 0x75, 0x30, 0x30, hexByte (c.toNat / 16), hexByte (c.toNat % 16)] := by
        simp only [List.flatMap_cons, List.flatMap_nil,
          utf8EncodeChar_digitChar (show c.toNat / 16 < 16 by omega),
          utf8EncodeChar_digitChar (show c.toNat % 16 < 16 by omega)]
        rfl
      obtain ⟨hex, value⟩ := hex4_hexByte small
      rw [bytes]
      exact .number hex value small
    · rename_i large
      have bytes : [c].flatMap String.utf8EncodeChar = String.utf8EncodeChar c := by simp
      rw [bytes]
      exact .bare (bare_of_unescaped (Nat.le_of_not_lt large) quote backslash)

theorem body?_written (c : Char) (rest : Bytes) :
    body? (written c ++ rest) = (body? rest).map fun r => (written c ++ r.1, r.2) := by
  have way := written_written c
  generalize written c = bs at way ⊢
  cases way with
  | bare bare => exact body?_bare_append bare rest
  | letter letter other => exact body?_letter letter other rest
  | number hex => exact body?_hex hex rest

theorem unescape?_written (c : Char) (rest : Bytes) :
    unescape? (written c ++ rest) = (unescape? rest).map (String.utf8EncodeChar c ++ ·) := by
  have way := written_written c
  generalize written c = bs at way ⊢
  cases way with
  | bare bare => exact unescape?_bare_append bare rest
  | letter letter other value =>
    rw [value]
    exact unescape?_letter letter other rest
  | @number x y hex value small =>
    have single : hex4 0x30 0x30 x y < 0xD800 := by rw [value]; omega
    refine (unescape?_hex single rest).trans ?_
    rw [value, Char.ofNat_toNat]

/-! ## Strings -/

theorem bodyOf_eq (s : String) : bodyOf s = s.toList.flatMap written := by
  rw [bodyOf, Bytes.ofText, String.toList_ofList, List.flatMap_assoc]
  rfl

/-- The closing quote is found where it was written. -/
theorem body?_bodyOf (s : String) (rest : Bytes) :
    body? (bodyOf s ++ 0x22 :: rest) = some (bodyOf s, rest) := by
  rw [bodyOf_eq]
  induction s.toList with
  | nil => rfl
  | cons c cs ih => rw [List.flatMap_cons, List.append_assoc, body?_written, ih, Option.map_some]

/-- **A string is read back as it was written.** -/
theorem bodyText?_bodyOf (s : String) : bodyText? (bodyOf s) = some s := by
  -- for any characters, as the induction has to leave the string behind
  have unescaped (cs : List Char) :
      unescape? (cs.flatMap written) = some (cs.flatMap String.utf8EncodeChar) := by
    induction cs with
    | nil => rfl
    | cons c cs ih =>
      rw [List.flatMap_cons, unescape?_written, ih, List.flatMap_cons, Option.map_some]
  rw [bodyText?, bodyOf_eq, unescaped, Option.bind_some]
  exact Bytes.toText?_ofText s

end RemotePlayback.Json.Document
