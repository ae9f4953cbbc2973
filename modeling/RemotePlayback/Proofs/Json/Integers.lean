import RemotePlayback.Proofs.Json.Quoted

/-! Integers in JSON are read back as they were written.

An integer is written by its decimal digits, after a sign if it is below zero. A reader takes digits
for as long as there are any, so what is written is read whole only if what follows does not go on
like a number; inside a document a comma or a closing bracket follows. The digits stand for the
integer again as long as it fits 64 bits. -/

namespace RemotePlayback

/-! ## Decimal digits -/

namespace Double

variable {n d : Nat}

theorem decimalDigits_of_lt (small : n < 10) : decimalDigits n = [n] := by
  rw [decimalDigits, if_pos small]

theorem decimalDigits_of_le (large : 10 ≤ n) :
    decimalDigits n = decimalDigits (n / 10) ++ [n % 10] := by
  rw [decimalDigits, if_neg (Nat.not_lt.mpr large)]

theorem lt_ten_of_mem_decimalDigits (mem : d ∈ decimalDigits n) : d < 10 := by
  induction n using decimalDigits.induct with
  | case1 n small =>
    rw [decimalDigits_of_lt small] at mem
    exact List.mem_singleton.mp mem ▸ small
  | case2 n large ih =>
    rw [decimalDigits_of_le (Nat.le_of_not_lt large)] at mem
    rcases List.mem_append.mp mem with front | last
    · exact ih front
    · rw [List.mem_singleton.mp last]
      exact Nat.mod_lt _ (by decide)

/-- The digits of a positive number do not begin with a zero. -/
theorem decimalDigits_of_pos (pos : 0 < n) : ∃ d ds, decimalDigits n = d :: ds ∧ d ≠ 0 := by
  induction n using decimalDigits.induct with
  | case1 n small => exact ⟨n, [], decimalDigits_of_lt small, Nat.ne_of_gt pos⟩
  | case2 n large ih =>
    obtain ⟨d, ds, digits, other⟩ := ih (by omega)
    rw [decimalDigits_of_le (Nat.le_of_not_lt large), digits]
    exact ⟨d, ds ++ [n % 10], rfl, other⟩

/-- **The digits of a number stand for it.** -/
theorem ofDecimalDigits_decimalDigits (n : Nat) : ofDecimalDigits (decimalDigits n) = n := by
  induction n using decimalDigits.induct with
  | case1 n small =>
    rw [decimalDigits_of_lt small]
    exact Nat.zero_add n
  | case2 n large ih =>
    rw [ofDecimalDigits] at ih
    rw [decimalDigits_of_le (Nat.le_of_not_lt large), ofDecimalDigits, List.foldl_append, ih]
    exact Nat.div_add_mod n 10

end Double

namespace Json

open Double

/-! ## Meaning -/

/-- A number that is an integer of 64 bits, signed or unsigned. -/
def Number.IsWord : Number → Prop
  | .integer n => -2 ^ 63 ≤ n ∧ n < 2 ^ 64
  | .real _ => False

theorem le_foldl_digits (n : Nat) (ds : List Nat) :
    n ≤ ds.foldl (fun n d => 10 * n + d) n := by
  induction ds generalizing n with
  | nil => exact Nat.le_refl n
  | cons d ds ih => exact Nat.le_trans (by omega) (ih (10 * n + d))

/-- Digits are all read if what they stand for fits 64 bits. -/
theorem takeFitting_of_lt {s : Nat} {ds : List Nat}
    (fits : ds.foldl (fun n d => 10 * n + d) s < 2 ^ 64) :
    takeFitting s ds = (ds.foldl (fun n d => 10 * n + d) s, []) := by
  induction ds generalizing s with
  | nil => rfl
  | cons d ds ih =>
    have first : 10 * s + d < 2 ^ 64 := Nat.lt_of_le_of_lt (le_foldl_digits _ ds) fits
    rw [takeFitting, if_pos first, ih fits]
    rfl

theorem Numeral.integer_natAbs {n : Int} (low : -2 ^ 63 ≤ n) :
    Numeral.integer (decide (n < 0)) n.natAbs = .integer n := by
  by_cases negative : n < 0
  · have nonzero : n.natAbs ≠ 0 := by omega
    have fits : n.natAbs ≤ 2 ^ 63 := by omega
    have value : -(n.natAbs : Int) = n := by omega
    rw [decide_eq_true negative, Numeral.integer, if_neg (by decide), if_neg nonzero, if_pos fits,
      value]
  · have value : (n.natAbs : Int) = n := by omega
    rw [decide_eq_false negative, Numeral.integer, if_pos (by decide), value]

/-- **The numeral of an integer has its value.** -/
theorem value?_numeral {n : Number} (word : n.IsWord) : n.numeral.value? = some n := by
  cases n with
  | real d => exact word.elim
  | integer n =>
    obtain ⟨low, high⟩ := word
    have digits : ofDecimalDigits (decimalDigits n.natAbs) = n.natAbs :=
      ofDecimalDigits_decimalDigits _
    rw [ofDecimalDigits] at digits
    have taken : takeFitting 0 (decimalDigits n.natAbs) = (n.natAbs, []) := by
      rw [takeFitting_of_lt (by rw [digits]; omega), digits]
    simp only [Number.numeral, Numeral.value?, taken, and_self, if_true,
      Numeral.integer_natAbs low]

/-! ## Reading -/

/-- **What may follow a number** in a document: nothing, a comma or a closing bracket. -/
def Ends (rest : Bytes) : Prop := ∀ b r, rest = b :: r → b = 0x2C ∨ b = 0x5D ∨ b = 0x7D

theorem ends_nil : Ends [] := fun _ _ eq => nomatch eq

theorem ends_cons {b : UInt8} (closes : b = 0x2C ∨ b = 0x5D ∨ b = 0x7D) (r : Bytes) :
    Ends (b :: r) := by
  intro b' r' eq
  rwa [← (List.cons.inj eq).1]

namespace Numeral

variable {rest : Bytes} {ds : List Nat}

theorem digitRun_of_ends (ends : Ends rest) : digitRun rest = ([], rest) := by
  cases rest with
  | nil => rfl
  | cons b r => rcases ends b r rfl with rfl | rfl | rfl <;> rfl

theorem fraction?_of_ends (ends : Ends rest) : fraction? rest = some (none, rest) := by
  cases rest with
  | nil => rfl
  | cons b r => rcases ends b r rfl with rfl | rfl | rfl <;> rfl

theorem exponent?_of_ends (ends : Ends rest) : exponent? rest = some (none, rest) := by
  cases rest with
  | nil => rfl
  | cons b r => rcases ends b r rfl with rfl | rfl | rfl <;> rfl

theorem digit?_hexByte {d : Nat} (small : d < 10) : digit? (Document.hexByte d) = some d := by
  revert d
  decide

/-- The bytes of digits. -/
theorem flatMap_digitChars (small : ∀ d ∈ ds, d < 10) :
    (digitChars ds).flatMap String.utf8EncodeChar = ds.map Document.hexByte := by
  induction ds with
  | nil => rfl
  | cons d ds ih =>
    obtain ⟨head, tail⟩ := List.forall_mem_cons.mp small
    have first := Document.utf8EncodeChar_digitChar (Nat.lt_trans head (by decide : 10 < 16))
    rw [digitChars] at ih ⊢
    rw [List.map_cons, List.flatMap_cons, first, ih tail, List.map_cons]
    rfl

/-- All digits are read that there are. -/
theorem digitRun_digits (small : ∀ d ∈ ds, d < 10) (ends : Ends rest) :
    digitRun (ds.map Document.hexByte ++ rest) = (ds, rest) := by
  induction ds with
  | nil => exact digitRun_of_ends ends
  | cons d ds ih =>
    obtain ⟨head, tail⟩ := List.forall_mem_cons.mp small
    rw [List.map_cons, List.cons_append, digitRun, digit?_hexByte head]
    dsimp only
    rw [ih tail]

/-- The digits of a number are read up to its end. -/
theorem whole?_digits (n : Nat) (ends : Ends rest) :
    whole? ((decimalDigits n).map Document.hexByte ++ rest) = some (decimalDigits n, rest) := by
  have run : digitRun ((decimalDigits n).map Document.hexByte ++ rest) =
      (decimalDigits n, rest) := digitRun_digits (fun _ => lt_ten_of_mem_decimalDigits) ends
  rw [whole?, someDigits?, run]
  rcases Nat.eq_zero_or_pos n with rfl | pos
  · rw [decimalDigits_of_lt (by decide)]
    rfl
  · obtain ⟨d, ds, digits, other⟩ := decimalDigits_of_pos pos
    rw [digits]
    dsimp only
    split
    · rename_i eq
      exact absurd (List.cons.inj (Prod.mk.inj (Option.some.inj eq)).1).1 other
    · rfl

theorem unsigned?_digits (negative : Bool) (n : Nat) (ends : Ends rest) :
    unsigned? negative ((decimalDigits n).map Document.hexByte ++ rest) =
      some (⟨negative, decimalDigits n, none, none⟩, rest) := by
  simp only [unsigned?, Option.bind_eq_bind, whole?_digits n ends, Option.bind_some,
    fraction?_of_ends ends, exponent?_of_ends ends, pure]

/-- A byte that a number begins with. -/
def IsFirst (b : UInt8) : Prop := b = 0x2D ∨ 0x30 ≤ b ∧ b ≤ 0x39

instance (b : UInt8) : Decidable (IsFirst b) := inferInstanceAs (Decidable (_ ∨ _))

theorem IsFirst.not_space {b : UInt8} (first : IsFirst b) : Document.isSpace b = false := by
  have other {c : UInt8} (no : ¬IsFirst c) : b ≠ c := fun eq => no (eq ▸ first)
  simp [Document.isSpace, other (c := 0x20) (by decide), other (c := 0x0A) (by decide),
    other (c := 0x09) (by decide), other (c := 0x0D) (by decide)]

theorem isFirst_hexByte {d : Nat} (small : d < 10) : IsFirst (Document.hexByte d) := by
  right
  revert d
  decide

theorem read?_minus (r : Bytes) : read? (0x2D :: r) = unsigned? true r := rfl

theorem read?_unsigned {b : UInt8} (digit : b ≠ 0x2D) (r : Bytes) :
    read? (b :: r) = unsigned? false (b :: r) := by
  rw [read?.eq_def]
  split
  · rename_i eq
    exact absurd (List.cons.inj eq).1 digit
  · rfl

/-- **An integer is read as its numeral**, and begins like a number. -/
theorem read?_integer {n : Number} (word : n.IsWord) (ends : Ends rest) :
    ∃ b r, n.numeral.chars.flatMap String.utf8EncodeChar ++ rest = b :: r ∧ IsFirst b ∧
      read? (b :: r) = some (n.numeral, rest) := by
  cases n with
  | real d => exact word.elim
  | integer n =>
    have digits : (digitChars (decimalDigits n.natAbs)).flatMap String.utf8EncodeChar =
        (decimalDigits n.natAbs).map Document.hexByte :=
      flatMap_digitChars fun _ => lt_ten_of_mem_decimalDigits
    obtain ⟨d, ds, first⟩ : ∃ d ds, decimalDigits n.natAbs = d :: ds := by
      rcases Nat.eq_zero_or_pos n.natAbs with zero | pos
      · exact ⟨0, [], by rw [zero, decimalDigits_of_lt (by decide)]⟩
      · obtain ⟨d, ds, digits, -⟩ := decimalDigits_of_pos pos
        exact ⟨d, ds, digits⟩
    by_cases negative : n < 0
    · refine ⟨0x2D, (decimalDigits n.natAbs).map Document.hexByte ++ rest, ?_, .inl rfl, ?_⟩
      · simp only [Number.numeral, chars, negative, decide_true, if_true, List.append_nil,
          List.flatMap_append, digits]
        rfl
      · have read := unsigned?_digits true n.natAbs ends
        rw [read?_minus]
        simpa only [Number.numeral, negative, decide_true] using read
    · have small : d < 10 := lt_ten_of_mem_decimalDigits (first ▸ List.mem_cons_self)
      have plain : Document.hexByte d ≠ 0x2D := by
        clear first
        revert d
        decide
      refine ⟨Document.hexByte d, ds.map Document.hexByte ++ rest, ?_, isFirst_hexByte small, ?_⟩
      · simp only [Number.numeral, chars, negative, decide_false, Bool.false_eq_true, if_false,
          List.nil_append, List.append_nil, digits]
        rw [first, List.map_cons, List.cons_append]
      · have read := unsigned?_digits false n.natAbs ends
        rw [read?_unsigned plain]
        simpa only [Number.numeral, negative, decide_false, first, List.map_cons,
          List.cons_append] using read

end Numeral

end Json

end RemotePlayback
