import RemotePlayback.Toml.Number

/-! TOML integers are read back as they were written.

An integer is written in plain decimal digits at the end of its line. The reader tries a time first,
for which it needs a hyphen or a colon behind some digits; so it matters that nothing but a digit or
the line break follows. -/

namespace RemotePlayback.Toml

variable {ds rest : List Char} {m : Nat} {n : Int}

/-! ## Digits -/

/-- Only the number zero is written with a zero in front. -/
theorem toDigits_start (m : Nat) : ∃ c cs, Nat.toDigits 10 m = c :: cs ∧ c.isDigit = true ∧
    (c = '0' → m = 0 ∧ cs = []) := by
  have single : ∀ m < 10, (Nat.digitChar m).isDigit = true ∧ (Nat.digitChar m = '0' → m = 0) := by
    decide
  induction m using Nat.strongRecOn with
  | _ m ih =>
    by_cases small : m < 10
    · obtain ⟨digit, zero⟩ := single m small
      exact ⟨_, [], Nat.toDigits_of_lt_base small, digit, fun eq => ⟨zero eq, rfl⟩⟩
    · have large : 10 ≤ m := Nat.le_of_not_lt small
      obtain ⟨c, cs, start, digit, zero⟩ := ih (m / 10) (by omega)
      refine ⟨c, cs ++ [(m % 10).digitChar], ?_, digit, fun eq => ?_⟩
      · rw [Nat.toDigits_of_base_le (by decide) large, start, List.cons_append]
      · have none := (zero eq).1
        omega

theorem isDigit_of_mem_toDigits {c : Char} (mem : c ∈ Nat.toDigits 10 m) : c.isDigit = true :=
  Nat.isDigit_of_mem_toDigits (by decide) (by decide) mem

theorem hexValue?_of_isDigit {c : Char} (digit : c.isDigit = true) :
    hexValue? c = some (c.toNat - '0'.toNat) := by
  rw [hexValue?, if_pos digit]

/-- Digits are worth what they write. -/
theorem ofBase_toDigits (m : Nat) : ofBase 10 (Nat.toDigits 10 m) = m := by
  have value (ds : List Char) : (∀ c ∈ ds, c.isDigit = true) → ∀ n,
      ds.foldl (fun n c => 10 * n + (hexValue? c).getD 0) n = Nat.ofDigitChars 10 ds n := by
    induction ds with
    | nil => exact fun _ n => by simp
    | cons c ds ih =>
      intro digits n
      rw [List.foldl_cons, hexValue?_of_isDigit (digits c List.mem_cons_self), Option.getD_some,
        ih fun d mem => digits d (List.mem_cons_of_mem c mem), Nat.ofDigitChars_cons]
  rw [ofBase, value _ fun c mem => isDigit_of_mem_toDigits mem, Nat.ofDigitChars_ten_toDigits]

theorem moreDigits_append (digits : ∀ c ∈ ds, c.isDigit = true) (rest : List Char) :
    moreDigits Char.isDigit (ds ++ '\n' :: rest) = (ds, '\n' :: rest) := by
  induction ds with
  | nil => rfl
  | cons c ds ih =>
    have digit := digits c List.mem_cons_self
    have single : c ≠ '_' := by
      rintro rfl
      cases digit
    rw [List.cons_append, moreDigits.eq_def]
    split
    · rename_i eq
      cases eq
    · rename_i eq
      exact (single (List.cons.inj eq).1).elim
    · rename_i eq
      cases eq
      rw [if_pos digit, ih fun d mem => digits d (List.mem_cons_of_mem c mem)]

theorem decimal?_toDigits (m : Nat) (rest : List Char) :
    decimal? (Nat.toDigits 10 m ++ '\n' :: rest) = some (Nat.toDigits 10 m, '\n' :: rest) := by
  have all : ∀ c ∈ Nat.toDigits 10 m, c.isDigit = true := fun c mem => isDigit_of_mem_toDigits mem
  obtain ⟨c, cs, start, digit, zero⟩ := toDigits_start m
  rw [start] at all ⊢
  by_cases eq : c = '0'
  · obtain ⟨-, rfl⟩ := zero eq
    rw [eq]
    rfl
  · have more := moreDigits_append (fun d mem => all d (List.mem_cons_of_mem c mem)) rest
    rw [List.cons_append, decimal?.eq_def]
    split
    · rename_i same
      exact (eq (List.cons.inj same).1).elim
    · rw [digits?, if_pos digit, more]

/-! ## No times -/

/-- Behind digits of a number there is another one, or the end of the line. -/
theorem next_of_fixedDigits? {count v : Nat} {r : List Char}
    (digits : ∀ c ∈ ds, c.isDigit = true)
    (h : fixedDigits? count (ds ++ '\n' :: rest) = some (v, r)) :
    ∃ c r', r = c :: r' ∧ (c.isDigit = true ∨ c = '\n') := by
  rw [fixedDigits?] at h
  split at h
  · rename_i taken
    obtain ⟨value, -, eq⟩ := Option.map_eq_some_iff.mp h
    cases eq
    have within : count ≤ ds.length := by
      refine Nat.le_of_not_lt fun beyond => ?_
      have lineBreak : '\n' ∈ (ds ++ '\n' :: rest).take count := by
        rw [List.take_append, List.mem_append]
        right
        obtain ⟨k, eq⟩ : ∃ k, count - ds.length = k + 1 := ⟨count - ds.length - 1, by omega⟩
        rw [eq, List.take_succ_cons]
        exact List.mem_cons_self
      exact absurd (List.all_eq_true.mp taken.2 _ lineBreak) (by decide)
    rw [List.drop_append_of_le_length within]
    cases left : ds.drop count with
    | nil => exact ⟨'\n', rest, rfl, .inr rfl⟩
    | cons c cs =>
      have mem : c ∈ ds := List.mem_of_mem_drop (left ▸ List.mem_cons_self)
      exact ⟨c, cs ++ '\n' :: rest, rfl, .inl (digits c mem)⟩
  · cases h

/-- So a hyphen or a colon does not follow. -/
theorem char?_of_fixedDigits? {count v : Nat} {r : List Char} (mark : Char)
    (digits : ∀ c ∈ ds, c.isDigit = true) (none : mark.isDigit = false) (line : mark ≠ '\n')
    (h : fixedDigits? count (ds ++ '\n' :: rest) = some (v, r)) : char? mark r = .none := by
  obtain ⟨c, r', rfl, next⟩ := next_of_fixedDigits? digits h
  have other : c ≠ mark := by
    rintro rfl
    rcases next with digit | eq
    · rw [digit] at none
      cases none
    · exact line eq
  rw [char?, if_neg other]

theorem time?_digits (digits : ∀ c ∈ ds, c.isDigit = true) (rest : List Char) :
    time? (ds ++ '\n' :: rest) = none := by
  have date : date? (ds ++ '\n' :: rest) = none := by
    rw [date?]
    cases found : fixedDigits? 4 (ds ++ '\n' :: rest) with
    | none => rfl
    | some year =>
      have hyphen := char?_of_fixedDigits? '-' digits rfl (by decide) found
      simp [hyphen]
  have clock : clock? (ds ++ '\n' :: rest) = none := by
    rw [clock?, digitsWithin?]
    cases found : fixedDigits? 2 (ds ++ '\n' :: rest) with
    | none => rfl
    | some hour =>
      have colon := char?_of_fixedDigits? ':' digits rfl (by decide) found
      rw [Option.filter_some]
      split
      · simp [colon]
      · rfl
  rw [time?, date]
  exact clock

theorem time?_minus (s : List Char) : time? ('-' :: s) = none := by
  have digits (count : Nat) : fixedDigits? (count + 1) ('-' :: s) = none := by
    rw [fixedDigits?, List.take_succ_cons, if_neg]
    simp
  rw [time?, date?, digits, clock?, digitsWithin?, digits]
  rfl

/-! ## Integers -/

theorem toList_toString (n : Int) : (toString n).toList =
    (if n < 0 then ['-'] else []) ++ Nat.toDigits 10 n.natAbs := by
  rw [Int.toString_eq_repr]
  cases n with
  | ofNat m =>
    show m.repr.toList = _
    rw [← Nat.toString_eq_repr, Nat.toString_eq_ofList_toDigits, String.toList_ofList,
      if_neg (by simp)]
    rfl
  | negSucc m =>
    show ("-" ++ (m + 1).repr).toList = _
    rw [String.toList_append, ← Nat.toString_eq_repr, Nat.toString_eq_ofList_toDigits,
      if_pos (Int.negSucc_lt_zero m)]
    exact congrArg (['-'] ++ ·) String.toList_ofList

/-- What begins like a decimal number is one. -/
theorem number?_eq_decimalNumber? {s r : List Char} {c : Char} (time : time? s = none)
    (start : (sign s).2 = c :: r) (digit : c.isDigit = true)
    (zero : ∀ d r', s = '0' :: d :: r' → d = '\n') : number? s = decimalNumber? s := by
  have other : c ≠ 'i' ∧ c ≠ 'n' := by
    constructor <;>
      · rintro rfl
        cases digit
  rw [number?.eq_def, time]
  dsimp only
  split
  · exact absurd (zero _ _ rfl) (by decide)
  · exact absurd (zero _ _ rfl) (by decide)
  · exact absurd (zero _ _ rfl) (by decide)
  · rw [start]
    split <;> simp_all

theorem sign_of_isDigit {c : Char} (digit : c.isDigit = true) (r : List Char) :
    sign (c :: r) = (none, c :: r) := by
  rw [sign.eq_def]
  split
  · rename_i eq
    cases eq
    cases digit
  · rename_i eq
    cases eq
    cases digit
  · rfl

/-- A number without fraction and exponent is an integer. -/
theorem decimalNumber?_toDigits {s : List Char} {minus : Option Bool}
    (signed : sign s = (minus, Nat.toDigits 10 m ++ '\n' :: rest)) :
    decimalNumber? s =
      (integer? (if minus = some true then -(m : Int) else m)).map (·, '\n' :: rest) := by
  have whole := decimal?_toDigits m rest
  simp only [decimalNumber?, signed, whole, fraction?, exponent?, ofBase_toDigits,
    Option.bind_eq_bind, Option.bind_some]
  exact (Option.map_eq_bind ..).symm

/-- **An integer is read back**, at the end of its line. -/
theorem number?_toString (low : -2 ^ 63 ≤ n) (high : n ≤ 2 ^ 63 - 1) (rest : List Char) :
    number? ((toString n).toList ++ '\n' :: rest) =
      some (.integer (Int64.ofInt n), '\n' :: rest) := by
  have digits : ∀ c ∈ Nat.toDigits 10 n.natAbs, c.isDigit = true :=
    fun c mem => isDigit_of_mem_toDigits mem
  have inRange : integer? n = some (.integer (Int64.ofInt n)) := if_pos ⟨low, high⟩
  obtain ⟨c, cs, start, digit, zero⟩ := toDigits_start n.natAbs
  rw [toList_toString]
  by_cases negative : n < 0
  · have signed : sign ('-' :: (Nat.toDigits 10 n.natAbs ++ '\n' :: rest)) =
        (some true, Nat.toDigits 10 n.natAbs ++ '\n' :: rest) := rfl
    have value : -(n.natAbs : Int) = n := by omega
    rw [if_pos negative, List.singleton_append, List.cons_append,
      number?_eq_decimalNumber? (time?_minus _) (by rw [signed, start]; rfl) digit (by simp),
      decimalNumber?_toDigits signed, if_pos rfl, value, inRange]
    rfl
  · have signed : sign (Nat.toDigits 10 n.natAbs ++ '\n' :: rest) =
        (none, Nat.toDigits 10 n.natAbs ++ '\n' :: rest) := by
      rw [start]
      exact sign_of_isDigit digit _
    have alone (d : Char) (r : List Char)
        (eq : Nat.toDigits 10 n.natAbs ++ '\n' :: rest = '0' :: d :: r) : d = '\n' := by
      rw [start, List.cons_append] at eq
      obtain ⟨first, second⟩ := List.cons.inj eq
      obtain ⟨-, rfl⟩ := zero first
      exact (List.cons.inj second).1.symm
    have value : (n.natAbs : Int) = n := by omega
    rw [if_neg negative, List.nil_append, number?_eq_decimalNumber? (time?_digits digits rest)
      (by rw [signed, start]; rfl) digit alone, decimalNumber?_toDigits signed, if_neg (by decide),
      value, inRange]
    rfl

end RemotePlayback.Toml
