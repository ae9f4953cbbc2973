import RemotePlayback.Proofs.Toml.Numbers
import RemotePlayback.Proofs.Toml.Strings
import RemotePlayback.Toml.Reader

/-! The lines of a written TOML text are read back.

A line is a header or a pair. Keys are written without quotes, so a key must hold the characters
that this allows and no others; a value ends with its line. Each lemma speaks of a line with any
text behind it, and says that the reader is left with that text. -/

namespace RemotePlayback.Toml

variable {c : Char} {r rest : List Char} {key : String} {v : Plain}

/-! ## Keys -/

/-- A key that can be written without quotes. -/
structure IsBareKey (key : String) : Prop where
  some : key.toList ≠ []
  bare : ∀ c ∈ key.toList, isBare c = true

theorem isBareKey_iff : IsBareKey key ↔ key.toList ≠ [] ∧ key.toList.all isBare = true := by
  rw [List.all_eq_true]
  exact ⟨fun h => ⟨h.some, h.bare⟩, fun h => ⟨h.1, h.2⟩⟩

/-- Nothing that goes on like a key. -/
def EndsKey (s : List Char) : Prop := ∃ c r, s = c :: r ∧ isBare c = false

theorem bare_start (bare : IsBareKey key) : ∃ c r, key.toList = c :: r ∧ isBare c = true := by
  cases chars : key.toList with
  | nil => exact absurd chars bare.some
  | cons c r => exact ⟨c, r, rfl, bare.bare c (chars ▸ List.mem_cons_self)⟩

theorem isSpace_of_isBare (bare : isBare c = true) : isSpace c = false := by
  rw [← Bool.not_eq_true]
  intro space
  simp only [isSpace, Bool.or_eq_true, decide_eq_true_eq] at space
  rcases space with rfl | rfl <;> cases bare

theorem skipSpace_cons (solid : isSpace c = false) (r : List Char) :
    skipSpace (c :: r) = c :: r := by
  rw [skipSpace, List.dropWhile_cons_of_neg]
  simp [solid]

theorem skipSpace_bare (bare : IsBareKey key) (rest : List Char) :
    skipSpace (key.toList ++ rest) = key.toList ++ rest := by
  obtain ⟨c, r, start, first⟩ := bare_start bare
  rw [start]
  exact skipSpace_cons (isSpace_of_isBare first) _

theorem keyPart?_bare (bare : IsBareKey key) (ends : EndsKey rest) :
    keyPart? (key.toList ++ rest) = some (key, rest) := by
  obtain ⟨c, r, start, first⟩ := bare_start bare
  obtain ⟨d, r', rfl, last⟩ := ends
  have taken : (key.toList ++ d :: r').takeWhile isBare = key.toList := by
    rw [List.takeWhile_append_of_pos bare.bare]
    simp [last]
  have left : (key.toList ++ d :: r').dropWhile isBare = d :: r' := by
    rw [List.dropWhile_append_of_pos bare.bare]
    simp [last]
  rw [keyPart?.eq_def]
  split
  · rename_i eq
    rw [start] at eq
    rw [(List.cons.inj eq).1] at first
    cases first
  · rename_i eq
    rw [start] at eq
    rw [(List.cons.inj eq).1] at first
    cases first
  · rw [taken, left, if_neg bare.some, String.ofList_toList]

/-- **A key of one part**, with blanks behind it. -/
theorem key?_bare (bare : IsBareKey key) (ends : EndsKey rest)
    (single : ∀ r, skipSpace rest ≠ '.' :: r) :
    key? (key.toList ++ rest) = some ([], key, skipSpace rest) := by
  have parts : keyParts? nesting (key.toList ++ rest) = some ([key], skipSpace rest) := by
    rw [nesting, keyParts?, skipSpace_bare bare, keyPart?_bare bare ends]
    simp only [Option.bind_eq_bind, Option.bind_some]
    rfl
  rw [key?, parts]
  rfl

/-! ## Values -/

/-- What a plain value is read back as. -/
def Plain.value : Plain → Value
  | string s => .string s
  | integer n => .integer (Int64.ofInt n)
  | bool b => .bool b

/-- The values that are read back: an integer has to fit 64 bits. -/
def Plain.Fits : Plain → Prop
  | integer n => -2 ^ 63 ≤ n ∧ n ≤ 2 ^ 63 - 1
  | _ => True

@[simp] theorem Plain.fits_string (s : String) : (string s).Fits := trivial

@[simp] theorem Plain.fits_bool (b : Bool) : (bool b).Fits := trivial

theorem stringChars_start (s : List Char) :
    ∃ r, stringChars s = '"' :: r ∨ stringChars s = '\'' :: r := by
  rw [stringChars]
  split
  · exact ⟨_, .inl rfl⟩
  split
  · exact ⟨_, .inr rfl⟩
  split
  · exact ⟨_, .inl rfl⟩
  split
  · exact ⟨_, .inr rfl⟩
  split <;> exact ⟨_, .inl rfl⟩

theorem value?_stringChars (fuel depth : Nat) (s rest : List Char) :
    value? (fuel + 1) depth (stringChars s ++ '\n' :: rest) =
      some (.string (String.ofList s), '\n' :: rest) := by
  have quote : ∀ r, '\n' :: rest ≠ '"' :: r := by simp
  have apostrophe : ∀ r, '\n' :: rest ≠ '\'' :: r := by simp
  have read := string?_stringChars quote apostrophe s
  obtain ⟨r, eq | eq⟩ := stringChars_start s <;>
    · rw [eq] at read ⊢
      rw [List.cons_append] at read ⊢
      rw [value?, read]
      rfl

/-- The characters that an integer begins with. -/
def StartsNumber (c : Char) : Prop := c.isDigit = true ∨ c = '-'

theorem toString_start (n : Int) : ∃ c r, (toString n).toList = c :: r ∧ StartsNumber c := by
  rw [toList_toString]
  by_cases negative : n < 0
  · rw [if_pos negative]
    exact ⟨'-', _, rfl, .inr rfl⟩
  · rw [if_neg negative]
    obtain ⟨c, cs, start, digit, -⟩ := toDigits_start n.natAbs
    exact ⟨c, cs, start, .inl digit⟩

theorem value?_number (start : StartsNumber c) (fuel depth : Nat) (r : List Char) :
    value? (fuel + 1) depth (c :: r) = number? (c :: r) := by
  rw [value?.eq_def]
  dsimp only
  split <;> first | rfl | (rename_i eq; cases eq; rcases start with h | h <;> cases h)

/-- **A plain value is read back**, at the end of its line. -/
theorem value?_text (fits : v.Fits) (fuel depth : Nat) (rest : List Char) :
    value? (fuel + 1) depth (v.text.toList ++ '\n' :: rest) = some (v.value, '\n' :: rest) := by
  cases v with
  | string s =>
    rw [Plain.text, stringText, String.toList_ofList, value?_stringChars, String.ofList_toList]
    rfl
  | integer n =>
    obtain ⟨c, r, eq, start⟩ := toString_start n
    have read := number?_toString fits.1 fits.2 rest
    rw [Plain.text]
    rw [eq, List.cons_append] at read ⊢
    rw [value?_number start, read]
    rfl
  | bool b => cases b <;> rfl

theorem text_start (v : Plain) : ∃ c r, v.text.toList = c :: r ∧ isSpace c = false := by
  cases v with
  | string s =>
    rw [Plain.text, stringText, String.toList_ofList]
    obtain ⟨r, eq | eq⟩ := stringChars_start s.toList
    · exact ⟨_, r, eq, rfl⟩
    · exact ⟨_, r, eq, rfl⟩
  | integer n =>
    obtain ⟨c, r, eq, start⟩ := toString_start n
    refine ⟨c, r, eq, isSpace_of_isBare ?_⟩
    rcases start with digit | rfl
    · simp [isBare, Char.isAlphanum, digit]
    · rfl
  | bool b =>
    cases b with
    | true => exact ⟨'t', _, rfl, rfl⟩
    | false => exact ⟨'f', _, rfl, rfl⟩

/-! ## Lines -/

/-- **The line of a pair is read back.** -/
theorem pair?_pairText (bare : IsBareKey key) (fits : v.Fits) (rest : List Char) :
    pair? ((pairText (key, some v)).toList ++ rest) = some (⟨[], key, v.value⟩, rest) := by
  obtain ⟨c, r, start, solid⟩ := text_start v
  have read := value?_text fits ((' ' :: (v.text.toList ++ '\n' :: rest)).length) nesting rest
  have line : (pairText (key, some v)).toList ++ rest =
      key.toList ++ ' ' :: '=' :: ' ' :: (v.text.toList ++ '\n' :: rest) := by
    simp [pairText]
  have next : skipSpace (' ' :: (v.text.toList ++ '\n' :: rest)) =
      v.text.toList ++ '\n' :: rest := by
    rw [start]
    exact skipSpace_cons solid _
  have name : key? (key.toList ++ ' ' :: '=' :: ' ' :: (v.text.toList ++ '\n' :: rest)) =
      some ([], key, '=' :: ' ' :: (v.text.toList ++ '\n' :: rest)) :=
    key?_bare bare ⟨_, _, rfl, rfl⟩ fun r eq => by cases eq
  rw [line, pair?, name]
  simp only [Option.bind_eq_bind, Option.bind_some, char?, ↓reduceIte, next, read]
  rfl

/-- **The line of a header is read back**, its first bracket already read. -/
theorem header?_bare (bare : IsBareKey key) (rest : List Char) :
    header? (key.toList ++ ']' :: '\n' :: rest) = some (.table [] key, rest) := by
  have name : key? (key.toList ++ ']' :: '\n' :: rest) = some ([], key, ']' :: '\n' :: rest) :=
    key?_bare bare ⟨_, _, rfl, rfl⟩ fun r eq => by cases eq
  obtain ⟨c, r, start, first⟩ := bare_start bare
  rw [header?.eq_def]
  split
  · rename_i eq
    rw [start] at eq
    rw [(List.cons.inj eq).1] at first
    cases first
  · rw [name]
    rfl

end RemotePlayback.Toml
