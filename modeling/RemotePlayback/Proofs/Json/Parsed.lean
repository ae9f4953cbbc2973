import RemotePlayback.Json.Kept

/-! What is known of a value that was read.

Whatever the text, the members of an object that was read stand in the order of their keys, and what
was read within a limit of depth is read alike within every larger one. Of the text itself, the
first byte that is no white space tells whether it is an array, an object or something else. -/

namespace RemotePlayback.Json

variable {s : Bytes} {v : Json} {depth depth' : Nat}

/-- **A text of a value**, its containers nested at most `depth` deep: with blanks anywhere, strings
spelled in any way, and members in any order, some of them again and again. -/
def IsText (depth : Nat) (s : Bytes) (v : Json) : Prop :=
  (Document.read? s).bind (Document.value? depth) = some v

namespace Document

/-! ## Depth -/

mutual

theorem value?_mono : ∀ {depth depth' : Nat} (d : Document) {v : Json}, depth ≤ depth' →
    value? depth d = some v → value? depth' d = some v
  | _, _, .null, _, _, h | _, _, .bool _, _, _, h | _, _, .number _, _, _, h
  | _, _, .string _, _, _, h => by
    simpa only [value?] using h
  | _ + 1, _ + 1, .array items, _, le, h => by
    obtain ⟨xs, read, rfl⟩ := Option.map_eq_some_iff.mp h
    rw [value?, itemValues?_mono items (Nat.le_of_succ_le_succ le) read, Option.map_some]
  | _ + 1, _ + 1, .object members, _, le, h => by
    obtain ⟨ms, read, rfl⟩ := Option.map_eq_some_iff.mp h
    rw [value?, memberValues?_mono members (Nat.le_of_succ_le_succ le) read, Option.map_some]

theorem itemValues?_mono : ∀ {depth depth' : Nat} (ds : List Document) {xs : List Json},
    depth ≤ depth' → itemValues? depth ds = some xs → itemValues? depth' ds = some xs
  | _, _, [], _, _, h => h
  | _, _, d :: ds, _, le, h => by
    rw [itemValues?] at h ⊢
    split at h
    · rename_i v head
      obtain ⟨xs, tail, rfl⟩ := Option.map_eq_some_iff.mp h
      rw [value?_mono d le head]
      dsimp only
      rw [itemValues?_mono ds le tail, Option.map_some]
    · cases h

theorem memberValues?_mono : ∀ {depth depth' : Nat} (ds : List (Bytes × Document))
    {entered ms : List (String × Json)}, depth ≤ depth' →
    memberValues? depth ds entered = some ms → memberValues? depth' ds entered = some ms
  | _, _, [], _, _, _, h => h
  | _, _, (k, d) :: ds, _, _, le, h => by
    rw [memberValues?] at h ⊢
    split at h
    · rename_i key v named head
      rw [named, value?_mono d le head]
      exact memberValues?_mono ds le h
    · cases h

end

/-! ## Members -/

theorem sorted_memberValues? {ds : List (Bytes × Document)} {entered ms : List (String × Json)}
    (h : memberValues? depth ds entered = some ms) (sorted : Entries.Sorted entered) :
    Entries.Sorted ms := by
  induction ds generalizing entered with
  | nil =>
    cases h
    exact sorted
  | cons m ds ih =>
    rw [memberValues?] at h
    split at h
    · exact ih h (Entries.sorted_insert sorted _ _)
    · cases h

theorem sorted_of_value? {d : Document} {ms : List (String × Json)}
    (h : value? depth d = some (.object ms)) : Entries.Sorted ms := by
  cases d with
  | object members =>
    cases depth with
    | zero => cases h
    | succ depth =>
      obtain ⟨ms', read, same⟩ := Option.map_eq_some_iff.mp h
      cases same
      exact sorted_memberValues? read List.Pairwise.nil
  | array items =>
    cases depth with
    | zero => cases h
    | succ depth =>
      obtain ⟨_, -, other⟩ := Option.map_eq_some_iff.mp h
      cases other
  | number n =>
    obtain ⟨_, -, other⟩ := Option.map_eq_some_iff.mp h
    cases other
  | string body =>
    obtain ⟨_, -, other⟩ := Option.map_eq_some_iff.mp h
    cases other
  | _ => cases h

/-! ## The first byte -/

/-- Blanks alone are no document. -/
theorem exists_of_value_eq_some {stack : List Frame} {d : Document} {rest : Bytes}
    (h : value stack s = some (d, rest)) :
    ∃ b r, skip s = b :: r := by
  cases start : skip s with
  | cons b r => exact ⟨b, r, rfl⟩
  | nil =>
    rw [value.eq_def] at h
    split at h
    case h_7 =>
      rw [start] at h
      cases h
    all_goals simp_all

/-- An array or an object. -/
def IsContainer : Document → Prop
  | .array _ | .object _ => True
  | _ => False

/-- An array or an object begins with its bracket. -/
theorem start_of_container {d : Document} {rest : Bytes}
    (h : readPart? s = some (d, rest)) (container : d.IsContainer) :
    ∃ b r, skip s = b :: r ∧ (b = 0x5B ∨ b = 0x7B) := by
  -- a value that is none is finished at once, and there is nothing around it
  have finished {x : Document} {r : Bytes} (h : resume x [] r = some (d, rest)) : x = d := by
    rw [resume] at h
    cases h
    rfl
  rw [readPart?, value.eq_def] at h
  split at h
  case h_2 r start => exact ⟨_, r, start, .inl rfl⟩
  case h_3 r start => exact ⟨_, r, start, .inr rfl⟩
  all_goals
    split at h
    · cases finished h
      exact container.elim
    · cases h

end Document

/-! ## Parts -/

theorem sorted_of_parsePart? {ms : List (String × Json)} (h : parsePart? s = some (.object ms)) :
    Entries.Sorted ms := by
  obtain ⟨_, -, value⟩ := Option.bind_eq_some_iff.mp h
  exact Document.sorted_of_value? value

/-- A whole text begins with its value. -/
theorem parsePart?_of_parse? (h : parse? s = some v) : parsePart? s = some v := by
  obtain ⟨d, read, value⟩ := Option.bind_eq_some_iff.mp h
  rw [Document.read?] at read
  split at read
  · rename_i front
    split at read
    · cases read
      rw [parsePart?, front]
      exact value
    · cases read
  · cases read

theorem parse?_eq_none (h : parsePart? s = none) : parse? s = none := by
  cases whole : parse? s with
  | none => rfl
  | some v =>
    rw [parsePart?_of_parse? whole] at h
    cases h

theorem parsePart?_nil : parsePart? [] = none := by
  cases found : parsePart? [] with
  | none => rfl
  | some v =>
    obtain ⟨_, read, -⟩ := Option.bind_eq_some_iff.mp found
    obtain ⟨_, _, start⟩ := Document.exists_of_value_eq_some read
    cases start

/-! ## Texts -/

theorem IsText.mono (text : IsText depth s v) (le : depth ≤ depth') : IsText depth' s v := by
  obtain ⟨d, read, value⟩ := Option.bind_eq_some_iff.mp text
  exact Option.bind_eq_some_iff.mpr ⟨d, read, Document.value?_mono d le value⟩

/-- An array or an object. -/
def IsContainer : Json → Prop
  | .array _ | .object _ => True
  | _ => False

theorem isContainer_of_value? {d : Document} (h : d.value? depth = some v)
    (container : v.IsContainer) : d.IsContainer := by
  cases d with
  | null | bool =>
    cases h
    exact container
  | number | string =>
    obtain ⟨x, -, rfl⟩ := Option.map_eq_some_iff.mp h
    exact container
  | array | object => trivial

/-- The text of an array or an object begins with its bracket, white space aside. -/
theorem IsText.start (text : IsText depth s v) (container : v.IsContainer) :
    ∃ b r, Document.skip s = b :: r ∧ (b = 0x5B ∨ b = 0x7B) := by
  obtain ⟨d, read, value⟩ := Option.bind_eq_some_iff.mp text
  rw [Document.read?] at read
  split at read
  · rename_i front
    split at read
    · cases read
      exact Document.start_of_container front (isContainer_of_value? value container)
    · cases read
  · cases read

end RemotePlayback.Json
