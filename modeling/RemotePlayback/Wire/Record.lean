import RemotePlayback.Wire.Varint

/-!
Records: the pieces that an encoded message is made of.

A record begins with a key, which holds the number of a field and the kind of what follows: a
varint, eight or four bytes, a counted run of bytes, or a group of further records between a
starting and an ending key. A reader that does not know a field's number skips its record whole;
groups may be nested in it only as deep as the message's own nesting leaves room for.
-/

namespace RemotePlayback.Wire

/-- What follows a key. -/
inductive Kind where
  | varint
  | fixed64
  | counted
  | groupStart
  | groupEnd
  | fixed32
  deriving DecidableEq, Inhabited

namespace Kind

/-- The number of a kind in keys. -/
def number : Kind → Nat
  | varint => 0
  | fixed64 => 1
  | counted => 2
  | groupStart => 3
  | groupEnd => 4
  | fixed32 => 5

/-- The kind of a number. -/
def ofNumber? : Nat → Option Kind
  | 0 => some varint
  | 1 => some fixed64
  | 2 => some counted
  | 3 => some groupStart
  | 4 => some groupEnd
  | 5 => some fixed32
  | _ => none

theorem ofNumber?_number (k : Kind) : ofNumber? k.number = some k := by cases k <;> rfl

theorem number_lt (k : Kind) : k.number < 8 := by cases k <;> decide

end Kind

/-- The key of a field. -/
def writeKey (tag : Nat) (kind : Kind) : Bytes := Varint.write (8 * tag + kind.number)

/-- The field number and kind at the front; keys have 32 bits and no field has the number zero. -/
def readKey? (s : Bytes) : Option (Nat × Kind × Bytes) :=
  match Varint.read? s with
  | none => none
  | some (n, rest) =>
    if n < 2 ^ 32 ∧ 8 ≤ n then (Kind.ofNumber? (n % 8)).map fun k => (n / 8, k, rest) else none

/-- What a record holds; a group has no value of its own. -/
inductive Payload where
  | varint (n : Nat)
  | fixed64 (n : Nat)
  | counted (b : Bytes)
  | fixed32 (n : Nat)
  deriving DecidableEq, Inhabited

/-- The value of a kind at the front, and the rest. -/
def readPayload? : Kind → Bytes → Option (Payload × Bytes)
  | .varint, s => (Varint.read? s).map fun r => (.varint r.1, r.2)
  | .fixed64, s => (Bytes.take? 8 s).map fun r => (.fixed64 (Bytes.littleEndian r.1), r.2)
  | .fixed32, s => (Bytes.take? 4 s).map fun r => (.fixed32 (Bytes.littleEndian r.1), r.2)
  | .counted, s =>
    match Varint.read? s with
    | none => none
    | some (n, rest) => (Bytes.take? n rest).map fun r => (.counted r.1, r.2)
  | .groupStart, _ => none
  | .groupEnd, _ => none

theorem length_take? {n : Nat} {s a rest : Bytes} (h : Bytes.take? n s = some (a, rest)) :
    rest.length ≤ s.length := by
  unfold Bytes.take? at h
  split at h
  · simp only [List.splitAt_eq, Option.some.injEq, Prod.mk.injEq] at h
    rw [← h.2, List.length_drop]
    omega
  · simp at h

theorem length_readKey? {s rest : Bytes} {tag : Nat} {kind : Kind}
    (h : readKey? s = some (tag, kind, rest)) : rest.length < s.length := by
  unfold readKey? at h
  split at h
  · simp at h
  · rename_i n r hr
    split at h
    · simp only [Option.map_eq_some_iff, Prod.mk.injEq] at h
      obtain ⟨k, -, -, -, rfl⟩ := h
      exact Varint.length_read? hr
    · simp at h

theorem length_readPayload? {kind : Kind} {s rest : Bytes} {p : Payload}
    (h : readPayload? kind s = some (p, rest)) : rest.length ≤ s.length := by
  cases kind <;> simp only [readPayload?] at h
  · simp only [Option.map_eq_some_iff, Prod.exists, Prod.mk.injEq] at h
    obtain ⟨n, r, hr, -, rfl⟩ := h
    exact Nat.le_of_lt (Varint.length_read? hr)
  · simp only [Option.map_eq_some_iff, Prod.exists, Prod.mk.injEq] at h
    obtain ⟨n, r, hr, -, rfl⟩ := h
    exact length_take? hr
  · split at h
    · simp at h
    · rename_i n r hr
      simp only [Option.map_eq_some_iff, Prod.exists, Prod.mk.injEq] at h
      obtain ⟨b, r', hr', -, rfl⟩ := h
      have := Varint.length_read? hr
      have := length_take? hr'
      omega
  · simp at h
  · simp at h
  · simp only [Option.map_eq_some_iff, Prod.exists, Prod.mk.injEq] at h
    obtain ⟨n, r, hr, -, rfl⟩ := h
    exact length_take? hr

/-! ## Skipping -/

-- The equations bound in the matches are what the termination proof uses.
set_option linter.unusedVariables false

/--
Skips the rest of the open groups, the innermost first. Whatever stands in a group takes one level
of `depth` for each group around it; the key that ends a group takes none.
-/
def skipGroups? (depth : Nat) (groups : List Nat) (s : Bytes) : Option Bytes :=
  match groups with
  | [] => some s
  | tag :: outer =>
    match hk : readKey? s with
    | none => none
    | some (t, .groupEnd, rest) => if t = tag then skipGroups? depth outer rest else none
    | some (t, .groupStart, rest) =>
      if outer.length + 1 < depth then skipGroups? depth (t :: tag :: outer) rest else none
    | some (_, kind, rest) =>
      if outer.length + 1 < depth then
        match hp : readPayload? kind rest with
        | none => none
        | some (_, rest') => skipGroups? depth (tag :: outer) rest'
      else none
termination_by s.length
decreasing_by
  · exact length_readKey? hk
  · exact length_readKey? hk
  · have h1 := length_readKey? hk
    have h2 := length_readPayload? hp
    omega

/-- Skips what follows the key of an unknown field. -/
def skip? (depth : Nat) (tag : Nat) (kind : Kind) (s : Bytes) : Option Bytes :=
  if depth = 0 then none
  else match kind with
    | .groupStart => skipGroups? depth [tag] s
    | kind => (readPayload? kind s).map (·.2)

theorem length_skipGroups? {depth : Nat} {groups : List Nat} {s rest : Bytes}
    (h : skipGroups? depth groups s = some rest) : rest.length ≤ s.length := by
  fun_induction skipGroups? depth groups s with
  | case1 => simp at h; simp [h]
  | case2 => simp at h
  | case3 s outer t r hk ih => have := ih h; have := length_readKey? hk; omega
  | case4 => simp at h
  | case5 s tag outer t r hk _ ih => have := ih h; have := length_readKey? hk; omega
  | case6 => simp at h
  | case7 => simp at h
  | case8 s tag outer t k r _ _ hk _ p r' hp ih =>
    have := ih h
    have := length_readKey? hk
    have := length_readPayload? hp
    omega
  | case9 => simp at h

theorem length_skip? {depth tag : Nat} {kind : Kind} {s rest : Bytes}
    (h : skip? depth tag kind s = some rest) : rest.length ≤ s.length := by
  unfold skip? at h
  split at h
  · simp at h
  · split at h
    · exact length_skipGroups? h
    · simp only [Option.map_eq_some_iff, Prod.exists] at h
      obtain ⟨p, r, hr, rfl⟩ := h
      exact length_readPayload? hr

end RemotePlayback.Wire
