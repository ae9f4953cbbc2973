import RemotePlayback.Wire.Message

/-! Reading records back.

A message travels as records, each a key and what the key announces. What was written of a record is
read back whatever follows it, and so merging a byte string into a message comes to merging its
records, one after the other. Between them there may be more, as long as readers skip it. -/

namespace RemotePlayback.Wire

variable {σ : Type} {fields : List (Field σ)} {depth : Nat} {m : σ} {s rest : Bytes}

/-! ## Payloads -/

namespace Payload

/-- The kind of a payload, which the key of its record names. -/
def kind : Payload → Kind
  | .varint _ => .varint
  | .fixed64 _ => .fixed64
  | .counted _ => .counted
  | .fixed32 _ => .fixed32

/-- What follows the key. -/
def body : Payload → Bytes
  | .varint n => Varint.write n
  | .fixed64 n => Bytes.ofLittleEndian 8 n
  | .counted b => Varint.write b.length ++ b
  | .fixed32 n => Bytes.ofLittleEndian 4 n

/-- Whether there is room for a number in its kind. -/
def InRange : Payload → Prop
  | .varint n | .fixed64 n => n < 2 ^ 64
  | .counted _ => True
  | .fixed32 n => n < 2 ^ 32

end Payload

/-- **The record** of a field's number and a payload. -/
def record (r : Nat × Payload) : Bytes := writeKey r.1 r.2.kind ++ r.2.body

theorem record_counted (tag : Nat) (b : Bytes) :
    record (tag, .counted b) = Codec.writeCounted tag b := (List.append_assoc ..).symm

/-- A key is read back. -/
theorem readKey?_writeKey {tag : Nat} (positive : 0 < tag) (bounded : tag < 2 ^ 29) (kind : Kind)
    (rest : Bytes) : readKey? (writeKey tag kind ++ rest) = some (tag, kind, rest) := by
  have small := kind.number_lt
  have fits : 8 * tag + kind.number < 2 ^ 64 := by omega
  have read := Varint.read?_write fits rest
  have number : (8 * tag + kind.number) % 8 = kind.number := by omega
  have name : (8 * tag + kind.number) / 8 = tag := by omega
  rw [readKey?, writeKey, read]
  dsimp only
  rw [if_pos (by omega), number, name, Kind.ofNumber?_number, Option.map_some]

/-- What follows a key is read back. -/
theorem readPayload?_body {p : Payload} (range : p.InRange) (short : p.body.length < 2 ^ 64)
    (rest : Bytes) : readPayload? p.kind (p.body ++ rest) = some (p, rest) := by
  cases p with
  | varint n =>
    have read := Varint.read?_write range rest
    simp only [Payload.kind, Payload.body, readPayload?, read, Option.map_some]
  | fixed64 n =>
    have taken := Bytes.take?_append (Bytes.ofLittleEndian 8 n) rest
    rw [Bytes.length_ofLittleEndian] at taken
    have whole : n % 256 ^ 8 = n := Nat.mod_eq_of_lt range
    simp only [Payload.kind, Payload.body, readPayload?, taken, Option.map_some,
      Bytes.littleEndian_ofLittleEndian, whole]
  | counted b =>
    have bounded : b.length < 2 ^ 64 := by
      rw [Payload.body, List.length_append] at short
      omega
    have read := Varint.read?_write bounded (b ++ rest)
    simp only [Payload.kind, Payload.body, readPayload?, List.append_assoc, read,
      Bytes.take?_append, Option.map_some]
  | fixed32 n =>
    have taken := Bytes.take?_append (Bytes.ofLittleEndian 4 n) rest
    rw [Bytes.length_ofLittleEndian] at taken
    have whole : n % 256 ^ 4 = n := Nat.mod_eq_of_lt range
    simp only [Payload.kind, Payload.body, readPayload?, taken, Option.map_some,
      Bytes.littleEndian_ofLittleEndian, whole]

/-! ## Merging records -/

/-- Merges one record into a message. -/
def mergeRecord? (fields : List (Field σ)) (depth : Nat) (m : σ) (r : Nat × Payload) : Option σ :=
  (fields.find? (·.tag == r.1)).bind fun f => f.merge depth r.2 m

/-- **A record that a message knows**: of one of its fields, and of the kind that the field wants.
-/
structure Known (fields : List (Field σ)) (r : Nat × Payload) : Prop where
  positive : 0 < r.1
  bounded : r.1 < 2 ^ 29
  range : r.2.InRange
  declared : ∃ f, fields.find? (·.tag == r.1) = some f ∧
    (f.alwaysCounted = true → r.2.kind = .counted)

/-- Merging goes on with what follows a record of a known field. -/
theorem mergeAll?_of_payload {tag : Nat} {kind : Kind} {f : Field σ} {p : Payload} {rest' : Bytes}
    (key : readKey? s = some (tag, kind, rest)) (declared : fields.find? (·.tag == tag) = some f)
    (payload : readPayload? (if f.alwaysCounted then .counted else kind) rest = some (p, rest')) :
    mergeAll? fields depth m s = (f.merge depth p m).bind (mergeAll? fields depth · rest') := by
  cases s with
  | nil => cases key
  | cons b s =>
    rw [mergeAll?]
    split
    · rename_i none
      cases none.symm.trans key
    · rename_i some
      cases some.symm.trans key
      simp only [declared]
      split
      · rename_i none
        cases none.symm.trans payload
      · rename_i some
        cases some.symm.trans payload
        cases f.merge depth p m <;> rfl

/-- **A record is merged**, and then what follows it. -/
theorem mergeAll?_record {r : Nat × Payload} (known : Known fields r)
    (short : (record r).length < 2 ^ 64) :
    mergeAll? fields depth m (record r ++ rest) =
      (mergeRecord? fields depth m r).bind (mergeAll? fields depth · rest) := by
  obtain ⟨f, declared, counted⟩ := known.declared
  have bounded : r.2.body.length < 2 ^ 64 := by
    rw [record, List.length_append] at short
    omega
  have kind : (if f.alwaysCounted then Kind.counted else r.2.kind) = r.2.kind := by
    split
    · rename_i always
      exact (counted always).symm
    · rfl
  have payload := readPayload?_body known.range bounded rest
  rw [← kind] at payload
  have key := readKey?_writeKey known.positive known.bounded r.2.kind (r.2.body ++ rest)
  rw [record, List.append_assoc, mergeAll?_of_payload key declared payload, mergeRecord?, declared,
    Option.bind_some]

/-! ## Between the records -/

/-- **What may stand between the records** of a message whose fields have certain numbers. Readers
skip it, except where messages are nested too deep for anything to be skipped. -/
structure Filler where
  Fills : (tags : List Nat) → Bytes → Prop
  skipped {σ : Type} {fields : List (Field σ)} {depth : Nat} {m : σ} {s rest : Bytes}
    (fills : Fills (fields.map (·.tag)) s) (deep : 1 ≤ depth) :
    mergeAll? fields depth m (s ++ rest) = mergeAll? fields depth m rest

/-- Nothing stands between the records. -/
def Filler.none : Filler where
  Fills _ _ := False
  skipped := False.elim

/-- **Records strewn over a byte string**, in their order, with filler between them. -/
inductive Strewn (fills : Bytes → Prop) : List (Nat × Payload) → Bytes → Prop where
  | nil : Strewn fills [] []
  | cons {r records s} (others : Strewn fills records s) :
      Strewn fills (r :: records) (record r ++ s)
  | skip {records f s} (filler : fills f) (others : Strewn fills records s) :
      Strewn fills records (f ++ s)

/-- Records one right after the other. -/
theorem strewn_flatMap (fills : Bytes → Prop) (records : List (Nat × Payload)) :
    Strewn fills records (records.flatMap record) := by
  induction records with
  | nil => exact .nil
  | cons r records ih => exact .cons ih

/-- No record is longer than the byte string. -/
theorem Strewn.length_le {fills : Bytes → Prop} {records : List (Nat × Payload)}
    (strewn : Strewn fills records s) : ∀ r ∈ records, (record r).length ≤ s.length := by
  induction strewn with
  | nil => exact fun _ mem => nomatch mem
  | cons others ih =>
    intro r mem
    rw [List.length_append]
    rcases List.mem_cons.mp mem with rfl | mem
    · exact Nat.le_add_right ..
    · exact Nat.le_add_left_of_le (ih r mem)
  | skip _ others ih =>
    intro r mem
    rw [List.length_append]
    exact Nat.le_add_left_of_le (ih r mem)

/-- **Merging a byte string is merging its records**, one after the other. -/
theorem mergeAll?_strewn {filler : Filler} {records : List (Nat × Payload)} (deep : 1 ≤ depth)
    (strewn : Strewn (filler.Fills (fields.map (·.tag))) records s)
    (known : ∀ r ∈ records, Known fields r) (short : s.length < 2 ^ 64) :
    mergeAll? fields depth m s = records.foldlM (mergeRecord? fields depth) m := by
  induction strewn generalizing m with
  | nil =>
    rw [mergeAll?]
    rfl
  | cons others ih =>
    obtain ⟨first, known⟩ := List.forall_mem_cons.mp known
    rw [List.length_append] at short
    rw [mergeAll?_record first (by omega), List.foldlM_cons]
    congr 1
    funext m
    exact ih known (by omega)
  | skip fills others ih =>
    rw [List.length_append] at short
    rw [filler.skipped fills deep]
    exact ih known (by omega)

end RemotePlayback.Wire
