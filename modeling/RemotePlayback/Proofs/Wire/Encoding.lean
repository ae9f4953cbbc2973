import RemotePlayback.Proofs.Wire.Records

/-! The encodings of a message.

The entries of a map may be written in any order, at any depth of a message, so a message has many
encodings, of which `encode` gives one. A `Spelling` of a codec says in which payloads a value may
be written and what is read back; the spellings of the fields of a message, each with its place in
the message, make up its `Slots`. From there on it no longer matters what the fields are: any
encoding is read back field by field, each into a place that is still as in the empty message. -/

namespace RemotePlayback.Wire

variable {filler : Filler} {σ τ : Type} {fields all : List (Field σ)} {m acc final : σ}
  {records : List (Nat × Payload)} {depth : Nat} {s : Bytes}

/-! ## Values -/

/-- **How the values of a codec may be written**, and what is read back of them. -/
class Spelling (filler : Filler) {τ : Type} (c : Codec τ) where
  /-- The payloads of a value, one record each. -/
  Writes : τ → List Payload → Prop
  /-- The value that is read back. -/
  settled : τ → τ
  /-- How deep messages are nested in a value. -/
  levels : Nat
  inRange {x : τ} {ps : List Payload} (writes : Writes x ps) : ∀ p ∈ ps, p.InRange
  counted {x : τ} {ps : List Payload} (writes : Writes x ps) (always : c.alwaysCounted = true) :
    ∀ p ∈ ps, p.kind = .counted
  merges {x : τ} {ps : List Payload} {depth : Nat} (writes : Writes x ps)
    (short : ∀ p ∈ ps, p.body.length < 2 ^ 64) (deep : levels ≤ depth) :
    ps.foldlM (fun y p => c.merge depth p y) c.initial = some (settled x)
  /-- What the codec writes is one of the ways to write a value. -/
  written (x : τ) : ∃ ps, Writes x ps ∧ ∀ tag, c.write tag x = ps.flatMap fun p => record (tag, p)

/-! ## Places -/

/-- **A place in a message**: what is put there can be got from there, and replaces what was there
before. -/
structure Place (get : σ → τ) (put : τ → σ → σ) : Prop where
  get_put : ∀ v m, get (put v m) = v
  put_put : ∀ v w m, put v (put w m) = put v m
  put_get : ∀ m, put (get m) m = m

/-- Merging into a place is merging the value there. -/
theorem Place.foldlM_merge {get : σ → τ} {put : τ → σ → σ} (place : Place get put)
    (merge : τ → Payload → Option τ) (ps : List Payload) (m : σ) :
    ps.foldlM (fun m p => (merge (get m) p).map (put · m)) m =
      (ps.foldlM merge (get m)).map (put · m) := by
  induction ps generalizing m with
  | nil => exact congrArg some (place.put_get m).symm
  | cons p ps ih =>
    rw [List.foldlM_cons, List.foldlM_cons]
    cases merged : merge (get m) p with
    | none => rfl
    | some x =>
      have rest := ih (put x m)
      rw [place.get_put] at rest
      simp only [Option.map_some, Option.bind_eq_bind, Option.bind_some, rest, place.put_put]

/-! ## Messages -/

/-- **The fields of a message with their spellings and places**, in the order of the fields. -/
inductive Slots (filler : Filler) {σ : Type} : List (Field σ) → Type 1 where
  | nil : Slots filler []
  | cons {τ : Type} {tag : Nat} {c : Codec τ} {get : σ → τ} {put : τ → σ → σ}
      {fields : List (Field σ)} (spelling : Spelling filler c) (place : Place get put)
      (others : Slots filler fields) : Slots filler (Field.of tag c get put :: fields)

namespace Slots

/-- A field before others, with the spelling of its codec. -/
def field {tag : Nat} {c : Codec τ} {get : σ → τ} {put : τ → σ → σ} [Spelling filler c]
    (others : Slots filler fields)
    (place : Place get put := by exact ⟨fun _ _ => rfl, fun _ _ _ => rfl, fun _ => rfl⟩) :
    Slots filler (Field.of tag c get put :: fields) := .cons inferInstance place others

/-- The records in which a message may be written. -/
def Spells (m : σ) : {fields : List (Field σ)} → Slots filler fields → List (Nat × Payload) → Prop
  | _, .nil, records => records = []
  | _, @Slots.cons _ _ _ tag _ get _ _ spelling _ others, records => ∃ ps more,
    spelling.Writes (get m) ps ∧ Spells m others more ∧ records = ps.map (tag, ·) ++ more

/-- **An encoding of a message**: its records, with filler between them. -/
def Encodes (slots : Slots filler fields) (m : σ) (s : Bytes) : Prop :=
  ∃ records, slots.Spells m records ∧ Strewn (filler.Fills (fields.map (·.tag))) records s

/-- What comes of putting every value as it is read back into its place, where nothing was before.
-/
def Builds (m : σ) : {fields : List (Field σ)} → Slots filler fields → σ → σ → Prop
  | _, .nil, acc, final => acc = final
  | _, @Slots.cons _ _ _ _ c get put _ spelling _ others, acc, final =>
    get acc = c.initial ∧ Builds m others (put (spelling.settled (get m)) acc) final

@[simp] theorem builds_nil :
    (nil : Slots filler ([] : List (Field σ))).Builds m acc final ↔ acc = final := .rfl

/-- How deep a message is nested, itself included. -/
def levels : {fields : List (Field σ)} → Slots filler fields → Nat
  | _, .nil => 1
  | _, .cons spelling _ others => max spelling.levels others.levels

theorem one_le_levels (slots : Slots filler fields) : 1 ≤ slots.levels := by
  induction slots with
  | nil => exact Nat.le_refl 1
  | cons _ _ others ih => exact Nat.le_trans ih (Nat.le_max_right ..)

end Slots

/-- **Numbers of fields**: no two are the same, and each fits into a key. -/
structure Numbered (fields : List (Field σ)) : Prop where
  distinct : (fields.map (·.tag)).Nodup
  valid : ∀ tag ∈ fields.map (·.tag), 0 < tag ∧ tag < 2 ^ 29

/-- A field is found by its number. -/
theorem Numbered.find? (numbered : Numbered fields) :
    ∀ f ∈ fields, fields.find? (·.tag == f.tag) = some f := by
  have distinct := numbered.distinct
  clear numbered
  induction fields with
  | nil => exact fun _ mem => nomatch mem
  | cons first fields ih =>
    obtain ⟨new, distinct⟩ := List.nodup_cons.mp distinct
    intro f mem
    rcases List.mem_cons.mp mem with rfl | mem
    · exact List.find?_cons_of_pos (beq_self_eq_true _)
    · have other : first.tag ≠ f.tag := fun same => new (List.mem_map.mpr ⟨f, mem, same.symm⟩)
      rw [List.find?_cons, beq_false_of_ne other]
      exact ih distinct f mem

namespace Slots

/-- The records of a message are known to it. -/
theorem known (slots : Slots filler fields)
    (declared : ∀ f ∈ fields, all.find? (·.tag == f.tag) = some f)
    (valid : ∀ tag ∈ fields.map (·.tag), 0 < tag ∧ tag < 2 ^ 29) (spells : slots.Spells m records) :
    ∀ r ∈ records, Known all r := by
  induction slots generalizing records with
  | nil =>
    rw [show records = [] from spells]
    exact fun _ mem => nomatch mem
  | @cons τ tag c get put fields spelling place others ih =>
    obtain ⟨ps, more, writes, spells, rfl⟩ := spells
    obtain ⟨here, declared⟩ := List.forall_mem_cons.mp declared
    obtain ⟨⟨positive, bounded⟩, valid⟩ := List.forall_mem_cons.mp valid
    refine List.forall_mem_append.mpr ⟨?_, ih declared valid spells⟩
    intro r mem
    obtain ⟨p, written, rfl⟩ := List.mem_map.mp mem
    exact ⟨positive, bounded, spelling.inRange writes p written, _, here, fun always =>
      spelling.counted writes always p written⟩

/-- **The records of a message are merged** field by field. -/
theorem foldlM_mergeRecord? (slots : Slots filler fields)
    (declared : ∀ f ∈ fields, all.find? (·.tag == f.tag) = some f)
    (spells : slots.Spells m records) (builds : slots.Builds m acc final)
    (short : ∀ r ∈ records, (record r).length < 2 ^ 64) (deep : slots.levels ≤ depth) :
    records.foldlM (mergeRecord? all depth) acc = some final := by
  induction slots generalizing records acc with
  | nil =>
    rw [show records = [] from spells, show acc = final from builds]
    rfl
  | @cons τ tag c get put fields spelling place others ih =>
    obtain ⟨ps, more, writes, spells, rfl⟩ := spells
    obtain ⟨fresh, builds⟩ := builds
    obtain ⟨here, declared⟩ := List.forall_mem_cons.mp declared
    obtain ⟨short, shortMore⟩ := List.forall_mem_append.mp short
    have bodies : ∀ p ∈ ps, p.body.length < 2 ^ 64 := by
      intro p mem
      have whole := short (tag, p) (List.mem_map_of_mem mem)
      rw [record, List.length_append] at whole
      exact Nat.lt_of_le_of_lt (Nat.le_add_left ..) whole
    -- the records of this field only touch its place
    have step : (fun (m : σ) p => mergeRecord? all depth m (tag, p)) =
        fun m p => (c.merge depth p (get m)).map (put · m) := by
      funext m p
      have found : all.find? (·.tag == tag) = some (Field.of tag c get put) := here
      rw [mergeRecord?, found, Option.bind_some]
      rfl
    have first : (ps.map (tag, ·)).foldlM (mergeRecord? all depth) acc =
        some (put (spelling.settled (get m)) acc) := by
      rw [List.foldlM_map, step, place.foldlM_merge (fun y p => c.merge depth p y), fresh,
        spelling.merges writes bodies (Nat.le_trans (Nat.le_max_left ..) deep), Option.map_some]
    rw [List.foldlM_append, first]
    exact ih declared spells builds shortMore (Nat.le_trans (Nat.le_max_right ..) deep)

/-- **Every encoding is read back**, whatever stands between its records. -/
theorem mergeAll?_encodes (slots : Slots filler fields) (numbered : Numbered fields)
    (builds : slots.Builds m acc final) (encodes : slots.Encodes m s) (short : s.length < 2 ^ 64)
    (deep : slots.levels ≤ depth) : mergeAll? fields depth acc s = some final := by
  obtain ⟨records, spells, strewn⟩ := encodes
  have known := slots.known numbered.find? numbered.valid spells
  rw [mergeAll?_strewn (Nat.le_trans slots.one_le_levels deep) strewn known short]
  refine slots.foldlM_mergeRecord? numbered.find? spells builds ?_ deep
  exact fun r mem => Nat.lt_of_le_of_lt (strewn.length_le r mem) short

/-- What the fields write is an encoding. -/
theorem encodes_flatMap_write (slots : Slots filler fields) (m : σ) :
    slots.Encodes m (fields.flatMap fun f => f.write m) := by
  have spells : ∃ records, slots.Spells m records ∧
      fields.flatMap (fun f => f.write m) = records.flatMap record := by
    induction slots with
    | nil => exact ⟨[], rfl, rfl⟩
    | @cons τ tag c get put fields spelling place others ih =>
      obtain ⟨more, spells, rest⟩ := ih
      obtain ⟨ps, writes, first⟩ := spelling.written (get m)
      refine ⟨ps.map (tag, ·) ++ more, ⟨ps, more, writes, spells, rfl⟩, ?_⟩
      rw [List.flatMap_cons, List.flatMap_append, List.flatMap_map, rest, ← first tag]
      rfl
  obtain ⟨records, spells, whole⟩ := spells
  rw [whole]
  exact ⟨records, spells, strewn_flatMap _ records⟩

end Slots

/-- **A type of messages with the ways to write them**, and what is read back of a message. -/
class Spelled (filler : Filler) (σ : Type) [Message σ] where
  slots : Slots filler (Message.fields : List (Field σ))
  settled : σ → σ := id
  numbered : Numbered (Message.fields : List (Field σ)) := by exact ⟨by decide, by decide⟩
  builds (m : σ) : slots.Builds m Message.empty (settled m)

section Spelled

variable [Message σ] [Spelled filler σ]

variable (filler) in
/-- **An encoding of a message.** -/
def Encodes (m : σ) (s : Bytes) : Prop :=
  (Spelled.slots : Slots filler (Message.fields : List (Field σ))).Encodes m s

variable (filler σ) in
/-- How deep the messages of a type are nested, themselves included. -/
def nesting : Nat := (Spelled.slots : Slots filler (Message.fields : List (Field σ))).levels

theorem decodeAt?_encodes {m : σ} (encodes : Encodes filler m s) (short : s.length < 2 ^ 64)
    (deep : nesting filler σ ≤ depth) :
    decodeAt? depth s = some (Spelled.settled filler m) :=
  Spelled.slots.mergeAll?_encodes (Spelled.numbered filler) (Spelled.builds m) encodes short deep

variable (filler) in
theorem encodes_encode (m : σ) : Encodes filler m (encode m) :=
  Spelled.slots.encodes_flatMap_write m

end Spelled

end RemotePlayback.Wire
