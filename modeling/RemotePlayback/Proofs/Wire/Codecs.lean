import RemotePlayback.Proofs.Table
import RemotePlayback.Proofs.Wire.Encoding

/-! The spellings of the codecs.

Numbers and truth values are written in one way only, or not at all when they are zero. All other
values travel as counted runs of bytes, one for each item: for each text or message of a list, for
each entry of a map, and for a single text or message that is not left out. Only a map leaves open
how it is written: its entries may come in any order. -/

namespace RemotePlayback

namespace Double

variable {d : Double}

/-- A double as it is read back: there is only one zero. -/
def settled (d : Double) : Double := if d.bits = 0x8000000000000000 then ⟨0⟩ else d

/-- Whether a double is one of the two zeros. -/
def IsZero (d : Double) : Prop := d.bits = 0 ∨ d.bits = 0x8000000000000000

instance (d : Double) : Decidable d.IsZero := inferInstanceAs (Decidable (_ ∨ _))

theorem settled_of_isZero (zero : d.IsZero) : d.settled = ⟨0⟩ := by
  rw [settled]
  split
  · rfl
  · rename_i other
    exact congrArg Double.mk (zero.resolve_right other)

theorem settled_of_not_isZero (other : ¬d.IsZero) : d.settled = d := if_neg (not_or.mp other).2

end Double

namespace Wire

variable {filler : Filler} {σ τ α : Type} {a : α} {as : List α} {ps : List Payload}

/-- What is written of a value that may be left out. -/
theorem ite_flatMap (p : Prop) [Decidable p] (f : α → Bytes) (a : α) :
    (if p then [] else f a) = (if p then [] else [a]).flatMap f := by
  split
  · rfl
  · exact (List.append_nil _).symm

/-- Merging one payload. -/
theorem foldlM_singleton (f : τ → Payload → Option τ) (x : τ) (p : Payload) :
    [p].foldlM f x = f x p := by
  rw [List.foldlM_cons]
  exact Option.bind_fun_some _

/-! ## Numbers -/

/-- A codec of words loses nothing that is got back from its word. -/
@[reducible] def Spelling.ofWord [DecidableEq τ] {zero : τ} {word : τ → UInt64}
    {value : UInt64 → τ} (inverse : ∀ x, value (word x) = x) :
    Spelling filler (Codec.ofWord zero word value) where
  Writes x ps := ps = if x = zero then [] else [.varint (word x).toNat]
  settled := id
  levels := 0
  inRange := by
    rintro x ps rfl p mem
    split at mem
    · cases mem
    · rw [List.mem_singleton.mp mem]
      exact (word x).toNat_lt
  counted := nofun
  merges := by
    rintro x ps depth rfl - -
    by_cases same : x = zero
    · rw [if_pos same]
      exact congrArg some same.symm
    · have back : value (UInt64.ofNat (word x).toNat) = x := by rw [UInt64.ofNat_toNat, inverse]
      rw [if_neg same, foldlM_singleton]
      exact congrArg some back
  written x := ⟨_, rfl, fun tag => ite_flatMap (x = zero) (fun p => record (tag, p)) (.varint _)⟩

instance : Spelling filler Codec.int64 := .ofWord fun x => x.toInt64_toUInt64

instance : Spelling filler Codec.uint64 := .ofWord fun _ => rfl

instance : Spelling filler Codec.uint32 := .ofWord fun x => x.toUInt32_toUInt64

instance : Spelling filler Codec.bool := .ofWord fun b => by cases b <;> decide

/-- Extending a number and dropping the upper half gives it back. -/
theorem toInt32_extended (x : Int32) : x.toInt64.toUInt64.toUInt32.toInt32 = x := by
  rw [← Int32.toBitVec_inj]
  show BitVec.setWidth 32 (BitVec.signExtend 64 x.toBitVec) = x.toBitVec
  apply BitVec.eq_of_getLsbD_eq
  intro i low
  have low' : i < 64 := by omega
  rw [BitVec.getLsbD_setWidth, BitVec.getLsbD_signExtend, if_pos low]
  simp [low, low']

instance : Spelling filler Codec.int32 := .ofWord toInt32_extended

instance : Spelling filler Codec.double where
  Writes d ps := ps = if d.IsZero then [] else [.fixed64 d.bits.toNat]
  settled := Double.settled
  levels := 0
  inRange := by
    rintro d ps rfl p mem
    split at mem
    · cases mem
    · rw [List.mem_singleton.mp mem]
      exact d.bits.toNat_lt
  counted := nofun
  merges := by
    rintro d ps depth rfl - -
    by_cases zero : d.IsZero
    · rw [if_pos zero, Double.settled_of_isZero zero]
      rfl
    · have back : (⟨UInt64.ofNat d.bits.toNat⟩ : Double) = d := by rw [UInt64.ofNat_toNat]
      rw [if_neg zero, Double.settled_of_not_isZero zero, foldlM_singleton]
      exact congrArg some back
  written d := ⟨_, rfl, fun tag => ite_flatMap d.IsZero (fun p => record (tag, p)) (.fixed64 _)⟩

/-! ## Counted items -/

/-- **One counted payload for each item**, of the bytes that stand for it. -/
inductive Each (Stands : α → Bytes → Prop) : List α → List Payload → Prop where
  | nil : Each Stands [] []
  | cons {a b as ps} (stands : Stands a b) (others : Each Stands as ps) :
      Each Stands (a :: as) (.counted b :: ps)

namespace Each

variable {Stands : α → Bytes → Prop}

theorem kind (each : Each Stands as ps) : ∀ p ∈ ps, p.kind = .counted := by
  induction each with
  | nil => exact fun _ mem => nomatch mem
  | cons stands others ih => exact List.forall_mem_cons.mpr ⟨rfl, ih⟩

theorem inRange (each : Each Stands as ps) : ∀ p ∈ ps, p.InRange := by
  induction each with
  | nil => exact fun _ mem => nomatch mem
  | cons stands others ih => exact List.forall_mem_cons.mpr ⟨trivial, ih⟩

theorem of_singleton (each : Each Stands [a] ps) : ∃ b, Stands a b ∧ ps = [.counted b] := by
  cases each with
  | cons stands others =>
    cases others
    exact ⟨_, stands, rfl⟩

/-- The bytes of an item are shorter than what follows the key. -/
theorem short_of_singleton {b : Bytes} (short : ∀ p ∈ [Payload.counted b], p.body.length < 2 ^ 64) :
    b.length < 2 ^ 64 := by
  have whole := short _ (List.mem_singleton.mpr rfl)
  rw [Payload.body, List.length_append] at whole
  omega

/-- **Counted items are merged one after the other.** -/
theorem foldlM (each : Each Stands as ps) (short : ∀ p ∈ ps, p.body.length < 2 ^ 64)
    (merge : τ → Payload → Option τ) (step : τ → α → τ)
    (merges : ∀ {y a b}, Stands a b → b.length < 2 ^ 64 → merge y (.counted b) = some (step y a))
    (y : τ) : ps.foldlM merge y = some (as.foldl step y) := by
  induction each generalizing y with
  | nil => rfl
  | @cons a b as ps stands others ih =>
    obtain ⟨first, short⟩ := List.forall_mem_cons.mp short
    have bounded := short_of_singleton (List.forall_mem_singleton.mpr first)
    rw [List.foldlM_cons, merges stands bounded]
    exact ih short (step y a)

/-- What is written item by item. -/
theorem written {bytes : α → Bytes} (stands : ∀ a, Stands a (bytes a)) (as : List α) :
    ∃ ps, Each Stands as ps ∧ ∀ tag, as.flatMap (fun a => Codec.writeCounted tag (bytes a)) =
      ps.flatMap fun p => record (tag, p) := by
  induction as with
  | nil => exact ⟨[], .nil, fun _ => rfl⟩
  | cons a as ih =>
    obtain ⟨ps, each, rest⟩ := ih
    refine ⟨.counted (bytes a) :: ps, .cons (stands a) each, fun tag => ?_⟩
    rw [List.flatMap_cons, List.flatMap_cons, rest, record_counted]

end Each

/-- What comes of adding images to a list one after the other. -/
theorem foldl_concat (f : α → τ) (as : List α) (xs : List τ) :
    as.foldl (fun xs a => xs ++ [f a]) xs = xs ++ as.map f := by
  induction as generalizing xs with
  | nil => exact (List.append_nil xs).symm
  | cons a as ih =>
    rw [List.foldl_cons, ih, List.append_assoc, List.map_cons, List.singleton_append]

/-! ## Texts -/

/-- The bytes of a text. -/
def IsText (s : String) (b : Bytes) : Prop := b = Bytes.ofText s

theorem isText_ofText (s : String) : IsText s (Bytes.ofText s) := rfl

theorem toText?_of_isText {s : String} {b : Bytes} (text : IsText s b) :
    Bytes.toText? b = some s := by
  rw [show b = Bytes.ofText s from text, Bytes.toText?_ofText]

instance : Spelling filler Codec.text where
  Writes s := Each IsText (if s = "" then [] else [s])
  settled := id
  levels := 0
  inRange := Each.inRange
  counted writes _ := writes.kind
  merges := by
    intro s ps depth writes _ _
    by_cases blank : s = ""
    · rw [if_pos blank] at writes
      cases writes
      exact congrArg some blank.symm
    · rw [if_neg blank] at writes
      obtain ⟨b, text, rfl⟩ := writes.of_singleton
      rw [foldlM_singleton]
      exact toText?_of_isText text
  written s := by
    obtain ⟨ps, each, whole⟩ := Each.written isText_ofText (if s = "" then [] else [s])
    exact ⟨ps, each, fun tag => (ite_flatMap (s = "") _ s).trans (whole tag)⟩

instance : Spelling filler Codec.texts where
  Writes := Each IsText
  settled := id
  levels := 0
  inRange := Each.inRange
  counted writes _ := writes.kind
  merges := by
    intro l ps depth writes short _
    have read := writes.foldlM short (fun l p => Codec.texts.merge depth p l)
      (fun l s => l ++ [id s]) (fun text _ => congrArg (Option.map _) (toText?_of_isText text)) []
    rwa [foldl_concat, List.nil_append, List.map_id] at read
  written := Each.written isText_ofText

/-! ## Messages -/

/-- Where there is room for nested messages, there is one level less in them. -/
theorem exists_succ_of_succ_le {n depth : Nat} (deep : n + 1 ≤ depth) :
    ∃ inner, depth = inner + 1 ∧ n ≤ inner :=
  ⟨depth - 1, by omega, by omega⟩

section Message

variable [Message σ] [Spelled filler σ]

instance : Spelling filler (Codec.message (σ := σ)) where
  Writes m := Each (Encodes filler) m.toList
  settled := Option.map (Spelled.settled filler)
  levels := nesting filler σ + 1
  inRange := Each.inRange
  counted writes _ := writes.kind
  merges := by
    intro m ps depth writes short deep
    obtain ⟨inner, rfl, room⟩ := exists_succ_of_succ_le deep
    cases m with
    | none =>
      cases writes
      rfl
    | some m =>
      obtain ⟨b, encodes, rfl⟩ := writes.of_singleton
      have read := decodeAt?_encodes encodes (Each.short_of_singleton short) room
      rw [foldlM_singleton]
      exact congrArg (Option.map some) read
  written m := by
    obtain ⟨ps, each, whole⟩ := Each.written (encodes_encode (σ := σ) filler) m.toList
    refine ⟨ps, each, fun tag => (whole tag).symm ▸ ?_⟩
    cases m with
    | none => rfl
    | some m => exact (List.append_nil _).symm

instance : Spelling filler (Codec.messages (σ := σ)) where
  Writes := Each (Encodes filler)
  settled := List.map (Spelled.settled filler)
  levels := nesting filler σ + 1
  inRange := Each.inRange
  counted writes _ := writes.kind
  merges := by
    intro l ps depth writes short deep
    obtain ⟨inner, rfl, room⟩ := exists_succ_of_succ_le deep
    have read := writes.foldlM short (fun l p => Codec.messages.merge (inner + 1) p l)
      (fun l m => l ++ [Spelled.settled filler m])
      (fun encodes short => congrArg (Option.map _) (decodeAt?_encodes encodes short room)) []
    rwa [foldl_concat, List.nil_append] at read
  written := Each.written (encodes_encode filler)

instance [DecidableEq σ] : Spelling filler (Codec.entryMessage (σ := σ)) where
  Writes m := Each (Encodes filler) (if m = Message.empty then [] else [m])
  settled m := if m = Message.empty then m else Spelled.settled filler m
  levels := nesting filler σ + 1
  inRange := Each.inRange
  counted writes _ := writes.kind
  merges := by
    intro m ps depth writes short deep
    obtain ⟨inner, rfl, room⟩ := exists_succ_of_succ_le deep
    by_cases empty : m = Message.empty
    · rw [if_pos empty] at writes
      cases writes
      rw [if_pos empty]
      exact congrArg some empty.symm
    · rw [if_neg empty] at writes
      obtain ⟨b, encodes, rfl⟩ := writes.of_singleton
      rw [foldlM_singleton, if_neg empty]
      exact decodeAt?_encodes encodes (Each.short_of_singleton short) room
  written m := by
    obtain ⟨ps, each, whole⟩ := Each.written (encodes_encode (σ := σ) filler)
      (if m = Message.empty then [] else [m])
    exact ⟨ps, each, fun tag => (ite_flatMap (m = Message.empty) _ m).trans (whole tag)⟩

end Message

/-! ## Maps -/

section Table

variable (filler) (c : Codec τ) [spelling : Spelling filler c]

/-- The key and the value of an entry. -/
def entrySlots : Slots filler (Codec.entryFields c) :=
  .cons inferInstance ⟨fun _ _ => rfl, fun _ _ _ => rfl, fun _ => rfl⟩
    (.cons spelling ⟨fun _ _ => rfl, fun _ _ _ => rfl, fun _ => rfl⟩ .nil)

variable {filler c}

/-- An entry is read back, and entered. -/
theorem table_merge {e : String × τ} {b : Bytes} {depth : Nat}
    (encodes : (entrySlots filler c).Encodes e b) (short : b.length < 2 ^ 64)
    (deep : (entrySlots filler c).levels ≤ depth) (t : Table τ) :
    (Codec.table c).merge (depth + 1) (.counted b) t =
      some (t.insert e.1 (spelling.settled e.2)) := by
  have numbered : Numbered (Codec.entryFields c) := by
    constructor
    · simp [Codec.entryFields, Field.of]
    · simp [Codec.entryFields, Field.of]
  have builds : (entrySlots filler c).Builds e ("", c.initial)
      (e.1, spelling.settled e.2) := And.intro rfl (And.intro rfl rfl)
  have read := (entrySlots filler c).mergeAll?_encodes numbered builds encodes short deep
  exact congrArg (Option.map fun e => t.insert e.1 e.2) read

instance : Spelling filler (Codec.table c) where
  Writes t ps := ∃ entries, entries.Perm t.entries ∧
    Each (entrySlots filler c).Encodes entries ps
  settled := Table.map spelling.settled
  levels := (entrySlots filler c).levels + 1
  inRange writes := by
    obtain ⟨entries, perm, each⟩ := writes
    exact each.inRange
  counted writes _ := by
    obtain ⟨entries, perm, each⟩ := writes
    exact each.kind
  merges := by
    rintro t ps depth ⟨entries, perm, each⟩ short deep
    obtain ⟨inner, rfl, room⟩ := exists_succ_of_succ_le deep
    have read := each.foldlM short (fun t p => (Codec.table c).merge (inner + 1) p t)
      (fun t e => t.insert e.1 (spelling.settled e.2))
      (fun encodes short => table_merge encodes short room _) Table.empty
    rwa [Table.foldl_insert_map _ perm] at read
  written t := by
    obtain ⟨ps, each, whole⟩ := Each.written (entrySlots filler c).encodes_flatMap_write t.entries
    exact ⟨ps, ⟨t.entries, .refl _, each⟩, whole⟩

end Table

end Wire

end RemotePlayback
