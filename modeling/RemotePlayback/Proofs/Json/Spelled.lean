import RemotePlayback.Json.Shape
import RemotePlayback.Proofs.Json.Parsed
import RemotePlayback.Proofs.Json.RoundTrip
import RemotePlayback.Proofs.Json.Shape
import RemotePlayback.Proofs.Table

/-! Records are read from a text however it is spelled.

A reader that wants certain fields does not look at the value of a text but at its document, where
strings are still spelled and members stand in any order. If none of the names that it wants comes
twice, it finds for every field what the value has under its name: `Spells.record` reduces the
fields of a record to lookups in the value, and one lemma for each type of field says that it
depends on the value alone. -/

namespace RemotePlayback

namespace Entries

variable {α : Type} {k k' : String} {v : α}

theorem find?_concat (l : List (String × α)) :
    find? k (l ++ [(k', v)]) = (find? k l).or (if k = k' then some v else none) := by
  induction l with
  | nil => rfl
  | cons e l ih =>
    rw [List.cons_append, find?, find?, ih]
    split <;> rfl

end Entries

namespace Json

/-- **None of the names comes twice** among the keys of an object. -/
def Document.Once (names : List String) (members : List (Bytes × Document)) : Prop :=
  members.Pairwise fun m m' => ∀ name ∈ names,
    bodyText? m.1 = some name → bodyText? m'.1 ≠ some name

/-- **A text that spells a record out**: that of a value, where none of the names comes twice. -/
structure Spells (names : List String) (s : Bytes) (v : Json) : Prop where
  text : IsText Document.maxDepth s v
  once : ∀ members, Document.read? s = some (.object members) → Document.Once names members

namespace Document

variable {s : Bytes} {depth : Nat} {d : Document} {v : Json} {names : List String}
  {found : List (String × Document)}

/-- A document and a value of the same kind. -/
inductive Alike : Document → Json → Prop where
  | null : Alike .null .null
  | bool {b} : Alike (.bool b) (.bool b)
  | number {n x} (means : n.value? = some x) : Alike (.number n) (.number x)
  | string {body s} (means : bodyText? body = some s) : Alike (.string body) (.string s)
  | array {ds vs} : Alike (.array ds) (.array vs)
  | object {ds ms} : Alike (.object ds) (.object ms)

theorem alike_of_value? (h : value? depth d = some v) : Alike d v := by
  cases d with
  | null =>
    cases h
    exact .null
  | bool b =>
    cases h
    exact .bool
  | number n =>
    obtain ⟨x, means, rfl⟩ := Option.map_eq_some_iff.mp h
    exact .number means
  | string body =>
    obtain ⟨s, means, rfl⟩ := Option.map_eq_some_iff.mp h
    exact .string means
  | array ds =>
    cases depth with
    | zero => cases h
    | succ depth =>
      obtain ⟨vs, -, rfl⟩ := Option.map_eq_some_iff.mp h
      exact .array
  | object ds =>
    cases depth with
    | zero => cases h
    | succ depth =>
      obtain ⟨ms, -, rfl⟩ := Option.map_eq_some_iff.mp h
      exact .object

/-! ## Fields -/

/-- What is found in a document has the value that is found among the values. -/
def Reads (depth : Nat) : Option Document → Option Json → Prop :=
  Option.Rel fun d v => value? depth d = some v

/-- **Members are picked by their names** as their values are entered, if no name comes twice. -/
theorem ofMembers?_reads {ds : List (Bytes × Document)} {ms entered : List (String × Json)}
    (values : memberValues? depth ds entered = some ms) (once : Once names ds)
    (new : ∀ m ∈ ds, ∀ k ∈ names, bodyText? m.1 = some k → Entries.find? k found = none)
    (same : ∀ k ∈ names, Reads depth (Entries.find? k found) (Entries.find? k entered)) :
    ∃ found', Record.ofMembers? names ds found = some found' ∧
      ∀ k ∈ names, Reads depth (Entries.find? k found') (Entries.find? k ms) := by
  induction ds generalizing entered found with
  | nil =>
    cases values
    exact ⟨found, rfl, same⟩
  | cons m ds ih =>
    obtain ⟨body, d⟩ := m
    rw [memberValues?] at values
    obtain ⟨others, once⟩ := List.pairwise_cons.mp once
    obtain ⟨first, rest⟩ := List.forall_mem_cons.mp new
    split at values
    case h_2 => cases values
    case h_1 k v named value =>
      rw [Record.ofMembers?, named]
      dsimp only
      by_cases known : k ∈ names
      · have absent := first k known named
        rw [if_pos known, absent, if_neg (by decide)]
        refine ih values once (fun m mem k' name later => ?_) fun k' name => ?_
        · have ne : k' ≠ k := by
            rintro rfl
            exact others m mem k' name named later
          rw [Entries.find?_concat, if_neg ne, rest m mem k' name later]
          rfl
        · rw [Entries.find?_concat, Entries.find?_insert]
          by_cases own : k' = k
          · rw [if_pos own, if_pos own, own, absent]
            exact .some value
          · rw [if_neg own, if_neg own, Option.or_none]
            exact same k' name
      · rw [if_neg known]
        refine ih values once rest fun k' name => ?_
        have ne : k' ≠ k := by
          rintro rfl
          exact known name
        rw [Entries.find?_insert, if_neg ne]
        exact same k' name

/-- Elements are paired with the names as their values are. -/
theorem ofItems?_reads {ds : List Document} {vs : List Json} {fields : List (String × Json)}
    (values : itemValues? depth ds = some vs) (pairs : fieldsOfItems? names vs = some fields) :
    ∃ found, Record.ofItems? names ds = some found ∧
      ∀ k, Reads depth (Entries.find? k found) (Entries.find? k fields) := by
  induction ds generalizing names vs fields with
  | nil =>
    cases values
    cases names <;> cases pairs <;> exact ⟨[], rfl, fun _ => .none⟩
  | cons d ds ih =>
    rw [itemValues?] at values
    split at values
    case h_2 => cases values
    case h_1 v value =>
      obtain ⟨vs, rest, rfl⟩ := Option.map_eq_some_iff.mp values
      cases names with
      | nil => cases pairs
      | cons n names =>
        obtain ⟨fields, more, rfl⟩ := Option.map_eq_some_iff.mp pairs
        obtain ⟨found, paired, reads⟩ := ih rest more
        refine ⟨(n, d) :: found, by rw [Record.ofItems?, paired, Option.map_some], fun k => ?_⟩
        rw [Entries.find?, Entries.find?]
        split
        · exact .some value
        · exact reads k

/-- What is read of a field depends on the value alone. -/
theorem field_eq_field? {α : Type} {fields : List (String × Json)} {name : String}
    (reads : Reads depth (Entries.find? name found) (Entries.find? name fields))
    (default : Option α) {read : Nat → Document → Option α} {ofValue : Json → Option α}
    (same : ∀ d v, value? depth d = some v → read depth d = ofValue v) :
    Record.field ⟨depth, found⟩ name default read = field? fields name default ofValue := by
  rw [Record.field, field?]
  generalize Entries.find? name found = d at reads
  generalize Entries.find? name fields = v at reads
  cases reads with
  | some value => exact same _ _ value
  | none => rfl

/-! ## Types -/

/-- An integer is read where the value is one. -/
theorem integer?_of_value? (low high : Int) (h : value? depth d = some v) :
    integer? low high depth d = integerWithin? low high v := by
  cases alike_of_value? h with
  | @number _ x means =>
    rw [integer?, means]
    cases x <;> rfl
  | _ => rfl

/-- The text of a value that may be null. -/
def textOrNull? : Json → Option (Option String)
  | .null => some none
  | v => v.text?.map some

theorem textOrNull?_of_value? (h : value? depth d = some v) :
    optional? text? depth d = textOrNull? v := by
  cases alike_of_value? h with
  | string named => exact congrArg (Option.map some) named
  | _ => rfl

end Document

/-! ## Records -/

open Document in
/-- **The fields of a record** are those of the value that is spelled out. -/
theorem Spells.record {names : List String} {s : Bytes} {v : Json}
    {fields : List (String × Json)} (spells : Spells names s v)
    (there : fields? names v = some fields) :
    ∃ d r, read? s = some d ∧ record? names maxDepth d = some r ∧
      ∀ {α : Type} {name : String} (_ : name ∈ names) (default : Option α)
        {read : Nat → Document → Option α} {ofValue : Json → Option α},
        (∀ d v, value? 126 d = some v → read 126 d = ofValue v) →
        r.field name default read = field? fields name default ofValue := by
  obtain ⟨d, document, value⟩ := Option.bind_eq_some_iff.mp spells.text
  suffices ∃ found, record? names maxDepth d = some ⟨126, found⟩ ∧
      ∀ k ∈ names, Reads 126 (Entries.find? k found) (Entries.find? k fields) by
    obtain ⟨found, record, reads⟩ := this
    refine ⟨d, _, document, record, fun known default => ?_⟩
    exact field_eq_field? (reads _ known) default
  cases alike_of_value? value with
  | @object ds ms =>
    cases there
    obtain ⟨_, values, same⟩ := Option.map_eq_some_iff.mp value
    cases same
    have nothing (k : String) : Entries.find? k ([] : List (String × Document)) = none := rfl
    obtain ⟨found, picked, reads⟩ := ofMembers?_reads values (spells.once ds document)
      (fun _ _ k _ _ => nothing k) fun k (_ : k ∈ names) => .none
    exact ⟨found, by rw [maxDepth, record?, picked, Option.map_some], reads⟩
  | @array ds vs =>
    obtain ⟨_, values, same⟩ := Option.map_eq_some_iff.mp value
    cases same
    obtain ⟨found, paired, reads⟩ := ofItems?_reads values there
    exact ⟨found, by rw [maxDepth, record?, paired, Option.map_some], fun k _ => reads k⟩
  | _ => cases there

theorem Document.ofMembers_eq_map (ms : List (String × Json)) :
    ofMembers ms = ms.map fun m => (bodyOf m.1, ofValue m.2) := by
  induction ms with
  | nil => rfl
  | cons m ms ih => rw [ofMembers, ih, List.map_cons]

/-- **The compact text of a value spells it out.** -/
theorem spells_bytes {v : Json} (names : List String)
    (readable : Readable Document.maxDepth v) : Spells names v.bytes v := by
  have document := Document.read?_bytes readable
  refine ⟨Option.bind_eq_some_iff.mpr ⟨_, document, Document.value?_ofValue v readable⟩, ?_⟩
  intro members object
  rw [document, Option.some.injEq] at object
  cases v with
  | object ms =>
    cases object
    rw [Document.Once, Document.ofMembers_eq_map, List.pairwise_map]
    refine readable.1.imp fun below name _ first second => ?_
    rw [Document.bodyText?_bodyOf, Option.some.injEq] at first second
    exact String.lt_irrefl _ (first ▸ second ▸ below)
  | _ => cases object

end Json

end RemotePlayback
