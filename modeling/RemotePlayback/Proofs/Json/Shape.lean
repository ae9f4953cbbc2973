import Mathlib.Data.List.Forall2
import RemotePlayback.Json.Shape

/-! What is taken from a value of a known shape.

A record is an object or an array, and `under?` says for either of them what stands under a name;
`field?_eq_some_iff` reads the fields of a record by it, so that nobody has to ask again which of
the two it was. A list is read element by element. -/

namespace RemotePlayback.Json

variable {v : Json} {names : List String} {name : String} {fields : List (String × Json)}

/-! ## Types -/

theorem text?_eq_some_iff {s : String} : v.text? = some s ↔ v = .string s := by
  cases v <;> simp [text?]

theorem bool?_eq_some_iff {b : Bool} : v.bool? = some b ↔ v = .bool b := by
  cases v <;> simp [bool?]

theorem items?_eq_some_iff {xs : List Json} : v.items? = some xs ↔ v = .array xs := by
  cases v <;> simp [items?]

theorem members?_eq_some_iff {ms : List (String × Json)} :
    v.members? = some ms ↔ v = .object ms := by
  cases v <;> simp [members?]

theorem integerWithin?_eq_some_iff {low high i : Int} :
    integerWithin? low high v = some i ↔ v = ofInt i ∧ low ≤ i ∧ i ≤ high := by
  constructor
  · intro h
    unfold integerWithin? at h
    split at h
    · split at h
      · rename_i within
        cases h
        exact ⟨rfl, within⟩
      · cases h
    · cases h
  · rintro ⟨rfl, within⟩
    simp [integerWithin?, ofInt, within]

/-! ## Records -/

/-- **A value that can be a record**: an object, or an array with no element to spare. -/
def IsRecord (names : List String) : Json → Prop
  | .object _ => True
  | .array vs => vs.length ≤ names.length
  | _ => False

/-- **What a record has under a name**: a member of an object, or the element of an array that is in
the place of the name. -/
def under? (names : List String) (name : String) : Json → Option Json
  | .object ms => Entries.find? name ms
  | .array vs => vs[names.idxOf name]?
  | _ => none

theorem fieldsOfItems?_eq_some {vs : List Json} (few : vs.length ≤ names.length) :
    ∃ fields, fieldsOfItems? names vs = some fields ∧
      ∀ name ∈ names, Entries.find? name fields = vs[names.idxOf name]? := by
  induction names generalizing vs with
  | nil =>
    obtain rfl := List.length_eq_zero_iff.mp (Nat.le_zero.mp few)
    exact ⟨[], rfl, fun _ mem => nomatch mem⟩
  | cons n names ih =>
    cases vs with
    | nil => exact ⟨[], rfl, fun _ _ => rfl⟩
    | cons v vs =>
      obtain ⟨fields, paired, found⟩ := ih (Nat.le_of_succ_le_succ few)
      refine ⟨(n, v) :: fields, by rw [fieldsOfItems?, paired, Option.map_some], ?_⟩
      intro name mem
      by_cases here : name = n
      · simp [Entries.find?, here]
      · have later : name ∈ names := (List.mem_cons.mp mem).resolve_left here
        have other : (n == name) = false := by simpa using fun eq => here eq.symm
        simp [Entries.find?, here, found name later, List.idxOf_cons, other]

theorem fieldsOfItems?_eq_none {vs : List Json} (many : names.length < vs.length) :
    fieldsOfItems? names vs = none := by
  induction names generalizing vs with
  | nil =>
    cases vs with
    | nil => cases many
    | cons v vs => rfl
  | cons n names ih =>
    cases vs with
    | nil => cases many
    | cons v vs => rw [fieldsOfItems?, ih (Nat.lt_of_succ_lt_succ many), Option.map_none]

theorem isRecord_iff : IsRecord names v ↔ ∃ fields, fields? names v = some fields := by
  cases v with
  | object ms => simp [IsRecord, fields?]
  | array vs =>
    constructor
    · intro few
      obtain ⟨fields, paired, -⟩ := fieldsOfItems?_eq_some few
      exact ⟨fields, paired⟩
    · rintro ⟨fields, paired⟩
      by_contra many
      have surplus : fieldsOfItems? names vs = none := fieldsOfItems?_eq_none (Nat.not_le.mp many)
      cases surplus.symm.trans paired
  | _ => simp [IsRecord, fields?]

/-- The fields of a record are what is under their names. -/
theorem find?_of_fields? (there : fields? names v = some fields) (mem : name ∈ names) :
    Entries.find? name fields = under? names name v := by
  cases v with
  | object ms =>
    cases there
    rfl
  | array vs =>
    have few : IsRecord names (.array vs) := isRecord_iff.mpr ⟨fields, there⟩
    obtain ⟨_, paired, found⟩ := fieldsOfItems?_eq_some few
    cases there.symm.trans paired
    exact found name mem
  | _ => cases there

/-- **What is read of a field**: of what is under its name, or else the default. -/
theorem field?_eq_some_iff {α : Type} {default : Option α} {read : Json → Option α} {x : α}
    (there : fields? names v = some fields) (mem : name ∈ names) :
    field? fields name default read = some x ↔
      (∃ w, under? names name v = some w ∧ read w = some x) ∨
        under? names name v = none ∧ default = some x := by
  rw [field?, find?_of_fields? there mem]
  cases under? names name v <;> simp

/-! ## Lists -/

/-- **A list is read element by element.** -/
theorem readEach?_eq_some_iff {α : Type} {read : Json → Option α} {vs : List Json} {xs : List α} :
    readEach? read vs = some xs ↔ List.Forall₂ (fun v x => read v = some x) vs xs := by
  induction vs generalizing xs with
  | nil => cases xs <;> simp [readEach?]
  | cons v vs ih =>
    rw [readEach?]
    cases head : read v with
    | none => cases xs <;> simp [head]
    | some x => cases xs <;> simp [head, ← ih, and_comm]

/-- The texts of an array of texts. -/
theorem texts_eq_some_iff {xs : List String} :
    v.items?.bind (readEach? text?) = some xs ↔ v = .array (xs.map .string) := by
  have each (vs : List Json) : readEach? text? vs = some xs ↔ vs = xs.map .string := by
    simp only [readEach?_eq_some_iff, text?_eq_some_iff]
    rw [← List.forall₂_eq_eq_eq, List.forall₂_map_right_iff]
  simp only [Option.bind_eq_some_iff, items?_eq_some_iff, each]
  constructor
  · rintro ⟨vs, array, rfl⟩
    exact array
  · rintro rfl
    exact ⟨_, rfl, rfl⟩

end RemotePlayback.Json
