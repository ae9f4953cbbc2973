import RemotePlayback.Json.Shape
import RemotePlayback.Proofs.Json.RoundTrip
import RemotePlayback.Proofs.Table

/-! Records are read from the texts of values.

A reader that wants certain fields takes them from the document of a text, without giving a value to
what it skips. Where the text is that of an object, what it finds is what the members of the object
say: `record?_ofValue` reduces the fields of the record to lookups in the object, and one lemma for
each type of field says what is read of a value. -/

namespace RemotePlayback.Json

namespace Document

variable {names : List String} {depth : Nat} {ms : List (String × Json)} {α : Type}

/-! ## Fields -/

/-- Members with distinct keys are picked if their names are declared. -/
theorem ofMembers?_ofMembers (ms : List (String × Json)) (found : List (String × Document))
    (distinct : (found.map (·.1) ++ ms.map (·.1)).Nodup) :
    Record.ofMembers? names (ofMembers ms) found =
      some (found ++ (ms.filter (·.1 ∈ names)).map fun m => (m.1, ofValue m.2)) := by
  induction ms generalizing found with
  | nil => rw [ofMembers, Record.ofMembers?, List.filter_nil, List.map_nil, List.append_nil]
  | cons m ms ih =>
    obtain ⟨k, v⟩ := m
    rw [List.map_cons] at distinct
    rw [ofMembers, Record.ofMembers?, bodyText?_bodyOf]
    dsimp only
    by_cases known : k ∈ names
    · have new : Entries.find? k found = none := by
        refine Entries.find?_eq_none fun mem => ?_
        exact (List.nodup_append.mp distinct).2.2 k mem k List.mem_cons_self rfl
      have rest : ((found ++ [(k, ofValue v)]).map (·.1) ++ ms.map (·.1)).Nodup := by
        rwa [List.map_append, List.append_assoc]
      rw [if_pos known, new, if_neg (by decide), ih _ rest, List.append_assoc,
        List.filter_cons_of_pos (by simpa using known), List.map_cons]
      rfl
    · have rest : (found.map (·.1) ++ ms.map (·.1)).Nodup :=
        distinct.sublist ((List.sublist_cons_self k _).append_left _)
      rw [if_neg known, ih _ rest, List.filter_cons_of_neg (by simpa using known)]

/-- A field of a declared name is the member of that name. -/
theorem find?_declared {name : String} (known : name ∈ names) :
    Entries.find? name ((ms.filter (·.1 ∈ names)).map fun m => (m.1, ofValue m.2)) =
      (Entries.find? name ms).map ofValue := by
  induction ms with
  | nil => rfl
  | cons m ms ih =>
    by_cases same : name = m.1
    · rw [List.filter_cons_of_pos (by simpa [← same] using known), List.map_cons, Entries.find?,
        Entries.find?, if_pos same, if_pos same, Option.map_some]
    · rw [Entries.find?, if_neg same, ← ih]
      by_cases declared : m.1 ∈ names
      · rw [List.filter_cons_of_pos (by simpa using declared), List.map_cons, Entries.find?,
          if_neg same]
      · rw [List.filter_cons_of_neg (by simpa using declared)]

/-- **The fields of an object** are what its members say. -/
theorem record?_ofValue (names : List String) (depth : Nat) (sorted : Entries.Sorted ms) :
    ∃ r, record? names (depth + 1) (ofValue (.object ms)) = some r ∧
      ∀ {α : Type} {name : String} (_ : name ∈ names) (default : Option α)
        (read : Nat → Document → Option α),
        r.field name default read = field? ms name default fun v => read depth (ofValue v) := by
  have members : Record.ofMembers? names (ofMembers ms) [] = some _ :=
    ofMembers?_ofMembers ms [] sorted.nodup_keys
  refine ⟨_, by rw [ofValue, record?, members]; rfl, fun {α name} known default read => ?_⟩
  rw [Record.field, List.nil_append, find?_declared known, field?]
  cases Entries.find? name ms <;> rfl

/-! ## Types -/

@[simp] theorem text?_ofValue (depth : Nat) (v : Json) : text? depth (ofValue v) = v.text? := by
  cases v with
  | string s => exact bodyText?_bodyOf s
  | _ => rfl

/-- What is not null is read as what it is. -/
theorem optional?_of_ne_null {v : Json} (there : v ≠ .null) (read : Nat → Document → Option α) :
    optional? read depth (ofValue v) = (read depth (ofValue v)).map some := by
  cases v with
  | null => exact (there rfl).elim
  | _ => rfl

@[simp] theorem optional?_string (s : String) :
    optional? text? depth (ofValue (.string s)) = some (some s) := by
  rw [optional?_of_ne_null (by nofun), text?_ofValue]
  rfl

theorem readAll?_ofItems {xs : List Json} (readable : ItemsReadable depth xs) :
    readAll? (value? depth) (ofItems xs) = some xs := by
  induction xs with
  | nil => rfl
  | cons x xs ih =>
    obtain ⟨head, tail⟩ : Readable depth x ∧ ItemsReadable depth xs := readable
    rw [ofItems, readAll?, value?_ofValue x head]
    dsimp only
    rw [ih tail, Option.map_some]

/-- The elements of an array are read as a list of values. -/
theorem list?_array {xs : List Json} (readable : ItemsReadable depth xs) :
    list? value? (depth + 1) (ofValue (.array xs)) = some xs := readAll?_ofItems readable

theorem enterAll?_texts (l : List (String × String)) (t : Table String) :
    enterAll? (text? depth) (ofMembers (l.map fun e => (e.1, .string e.2))) t =
      some (l.foldl (fun t e => t.insert e.1 e.2) t) := by
  induction l generalizing t with
  | nil => rfl
  | cons e l ih =>
    rw [List.map_cons, ofMembers, enterAll?, bodyText?_bodyOf, text?_ofValue]
    exact ih _

/-- **A table of texts is read back.** -/
theorem table?_ofTexts (t : Table String) :
    table? text? (depth + 1) (ofValue (ofTexts t)) = some t := by
  have entered : enterAll? (text? depth) _ _ = some _ := enterAll?_texts t.entries Table.empty
  rw [Table.foldl_insert_perm (List.Perm.refl _)] at entered
  exact entered

end Document

theorem readable_ofTexts (depth : Nat) (t : Table String) : Readable (depth + 1) (ofTexts t) := by
  refine ⟨(t.map Json.string).sorted, membersReadable_iff.mpr fun m mem => ?_⟩
  obtain ⟨e, -, rfl⟩ := List.mem_map.mp mem
  trivial

end RemotePlayback.Json
