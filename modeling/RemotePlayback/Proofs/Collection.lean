import RemotePlayback.Collection
import RemotePlayback.Proofs.Item
import RemotePlayback.Proofs.Json.Locality
import RemotePlayback.Proofs.Json.Shape

/-! What is read from the updates of a collection.

A payload is refused as a whole or read as a whole: every entry in it has to have its right shape.
Of those that have, some are about the collection, and each of these tells of one change. So `Hold`
says which entries there are in a list of updates, `Counts` which of them are about the collection
and `Tells` what they tell of it. As updates are read one by one, a list of updates is read like its
parts. -/

namespace RemotePlayback.Collection

open Json
open List (Forall₂)

variable {v update : Json} {updates : List Json} {e : Entry} {c : Change} {changes : List Change}

/-! ## Entries -/

namespace Entry

/-- The fields of an entry, in the order in which an array has them. -/
def names : List String := ["type", "removed", "addedAt", "identifier"]

/-- **The entry that an item is.** Its kind and its identifier have to be there, as texts. It is not
removed unless it says so, and the time may be missing, but not of another type. -/
structure Stands (v : Json) (e : Entry) : Prop where
  record : IsRecord names v
  kind : under? names "type" v = some (.string e.kind)
  removed : under? names "removed" v = some (.bool e.removed) ∨
    under? names "removed" v = none ∧ e.removed = false
  addedAt : (under? names "addedAt" v = some (ofInt e.addedAt) ∧
      -2 ^ 63 ≤ e.addedAt ∧ e.addedAt ≤ 2 ^ 63 - 1) ∨
    under? names "addedAt" v = none ∧ e.addedAt = 0
  identifier : under? names "identifier" v = some (.string e.identifier)

theorem ofJson?_fields :
    ofJson? v = some e ↔ ∃ fields, fields? names v = some fields ∧
      field? fields "type" none text? = some e.kind ∧
      field? fields "removed" (some false) bool? = some e.removed ∧
      field? fields "addedAt" (some 0) (integerWithin? (-2 ^ 63) (2 ^ 63 - 1)) = some e.addedAt ∧
      field? fields "identifier" none text? = some e.identifier := by
  unfold ofJson?
  simp only [Option.bind_eq_bind, Option.bind_eq_some_iff, Option.pure_def, Option.some.injEq]
  constructor
  · rintro ⟨fields, there, kind, isKind, removed, isRemoved, addedAt, isAddedAt, identifier,
      isIdentifier, rfl⟩
    exact ⟨fields, there, isKind, isRemoved, isAddedAt, isIdentifier⟩
  · rintro ⟨fields, there, isKind, isRemoved, isAddedAt, isIdentifier⟩
    exact ⟨fields, there, _, isKind, _, isRemoved, _, isAddedAt, _, isIdentifier, rfl⟩

theorem ofJson?_eq_some_iff : ofJson? v = some e ↔ Stands v e := by
  rw [ofJson?_fields]
  constructor
  · rintro ⟨fields, there, kind, removed, addedAt, identifier⟩
    rw [field?_eq_some_iff there (by simp [names])] at kind removed addedAt identifier
    simp only [text?_eq_some_iff, bool?_eq_some_iff, integerWithin?_eq_some_iff, reduceCtorEq,
      and_false, or_false, exists_eq_right, Option.some.injEq] at kind removed addedAt identifier
    refine ⟨isRecord_iff.mpr ⟨fields, there⟩, kind, ?_, ?_, identifier⟩
    · exact removed.imp_right fun missing => ⟨missing.1, missing.2.symm⟩
    · refine addedAt.imp ?_ fun missing => ⟨missing.1, missing.2.symm⟩
      rintro ⟨w, here, rfl, within⟩
      exact ⟨here, within⟩
  · rintro ⟨record, kind, removed, addedAt, identifier⟩
    obtain ⟨fields, there⟩ := isRecord_iff.mp record
    refine ⟨fields, there, ?_, ?_, ?_, ?_⟩
    all_goals rw [field?_eq_some_iff there (by simp [names])]
    · exact .inl ⟨_, kind, text?_eq_some_iff.mpr rfl⟩
    · refine removed.imp ?_ fun missing => ⟨missing.1, congrArg some missing.2.symm⟩
      exact fun here => ⟨_, here, bool?_eq_some_iff.mpr rfl⟩
    · refine addedAt.imp ?_ fun missing => ⟨missing.1, congrArg some missing.2.symm⟩
      exact fun here => ⟨_, here.1, integerWithin?_eq_some_iff.mpr ⟨rfl, here.2⟩⟩
    · exact .inl ⟨_, identifier, text?_eq_some_iff.mpr rfl⟩

/-- **An entry that counts**: it is about a track, an artist or an album, and the identifier has 22
ASCII letters and digits. -/
def Counts (e : Entry) : Prop :=
  (e.kind = "track" ∨ e.kind = "artist" ∨ e.kind = "album") ∧
    e.identifier.toList.length = 22 ∧ ∀ c ∈ e.identifier.toList, c.isAlphanum = true

instance (e : Entry) : Decidable (Counts e) := inferInstanceAs (Decidable (_ ∧ _))

/-- **The change that an entry tells of.** Only what was not removed was added at some time, and
only if there is such a time in the calendar. -/
structure Tells (e : Entry) (c : Change) : Prop where
  kind : (e.kind, c.item.kind) ∈
    [("track", Item.Kind.track), ("artist", .artist), ("album", .album)]
  id : c.item.id = e.identifier
  removed : c.removed = e.removed
  addedAt (m : Moment) : c.addedAt = some m ↔
    e.removed = false ∧ 0 < e.addedAt ∧ e.addedAt = m.seconds ∧ m.seconds ≤ Moment.last

theorem moment?_eq_some_iff {m : Moment} : e.moment? = some m ↔
    e.removed = false ∧ 0 < e.addedAt ∧ e.addedAt = m.seconds ∧ m.seconds ≤ Moment.last := by
  obtain ⟨seconds⟩ := m
  unfold moment? Moment.ofSeconds?
  cases e.removed <;> grind

theorem change?_of_counts (counts : Counts e) :
    e.change? = some ⟨⟨Item.Kind.ofName e.kind, e.identifier⟩, e.removed, e.moment?⟩ := by
  obtain ⟨kind, form⟩ := counts
  have listed : e.kind ∈ kinds := by simpa [kinds] using kind
  have base62 : Item.isBase62 e.identifier = true := Item.isBase62_iff.mpr form
  have nonempty : e.identifier ≠ "" := by
    intro empty
    simp [empty] at form
  rw [change?, if_pos listed, Item.ofName?, Item.of?, if_neg (by simp [nonempty, base62])]
  rfl

theorem change?_of_not_counts (passed : ¬Counts e) : e.change? = none := by
  rw [change?]
  split
  · rename_i listed
    have known : (Item.Kind.ofName e.kind).isKnown = true := by
      simp only [kinds, List.mem_cons, List.not_mem_nil, or_false] at listed
      rcases listed with kind | kind | kind <;> rw [kind] <;> rfl
    have other : ¬Item.isBase62 e.identifier = true := by
      intro base62
      exact passed ⟨by simpa [kinds] using listed, Item.isBase62_iff.mp base62⟩
    rw [Item.ofName?, Item.of?, if_pos (.inr ⟨known, other⟩), Option.map_none]
  · rfl

/-- An entry that counts tells of one change, and that is the change that is read from it. -/
theorem tells_iff (counts : Counts e) : Tells e c ↔ e.change? = some c := by
  obtain ⟨⟨kind, id⟩, removed, addedAt⟩ := c
  have sameKind : (e.kind, kind) ∈
      [("track", Item.Kind.track), ("artist", .artist), ("album", .album)] ↔
        Item.Kind.ofName e.kind = kind := by
    rcases counts.1 with name | name | name <;>
      simp [name, Item.Kind.ofName, eq_comm (a := kind)]
  have sameTime : (∀ m, addedAt = some m ↔
      e.removed = false ∧ 0 < e.addedAt ∧ e.addedAt = m.seconds ∧ m.seconds ≤ Moment.last) ↔
        e.moment? = addedAt := by
    simp only [← moment?_eq_some_iff]
    exact ⟨fun same => Option.ext fun m => (same m).symm, fun same m => by rw [same]⟩
  rw [change?_of_counts counts, Option.some.injEq, Change.mk.injEq, Item.mk.injEq]
  constructor
  · intro tells
    exact ⟨⟨sameKind.mp tells.kind, tells.id.symm⟩, tells.removed.symm, sameTime.mp tells.addedAt⟩
  · rintro ⟨⟨named, rfl⟩, rfl, time⟩
    exact ⟨sameKind.mpr named, rfl, rfl, sameTime.mpr time⟩

/-- Of a list of entries each one that counts tells of its change, in their order. -/
theorem filterMap_change?_eq_iff {entries : List Entry} :
    entries.filterMap change? = changes ↔ Forall₂ Tells (entries.filter Counts) changes := by
  induction entries generalizing changes with
  | nil => cases changes <;> simp
  | cons e entries ih =>
    by_cases counts : Counts e
    · have tells := change?_of_counts counts
      cases changes with
      | nil => simp [counts, tells]
      | cons c changes =>
        simp [counts, List.filterMap_cons_some tells, tells_iff counts, tells, ih]
    · rw [List.filterMap_cons_none (change?_of_not_counts counts), ih,
        List.filter_cons_of_neg (by simpa using counts)]

end Entry

/-! ## Updates -/

/-- **The items that an update lists**; one without a list has none. -/
structure Lists (update : Json) (items : List Json) : Prop where
  record : IsRecord ["items"] update
  items : under? ["items"] "items" update = some (.array items) ∨
    under? ["items"] "items" update = none ∧ items = []

/-- **The entries of updates**: those of each update, one update after the other. -/
inductive Hold : List Json → List Entry → Prop
  | nil : Hold [] []
  | cons {update : Json} {updates items : List Json} {entries more : List Entry}
      (lists : Lists update items) (stand : Forall₂ Entry.Stands items entries)
      (rest : Hold updates more) : Hold (update :: updates) (entries ++ more)

/-- **The updates of a payload**: the elements of an array, or an object by itself. -/
inductive IsPayload : Json → List Json → Prop
  | array (updates : List Json) : IsPayload (.array updates) updates
  | object (members : List (String × Json)) : IsPayload (.object members) [.object members]

theorem entries?_eq_some_iff {entries : List Entry} : entries? update = some entries ↔
    ∃ items, Lists update items ∧ Forall₂ Entry.Stands items entries := by
  have each {items : List Json} :
      readEach? Entry.ofJson? items = some entries ↔ Forall₂ Entry.Stands items entries := by
    simp only [readEach?_eq_some_iff, Entry.ofJson?_eq_some_iff]
  unfold entries?
  simp only [Option.bind_eq_bind, Option.bind_eq_some_iff]
  constructor
  · rintro ⟨fields, there, read⟩
    have record : IsRecord ["items"] update := isRecord_iff.mpr ⟨fields, there⟩
    rcases (field?_eq_some_iff there (by simp)).mp read with ⟨w, under, listed⟩ | ⟨missing, none⟩
    · obtain ⟨items, list, read⟩ := Option.bind_eq_some_iff.mp listed
      obtain rfl := items?_eq_some_iff.mp list
      exact ⟨items, ⟨record, .inl under⟩, each.mp read⟩
    · cases none
      exact ⟨[], ⟨record, .inr ⟨missing, rfl⟩⟩, .nil⟩
  · rintro ⟨items, ⟨record, under⟩, stand⟩
    obtain ⟨fields, there⟩ := isRecord_iff.mp record
    refine ⟨fields, there, (field?_eq_some_iff there (by simp)).mpr ?_⟩
    rcases under with list | ⟨missing, rfl⟩
    · have read := each.mpr stand
      exact .inl ⟨_, list, by simpa [items?] using read⟩
    · cases stand
      exact .inr ⟨missing, rfl⟩

theorem hold_iff {entries : List Entry} : Hold updates entries ↔
    ∃ read, readEach? entries? updates = some read ∧ read.flatten = entries := by
  simp only [readEach?_eq_some_iff]
  constructor
  · intro hold
    induction hold with
    | nil => exact ⟨[], .nil, rfl⟩
    | cons lists stand _ ih =>
      obtain ⟨read, each, rfl⟩ := ih
      exact ⟨_ :: read, .cons (entries?_eq_some_iff.mpr ⟨_, lists, stand⟩) each, rfl⟩
  · rintro ⟨read, each, rfl⟩
    induction each with
    | nil => exact .nil
    | cons first _ ih =>
      obtain ⟨items, lists, stand⟩ := entries?_eq_some_iff.mp first
      exact .cons lists stand ih

/-- What is read from updates are the changes of their entries. -/
theorem ofUpdates_eq_ok_iff : ofUpdates updates = .ok changes ↔ ∃ entries,
    Hold updates entries ∧ Forall₂ Entry.Tells (entries.filter Entry.Counts) changes := by
  simp only [hold_iff, ← Entry.filterMap_change?_eq_iff]
  rw [ofUpdates]
  cases readEach? entries? updates <;> simp

/-- **A list of updates is read like its parts**, or refused if one of the parts is. -/
theorem ofUpdates_append (xs ys : List Json) : ofUpdates (xs ++ ys) =
    (do let a ← ofUpdates xs; let b ← ofUpdates ys; pure (a ++ b)) := by
  simp only [ofUpdates, readEach?_append]
  cases readEach? entries? xs with
  | none => rfl
  | some a =>
    cases readEach? entries? ys with
    | none => rfl
    | some b => simp [List.filterMap_append, bind, Except.bind, pure, Except.pure]

/-! ## Payloads -/

theorem decode_of_isText {payload : Bytes} (text : IsText Document.maxDepth payload v) :
    decode payload = ofJson v := by
  have parsed : parse? payload = some v := text
  rw [decode, parsed]

theorem ofJson_eq_ok_iff : ofJson v = .ok changes ↔
    ∃ updates, IsPayload v updates ∧ ofUpdates updates = .ok changes := by
  constructor
  · intro read
    cases v with
    | array updates => exact ⟨updates, .array updates, read⟩
    | object members => exact ⟨_, .object members, read⟩
    | _ => cases read
  · rintro ⟨updates, ⟨⟩ | ⟨⟩, read⟩ <;> exact read

/-- A payload that is read is a text of a value, and its changes are those of the value. -/
theorem decode_eq_ok_iff {payload : Bytes} : decode payload = .ok changes ↔
    ∃ v, IsText Document.maxDepth payload v ∧ ofJson v = .ok changes := by
  constructor
  · intro read
    cases parsed : parse? payload with
    | none =>
      rw [decode, parsed] at read
      cases read
    | some v => exact ⟨v, parsed, decode_of_isText parsed ▸ read⟩
  · rintro ⟨v, text, read⟩
    rwa [decode_of_isText text]

/-- **Updates are read piece by piece.** A list of updates is refused exactly if one of its parts
is, and otherwise gives the changes of the parts in their order; an update by itself is read like
the list of it. A payload is read exactly if it is a text of updates whose every entry has its right
shape, and the result has one change for each entry that counts, in the order of the document. -/
theorem updates_are_read_piece_by_piece :
    (∀ {p q r : Bytes} {xs ys : List Json}, IsText Document.maxDepth p (.array xs) →
      IsText Document.maxDepth q (.array ys) → IsText Document.maxDepth r (.array (xs ++ ys)) →
      ((∃ e, decode r = .error e) ↔ (∃ e, decode p = .error e) ∨ ∃ e, decode q = .error e) ∧
      ∀ a b, decode p = .ok a → decode q = .ok b → decode r = .ok (a ++ b)) ∧
    (∀ {ts : List Bytes} {xs : List Json}, Forall₂ (IsText 100) ts xs →
      IsText Document.maxDepth (Document.arrayText ts) (.array xs)) ∧
    (∀ {s t : Bytes} {members : List (String × Json)},
      IsText Document.maxDepth s (.object members) →
      IsText Document.maxDepth t (.array [.object members]) → decode s = decode t) ∧
    ∀ {payload : Bytes} {changes : List Change}, decode payload = .ok changes ↔
      ∃ v updates entries, IsText Document.maxDepth payload v ∧ IsPayload v updates ∧
        Hold updates entries ∧ Forall₂ Entry.Tells (entries.filter Entry.Counts) changes := by
  refine ⟨?_, ?_, ?_, ?_⟩
  · intro p q r xs ys textP textQ textR
    rw [decode_of_isText textP, decode_of_isText textQ, decode_of_isText textR]
    simp only [ofJson, ofUpdates_append]
    cases ofUpdates xs <;> cases ofUpdates ys <;> simp [bind, Except.bind, pure, Except.pure]
  · intro ts xs texts
    exact (isText_arrayText texts).mono (by decide)
  · intro s t members textS textT
    rw [decode_of_isText textS, decode_of_isText textT]
    rfl
  · intro payload changes
    rw [decode_eq_ok_iff]
    constructor
    · rintro ⟨v, text, read⟩
      obtain ⟨updates, payload, read⟩ := ofJson_eq_ok_iff.mp read
      obtain ⟨entries, hold, tell⟩ := ofUpdates_eq_ok_iff.mp read
      exact ⟨v, updates, entries, text, payload, hold, tell⟩
    · rintro ⟨v, updates, entries, text, payload, hold, tell⟩
      have read := ofUpdates_eq_ok_iff.mpr ⟨entries, hold, tell⟩
      exact ⟨v, text, ofJson_eq_ok_iff.mpr ⟨updates, payload, read⟩⟩

/-- An update about a track that was saved. -/
def saving : Json :=
  Json.ofMembers [("items", .array [Json.ofMembers [("type", .string "track"),
    ("addedAt", ofInt 1700000000), ("identifier", .string "4uLU6hMCjMI75M1A2tKUQC")]])]

/-- An update about a show, which does not count, and an album that was removed. -/
def removing : Json :=
  Json.ofMembers [("items", .array [
    Json.ofMembers [("type", .string "show"), ("identifier", .string "4uLU6hMCjMI75M1A2tKUQC")],
    Json.ofMembers [("type", .string "album"), ("removed", .bool true),
      ("identifier", .string "4aawyAB9vmqN3uQ7FjRGTy")]])]

theorem readable_update {items : List Json} {depth : Nat} (readable : ItemsReadable depth items) :
    Readable (depth + 2) (Json.ofMembers [("items", .array items)]) := by
  refine readable_ofMembers ?_
  simpa [Readable] using readable

/-- The updates by themselves and one after the other. -/
theorem two_updates_tell_of_both :
    IsText Document.maxDepth (Document.arrayText [saving.bytes]) (.array [saving]) ∧
    IsText Document.maxDepth (Document.arrayText [removing.bytes]) (.array [removing]) ∧
    IsText Document.maxDepth (Document.arrayText [saving.bytes, removing.bytes])
      (.array ([saving] ++ [removing])) ∧
    IsText Document.maxDepth saving.bytes saving ∧
    decode saving.bytes = decode (Document.arrayText [saving.bytes]) ∧
    decode (Document.arrayText [saving.bytes, removing.bytes]) =
      .ok [⟨⟨.track, "4uLU6hMCjMI75M1A2tKUQC"⟩, false, some ⟨1700000000⟩⟩,
        ⟨⟨.album, "4aawyAB9vmqN3uQ7FjRGTy"⟩, true, none⟩] := by
  have saved : IsText 100 saving.bytes saving := by
    refine isText_bytes (readable_update ⟨?_, trivial⟩)
    exact readable_ofMembers (by simp [Readable, ofInt, Number.IsWord])
  have removed : IsText 100 removing.bytes removing := by
    refine isText_bytes (readable_update ⟨?_, ?_, trivial⟩)
    · exact readable_ofMembers (by simp [Readable])
    · exact readable_ofMembers (by simp [Readable])
  obtain ⟨append, list, single, -⟩ := updates_are_read_piece_by_piece
  have first := list (.cons saved .nil)
  have second := list (.cons removed .nil)
  have both := list (.cons saved (.cons removed .nil))
  have alone := saved.mono (show 100 ≤ Document.maxDepth by decide)
  have track : decode (Document.arrayText [saving.bytes]) =
      .ok [⟨⟨.track, "4uLU6hMCjMI75M1A2tKUQC"⟩, false, some ⟨1700000000⟩⟩] := by
    rw [decode_of_isText first]
    rfl
  have album : decode (Document.arrayText [removing.bytes]) =
      .ok [⟨⟨.album, "4aawyAB9vmqN3uQ7FjRGTy"⟩, true, none⟩] := by
    rw [decode_of_isText second]
    rfl
  refine ⟨first, second, both, alone, single alone first, ?_⟩
  exact (append first second both).2 _ _ track album

/-! ## Updates about tracks that were saved -/

/-- A track that was saved, as an item of an update. -/
def savedTrack (id : String) : Json :=
  Json.ofMembers [("type", .string "track"), ("identifier", .string id)]

/-- The items of an update that tells of saved tracks. -/
def savedItems (ids : List String) : Json := .array (ids.map savedTrack)

/-- The update that tells of saved tracks. -/
def savedTracks (ids : List String) : Json := Json.ofMembers [("items", savedItems ids)]

/-- The change that a saved track is. -/
def savedChange (id : String) : Change := ⟨⟨.track, id⟩, false, none⟩

theorem itemsReadable_savedTrack (ids : List String) (depth : Nat) :
    ItemsReadable (depth + 1) (ids.map savedTrack) := by
  have track (id : String) : Readable (depth + 1) (savedTrack id) :=
    readable_ofMembers (by simp [Readable])
  induction ids with
  | nil => trivial
  | cons id ids ih => exact ⟨track id, ih⟩

theorem readable_savedItems (ids : List String) (depth : Nat) :
    Readable (depth + 2) (savedItems ids) := itemsReadable_savedTrack ids depth

theorem readable_savedTracks (ids : List String) (depth : Nat) :
    Readable (depth + 3) (savedTracks ids) := readable_update (itemsReadable_savedTrack ids depth)

theorem ofJson?_savedTrack (id : String) :
    Entry.ofJson? (savedTrack id) = some ⟨"track", false, 0, id⟩ := by
  simp [Entry.ofJson?, savedTrack, Json.ofMembers, fields?, field?, Entries.ofList,
    Entries.find?_insert, Entries.find?, text?]

theorem entries?_savedTracks (ids : List String) :
    entries? (savedTracks ids) = some (ids.map fun id => ⟨"track", false, 0, id⟩) := by
  have each : readEach? Entry.ofJson? (ids.map savedTrack) =
      some (ids.map fun id => ⟨"track", false, 0, id⟩) := by
    induction ids with
    | nil => rfl
    | cons id ids ih =>
      rw [List.map_cons, readEach?, ofJson?_savedTrack]
      dsimp only
      rw [ih]
      rfl
  simp [entries?, savedTracks, savedItems, Json.ofMembers, fields?, field?, Entries.ofList,
    Entries.find?_insert, items?, each]

/-- Every saved track is a change. -/
theorem ofJson_savedTracks {ids : List String} (valid : ∀ id ∈ ids, Item.isBase62 id = true) :
    ofJson (savedTracks ids) = .ok (ids.map savedChange) := by
  have changes : (ids.map fun id => (⟨"track", false, 0, id⟩ : Entry)).filterMap Entry.change? =
      ids.map savedChange := by
    rw [List.filterMap_map, ← List.filterMap_eq_map]
    refine List.filterMap_congr fun id mem => ?_
    have named : id ≠ "" := by
      rintro rfl
      exact absurd (valid "" mem) (by decide)
    simp [Entry.change?, Entry.kinds, Entry.moment?, Item.ofName?, Item.Kind.ofName, Item.of?,
      Item.Kind.isKnown, named, valid id mem, savedChange]
  have whole : ofJson (savedTracks ids) = ofUpdates [savedTracks ids] := rfl
  simp only [whole, ofUpdates, readEach?, entries?_savedTracks, Option.map_some,
    List.flatten_cons, List.flatten_nil, List.append_nil, changes]

theorem decode_savedTracks {ids : List String} (valid : ∀ id ∈ ids, Item.isBase62 id = true) :
    decode (savedTracks ids).bytes = .ok (ids.map savedChange) := by
  rw [decode_of_isText (isText_bytes (readable_savedTracks ids _)), ofJson_savedTracks valid]

end RemotePlayback.Collection
