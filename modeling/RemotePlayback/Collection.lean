import RemotePlayback.Calendar
import RemotePlayback.Failure
import RemotePlayback.Item
import RemotePlayback.Json.Kept
import RemotePlayback.Json.Shape

/-!
Changes of a user's collection, the items that the user saved.

A payload holds one update or a list of them, an update a list of entries. Every entry has to have
the right shape, or the whole payload is refused; of the well-shaped entries, those about other
kinds than tracks, artists and albums, and those without a proper id, are passed over.
-/

namespace RemotePlayback.Collection

/-- One item that was saved or removed. -/
structure Change where
  item : Item
  removed : Bool
  addedAt : Option Moment
  deriving DecidableEq, Inhabited

/-- An entry of an update, as it stands in the payload. -/
structure Entry where
  kind : String
  removed : Bool
  addedAt : Int
  identifier : String
  deriving DecidableEq, Inhabited

namespace Entry

open Json in
/-- The entry that a value stands for. -/
def ofJson? (v : Json) : Option Entry := do
  let fields ← fields? ["type", "removed", "addedAt", "identifier"] v
  let kind ← field? fields "type" none text?
  let removed ← field? fields "removed" (some false) bool?
  let addedAt ← field? fields "addedAt" (some 0) (integerWithin? (-2 ^ 63) (2 ^ 63 - 1))
  let identifier ← field? fields "identifier" none text?
  return ⟨kind, removed, addedAt, identifier⟩

/-- The kinds of items that a collection holds. -/
def kinds : List String := ["track", "artist", "album"]

/-- When the item was added; a removed one, or one without a time, was not. -/
def moment? (e : Entry) : Option Moment :=
  if e.removed ∨ e.addedAt ≤ 0 then none else Moment.ofSeconds? e.addedAt

/-- The change that an entry tells of, if it is about an item of the collection. -/
def change? (e : Entry) : Option Change :=
  if e.kind ∈ kinds then
    (Item.ofName? e.kind e.identifier).map fun item => ⟨item, e.removed, e.moment?⟩
  else none

end Entry

open Json in
/-- The entries of an update. -/
def entries? (update : Json) : Option (List Entry) := do
  let fields ← fields? ["items"] update
  field? fields "items" (some []) fun v => v.items?.bind (readEach? Entry.ofJson?)

/-- The changes of a list of updates, in their order. -/
def ofUpdates (updates : List Json) : Except DecodeError (List Change) :=
  match Json.readEach? entries? updates with
  | some entries => .ok (entries.flatten.filterMap Entry.change?)
  | none => .error .json

/-- The changes of a payload that was read as JSON. -/
def ofJson : Json → Except DecodeError (List Change)
  | .array updates => ofUpdates updates
  | .object members => ofUpdates [.object members]
  | v => .error (.unexpected ("collection payload is not an object: " ++ v.text))

/-- The changes of a payload. -/
def decode (payload : Bytes) : Except DecodeError (List Change) :=
  match Json.parse? payload with
  | some v => ofJson v
  | none => .error .json

end RemotePlayback.Collection
