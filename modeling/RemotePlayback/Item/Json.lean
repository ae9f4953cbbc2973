import RemotePlayback.Item
import RemotePlayback.Json.Kept

/-!
Items as JSON.

An item is an object of its kind and its id. A known kind is its name; any other is an object with
the name under `other`, so that a kind which happens to be called like a known one stays apart.
Reading does not look at the form of the id.
-/

namespace RemotePlayback.Item

/-- The known kind of a name. -/
def Kind.ofKnownName? (name : String) : Option Kind :=
  let k := Kind.ofName name
  if k.isKnown then some k else none

/-- A kind as JSON. -/
def Kind.toJson : Kind → Json
  | .other name => .object [("other", .string name)]
  | k => .string k.name

/-- An item as JSON. -/
def toJson (i : Item) : Json := .object [("id", .string i.id), ("kind", i.kind.toJson)]

open Json.Document in
/-- The kind that a document stands for; a known kind may also be an object with a null. -/
def Kind.read? (depth : Nat) (d : Json.Document) : Option Kind := do
  let (name, content) ← choice? depth d
  match content with
  | none | some .null => Kind.ofKnownName? name
  | some d => if name = "other" then (text? depth d).map .other else none

open Json.Document in
/-- The item that a document stands for. -/
def read? (depth : Nat) (d : Json.Document) : Option Item := do
  let r ← record? ["kind", "id"] depth d
  let kind ← r.field "kind" none Kind.read?
  let id ← r.field "id" none text?
  return ⟨kind, id⟩

end RemotePlayback.Item
