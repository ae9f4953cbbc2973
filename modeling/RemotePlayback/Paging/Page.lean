import RemotePlayback.Json.Kept

/-!
Pages of the tracks of a context, such as an album or a playlist.

A page may carry a token, under which the page after it is to be asked for; a page without one is
the last.
-/

namespace RemotePlayback.Paging

/-- A track of a context. -/
structure Track where
  uid : String := ""
  uri : String
  metadata : Table String := Table.empty
  deriving DecidableEq, Inhabited

/-- A page of tracks. -/
structure Page where
  tracks : List Track
  nextToken : Option String := none
  deriving DecidableEq, Inhabited

open Json.Document in
/-- The track that a record stands for. -/
def Track.read? (depth : Nat) (d : Json.Document) : Option Track := do
  let r ← record? ["uid", "uri", "metadata"] depth d
  let uid ← r.field "uid" (some "") text?
  let uri ← r.field "uri" none text?
  let metadata ← r.field "metadata" (some Table.empty) (table? text?)
  return ⟨uid, uri, metadata⟩

open Json.Document in
/-- The page that a record stands for. -/
def Page.read? (depth : Nat) (d : Json.Document) : Option Page := do
  let r ← record? ["tracks", "next_page_token"] depth d
  let tracks ← r.field "tracks" none (list? Track.read?)
  let nextToken ← r.field "next_page_token" (some none) (optional? text?)
  return ⟨tracks, nextToken⟩

end RemotePlayback.Paging
