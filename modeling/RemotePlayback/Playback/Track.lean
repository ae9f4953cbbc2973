import RemotePlayback.Cluster.Messages
import RemotePlayback.Failure
import RemotePlayback.Json.Kept
import RemotePlayback.Text.Blank

/-!
Tracks of a queue.

A queued track is named by a URI, which is not looked into, and says where it came from: the user
put it there, or it follows from what is playing. It arrives in three ways. The cluster lists the
next tracks; a command carries tracks as JSON that is read leniently, odd values of the metadata as
their JSON text; and a saved track is a JSON record of exactly the fields of a track, which is also
how tracks are written.
-/

namespace RemotePlayback.Playback

/-- A track of a queue. -/
structure QueuedTrack where
  uri : String
  uid : Option String := none
  provider : String := ""
  metadata : Table String := Table.empty
  deriving DecidableEq, Inhabited

namespace QueuedTrack

/-- The provider of the tracks that the user put into the queue. -/
def userProvider : String := "queue"

/-- Whether the user put the track into the queue. -/
def isUserQueued (t : QueuedTrack) : Bool := t.provider == userProvider

/-- A track that the cluster lists. -/
def ofProvided (t : Cluster.ProvidedTrack) : QueuedTrack :=
  ⟨t.uri, Text.nonEmpty? t.uid, t.provider, t.metadata⟩

/-- A track as JSON. -/
def toJson (t : QueuedTrack) : Json :=
  .object [("metadata", Json.ofTexts t.metadata), ("provider", .string t.provider),
    ("uid", Json.ofText? t.uid), ("uri", .string t.uri)]

/-- A value of the metadata: a text as it is, anything else as its JSON text. -/
def metadataText : Json → String
  | .string s => s
  | v => v.text

/-- The track that a command carries; all but the URI may be absent or of another type. -/
def ofJson (v : Json) : Except DecodeError QueuedTrack :=
  match (v.member? "uri").bind Json.text? with
  | none => .error (.missingField "track.uri")
  | some uri => .ok {
      uri
      uid := ((v.member? "uid").bind Json.text?).bind Text.nonEmpty?
      provider := ((v.member? "provider").bind Json.text?).getD ""
      metadata :=
        match (v.member? "metadata").bind Json.members? with
        | some ms => Table.ofList (ms.map fun e => (e.1, metadataText e.2))
        | none => Table.empty }

/-- The tracks that a command carries; one without a URI fails them all. -/
def ofItems : List Json → Except DecodeError (List QueuedTrack)
  | [] => .ok []
  | v :: vs => do
    let t ← ofJson v
    let ts ← ofItems vs
    return t :: ts

open Json.Document in
/-- The track that a record stands for. -/
def read? (depth : Nat) (d : Json.Document) : Option QueuedTrack := do
  let r ← record? ["uri", "uid", "provider", "metadata"] depth d
  let uri ← r.field "uri" none text?
  let uid ← r.field "uid" (some none) (optional? text?)
  let provider ← r.field "provider" (some "") text?
  let metadata ← r.field "metadata" (some Table.empty) (table? text?)
  return ⟨uri, uid, provider, metadata⟩

end QueuedTrack

end RemotePlayback.Playback
