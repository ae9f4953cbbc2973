import RemotePlayback.Double
import RemotePlayback.Playback.Event

/-!
Commands that other devices send to this one.

A command names an endpoint, and what else it holds depends on the endpoint. `Request.decode` reads
the command of a payload; `Request.event` gives the instruction for the local player. An endpoint
that is not known has no instruction, and one whose parameters are missing or of another type is
refused with the name of what is missing.
-/

namespace RemotePlayback.Playback

/-- What a command asks for. -/
inductive Endpoint where
  | play
  | pause
  | resume
  | seekTo
  | skipNext
  | setQueue
  | addToQueue
  | setRepeatingTrack
  | setRepeatingContext
  | setShufflingContext
  | transfer
  | unknown (name : String)
  deriving DecidableEq, Inhabited

/-- The endpoint of a name. -/
def Endpoint.ofName (name : String) : Endpoint :=
  if name = "play" then .play
  else if name = "pause" then .pause
  else if name = "resume" then .resume
  else if name = "seek_to" then .seekTo
  else if name = "skip_next" then .skipNext
  else if name = "set_queue" then .setQueue
  else if name = "add_to_queue" then .addToQueue
  else if name = "set_repeating_track" then .setRepeatingTrack
  else if name = "set_repeating_context" then .setRepeatingContext
  else if name = "set_shuffling_context" then .setShufflingContext
  else if name = "transfer" then .transfer
  else .unknown name

/-- A command from another device. -/
structure Request where
  messageId : UInt32
  sentBy : Option String
  endpoint : Endpoint
  /-- The whole command, its endpoint included. -/
  command : Json
  deriving Inhabited

namespace Request

/-- The parts of a payload before the command is looked into. -/
structure Parts where
  messageId : UInt32
  sentBy : Option String
  command : Json

open Json.Document in
/-- Reads the parts of a payload; only the command has to be there. -/
def Parts.read? (depth : Nat) (d : Json.Document) : Option Parts := do
  let r ← record? ["message_id", "sent_by_device_id", "command"] depth d
  let messageId ← r.field "message_id" (some 0) (integer? 0 (2 ^ 32 - 1))
  let sentBy ← r.field "sent_by_device_id" (some none) (optional? text?)
  let command ← r.field "command" none value?
  return ⟨UInt32.ofNat messageId.toNat, sentBy, command⟩

/-- The request of the parts; the command has to name an endpoint. -/
def ofParts (p : Parts) : Except DecodeError Request :=
  match (p.command.member? "endpoint").bind Json.text? with
  | some name => .ok ⟨p.messageId, p.sentBy.bind Text.nonEmpty?, Endpoint.ofName name, p.command⟩
  | none => .error (.missingField "command.endpoint")

/-- The request of a payload. -/
def decode (payload : Bytes) : Except DecodeError Request :=
  match Json.parseAs? Parts.read? payload with
  | some p => ofParts p
  | none => .error .json

/-! ## Instructions -/

/-- The position that a number stands for, in whole milliseconds; below zero it is zero. -/
def position (n : Json.Number) : Span :=
  let d := n.toDouble
  if d.isNegative then Span.zero
  else Span.ofMilliseconds (min d.floorMagnitude (2 ^ 64 - 1))

/-- A parameter that must be there and of the right type. -/
def required {α : Type} (command : Json) (name : String) (read : Json → Option α) :
    Except DecodeError α :=
  match (command.member? name).bind read with
  | some x => .ok x
  | none => .error (.missingField name)

/-- What a play command asks to play; all but the URI of the context may be absent. -/
def playRequest (command : Json) : Except DecodeError PlayRequest :=
  match ((command.member? "context").bind (Json.member? "uri")).bind Json.text? with
  | none => .error (.missingField "context.uri")
  | some contextUri =>
    let options := command.member? "options"
    let skipTo := options.bind (Json.member? "skip_to")
    let skipText (name : String) : Option String :=
      ((skipTo.bind (Json.member? name)).bind Json.text?).bind Text.nonEmpty?
    .ok {
      contextUri
      trackUri := Item.ofOptionalUri? (skipText "track_uri")
      trackUid := skipText "track_uid"
      trackIndex :=
        (((skipTo.bind (Json.member? "track_index")).bind Json.number?).bind
          Json.Number.natural?).bind fun n => if n < 2 ^ 32 then some (UInt32.ofNat n) else none
      position := ((options.bind (Json.member? "seek_to")).bind Json.number?).map position
      paused := ((options.bind (Json.member? "initially_paused")).bind Json.bool?).getD false }

/-- The instruction of a request, none for an unknown endpoint. -/
def event (r : Request) : Except DecodeError (Option Event) :=
  match r.endpoint with
  | .play => (playRequest r.command).map fun p => some (.play p)
  | .pause => .ok (some .pause)
  | .resume => .ok (some .resume)
  | .seekTo => (required r.command "value" Json.number?).map fun n => some (.seekTo (position n))
  | .skipNext => .ok (some .skipNext)
  | .setQueue => do
    let items ← required r.command "next_tracks" Json.items?
    let tracks ← QueuedTrack.ofItems items
    return some (.setQueue tracks)
  | .addToQueue => do
    let v ← required r.command "track" some
    let track ← QueuedTrack.ofJson v
    return some (.addToQueue track)
  | .setRepeatingTrack =>
    (required r.command "value" Json.bool?).map fun on =>
      some (.setRepeat (if on then .track else .none))
  | .setRepeatingContext =>
    (required r.command "value" Json.bool?).map fun on =>
      some (.setRepeat (if on then .context else .none))
  | .setShufflingContext =>
    (required r.command "value" Json.bool?).map fun on => some (.setShuffle on)
  | .transfer => .ok (some .transfer)
  | .unknown _ => .ok none

end Request

end RemotePlayback.Playback
