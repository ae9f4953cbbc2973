import RemotePlayback.Json.Value
import RemotePlayback.Playback.Repeat
import RemotePlayback.Playback.Span

/-!
Commands that this device sends to the active one.

A command is an object with the name of its endpoint among its parameters, in an envelope. The name
is the sender's: a parameter called `endpoint` never replaces it.
-/

namespace RemotePlayback.Playback

/-- A command to send. -/
structure Command where
  name : String
  parameters : List (String × Json) := []
  deriving Inhabited

namespace Command

/-- Pauses the active device. -/
def pause : Command := { name := "pause" }

/-- Lets the active device play on. -/
def resume : Command := { name := "resume" }

/-- Goes to the next track. -/
def skipNext : Command := { name := "skip_next" }

/-- Goes to the previous track. -/
def skipPrevious : Command := { name := "skip_prev" }

/-- Moves within the track, to a whole millisecond of 64 bits. -/
def seekTo (position : Span) : Command where
  name := "seek_to"
  parameters := [("value", Json.ofNat (position.milliseconds % 2 ^ 64))]

/-- Turns shuffling on or off. -/
def setShuffle (on : Bool) : Command where
  name := "set_shuffling_context"
  parameters := [("value", .bool on)]

/-- Sets what is repeated; who repeats the track also repeats the context. -/
def setRepeat (mode : Repeat) : Command where
  name := "set_options"
  parameters := [("repeating_context", .bool (mode != .none)),
    ("repeating_track", .bool (mode == .track))]

/-- The envelope that is sent. -/
def envelope (c : Command) : Json :=
  .object [("command",
    .object (Entries.insert "endpoint" (.string c.name) (Entries.ofList c.parameters)))]

end Command

end RemotePlayback.Playback
