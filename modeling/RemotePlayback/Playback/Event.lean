import RemotePlayback.Item
import RemotePlayback.Playback.Repeat
import RemotePlayback.Playback.Span
import RemotePlayback.Playback.Track

/-!
What the local player is told to do.
-/

namespace RemotePlayback.Playback

/-- Everything that is needed to start playing a context. -/
structure PlayRequest where
  contextUri : String
  trackUri : Option Item := none
  trackUid : Option String := none
  trackIndex : Option UInt32 := none
  position : Option Span := none
  paused : Bool := false
  shuffling : Option Bool := none
  «repeat» : Option Repeat := none
  queue : List QueuedTrack := []
  deriving DecidableEq, Inhabited

/-- An instruction for the local player. -/
inductive Event where
  | play (request : PlayRequest)
  | pause
  | resume
  | seekTo (position : Span)
  | skipNext
  | setQueue (tracks : List QueuedTrack)
  | addToQueue (track : QueuedTrack)
  | setShuffle (on : Bool)
  | setRepeat (mode : Repeat)
  | transfer
  deriving DecidableEq, Inhabited

namespace Event

/-- The name of an instruction. -/
def name : Event → String
  | play _ => "play"
  | pause => "pause"
  | resume => "resume"
  | seekTo _ => "seek_to"
  | skipNext => "skip_next"
  | setQueue _ => "set_queue"
  | addToQueue _ => "add_to_queue"
  | setShuffle _ => "set_shuffle"
  | setRepeat _ => "set_repeat"
  | transfer => "transfer"

end Event

end RemotePlayback.Playback
