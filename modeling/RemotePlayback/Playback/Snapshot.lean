import RemotePlayback.Item.Json
import RemotePlayback.Playback.Event

/-!
What the devices of an account are doing, seen at one moment.

A snapshot is made from a cluster and never changed afterwards. It does not hold the position of the
player but what the position was at a time, and `positionAt` goes on from there. The arithmetic is
that of 64-bit numbers which stop at their bounds.
-/

namespace RemotePlayback.Playback

/-- What the active device is playing. -/
structure Snapshot where
  activeDeviceId : Option String := none
  /-- The active device is this one. -/
  isLocalActive : Bool := false
  trackUri : Option Item := none
  trackUid : Option String := none
  isPlaying : Bool := false
  isPaused : Bool := false
  isBuffering : Bool := false
  isShuffling : Bool := false
  repeatMode : Repeat := .none
  contextUri : Option Item := none
  trackIndex : Option UInt32 := none
  nextTracks : List QueuedTrack := []
  positionAsOf : Int64 := 0
  timestamp : Int64 := 0
  hasPlayerState : Bool := false
  /-- How many snapshots were published up to this one. -/
  rev : Nat := 0
  /-- The attempt to connect on which the snapshot was seen. -/
  epoch : Nat := 0
  deriving DecidableEq, Inhabited

namespace Snapshot

/-- The snapshot of a cluster, before it is published. -/
def ofCluster (c : Cluster.State) (localDeviceId : String) : Snapshot :=
  let activeDeviceId := Text.nonEmpty? c.activeDeviceId
  let isLocalActive := activeDeviceId == some localDeviceId
  match c.playerState with
  | none => { activeDeviceId, isLocalActive }
  | some p => {
      activeDeviceId
      isLocalActive
      trackUri := Item.ofOptionalUri? (p.track.map (·.uri))
      trackUid := p.track.bind fun t => Text.nonEmpty? t.uid
      isPlaying := p.isPlaying && !p.isPaused
      isPaused := p.isPaused
      isBuffering := p.isBuffering
      isShuffling := p.options.any (·.shufflingContext)
      repeatMode := Repeat.ofOptions p.options
      contextUri := Item.ofOptionalUri? (some p.contextUri)
      trackIndex := p.index.map (·.track)
      nextTracks := p.nextTracks.map QueuedTrack.ofProvided
      positionAsOf := p.positionAsOfTimestamp
      timestamp := if p.timestamp = 0 then c.timestamp else p.timestamp
      hasPlayerState := true }

/-! ## Position -/

/-- The nearest number of 64 bits. -/
def saturate (n : Int) : Int := max (-2 ^ 63) (min (2 ^ 63 - 1) n)

/-- The milliseconds into the track at a time, which may be below zero. -/
def rawPositionAt (s : Snapshot) (now : Int64) : Int :=
  if s.isPaused then s.positionAsOf.toInt
  else saturate (s.positionAsOf.toInt + saturate (now.toInt - s.timestamp.toInt))

/-- The position in the track at a time; without a player there is none to speak of. -/
def positionAt (s : Snapshot) (now : Int64) : Span :=
  if s.hasPlayerState then Span.ofMilliseconds (s.rawPositionAt now).toNat else Span.zero

/-! ## Taking over -/

/-- The next tracks that the user put into the queue. -/
def queuedTracks (s : Snapshot) : List QueuedTrack := s.nextTracks.filter QueuedTrack.isUserQueued

/-- What the local player has to be asked for to go on here; nothing without a track. -/
def takeover? (s : Snapshot) (now : Int64) : Option PlayRequest :=
  s.trackUri.map fun track => {
    contextUri := (s.contextUri.getD track).uri
    trackUri := some track
    trackUid := s.trackUid
    trackIndex := s.trackIndex
    position := some (s.positionAt now)
    paused := s.isPaused
    shuffling := some s.isShuffling
    «repeat» := some s.repeatMode
    queue := s.queuedTracks }

/-! ## As JSON -/

/-- An item or null. -/
def itemJson : Option Item → Json
  | some i => i.toJson
  | none => .null

/-- The members of a snapshot. -/
def toMembers (s : Snapshot) : List (String × Json) := [
  ("active_device_id", Json.ofText? s.activeDeviceId),
  ("is_local_active", .bool s.isLocalActive),
  ("track_uri", itemJson s.trackUri),
  ("track_uid", Json.ofText? s.trackUid),
  ("is_playing", .bool s.isPlaying),
  ("is_paused", .bool s.isPaused),
  ("is_buffering", .bool s.isBuffering),
  ("is_shuffling", .bool s.isShuffling),
  ("repeat_state", .string s.repeatMode.name),
  ("context_uri", itemJson s.contextUri),
  ("track_index", match s.trackIndex with
    | some i => Json.ofNat i.toNat
    | none => .null),
  ("next_tracks", .array (s.nextTracks.map QueuedTrack.toJson)),
  ("position_as_of_ms", Json.ofInt s.positionAsOf.toInt),
  ("timestamp_ms", Json.ofInt s.timestamp.toInt),
  ("has_player_state", .bool s.hasPlayerState),
  ("rev", Json.ofNat s.rev),
  ("epoch", Json.ofNat s.epoch)]

/-- A snapshot as JSON. -/
def toJson (s : Snapshot) : Json := Json.ofMembers s.toMembers

end Snapshot

end RemotePlayback.Playback
