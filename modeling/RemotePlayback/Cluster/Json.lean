import RemotePlayback.Cluster.Messages
import RemotePlayback.Json.Value

/-!
Messages as JSON, for people to look at and to write by hand.

Every field stands under its name. A message that is absent is null, a map is an object, and a
double is the sixteen hexadecimal digits of its bits. Reading is lenient: what is missing, or of
another type, has its default.
-/

namespace RemotePlayback.Cluster

/-- A value with a JSON form. -/
class Shown (α : Type) where
  toJson : α → Json
  ofJson : Json → α
  /-- Some map in it has several entries, which other writers may encode in another order. -/
  several : α → Bool

/-- The field of an object, with its default if it is not there. -/
def field {α : Type} [Shown α] [Inhabited α] (j : Json) (name : String) : α :=
  match j.member? name with
  | some v => Shown.ofJson v
  | none => default

/-- An integer, zero if it is none. -/
def integer (j : Json) : Int := (j.number?.bind Json.Number.integer?).getD 0

/-- The hexadecimal digits of a number, so many of them. -/
def hexDigits : (count : Nat) → Nat → List Char
  | 0, _ => []
  | count + 1, n => hexDigits count (n / 16) ++ [Nat.digitChar (n % 16)]

/-- The number that hexadecimal digits write. -/
def ofHexDigits (cs : List Char) : Nat :=
  cs.foldl (fun n c =>
    16 * n + if c.isDigit then c.toNat - '0'.toNat else c.toNat - 'a'.toNat + 10) 0

instance : Shown Bool where
  toJson := Json.bool
  ofJson j := j.bool?.getD false
  several _ := false

instance : Shown String where
  toJson := Json.string
  ofJson j := j.text?.getD ""
  several _ := false

instance : Shown Int32 where
  toJson n := Json.ofInt n.toInt
  ofJson j := Int32.ofInt (integer j)
  several _ := false

instance : Shown Int64 where
  toJson n := Json.ofInt n.toInt
  ofJson j := Int64.ofInt (integer j)
  several _ := false

instance : Shown UInt32 where
  toJson n := Json.ofNat n.toNat
  ofJson j := UInt32.ofNat (integer j).toNat
  several _ := false

instance : Shown UInt64 where
  toJson n := Json.ofNat n.toNat
  ofJson j := UInt64.ofNat (integer j).toNat
  several _ := false

instance : Shown Double where
  toJson d := .string (String.ofList (hexDigits 16 d.bits.toNat))
  ofJson j := ⟨UInt64.ofNat (ofHexDigits (j.text?.getD "").toList)⟩
  several _ := false

instance {α : Type} [Shown α] : Shown (Option α) where
  toJson
    | some x => Shown.toJson x
    | none => .null
  ofJson
    | .null => none
    | j => some (Shown.ofJson j)
  several x := x.any Shown.several

instance {α : Type} [Shown α] : Shown (List α) where
  toJson l := .array (l.map Shown.toJson)
  ofJson j := (j.items?.getD []).map Shown.ofJson
  several l := l.any Shown.several

instance {α : Type} [Shown α] : Shown (Table α) where
  toJson t := .object (t.map Shown.toJson).entries
  ofJson j := Table.ofList ((j.members?.getD []).map fun e => (e.1, Shown.ofJson e.2))
  several t := 2 ≤ t.size || t.entries.any fun e => Shown.several e.2

instance : Shown TrackIndex where
  toJson m := Json.ofMembers [
    ("page", Shown.toJson m.page),
    ("track", Shown.toJson m.track)]
  ofJson j := {
    page := field j "page"
    track := field j "track"}
  several m := [Shown.several m.page, Shown.several m.track].any id

instance : Shown ProvidedTrack where
  toJson m := Json.ofMembers [
    ("uri", Shown.toJson m.uri),
    ("uid", Shown.toJson m.uid),
    ("metadata", Shown.toJson m.metadata),
    ("provider", Shown.toJson m.provider)]
  ofJson j := {
    uri := field j "uri"
    uid := field j "uid"
    metadata := field j "metadata"
    provider := field j "provider"}
  several m := [Shown.several m.uri, Shown.several m.uid, Shown.several m.metadata,
    Shown.several m.provider].any id

instance : Shown PlayerOptions where
  toJson m := Json.ofMembers [
    ("shuffling_context", Shown.toJson m.shufflingContext),
    ("repeating_context", Shown.toJson m.repeatingContext),
    ("repeating_track", Shown.toJson m.repeatingTrack)]
  ofJson j := {
    shufflingContext := field j "shuffling_context"
    repeatingContext := field j "repeating_context"
    repeatingTrack := field j "repeating_track"}
  several m := [Shown.several m.shufflingContext, Shown.several m.repeatingContext,
    Shown.several m.repeatingTrack].any id

instance : Shown Capabilities where
  toJson m := Json.ofMembers [
    ("can_be_player", Shown.toJson m.canBePlayer),
    ("restrict_to_local", Shown.toJson m.restrictToLocal),
    ("gaia_eq_connect_id", Shown.toJson m.gaiaEqConnectId),
    ("supports_logout", Shown.toJson m.supportsLogout),
    ("is_observable", Shown.toJson m.isObservable),
    ("volume_steps", Shown.toJson m.volumeSteps),
    ("supported_types", Shown.toJson m.supportedTypes),
    ("command_acks", Shown.toJson m.commandAcks),
    ("supports_playlist_v2", Shown.toJson m.supportsPlaylistV2),
    ("is_controllable", Shown.toJson m.isControllable),
    ("supports_transfer_command", Shown.toJson m.supportsTransferCommand),
    ("supports_command_request", Shown.toJson m.supportsCommandRequest),
    ("supports_gzip_pushes", Shown.toJson m.supportsGzipPushes)]
  ofJson j := {
    canBePlayer := field j "can_be_player"
    restrictToLocal := field j "restrict_to_local"
    gaiaEqConnectId := field j "gaia_eq_connect_id"
    supportsLogout := field j "supports_logout"
    isObservable := field j "is_observable"
    volumeSteps := field j "volume_steps"
    supportedTypes := field j "supported_types"
    commandAcks := field j "command_acks"
    supportsPlaylistV2 := field j "supports_playlist_v2"
    isControllable := field j "is_controllable"
    supportsTransferCommand := field j "supports_transfer_command"
    supportsCommandRequest := field j "supports_command_request"
    supportsGzipPushes := field j "supports_gzip_pushes"}
  several m := [Shown.several m.canBePlayer, Shown.several m.restrictToLocal,
    Shown.several m.gaiaEqConnectId, Shown.several m.supportsLogout, Shown.several m.isObservable,
    Shown.several m.volumeSteps, Shown.several m.supportedTypes, Shown.several m.commandAcks,
    Shown.several m.supportsPlaylistV2, Shown.several m.isControllable,
    Shown.several m.supportsTransferCommand, Shown.several m.supportsCommandRequest,
    Shown.several m.supportsGzipPushes].any id

instance : Shown DeviceInfo where
  toJson m := Json.ofMembers [
    ("can_play", Shown.toJson m.canPlay),
    ("volume", Shown.toJson m.volume),
    ("name", Shown.toJson m.name),
    ("capabilities", Shown.toJson m.capabilities),
    ("device_software_version", Shown.toJson m.deviceSoftwareVersion),
    ("device_type", Shown.toJson m.deviceType),
    ("spirc_version", Shown.toJson m.spircVersion),
    ("device_id", Shown.toJson m.deviceId),
    ("is_private_session", Shown.toJson m.isPrivateSession),
    ("client_id", Shown.toJson m.clientId)]
  ofJson j := {
    canPlay := field j "can_play"
    volume := field j "volume"
    name := field j "name"
    capabilities := field j "capabilities"
    deviceSoftwareVersion := field j "device_software_version"
    deviceType := field j "device_type"
    spircVersion := field j "spirc_version"
    deviceId := field j "device_id"
    isPrivateSession := field j "is_private_session"
    clientId := field j "client_id"}
  several m := [Shown.several m.canPlay, Shown.several m.volume, Shown.several m.name,
    Shown.several m.capabilities, Shown.several m.deviceSoftwareVersion,
    Shown.several m.deviceType, Shown.several m.spircVersion, Shown.several m.deviceId,
    Shown.several m.isPrivateSession, Shown.several m.clientId].any id

instance : Shown PlayerState where
  toJson m := Json.ofMembers [
    ("timestamp", Shown.toJson m.timestamp),
    ("context_uri", Shown.toJson m.contextUri),
    ("context_url", Shown.toJson m.contextUrl),
    ("index", Shown.toJson m.index),
    ("track", Shown.toJson m.track),
    ("playback_id", Shown.toJson m.playbackId),
    ("playback_speed", Shown.toJson m.playbackSpeed),
    ("position_as_of_timestamp", Shown.toJson m.positionAsOfTimestamp),
    ("duration", Shown.toJson m.duration),
    ("is_playing", Shown.toJson m.isPlaying),
    ("is_paused", Shown.toJson m.isPaused),
    ("is_buffering", Shown.toJson m.isBuffering),
    ("is_system_initiated", Shown.toJson m.isSystemInitiated),
    ("options", Shown.toJson m.options),
    ("prev_tracks", Shown.toJson m.prevTracks),
    ("next_tracks", Shown.toJson m.nextTracks),
    ("context_metadata", Shown.toJson m.contextMetadata),
    ("session_id", Shown.toJson m.sessionId),
    ("queue_revision", Shown.toJson m.queueRevision),
    ("position", Shown.toJson m.position)]
  ofJson j := {
    timestamp := field j "timestamp"
    contextUri := field j "context_uri"
    contextUrl := field j "context_url"
    index := field j "index"
    track := field j "track"
    playbackId := field j "playback_id"
    playbackSpeed := field j "playback_speed"
    positionAsOfTimestamp := field j "position_as_of_timestamp"
    duration := field j "duration"
    isPlaying := field j "is_playing"
    isPaused := field j "is_paused"
    isBuffering := field j "is_buffering"
    isSystemInitiated := field j "is_system_initiated"
    options := field j "options"
    prevTracks := field j "prev_tracks"
    nextTracks := field j "next_tracks"
    contextMetadata := field j "context_metadata"
    sessionId := field j "session_id"
    queueRevision := field j "queue_revision"
    position := field j "position"}
  several m := [Shown.several m.timestamp, Shown.several m.contextUri, Shown.several m.contextUrl,
    Shown.several m.index, Shown.several m.track, Shown.several m.playbackId,
    Shown.several m.playbackSpeed, Shown.several m.positionAsOfTimestamp,
    Shown.several m.duration, Shown.several m.isPlaying, Shown.several m.isPaused,
    Shown.several m.isBuffering, Shown.several m.isSystemInitiated, Shown.several m.options,
    Shown.several m.prevTracks, Shown.several m.nextTracks, Shown.several m.contextMetadata,
    Shown.several m.sessionId, Shown.several m.queueRevision, Shown.several m.position].any id

instance : Shown Device where
  toJson m := Json.ofMembers [
    ("device_info", Shown.toJson m.deviceInfo),
    ("player_state", Shown.toJson m.playerState)]
  ofJson j := {
    deviceInfo := field j "device_info"
    playerState := field j "player_state"}
  several m := [Shown.several m.deviceInfo, Shown.several m.playerState].any id

instance : Shown StateReport where
  toJson m := Json.ofMembers [
    ("callback_url", Shown.toJson m.callbackUrl),
    ("device", Shown.toJson m.device),
    ("member_type", Shown.toJson m.memberType),
    ("is_active", Shown.toJson m.isActive),
    ("put_state_reason", Shown.toJson m.putStateReason),
    ("message_id", Shown.toJson m.messageId),
    ("last_command_sent_by_device_id", Shown.toJson m.lastCommandSentByDeviceId),
    ("last_command_message_id", Shown.toJson m.lastCommandMessageId),
    ("started_playing_at", Shown.toJson m.startedPlayingAt),
    ("has_been_playing_for_ms", Shown.toJson m.hasBeenPlayingForMs),
    ("client_side_timestamp", Shown.toJson m.clientSideTimestamp),
    ("only_write_player_state", Shown.toJson m.onlyWritePlayerState)]
  ofJson j := {
    callbackUrl := field j "callback_url"
    device := field j "device"
    memberType := field j "member_type"
    isActive := field j "is_active"
    putStateReason := field j "put_state_reason"
    messageId := field j "message_id"
    lastCommandSentByDeviceId := field j "last_command_sent_by_device_id"
    lastCommandMessageId := field j "last_command_message_id"
    startedPlayingAt := field j "started_playing_at"
    hasBeenPlayingForMs := field j "has_been_playing_for_ms"
    clientSideTimestamp := field j "client_side_timestamp"
    onlyWritePlayerState := field j "only_write_player_state"}
  several m := [Shown.several m.callbackUrl, Shown.several m.device, Shown.several m.memberType,
    Shown.several m.isActive, Shown.several m.putStateReason, Shown.several m.messageId,
    Shown.several m.lastCommandSentByDeviceId, Shown.several m.lastCommandMessageId,
    Shown.several m.startedPlayingAt, Shown.several m.hasBeenPlayingForMs,
    Shown.several m.clientSideTimestamp, Shown.several m.onlyWritePlayerState].any id

instance : Shown State where
  toJson m := Json.ofMembers [
    ("timestamp", Shown.toJson m.timestamp),
    ("active_device_id", Shown.toJson m.activeDeviceId),
    ("player_state", Shown.toJson m.playerState),
    ("device", Shown.toJson m.device),
    ("not_playing_since_timestamp", Shown.toJson m.notPlayingSinceTimestamp),
    ("need_full_player_state", Shown.toJson m.needFullPlayerState),
    ("server_timestamp_ms", Shown.toJson m.serverTimestampMs)]
  ofJson j := {
    timestamp := field j "timestamp"
    activeDeviceId := field j "active_device_id"
    playerState := field j "player_state"
    device := field j "device"
    notPlayingSinceTimestamp := field j "not_playing_since_timestamp"
    needFullPlayerState := field j "need_full_player_state"
    serverTimestampMs := field j "server_timestamp_ms"}
  several m := [Shown.several m.timestamp, Shown.several m.activeDeviceId,
    Shown.several m.playerState, Shown.several m.device, Shown.several m.notPlayingSinceTimestamp,
    Shown.several m.needFullPlayerState, Shown.several m.serverTimestampMs].any id

instance : Shown Update where
  toJson m := Json.ofMembers [
    ("cluster", Shown.toJson m.cluster),
    ("update_reason", Shown.toJson m.updateReason),
    ("ack_id", Shown.toJson m.ackId),
    ("devices_that_changed", Shown.toJson m.devicesThatChanged)]
  ofJson j := {
    cluster := field j "cluster"
    updateReason := field j "update_reason"
    ackId := field j "ack_id"
    devicesThatChanged := field j "devices_that_changed"}
  several m := [Shown.several m.cluster, Shown.several m.updateReason, Shown.several m.ackId,
    Shown.several m.devicesThatChanged].any id

end RemotePlayback.Cluster
