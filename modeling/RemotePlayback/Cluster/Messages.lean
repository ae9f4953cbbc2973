import RemotePlayback.Wire.Message

/-!
The messages of the connect-state service.

Only the fields that this device reads or writes are declared; the service may send others, which
are skipped. The numbers are those of the service's own message definitions.
-/

namespace RemotePlayback.Cluster

open RemotePlayback.Wire

/-- Where in a context a track stands: its page and its place on the page. -/
structure TrackIndex where
  page : UInt32 := 0
  track : UInt32 := 0
  deriving DecidableEq

instance : Message TrackIndex where
  empty := {}
  fields := [
    Field.of 1 Codec.uint32 (·.page) (fun v m => { m with page := v }),
    Field.of 2 Codec.uint32 (·.track) (fun v m => { m with track := v })]

instance : Inhabited TrackIndex := ⟨{}⟩

/-- A track of a queue, with where it came from. -/
structure ProvidedTrack where
  uri : String := ""
  uid : String := ""
  metadata : Table String := Table.empty
  provider : String := ""
  deriving DecidableEq

instance : Message ProvidedTrack where
  empty := {}
  fields := [
    Field.of 1 Codec.text (·.uri) (fun v m => { m with uri := v }),
    Field.of 2 Codec.text (·.uid) (fun v m => { m with uid := v }),
    Field.of 3 (Codec.table Codec.text) (·.metadata) (fun v m => { m with metadata := v }),
    Field.of 6 Codec.text (·.provider) (fun v m => { m with provider := v })]

instance : Inhabited ProvidedTrack := ⟨{}⟩

/-- Shuffling and repeating. -/
structure PlayerOptions where
  shufflingContext : Bool := false
  repeatingContext : Bool := false
  repeatingTrack : Bool := false
  deriving DecidableEq

instance : Message PlayerOptions where
  empty := {}
  fields := [
    Field.of 1 Codec.bool (·.shufflingContext) (fun v m => { m with shufflingContext := v }),
    Field.of 2 Codec.bool (·.repeatingContext) (fun v m => { m with repeatingContext := v }),
    Field.of 3 Codec.bool (·.repeatingTrack) (fun v m => { m with repeatingTrack := v })]

instance : Inhabited PlayerOptions := ⟨{}⟩

/-- What a device can do and which requests it understands. -/
structure Capabilities where
  canBePlayer : Bool := false
  restrictToLocal : Bool := false
  gaiaEqConnectId : Bool := false
  supportsLogout : Bool := false
  isObservable : Bool := false
  volumeSteps : Int32 := 0
  supportedTypes : List String := []
  commandAcks : Bool := false
  supportsPlaylistV2 : Bool := false
  isControllable : Bool := false
  supportsTransferCommand : Bool := false
  supportsCommandRequest : Bool := false
  supportsGzipPushes : Bool := false
  deriving DecidableEq

instance : Message Capabilities where
  empty := {}
  fields := [
    Field.of 2 Codec.bool (·.canBePlayer) (fun v m => { m with canBePlayer := v }),
    Field.of 3 Codec.bool (·.restrictToLocal) (fun v m => { m with restrictToLocal := v }),
    Field.of 5 Codec.bool (·.gaiaEqConnectId) (fun v m => { m with gaiaEqConnectId := v }),
    Field.of 6 Codec.bool (·.supportsLogout) (fun v m => { m with supportsLogout := v }),
    Field.of 7 Codec.bool (·.isObservable) (fun v m => { m with isObservable := v }),
    Field.of 8 Codec.int32 (·.volumeSteps) (fun v m => { m with volumeSteps := v }),
    Field.of 9 Codec.texts (·.supportedTypes) (fun v m => { m with supportedTypes := v }),
    Field.of 10 Codec.bool (·.commandAcks) (fun v m => { m with commandAcks := v }),
    Field.of 15 Codec.bool (·.supportsPlaylistV2) (fun v m => { m with supportsPlaylistV2 := v }),
    Field.of 16 Codec.bool (·.isControllable) (fun v m => { m with isControllable := v }),
    Field.of 19 Codec.bool (·.supportsTransferCommand)
      (fun v m => { m with supportsTransferCommand := v }),
    Field.of 20 Codec.bool (·.supportsCommandRequest)
      (fun v m => { m with supportsCommandRequest := v }),
    Field.of 23 Codec.bool (·.supportsGzipPushes) (fun v m => { m with supportsGzipPushes := v })]

instance : Inhabited Capabilities := ⟨{}⟩

/-- How a device presents itself. -/
structure DeviceInfo where
  canPlay : Bool := false
  volume : UInt32 := 0
  name : String := ""
  capabilities : Option Capabilities := none
  deviceSoftwareVersion : String := ""
  deviceType : Int32 := 0
  spircVersion : String := ""
  deviceId : String := ""
  isPrivateSession : Bool := false
  clientId : String := ""
  deriving DecidableEq

instance : Message DeviceInfo where
  empty := {}
  fields := [
    Field.of 1 Codec.bool (·.canPlay) (fun v m => { m with canPlay := v }),
    Field.of 2 Codec.uint32 (·.volume) (fun v m => { m with volume := v }),
    Field.of 3 Codec.text (·.name) (fun v m => { m with name := v }),
    Field.of 4 Codec.message (·.capabilities) (fun v m => { m with capabilities := v }),
    Field.of 6 Codec.text (·.deviceSoftwareVersion)
      (fun v m => { m with deviceSoftwareVersion := v }),
    Field.of 7 Codec.int32 (·.deviceType) (fun v m => { m with deviceType := v }),
    Field.of 9 Codec.text (·.spircVersion) (fun v m => { m with spircVersion := v }),
    Field.of 10 Codec.text (·.deviceId) (fun v m => { m with deviceId := v }),
    Field.of 11 Codec.bool (·.isPrivateSession) (fun v m => { m with isPrivateSession := v }),
    Field.of 13 Codec.text (·.clientId) (fun v m => { m with clientId := v })]

instance : Inhabited DeviceInfo := ⟨{}⟩

/-- What a device plays, with the position at a point in time. -/
structure PlayerState where
  timestamp : Int64 := 0
  contextUri : String := ""
  contextUrl : String := ""
  index : Option TrackIndex := none
  track : Option ProvidedTrack := none
  playbackId : String := ""
  playbackSpeed : Double := ⟨0⟩
  positionAsOfTimestamp : Int64 := 0
  duration : Int64 := 0
  isPlaying : Bool := false
  isPaused : Bool := false
  isBuffering : Bool := false
  isSystemInitiated : Bool := false
  options : Option PlayerOptions := none
  prevTracks : List ProvidedTrack := []
  nextTracks : List ProvidedTrack := []
  contextMetadata : Table String := Table.empty
  sessionId : String := ""
  queueRevision : String := ""
  position : Int64 := 0
  deriving DecidableEq

instance : Message PlayerState where
  empty := {}
  fields := [
    Field.of 1 Codec.int64 (·.timestamp) (fun v m => { m with timestamp := v }),
    Field.of 2 Codec.text (·.contextUri) (fun v m => { m with contextUri := v }),
    Field.of 3 Codec.text (·.contextUrl) (fun v m => { m with contextUrl := v }),
    Field.of 6 Codec.message (·.index) (fun v m => { m with index := v }),
    Field.of 7 Codec.message (·.track) (fun v m => { m with track := v }),
    Field.of 8 Codec.text (·.playbackId) (fun v m => { m with playbackId := v }),
    Field.of 9 Codec.double (·.playbackSpeed) (fun v m => { m with playbackSpeed := v }),
    Field.of 10 Codec.int64 (·.positionAsOfTimestamp)
      (fun v m => { m with positionAsOfTimestamp := v }),
    Field.of 11 Codec.int64 (·.duration) (fun v m => { m with duration := v }),
    Field.of 12 Codec.bool (·.isPlaying) (fun v m => { m with isPlaying := v }),
    Field.of 13 Codec.bool (·.isPaused) (fun v m => { m with isPaused := v }),
    Field.of 14 Codec.bool (·.isBuffering) (fun v m => { m with isBuffering := v }),
    Field.of 15 Codec.bool (·.isSystemInitiated) (fun v m => { m with isSystemInitiated := v }),
    Field.of 16 Codec.message (·.options) (fun v m => { m with options := v }),
    Field.of 19 Codec.messages (·.prevTracks) (fun v m => { m with prevTracks := v }),
    Field.of 20 Codec.messages (·.nextTracks) (fun v m => { m with nextTracks := v }),
    Field.of 21 (Codec.table Codec.text) (·.contextMetadata)
      (fun v m => { m with contextMetadata := v }),
    Field.of 23 Codec.text (·.sessionId) (fun v m => { m with sessionId := v }),
    Field.of 24 Codec.text (·.queueRevision) (fun v m => { m with queueRevision := v }),
    Field.of 25 Codec.int64 (·.position) (fun v m => { m with position := v })]

instance : Inhabited PlayerState := ⟨{}⟩

/-- A device together with what it plays. -/
structure Device where
  deviceInfo : Option DeviceInfo := none
  playerState : Option PlayerState := none
  deriving DecidableEq

instance : Message Device where
  empty := {}
  fields := [
    Field.of 1 Codec.message (·.deviceInfo) (fun v m => { m with deviceInfo := v }),
    Field.of 2 Codec.message (·.playerState) (fun v m => { m with playerState := v })]

instance : Inhabited Device := ⟨{}⟩

/-- The announcement of a device, or of a change of its state. -/
structure StateReport where
  callbackUrl : String := ""
  device : Option Device := none
  memberType : Int32 := 0
  isActive : Bool := false
  putStateReason : Int32 := 0
  messageId : UInt32 := 0
  lastCommandSentByDeviceId : String := ""
  lastCommandMessageId : UInt32 := 0
  startedPlayingAt : UInt64 := 0
  hasBeenPlayingForMs : UInt64 := 0
  clientSideTimestamp : UInt64 := 0
  onlyWritePlayerState : Bool := false
  deriving DecidableEq

instance : Message StateReport where
  empty := {}
  fields := [
    Field.of 1 Codec.text (·.callbackUrl) (fun v m => { m with callbackUrl := v }),
    Field.of 2 Codec.message (·.device) (fun v m => { m with device := v }),
    Field.of 3 Codec.int32 (·.memberType) (fun v m => { m with memberType := v }),
    Field.of 4 Codec.bool (·.isActive) (fun v m => { m with isActive := v }),
    Field.of 5 Codec.int32 (·.putStateReason) (fun v m => { m with putStateReason := v }),
    Field.of 6 Codec.uint32 (·.messageId) (fun v m => { m with messageId := v }),
    Field.of 7 Codec.text (·.lastCommandSentByDeviceId)
      (fun v m => { m with lastCommandSentByDeviceId := v }),
    Field.of 8 Codec.uint32 (·.lastCommandMessageId)
      (fun v m => { m with lastCommandMessageId := v }),
    Field.of 9 Codec.uint64 (·.startedPlayingAt) (fun v m => { m with startedPlayingAt := v }),
    Field.of 11 Codec.uint64 (·.hasBeenPlayingForMs)
      (fun v m => { m with hasBeenPlayingForMs := v }),
    Field.of 12 Codec.uint64 (·.clientSideTimestamp)
      (fun v m => { m with clientSideTimestamp := v }),
    Field.of 13 Codec.bool (·.onlyWritePlayerState)
      (fun v m => { m with onlyWritePlayerState := v })]

instance : Inhabited StateReport := ⟨{}⟩

/-- The devices of an account and what the active one of them plays. -/
structure State where
  timestamp : Int64 := 0
  activeDeviceId : String := ""
  playerState : Option PlayerState := none
  device : Table DeviceInfo := Table.empty
  notPlayingSinceTimestamp : Int64 := 0
  needFullPlayerState : Bool := false
  serverTimestampMs : Int64 := 0
  deriving DecidableEq

instance : Message State where
  empty := {}
  fields := [
    Field.of 1 Codec.int64 (·.timestamp) (fun v m => { m with timestamp := v }),
    Field.of 2 Codec.text (·.activeDeviceId) (fun v m => { m with activeDeviceId := v }),
    Field.of 3 Codec.message (·.playerState) (fun v m => { m with playerState := v }),
    Field.of 4 (Codec.table Codec.entryMessage) (·.device) (fun v m => { m with device := v }),
    Field.of 7 Codec.int64 (·.notPlayingSinceTimestamp)
      (fun v m => { m with notPlayingSinceTimestamp := v }),
    Field.of 8 Codec.bool (·.needFullPlayerState) (fun v m => { m with needFullPlayerState := v }),
    Field.of 9 Codec.int64 (·.serverTimestampMs) (fun v m => { m with serverTimestampMs := v })]

instance : Inhabited State := ⟨{}⟩

/-- A cluster, pushed after a change. -/
structure Update where
  cluster : Option State := none
  updateReason : Int32 := 0
  ackId : String := ""
  devicesThatChanged : List String := []
  deriving DecidableEq

instance : Message Update where
  empty := {}
  fields := [
    Field.of 1 Codec.message (·.cluster) (fun v m => { m with cluster := v }),
    Field.of 2 Codec.int32 (·.updateReason) (fun v m => { m with updateReason := v }),
    Field.of 3 Codec.text (·.ackId) (fun v m => { m with ackId := v }),
    Field.of 4 Codec.texts (·.devicesThatChanged) (fun v m => { m with devicesThatChanged := v })]

instance : Inhabited Update := ⟨{}⟩

end RemotePlayback.Cluster
