import RemotePlayback.Cluster.Messages
import RemotePlayback.Cluster.Vocabulary
import RemotePlayback.Device.Settings

/-!
What this device reports of itself: that it is there, and what it is playing.
-/

namespace RemotePlayback.Device

open Cluster (ReportReason Membership)

/-- The name and version that the device gives as its software. -/
def softwareVersion : String := "connectd/0.1.0"

/-- What the device can do. -/
def capabilities (s : Settings) : Cluster.Capabilities where
  canBePlayer := true
  isControllable := true
  volumeSteps := s.volumeSteps
  commandAcks := true
  supportsTransferCommand := true
  supportsCommandRequest := true
  supportsGzipPushes := true
  isObservable := true
  supportedTypes := ["audio/track", "audio/episode"]

/-- The device as it is announced, at full volume. -/
def info (s : Settings) (deviceId : String) : Cluster.DeviceInfo where
  canPlay := true
  volume := 65535
  name := s.name
  capabilities := some (capabilities s)
  deviceSoftwareVersion := softwareVersion
  deviceType := s.kind.number
  deviceId := deviceId

/-- A report at a time, which is zero for times before 1970. -/
def report (s : Settings) (deviceId : String) (player : Cluster.PlayerState)
    (reason : ReportReason) (now : Int64) : Cluster.StateReport where
  device := some { deviceInfo := some (info s deviceId), playerState := some player }
  memberType := Membership.connectState.number
  putStateReason := reason.number
  clientSideTimestamp := UInt64.ofNat now.toInt.toNat

/-- The announcement of the device, with a player that plays nothing. -/
def announcement (s : Settings) (deviceId : String) (now : Int64) : Cluster.StateReport :=
  report s deviceId
    { timestamp := now, playbackSpeed := Double.ofNat 1, options := some {} } .newDevice now

/-- The report of what the local player is doing. -/
def playerReport (s : Settings) (deviceId : String) (player : Cluster.PlayerState)
    (now : Int64) : Cluster.StateReport :=
  { report s deviceId player .playerStateChanged now with isActive := true }

end RemotePlayback.Device
