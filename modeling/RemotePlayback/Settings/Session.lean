import RemotePlayback.Session.Basic
import RemotePlayback.Settings.Basic

/-!
What a session is told, by the settings.
-/

namespace RemotePlayback.Settings

/-- The session that the settings ask for, on the device with an id. -/
def sessionConfig (s : Settings) (deviceId : String) : Session.Config where
  deviceId
  device := s.device
  dealerUrl := s.session.dealerUrl
  userId := s.session.userId
  reconnectDelay := 1000 * s.session.reconnectDelaySecs
  pingInterval := 1000 * s.pingInterval
  resolves := s.session.resolveEndpoints

end RemotePlayback.Settings
