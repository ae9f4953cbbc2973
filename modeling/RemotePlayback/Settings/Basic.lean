import RemotePlayback.Device.Settings
import RemotePlayback.Text.Blank
import RemotePlayback.Toml.Reader
import RemotePlayback.Toml.Writer

/-!
The settings of the program, and their TOML text.

Every setting has a default. A text may leave out what it likes, sections included, and may hold
what is not known here, but what it sets must be of the right type.
-/

namespace RemotePlayback

/-- How the device connects. -/
structure SessionSettings where
  dealerUrl : String := "wss://dealer.spotify.com:443"
  backendUrl : String := "https://spclient.wg.spotify.com:443"
  directoryUrl : String := "https://apresolve.spotify.com"
  /-- The directory is asked for hosts before every attempt to connect. -/
  resolveEndpoints : Bool := true
  reconnectDelaySecs : Nat := 3
  pingIntervalSecs : Nat := 25
  userId : Option String := none
  deriving DecidableEq, Inhabited

/-- How the device proves whose it is. -/
structure AuthSettings where
  accessToken : Option String := none
  deriving DecidableEq, Inhabited

/-- Where the control API listens. -/
structure HttpSettings where
  enabled : Bool := true
  bindAddress : String := "127.0.0.1"
  port : UInt16 := 8998
  deriving DecidableEq, Inhabited

/-- All settings. -/
structure Settings where
  device : Device.Settings := {}
  session : SessionSettings := {}
  auth : AuthSettings := {}
  http : HttpSettings := {}
  deriving DecidableEq, Inhabited

/-! ## Reading -/

open Toml Toml.Value

/-- A text that is there. -/
def presentText? (v : Value) : Option (Option String) := v.text?.map some

/-- A number of seconds. -/
def seconds? (v : Value) : Option Nat := (v.integerWithin? 0 (2 ^ 64 - 1)).map Int.toNat

/-- The kind that a value stands for: its name, or a table with nothing under the name. -/
def Device.Kind.ofToml? : Value → Option Device.Kind
  | .string name => ofName? name
  | .table [(name, .table [])] => ofName? name
  | .table [(name, .array [])] => ofName? name
  | _ => none

/-- The section on the device. -/
def Device.Settings.ofToml? (v : Value) : Option Device.Settings := do
  let base : Device.Settings := {}
  let fields ← fields? ["name", "device_type", "device_id", "volume_steps"] v
  let name ← field? fields "name" base.name text?
  let kind ← field? fields "device_type" base.kind Device.Kind.ofToml?
  let id ← field? fields "device_id" base.id presentText?
  let volumeSteps ← field? fields "volume_steps" base.volumeSteps fun v =>
    (v.integerWithin? (-2 ^ 31) (2 ^ 31 - 1)).map Int32.ofInt
  return ⟨name, kind, id, volumeSteps⟩

/-- The section on the session. -/
def SessionSettings.ofToml? (v : Value) : Option SessionSettings := do
  let base : SessionSettings := {}
  let fields ← fields? ["dealer_url", "spclient_url", "apresolve_url", "resolve_endpoints",
    "reconnect_delay_secs", "ping_interval_secs", "user_id"] v
  let dealerUrl ← field? fields "dealer_url" base.dealerUrl text?
  let backendUrl ← field? fields "spclient_url" base.backendUrl text?
  let directoryUrl ← field? fields "apresolve_url" base.directoryUrl text?
  let resolveEndpoints ← field? fields "resolve_endpoints" base.resolveEndpoints bool?
  let reconnectDelaySecs ← field? fields "reconnect_delay_secs" base.reconnectDelaySecs seconds?
  let pingIntervalSecs ← field? fields "ping_interval_secs" base.pingIntervalSecs seconds?
  let userId ← field? fields "user_id" base.userId presentText?
  return ⟨dealerUrl, backendUrl, directoryUrl, resolveEndpoints, reconnectDelaySecs,
    pingIntervalSecs, userId⟩

/-- The section on the access token. -/
def AuthSettings.ofToml? (v : Value) : Option AuthSettings := do
  let base : AuthSettings := {}
  let fields ← fields? ["access_token"] v
  let accessToken ← field? fields "access_token" base.accessToken presentText?
  return ⟨accessToken⟩

/-- The section on the control API. -/
def HttpSettings.ofToml? (v : Value) : Option HttpSettings := do
  let base : HttpSettings := {}
  let fields ← fields? ["enabled", "bind_address", "port"] v
  let enabled ← field? fields "enabled" base.enabled bool?
  let bindAddress ← field? fields "bind_address" base.bindAddress text?
  let port ← field? fields "port" base.port fun v =>
    (v.integerWithin? 0 (2 ^ 16 - 1)).map fun n => UInt16.ofNat n.toNat
  return ⟨enabled, bindAddress, port⟩

namespace Settings

/-- The settings that a value stands for. -/
def ofToml? (v : Value) : Option Settings := do
  let fields ← fields? ["device", "session", "auth", "http"] v
  let device ← field? fields "device" {} Device.Settings.ofToml?
  let session ← field? fields "session" {} SessionSettings.ofToml?
  let auth ← field? fields "auth" {} AuthSettings.ofToml?
  let http ← field? fields "http" {} HttpSettings.ofToml?
  return ⟨device, session, auth, http⟩

/-- The settings of a text. -/
def read? (text : String) : Option Settings := (Toml.read? text).bind ofToml?

end Settings

/-! ## Writing -/

/-- The section on the device. -/
def Device.Settings.pairs (s : Device.Settings) : List (String × Option Plain) := [
  ("name", some (.string s.name)),
  ("device_type", some (.string s.kind.name)),
  ("device_id", s.id.map .string),
  ("volume_steps", some (.integer s.volumeSteps.toInt))]

/-- The section on the session. -/
def SessionSettings.pairs (s : SessionSettings) : List (String × Option Plain) := [
  ("dealer_url", some (.string s.dealerUrl)),
  ("spclient_url", some (.string s.backendUrl)),
  ("apresolve_url", some (.string s.directoryUrl)),
  ("resolve_endpoints", some (.bool s.resolveEndpoints)),
  ("reconnect_delay_secs", some (.integer s.reconnectDelaySecs)),
  ("ping_interval_secs", some (.integer s.pingIntervalSecs)),
  ("user_id", s.userId.map .string)]

/-- The section on the access token. -/
def AuthSettings.pairs (s : AuthSettings) : List (String × Option Plain) := [
  ("access_token", s.accessToken.map .string)]

/-- The section on the control API. -/
def HttpSettings.pairs (s : HttpSettings) : List (String × Option Plain) := [
  ("enabled", some (.bool s.enabled)),
  ("bind_address", some (.string s.bindAddress)),
  ("port", some (.integer s.port.toNat))]

namespace Settings

/-- The sections of the settings; what is not set is left out. -/
def sections (s : Settings) : List (String × List (String × Option Plain)) := [
  ("device", s.device.pairs),
  ("session", s.session.pairs),
  ("auth", s.auth.pairs),
  ("http", s.http.pairs)]

/-- The text of the settings. -/
def text (s : Settings) : String := Toml.write s.sections

/-! ## What is made of them -/

/-- The access token: that of the environment if there is one, else that of the settings. -/
def accessToken? (s : Settings) (environment : Option String) : Option String :=
  (environment.filter fun t => !Text.isAllBlank t).or
    (s.auth.accessToken.filter fun t => !Text.isAllBlank t)

/-- The time between two signs of life, which is never zero. -/
def pingInterval (s : Settings) : Nat := max 1 s.session.pingIntervalSecs

end Settings

end RemotePlayback
