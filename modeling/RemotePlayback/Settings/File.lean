import RemotePlayback.Bytes
import RemotePlayback.Settings.Basic

/-!
The file of the settings, and where it is.

The device keeps one id from run to run. So the settings are written back when they have no id, with
a fresh one, and a file that has an id is never touched.
-/

namespace RemotePlayback.Settings

/-- The id of so many random bytes, two hexadecimal digits each. -/
def idOfBytes (bytes : Bytes) : String :=
  String.ofList (bytes.flatMap fun b =>
    [Nat.digitChar (b.toNat / 16), Nat.digitChar (b.toNat % 16)])

/-- The settings with a device id. -/
def withId (s : Settings) (id : String) : Settings := { s with device.id := some id }

/-- Whether the device has an id. -/
def hasId (s : Settings) : Bool := s.device.id.any (· != "")

/--
The settings of a file, which may be missing, and the file as it is afterwards; `freshId` is used if
there is no id yet. A file that cannot be read gives no settings.
-/
def load? (file : Option String) (freshId : String) : Option (Settings × String) :=
  match file with
  | none =>
    let s : Settings := ({} : Settings).withId freshId
    some (s, s.text)
  | some text => do
    let s ← read? text
    if s.hasId then return (s, text)
    else return (s.withId freshId, (s.withId freshId).text)

/-- The text of a file, which may be missing; a file that is no text cannot be read. -/
def contents? : Option Bytes → Option (Option String)
  | none => some none
  | some bytes => (Bytes.toText? bytes).map some

/-- Loads the settings: those of the file, if it can be read, and the file as it is afterwards. -/
def load (file : Option Bytes) (freshId : String) : Option Settings × Option Bytes :=
  match (contents? file).bind (load? · freshId) with
  | some (s, text) => (some s, some (Bytes.ofText text))
  | none => (none, file)

/-! ## Places -/

/-- A path inside a directory. -/
def inside (directory : String) (path : List String) : String :=
  path.foldl (fun d name => (if Text.endsWith "/" d then d else d ++ "/") ++ name) directory

/-- Where data are kept, by the home directory. -/
def dataDirectory (home : Option String) : String :=
  inside ((home.bind Text.nonEmpty?).getD "/tmp") [".local", "share", "connect"]

/-- Where the settings are kept, by the home directory. -/
def configDirectory (home : Option String) : String :=
  inside ((home.bind Text.nonEmpty?).getD ".") [".config", "connect"]

/-- The file of the settings. -/
def configPath (home : Option String) : String := inside (configDirectory home) ["config.toml"]

end RemotePlayback.Settings
