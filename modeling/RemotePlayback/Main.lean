import RemotePlayback.Session.Step
import RemotePlayback.Settings.File
import RemotePlayback.Settings.Session

/-!
The command line: prepares the settings file and tells how a session begins with it.

The file is made if there is none, and is given a device id if it has none. Nothing is sent.
-/

namespace RemotePlayback

/-- The bytes of the settings file, if there is one. -/
def readSettingsFile (path : String) : IO (Option Bytes) := do
  try
    let bytes ← IO.FS.readBinFile path
    return some bytes.toList
  catch
    | .noFileOrDirectory .. => return none
    | e => throw e

/-- Tells what a session asks for first. -/
def firstStep : Session.Effect → String
  | .resolve => "asks the directory for its hosts"
  | .authorize => "asks for the access token"
  | _ => "goes on"

/-- Prepares the settings file and tells how a session begins. -/
def prepare : IO UInt32 := do
  let home ← IO.getEnv "HOME"
  let path := Settings.configPath home
  let file ← readSettingsFile path
  let random ← IO.getRandomBytes 20
  let (loaded, after) := Settings.load file (Settings.idOfBytes random.toList)
  if after ≠ file then
    IO.FS.createDirAll (Settings.configDirectory home)
    IO.FS.writeBinFile path ⟨(after.getD []).toArray⟩
  match loaded with
  | none =>
    IO.eprintln ("The settings cannot be read: " ++ path)
    return 1
  | some settings =>
    let id := settings.device.id.getD ""
    IO.println ("Settings: " ++ path)
    IO.println ("Device: " ++ settings.device.name ++ " (" ++ id ++ ")")
    let token ← IO.getEnv "CONNECT_ACCESS_TOKEN"
    if (settings.accessToken? token).isNone then
      IO.eprintln "There is no access token; set CONNECT_ACCESS_TOKEN or [auth].access_token."
    for effect in (Session.start (settings.sessionConfig id) 0).2 do
      IO.println ("The session " ++ firstStep effect ++ ".")
    return 0

end RemotePlayback

/-- Prepares the settings file and tells how a session begins. -/
def main : IO UInt32 := RemotePlayback.prepare
