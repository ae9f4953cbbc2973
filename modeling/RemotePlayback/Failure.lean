/-!
What can go wrong, by cause, and how each cause is worded.

A `DecodeError` concerns a single message, which is dropped. A `Failure` is what a caller of the
session sees, or what ends a connection. Three failures are preconditions: they say that the session
is not in a state to do what was asked, and nothing was sent.
-/

namespace RemotePlayback

/-- Why a message could not be understood. -/
inductive DecodeError where
  | json
  | base64
  | gzip
  | wire
  | missingField (name : String)
  | unexpected (what : String)
  deriving DecidableEq, Inhabited

namespace DecodeError

/-- The wording of a cause; for the formats, its beginning, before the position in the input. -/
def message : DecodeError → String
  | .json => "invalid json"
  | .base64 => "invalid base64 payload"
  | .gzip => "gzip payload"
  | .wire => "invalid protobuf"
  | .missingField name => "missing field `" ++ name ++ "`"
  | .unexpected what => "unexpected message: " ++ what

end DecodeError

/-- Why the session, or a call to the backend, failed. -/
inductive Failure where
  | transport (detail : String)
  /-- The network gave way; the wording is its own. -/
  | network
  | violation (detail : String)
  | noActiveDevice
  | notReady
  | nothingPlaying
  | undecodable (cause : DecodeError)
  deriving DecidableEq, Inhabited

namespace Failure

/-- The wording of a failure. -/
def message : Failure → String
  | .transport detail => "transport error: " ++ detail
  | .network => "transport error"
  | .violation detail => "protocol violation: " ++ detail
  | .noActiveDevice => "no active device"
  | .notReady => "session not ready: connection id not established"
  | .nothingPlaying => "nothing is playing"
  | .undecodable cause => cause.message

/-- The session was not in a state to try. -/
def isPrecondition : Failure → Bool
  | .noActiveDevice | .notReady | .nothingPlaying => true
  | _ => false

end Failure

end RemotePlayback
