import RemotePlayback.Backend.Http
import RemotePlayback.Cluster.Messages
import RemotePlayback.Gzip.Member
import RemotePlayback.Session.Step

/-!
The state of the devices at the backend: reports are put there and commands posted.

A report is sent compressed and answered with the cluster, which comes compressed or not; it counts
as compressed when the response says so or when it begins like compressed data. Of the response to a
command only the status counts.
-/

namespace RemotePlayback.Backend

/-- The header that carries the id of the connection. -/
def connectionIdHeader : String := "x-spotify-connection-id"

/-- The request that reports the state of a device. -/
def reportRequest (base deviceId connectionId : String) (token : Option String)
    (report : Cluster.StateReport) : Except Failure Request := do
  let token ← requireToken token
  Request.checked {
    method := "PUT"
    url := Text.trimSlashes base ++ "/connect-state/v1/devices/" ++ deviceId
    headers := [("authorization", "Bearer " ++ token), (connectionIdHeader, connectionId),
      ("content-type", "application/x-protobuf"), ("content-encoding", "gzip"),
      ("accept-encoding", "gzip"), ("user-agent", userAgent)]
    body := Gzip.gzip (Wire.encode report) }

/-- The request that posts a command. -/
def commandRequest (base : String) (token : Option String) (post : Session.Post) :
    Except Failure Request := do
  let token ← requireToken token
  Request.checked {
    method := "POST"
    url := Text.trimSlashes base ++ "/connect-state/v1/player/command/from/" ++ post.sender ++
      "/to/" ++ post.receiver
    headers := [("authorization", "Bearer " ++ token), ("content-type", "application/json"),
      ("user-agent", userAgent)]
    body := post.body.bytes }

/-- Whether a body counts as compressed. -/
def isCompressed (r : Response) : Bool :=
  findHeader? "content-encoding" r.headers == some "gzip" ||
    match r.body with
    | 0x1F :: 0x8B :: _ => true
    | _ => false

/-- The cluster that a report is answered with. -/
def reportAnswer (r : Response) : Except Failure Cluster.State :=
  if !r.isSuccess then .error (r.refusal "PUT state")
  else
    match if isCompressed r then Gzip.gunzip? r.body else some r.body with
    | none => .error (.undecodable .gzip)
    | some raw =>
      match Wire.decode? raw with
      | some cluster => .ok cluster
      | none => .error (.undecodable .wire)

/-- What comes of a command. -/
def commandAnswer (r : Response) : Except Failure Unit :=
  if r.isSuccess then .ok () else .error (r.refusal "command")

/-- Posts a command; `exchange` tells what a request is answered with, which is nothing when the
network gives way. -/
def postCommand (base : String) (token : Option String) (exchange : Request → Option Response)
    (post : Session.Post) : Except Failure Unit := do
  let request ← commandRequest base token post
  match exchange request with
  | some response => commandAnswer response
  | none => .error .network

end RemotePlayback.Backend
