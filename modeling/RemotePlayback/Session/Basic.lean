import RemotePlayback.Collection
import RemotePlayback.Device.Report
import RemotePlayback.Playback.Command
import RemotePlayback.Playback.Snapshot
import RemotePlayback.Session.Connection

/-!
The state of a session.

A session keeps a device connected: it makes one attempt after the other, each with an epoch of its
own. What others see of it is the current snapshot and, while the device is announced, the link to
the connection. The snapshot outlives the link, so the two belong together only if their epochs
agree.
-/

namespace RemotePlayback

namespace Session

open Playback

/-- Where to connect to: the dealer, and the backend that takes reports and commands. -/
structure Endpoints where
  dealerUrl : String
  backendUrl : String
  deriving DecidableEq, Inhabited

/-- What a session is told at its start. Times are in milliseconds. -/
structure Config where
  deviceId : String
  device : Device.Settings := {}
  dealerUrl : String
  userId : Option String := none
  reconnectDelay : Nat
  pingInterval : Nat
  /-- A directory is asked for the endpoints before every attempt. -/
  resolves : Bool := false
  deriving DecidableEq, Inhabited

/-- An announced connection. -/
structure Link where
  connectionId : String
  epoch : Nat
  deriving DecidableEq, Inhabited

/-- How an attempt ended; a failure is followed by another attempt. -/
abbrev Outcome := Option Failure

/-- What the session waits for. -/
inductive Stage where
  /-- The directory's endpoints. -/
  | resolving
  /-- The access token. -/
  | authorizing (base : String)
  /-- The connection. -/
  | connecting
  /-- The first frame. -/
  | greeting
  /-- The answer to the announcement. -/
  | announcing (connectionId : String)
  /-- Nothing: the link is there, and the first snapshot is to be published. -/
  | adopting (cluster : Cluster.State)
  /-- A frame. -/
  | reading
  /-- The local player, to which an instruction was handed; then the request is replied to. -/
  | delivering (event : Event) (key : String)
  /-- Room for the reply in the queue. -/
  | replying
  /-- Nothing: the attempt is over, and the connection is to be closed. -/
  | ending (outcome : Outcome)
  /-- Room for the closing frame in the queue. -/
  | closing
  /-- The writer's end. -/
  | draining
  /-- The time of the next attempt. -/
  | sleeping (wake : Nat)
  /-- Nothing any more. -/
  | stopped
  deriving DecidableEq, Inhabited

/-- A report under way, and the link on which it went out. -/
structure Call where
  number : Nat
  link : Link
  deriving DecidableEq, Inhabited

/-- A command on its way to the active device. -/
structure Post where
  sender : String
  receiver : String
  body : Json
  deriving Inhabited

end Session

/-- A session. -/
structure Session where
  config : Session.Config
  /-- The wall clock, in milliseconds from the start of 1970. -/
  now : Int64 := 0
  /-- The clock that only goes forward, in milliseconds. -/
  clock : Nat := 0
  cancelled : Bool := false
  snapshot : Playback.Snapshot := {}
  /-- How many snapshots were published. -/
  published : Nat := 0
  link : Option Session.Link := none
  /-- The number of the current attempt. -/
  epoch : Nat := 0
  stage : Session.Stage := .stopped
  connection : Option Session.Connection := none
  /-- How many connections there were. -/
  connections : Nat := 0
  /-- Where reports and commands go, once a directory was asked. -/
  backend : Option String := none
  /-- Reports whose answer is still to come. -/
  calls : List Session.Call := []
  /-- How many reports there were. -/
  callCount : Nat := 0
  deriving DecidableEq, Inhabited

namespace Session

open Playback

/-- What a session does to the world around it. What an attempt asks for once it is cancelled may be
withdrawn before anybody hears of it. -/
inductive Effect where
  /-- Asks the directory for endpoints. -/
  | resolve
  /-- Sends reports and commands to another backend from now on. -/
  | repoint (backendUrl : String)
  /-- Asks for the access token. -/
  | authorize
  | connect (url : String)
  /-- Hands a frame to a connection. -/
  | write (connection : Nat) (frame : Outbound)
  /-- Sends a report, either the announcement of an attempt or that of a call. -/
  | report (call : Option Nat) (connectionId : String) (report : Cluster.StateReport)
  /-- Hands a command to the backend. -/
  | post (post : Post)
  /-- Hands an instruction to the local player. -/
  | deliver (event : Event)
  | publish (snapshot : Snapshot)
  | collectionChanged (change : Collection.Change)
  | rootlistChanged
  deriving Inhabited

/-- The link, once the current snapshot belongs to it. -/
def readyLink? (s : Session) : Option Link :=
  s.link.filter fun l => s.snapshot.epoch == l.epoch

/-- The id of the connection on which the device is announced and seen. -/
def connectionId? (s : Session) : Option String := s.readyLink?.map (·.connectionId)

/-- The snapshot of a cluster as it is published next. -/
def stamp (s : Session) (c : Cluster.State) (epoch : Nat) : Snapshot :=
  { Snapshot.ofCluster c s.config.deviceId with
    rev := s.published + 1
    epoch }

/-- Replaces the snapshot by that of a cluster. -/
def publish (s : Session) (c : Cluster.State) (epoch : Nat) : Session × List Effect :=
  let snapshot := s.stamp c epoch
  ({ s with snapshot, published := s.published + 1 }, [.publish snapshot])

end Session

end RemotePlayback
