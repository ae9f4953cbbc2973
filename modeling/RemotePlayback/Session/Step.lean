import RemotePlayback.Dealer.Topic
import RemotePlayback.Playback.Request
import RemotePlayback.Session.Basic

/-!
How a session goes on.

A session moves from one thing it waits for to the next. `Input` lists what can happen: answers of
the collaborators, frames, the turns of the session itself, of its writer and of its keep-alive, the
passing of time, and what callers do. `step?` says what comes of an input, and that it cannot happen
now when there is no result. Between two inputs nothing happens, so a run of the session is a
sequence of steps in any order that the steps allow. Cancelling forbids nothing by itself: where the
session or its keep-alive waits for something else as well, either may come first.
-/

namespace RemotePlayback.Session

open Playback Dealer

/-- A session after a step, and what it did. -/
abbrev Result := Session × List Effect

/-- What the read side of a connection gives. -/
inductive Received where
  | text (s : String)
  | failed (cause : Failure)
  | ended
  deriving DecidableEq, Inhabited

/-! ## Attempts -/

/-- Goes on without doing anything. -/
def goTo (s : Session) (stage : Stage) : Result := ({ s with stage }, [])

/-- The attempt is over. -/
def fail (s : Session) (cause : Failure) : Result := s.goTo (.ending (some cause))

/-- Asks for the token, to connect to a dealer with it. -/
def authorize (s : Session) (base : String) : Result :=
  ({ s with stage := .authorizing base }, [.authorize])

/-- Begins the next attempt. -/
def attempt (s : Session) : Result :=
  let s := { s with epoch := s.epoch + 1, connection := none }
  if s.config.resolves then ({ s with stage := .resolving }, [.resolve])
  else s.authorize s.config.dealerUrl

/-- A session that begins its first attempt. -/
def start (config : Config) (now : Int64) : Result := attempt { config, now }

/-- Ends an attempt of which no connection is left: the link goes, the snapshot stays. -/
def finish (s : Session) : Result :=
  let s := { s with link := none, connection := none }
  s.goTo (if s.cancelled then .stopped else .sleeping (s.clock + s.config.reconnectDelay))

/-- The endpoints are there; from now on the backend is theirs. -/
def resolved (s : Session) : Except Failure Endpoints → Result
  | .error _ => s.finish
  | .ok e =>
    let (s, effects) := { s with backend := some e.backendUrl }.authorize e.dealerUrl
    (s, .repoint e.backendUrl :: effects)

/-- The token is there. -/
def authorized (s : Session) (base : String) : Except Failure String → Result
  | .error _ => s.finish
  | .ok token => ({ s with stage := .connecting }, [.connect (connectUrl base token)])

/-- The connection is there. -/
def connected (s : Session) : Except Failure Unit → Result
  | .error _ => s.finish
  | .ok () =>
    let number := s.connections + 1
    ({ s with stage := .greeting, connections := number, connection := some { number } }, [])

/-! ## The handshake -/

/-- The keep-alive starts and the device is announced under the id of the connection. -/
def announce (s : Session) (connectionId : String) : Result :=
  let connection := s.connection.map (·.startKeepalive s.clock s.config.pingInterval)
  ({ s with stage := .announcing connectionId, connection },
    [.report none connectionId (Device.announcement s.config.device s.config.deviceId s.now)])

/-- The first frame of a connection has to be a handshake that gives the connection an id. -/
def greet (s : Session) (text : String) : Result :=
  match Frame.read text with
  | .error cause => s.fail (.violation ("undecodable handshake: " ++ cause.message))
  | .ok frame =>
    match frame.connectionId? with
    | some id => s.announce id
    | none => s.fail (.violation ("expected connection handshake, got " ++ frame.sort))

/-- The device is announced. -/
def announced (s : Session) (connectionId : String) : Except Failure Cluster.State → Result
  | .error cause => s.fail cause
  | .ok cluster =>
    ({ s with stage := .adopting cluster, link := some ⟨connectionId, s.epoch⟩ }, [])

/-! ## Frames -/

/-- The attempt ends because its connection was cancelled, which is no failure when all is. -/
def lost (s : Session) : Result :=
  s.goTo (.ending (if s.cancelled then none else some (.transport "connection lost")))

/-- Hands the reply to a request over. -/
def reply (s : Session) (key : String) : Result :=
  match s.connection.bind (·.submit? .session (.text (replyText key true))) with
  | none => s.fail (.transport "writer closed")
  | some c =>
    { s with connection := some c }.goTo (if c.isWaiting .session then .replying else .reading)

/-- Takes note of what changed. Whatever cannot be understood is passed over. -/
def notify (s : Session) (uri : String) (payload : Bytes) : Result :=
  match Topic.ofUri uri s.config.userId with
  | .cluster =>
    match (Wire.decode? payload : Option Cluster.Update).bind (·.cluster) with
    | some cluster => s.publish cluster s.epoch
    | none => (s, [])
  | .collection =>
    match Collection.decode payload with
    | .ok changes => (s, changes.map .collectionChanged)
    | .error _ => (s, [])
  | .rootlist => (s, [.rootlistChanged])
  | .other => (s, [])

/-- What a request asks of the local player. -/
def instruction? (payload : Bytes) : Option Event :=
  match Request.decode payload with
  | .ok r =>
    match r.event with
    | .ok e => e
    | .error _ => none
  | .error _ => none

/-- Hands an instruction to the local player. -/
def instruct (s : Session) (event : Event) (key : String) : Result :=
  ({ s with stage := .delivering event key }, [.deliver event])

/-- Does what a frame asks for; a request is replied to whatever comes of it. -/
def handle (s : Session) (text : String) : Result :=
  match Frame.read text with
  | .error _ => (s, [])
  | .ok (.handshake ..) => s.fail (.violation "handshake on an established connection")
  | .ok (.notification uri _ payload) => s.notify uri payload
  | .ok (.request key _ _ payload) =>
    match instruction? payload with
    | some event => s.instruct event key
    | none => s.reply key
  | .ok .pong => (s, [])

/-- What is read from a connection before and after the handshake. -/
def received? (s : Session) (r : Received) : Option Result :=
  match s.stage, r with
  | .greeting, .text t => some (s.greet t)
  | .greeting, .ended => some (s.fail (.transport "closed before handshake"))
  | .reading, .text t => some (s.handle t)
  | .reading, .ended => some (s.fail (.transport "closed by dealer"))
  | .greeting, .failed cause | .reading, .failed cause => some (s.fail cause)
  | _, _ => none

/-! ## Taking over -/

/-- The instruction to go on here with what the active device is playing. -/
def takeover (s : Session) : Except Failure Event :=
  match s.snapshot.takeover? s.now with
  | some play => .ok (.play play)
  | none => .error .nothingPlaying

/-- The local player is done with an instruction. After a transfer it is told to go on with what is
playing; then the request is replied to. -/
def delivered (s : Session) (event : Event) (key : String) : Result :=
  if event = .transfer then
    match s.takeover with
    | .ok play => s.instruct play key
    | .error _ => s.reply key
  else s.reply key

/-! ## The end of an attempt -/

/-- How a connection is closed after an attempt; one that was lost is not. -/
def closing? (s : Session) : Outcome → Option Outbound
  | some (.violation detail) => some (.close .protocolError detail)
  | _ => if s.cancelled then some (.close .normal "session stopped") else none

/-- Nothing is handed over any more; the keep-alive ends too. -/
def letGo (s : Session) (c : Connection) : Result :=
  { s with connection := some { c with cancelled := true } }.goTo .draining

/-- Closes the connection of an attempt that is over. -/
def close (s : Session) (outcome : Outcome) : Result :=
  match s.connection with
  | none => s.finish
  | some c =>
    match s.closing? outcome with
    | none => s.letGo c
    | some frame =>
      match c.submit? .session frame with
      | none => s.letGo c
      | some c =>
        if c.isWaiting .session then { s with connection := some c }.goTo .closing
        else s.letGo c

/-- What the session does next of its own accord, if anything. -/
def proceed? (s : Session) : Option Result :=
  match s.stage, s.connection with
  | .resolving, _ | .authorizing _, _ | .connecting, _ =>
    if s.cancelled then some s.finish else none
  | .greeting, some c =>
    if s.cancelled ∨ c.cancelled then some (s.goTo (.ending none)) else none
  | .announcing _, some c | .reading, some c =>
    if s.cancelled ∨ c.cancelled then some s.lost else none
  | .adopting cluster, _ =>
    let (s, effects) := s.publish cluster s.epoch
    some ({ s with stage := .reading }, effects)
  | .replying, some c =>
    if !c.isWaiting .session then some (s.goTo .reading)
    else if c.writerGone then some (s.fail (.transport "writer closed"))
    else none
  | .ending outcome, _ => some (s.close outcome)
  | .closing, some c =>
    if !c.isWaiting .session ∨ c.writerGone then some (s.letGo c) else none
  | .draining, some c => if c.writerGone then some s.finish else none
  | .sleeping _, _ => if s.cancelled then some (s.goTo .stopped) else none
  | _, _ => none

/-- Makes the next attempt when it is time, be the session cancelled by then or not. -/
def wake? (s : Session) : Option Result :=
  match s.stage with
  | .sleeping wake => if wake ≤ s.clock then some s.attempt else none
  | _ => none

theorem wake?_eq_some_iff {s : Session} {r : Result} :
    s.wake? = some r ↔ ∃ wake, s.stage = .sleeping wake ∧ wake ≤ s.clock ∧ r = s.attempt := by
  cases stage : s.stage <;> simp [wake?, stage, eq_comm]

/-! ## Reports of the local player -/

/-- What becomes of a call that reports the local player. -/
inductive Reporting where
  /-- The report is sent, and its answer ends the call. -/
  | sent (number : Nat)
  | done (result : Except Failure Unit)

/-- Begins to report what the local player does, which nobody hears of unless the session is ready.
-/
def report (s : Session) (player : Cluster.PlayerState) : Reporting × Result :=
  match s.readyLink? with
  | none => (.done (.ok ()), s, [])
  | some link =>
    let number := s.callCount + 1
    (.sent number,
      { s with calls := s.calls ++ [⟨number, link⟩], callCount := number },
      [.report (some number) link.connectionId
        (Device.playerReport s.config.device s.config.deviceId player s.now)])

/--
The answer to a report. It counts only while the link is the one of the report, and only if it is
not older than what is known of that connection.
-/
def adopt (s : Session) (link : Link) (cluster : Cluster.State) : Result :=
  if s.link = some link ∧ s.snapshot.epoch = link.epoch ∧
      s.snapshot.timestamp ≤ (Snapshot.ofCluster cluster s.config.deviceId).timestamp then
    s.publish cluster link.epoch
  else (s, [])

/-- A report is answered. -/
def reported? (s : Session) (number : Nat) (answer : Except Failure Cluster.State) :
    Option Result :=
  (s.calls.find? (·.number == number)).map fun call =>
    let s := { s with calls := s.calls.filter (·.number != number) }
    match answer with
    | .ok cluster => s.adopt call.link cluster
    | .error _ => (s, [])

/-! ## Commands -/

/-- Routes a command by the snapshot of the current connection. -/
def command (s : Session) (c : Command) : Except Failure Post :=
  match s.readyLink? with
  | none => .error .notReady
  | some _ =>
    match s.snapshot.activeDeviceId with
    | none => .error .noActiveDevice
    | some receiver => .ok ⟨s.config.deviceId, receiver, c.envelope⟩

/-- Sends a command: it is handed to the backend, or the caller is told at once why not. -/
def send (s : Session) (c : Command) : Except Failure Post × Result :=
  match s.command c with
  | .ok post => (.ok post, s, [.post post])
  | .error cause => (.error cause, s, [])

/-! ## Steps -/

/-- What can happen to a session. -/
inductive Input where
  | resolved (answer : Except Failure Endpoints)
  | authorized (answer : Except Failure String)
  | connected (answer : Except Failure Unit)
  | received (r : Received)
  | announced (answer : Except Failure Cluster.State)
  /-- The local player has accepted an instruction, or refused it, which makes no difference. -/
  | delivered (accepted : Bool)
  /-- The session's own turn. -/
  | proceed
  /-- The time of the next attempt has come. -/
  | wake
  /-- The writer takes a frame, or ends. -/
  | write
  /-- The frame being written is written, or has failed. -/
  | wrote (ok : Bool)
  /-- The keep-alive's turn. -/
  | ping
  /-- The keep-alive ends because its connection is cancelled. -/
  | endKeepalive
  /-- A millisecond passes. -/
  | tick
  /-- The wall clock is set. -/
  | wallClock (now : Int64)
  | cancel
  /-- A caller reports what the local player does. -/
  | report (player : Cluster.PlayerState)
  | reported (number : Nat) (answer : Except Failure Cluster.State)
  /-- A caller sends a command. -/
  | command (c : Command)

/-- The writer's turn. -/
def write? (s : Session) : Option Result :=
  s.connection.bind fun c =>
    match c.take? with
    | some (f, c) => some ({ s with connection := some c }, [.write c.number f])
    | none =>
      if s.stage = .draining then c.exhausted?.map fun c => ({ s with connection := some c }, [])
      else none

/-- The session after an input and what it does, if the input can happen now. -/
def step? (s : Session) : Input → Option Result
  | .resolved answer => if s.stage = .resolving then some (s.resolved answer) else none
  | .authorized answer =>
    match s.stage with
    | .authorizing base => some (s.authorized base answer)
    | _ => none
  | .connected answer => if s.stage = .connecting then some (s.connected answer) else none
  | .received r => s.received? r
  | .announced answer =>
    match s.stage with
    | .announcing id => some (s.announced id answer)
    | _ => none
  | .delivered _ =>
    match s.stage with
    | .delivering event key => some (s.delivered event key)
    | _ => none
  | .proceed => s.proceed?
  | .wake => s.wake?
  | .write => s.write?
  | .wrote ok =>
    s.connection.bind fun c => (c.wrote? ok).map fun c => ({ s with connection := some c }, [])
  | .ping =>
    s.connection.bind fun c =>
      (c.keepalive? s.clock s.config.pingInterval).map fun c =>
        ({ s with connection := some c }, [])
  | .endKeepalive =>
    s.connection.bind fun c =>
      (c.endKeepalive? s.cancelled).map fun c => ({ s with connection := some c }, [])
  | .tick => some ({ s with clock := s.clock + 1 }, [])
  | .wallClock now => some ({ s with now }, [])
  | .cancel => some ({ s with cancelled := true }, [])
  | .report player => some (s.report player).2
  | .reported number answer => s.reported? number answer
  | .command c => some (s.send c).2

end RemotePlayback.Session
